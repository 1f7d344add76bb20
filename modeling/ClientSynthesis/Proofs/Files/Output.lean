import ClientSynthesis.Files.Output
import ClientSynthesis.Proofs.Files.Preservation

/-!
# What writing into a directory leaves behind

Writing files into a directory stores the files of a first stretch of the list and keeps whatever else
there is (`WrittenInto`). If it succeeds, the stretch is the whole list; if it fails at a file, it ends
in front of that (`exists_of_writeEach`). The induction goes over the list, with the file system as it
is after the first file; that this file is still there in the end comes from its name, for plain names
that differ lead to different places.

Files are written in the order of their names, so those that have been written before a failure are
the ones whose names come before the name that failed (`writeFiles_outcome`).
-/

namespace ClientSynthesis.Files

open Assembly (NameMap)
open Text (Before)
open FileSystem (KeptOutside Stores)

variable {directory : String} {fs between after : FileSystem}

/-- Files are stored in a directory, and nothing has been lost for it. -/
structure WrittenInto (directory : String) (written : List (String × String))
    (before after : FileSystem) : Prop where
  stores : ∀ e ∈ written, after.Stores (joinPath directory e.1) e.2
  kept : KeptOutside (fun place ↦ ∃ e ∈ written, after.locate (joinPath directory e.1) = .ok place)
    before after

theorem WrittenInto.of_kept (h : KeptOutside (fun _ ↦ False) fs after) :
    WrittenInto directory [] fs after where
  stores := by simp
  kept := h.mono fun _ ↦ False.elim

/-- What was made before anything was written is of no account. -/
theorem WrittenInto.of_kept_left {written : List (String × String)}
    (hkept : KeptOutside (fun _ ↦ False) fs between)
    (h : WrittenInto directory written between after) :
    WrittenInto directory written fs after where
  stores := h.stores
  kept := (hkept.mono fun _ ↦ False.elim).trans h.kept

/-- A file that is written before others is there after them. -/
theorem WrittenInto.cons {name text : String} {written : List (String × String)}
    (hname : IsPlainName name) (hwritten : ∀ e ∈ written, IsPlainName e.1 ∧ e.1 ≠ name)
    (hwrite : fs.writeText (joinPath directory name) text = .ok between)
    (h : WrittenInto directory written between after) :
    WrittenInto directory ((name, text) :: written) fs after := by
  obtain ⟨⟨place, hlocate, hfile⟩, hkept⟩ := FileSystem.stores_of_writeText hwrite
  have hafter : after.locate (joinPath directory name) = .ok place := h.kept.locate hlocate
  -- None of the others has been written to the same place.
  have hfree : ¬ ∃ e ∈ written, after.locate (joinPath directory e.1) = .ok place := by
    rintro ⟨e, he, hplace⟩
    obtain ⟨hplain, hne⟩ := hwritten e he
    exact hne (FileSystem.eq_of_locate_joinPath hplain hname hplace hafter)
  refine ⟨fun e he ↦ ?_, (hkept.mono ?_).trans (h.kept.mono ?_)⟩
  · rcases List.mem_cons.1 he with rfl | he
    · exact ⟨place, hafter, (h.kept.file_iff hfree).2 hfile⟩
    · exact h.stores e he
  · exact fun other hother ↦ ⟨(name, text), List.mem_cons_self, h.kept.locate hother⟩
  · rintro other ⟨e, he, hother⟩
    exact ⟨e, List.mem_cons_of_mem _ he, hother⟩

/-- Writing files one after the other stores a first stretch of them, which ends in front of the one
that fails. -/
theorem exists_of_writeEach {entries : List (String × String)}
    (hplain : ∀ e ∈ entries, IsPlainName e.1) (hnodup : (entries.map Prod.fst).Nodup)
    (fs : FileSystem) (directory : String) :
    ∃ written rest, entries = written ++ rest ∧
      WrittenInto directory written fs (writeEach fs directory entries).1 ∧
      match rest with
      | [] => (writeEach fs directory entries).2 = .ok ()
      | (name, _) :: _ =>
        ∃ kind,
          (writeEach fs directory entries).2 = .error (.file (joinPath directory name) kind) := by
  induction entries generalizing fs with
  | nil => exact ⟨[], [], rfl, .of_kept (.refl _ fs), rfl⟩
  | cons entry rest ih =>
    obtain ⟨name, text⟩ := entry
    obtain ⟨hnew, hrest⟩ := List.nodup_cons.1 hnodup
    rw [writeEach]
    cases hwrite : fs.writeText (joinPath directory name) text with
    | error kind => exact ⟨[], (name, text) :: rest, rfl, .of_kept (.refl _ fs), kind, rfl⟩
    | ok between =>
      obtain ⟨written, more, hsplit, hdone, houtcome⟩ :=
        ih (fun e he ↦ hplain e (List.mem_cons_of_mem _ he)) hrest between
      refine ⟨(name, text) :: written, more, congrArg _ hsplit, ?_, houtcome⟩
      refine .cons (hplain _ List.mem_cons_self) (fun e he ↦ ?_) hwrite hdone
      have hmem : e ∈ rest := hsplit ▸ List.mem_append_left more he
      refine ⟨hplain e (List.mem_cons_of_mem _ hmem), ?_⟩
      exact fun heq ↦ hnew (List.mem_map.2 ⟨e, hmem, heq⟩)

/-! ### Writing all files of a map -/

/-- Of the files of a map exactly those whose names are selected have been written into a directory. -/
structure ExactlyWritten (files : NameMap String) (directory : String) (selected : String → Prop)
    (before after : FileSystem) : Prop where
  /-- A selected file is read from its path, with its text. -/
  written : ∀ name text, files.get? name = some text → selected name →
    after.readText (joinPath directory name) = .ok text
  /-- Where no selected file is, everything has been kept. -/
  kept : KeptOutside (fun place ↦ ∃ name ∈ files.names, selected name ∧
    after.locate (joinPath directory name) = .ok place) before after
  /-- Where a file is that is not selected, there are the same bytes as before, if any. -/
  unwritten : ∀ name ∈ files.names, ¬ selected name → ∀ place,
    after.locate (joinPath directory name) = .ok place → ∀ bytes,
      after.occupant? place = some (.file bytes) ↔ before.occupant? place = some (.file bytes)

theorem ExactlyWritten.of_writtenInto {files : NameMap String} {selected : String → Prop}
    {written : List (String × String)} (hplain : ∀ name ∈ files.names, IsPlainName name)
    (hmem : ∀ e, e ∈ written ↔ e ∈ files.entries ∧ selected e.1)
    (h : WrittenInto directory written fs after) :
    ExactlyWritten files directory selected fs after := by
  refine ⟨fun name text hget hname ↦ ?_, h.kept.mono ?_, fun name hname hnot place hplace bytes ↦ ?_⟩
  · have hentry : (name, text) ∈ files.entries := (files.mem_entries_iff name text).2 hget
    exact (h.stores (name, text) ((hmem _).2 ⟨hentry, hname⟩)).readText
  · rintro place ⟨e, he, hplace⟩
    obtain ⟨hentry, hselected⟩ := (hmem e).1 he
    exact ⟨e.1, NameMap.mem_names_iff.2 ⟨e.2, hentry⟩, hselected, hplace⟩
  · refine h.kept.file_iff ?_
    rintro ⟨e, he, hother⟩
    obtain ⟨hentry, hselected⟩ := (hmem e).1 he
    have hmember : e.1 ∈ files.names := NameMap.mem_names_iff.2 ⟨e.2, hentry⟩
    obtain rfl : name = e.1 :=
      FileSystem.eq_of_locate_joinPath (hplain name hname) (hplain e.1 hmember) hplace hother
    exact hnot hselected

/-- Of a sorted list, what stands in front of an entry are the entries whose names come before. -/
theorem mem_front_iff {files : NameMap String} {written rest : List (String × String)}
    {name text : String} (hsplit : files.entries = written ++ (name, text) :: rest)
    (e : String × String) : e ∈ written ↔ e ∈ files.entries ∧ Before e.1 name := by
  have hsorted := files.sorted
  rw [hsplit, List.pairwise_append, List.pairwise_cons] at hsorted
  obtain ⟨-, ⟨hbehind, -⟩, hfront⟩ := hsorted
  rw [hsplit]
  constructor
  · exact fun he ↦ ⟨List.mem_append_left _ he, hfront e he _ List.mem_cons_self⟩
  · rintro ⟨he, hbefore⟩
    rcases List.mem_append.1 he with he | he
    · exact he
    · rcases List.mem_cons.1 he with rfl | he
      · exact absurd hbefore (Before.irrefl _)
      · exact absurd (hbefore.trans (hbehind e he)) (Before.irrefl _)

/-- All files are written, or none since the directory cannot be made, or those before the file that
cannot be written. -/
theorem writeFiles_outcome {files : NameMap String} (hplain : ∀ name ∈ files.names, IsPlainName name)
    (fs : FileSystem) (directory : String) :
    match (writeFiles fs directory files).2 with
    | .ok () => ExactlyWritten files directory (fun _ ↦ True) fs (writeFiles fs directory files).1
    | .error error => ∃ path kind, error = .file path kind ∧
      (path = directory ∧
          ExactlyWritten files directory (fun _ ↦ False) fs (writeFiles fs directory files).1 ∨
        ∃ name ∈ files.names, path = joinPath directory name ∧
          ExactlyWritten files directory (Before · name) fs (writeFiles fs directory files).1) := by
  have hmade := FileSystem.keptOutside_makeDirectories fs directory
  cases hdirectory : fs.makeDirectories directory with
  | mk between result =>
    rw [hdirectory] at hmade
    cases result with
    | error kind =>
      have hrun : writeFiles fs directory files = (between, .error (.file directory kind)) := by
        rw [writeFiles, hdirectory]
      rw [hrun]
      exact ⟨directory, kind, rfl, .inl ⟨rfl, .of_writtenInto hplain (by simp) (.of_kept hmade)⟩⟩
    | ok _ =>
      have hrun : writeFiles fs directory files = writeEach between directory files.entries := by
        rw [writeFiles, hdirectory]
      have hentries : ∀ e ∈ files.entries, IsPlainName e.1 := fun e he ↦
        hplain e.1 (NameMap.mem_names_iff.2 ⟨e.2, he⟩)
      obtain ⟨written, rest, hsplit, hwritten, houtcome⟩ :=
        exists_of_writeEach hentries files.nodup_names between directory
      rw [hrun]
      cases rest with
      | nil =>
        rw [List.append_nil] at hsplit
        rw [show (writeEach between directory files.entries).2 = .ok () from houtcome]
        exact .of_writtenInto hplain (by simp [hsplit]) (hwritten.of_kept_left hmade)
      | cons entry more =>
        obtain ⟨name, text⟩ := entry
        obtain ⟨kind, hfailed⟩ := houtcome
        rw [hfailed]
        have hname : name ∈ files.names := NameMap.mem_names_iff.2 ⟨text, by simp [hsplit]⟩
        exact ⟨_, kind, rfl, .inr ⟨name, hname, rfl,
          .of_writtenInto hplain (mem_front_iff hsplit) (hwritten.of_kept_left hmade)⟩⟩

/-! ### Where the files are -/

/-- A place directly in a directory, under a name of some kind. -/
def DirectlyIn (fs : FileSystem) (directory : String) (kind : String → Prop) (place : Location) :
    Prop :=
  ∃ there, fs.locateDirectory directory = .ok there ∧ fs.occupant? there = some .directory ∧
    ∃ name, kind name ∧ place = there ++ [name]

/-- Whatever comes of it, writing files changes places directly in the directory only. -/
theorem keptOutside_writeFiles {files : NameMap String}
    (hplain : ∀ name ∈ files.names, IsPlainName name) (fs : FileSystem) (directory : String) :
    KeptOutside (DirectlyIn (writeFiles fs directory files).1 directory (· ∈ files.names)) fs
      (writeFiles fs directory files).1 := by
  have hexactly {selected : String → Prop}
      (h : ExactlyWritten files directory selected fs (writeFiles fs directory files).1) :
      KeptOutside (DirectlyIn (writeFiles fs directory files).1 directory (· ∈ files.names)) fs
        (writeFiles fs directory files).1 := by
    refine h.kept.mono ?_
    rintro place ⟨name, hname, -, hplace⟩
    obtain ⟨there, hthere, hdirectory, rfl⟩ :=
      FileSystem.exists_locateDirectory_of_locate_joinPath (hplain name hname) hplace
    exact ⟨there, hthere, hdirectory, name, hname, rfl⟩
  have houtcome := writeFiles_outcome hplain fs directory
  cases hresult : (writeFiles fs directory files).2 with
  | ok _ =>
    rw [hresult] at houtcome
    exact hexactly houtcome
  | error error =>
    rw [hresult] at houtcome
    obtain ⟨path, kind, -, ⟨-, h⟩ | ⟨name, -, -, h⟩⟩ := houtcome
    · exact hexactly h
    · exact hexactly h

end ClientSynthesis.Files
