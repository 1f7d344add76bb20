import ClientSynthesis.Files.Documents
import ClientSynthesis.Proofs.Code.Imports
import ClientSynthesis.Proofs.Json.Members

/-!
# What a directory of documents is loaded as

Which files of a directory are loaded depends on the names in it, and not on the order in which it
lists them (`loadListed_eq_of_mem_iff`). They are merged one after the other. Since members
that are merged within their file before leave the same behind as members that are not, what comes
out is all the members of all the files, merged (`mergeFiles_eq_ok_iff`); and the loading fails at
the first file that cannot be used (`mergeFiles_eq_error_iff`).
-/

namespace ClientSynthesis

open Text (Before)

/-! ### Names in order -/

namespace Assembly

/-- The names in order are the same for lists of the same names. -/
theorem inNameOrder_eq_of_mem_iff {names others : List String}
    (h : ∀ name, name ∈ names ↔ name ∈ others) : inNameOrder names = inNameOrder others := by
  have hperm : (inNameOrder names).Perm (inNameOrder others) := by
    rw [List.perm_ext_iff_of_nodup (nodup_inNameOrder names) (nodup_inNameOrder others)]
    intro name
    rw [mem_inNameOrder, mem_inNameOrder, h]
  exact hperm.eq_of_pairwise (fun a b _ _ hab hba ↦ absurd (hab.trans hba) (Before.irrefl a))
    (NameMap.pairwise_names _) (NameMap.pairwise_names _)

end Assembly

namespace Files

open Assembly (inNameOrder inNameOrder_eq_of_mem_iff mem_inNameOrder)
open Descriptor (Error)
open Json (Fields LastAt)
open Report (bind_eq_error_iff bind_eq_ok_iff mapError_eq_error_iff mapError_eq_ok_iff)
open Report.Traced (outcome_bind outcome_liftM outcome_record outcome_recordAll)

variable {fs : FileSystem} {directory : String} {names : List String}

/-! ### Files of a directory -/

/-- The names of the descriptor files among the names listed in a directory. -/
def descriptorNames (fs : FileSystem) (directory : String) (listing : List String) : List String :=
  (inNameOrder (listing.filter isJsonName)).filter fun name ↦ fs.isFile (joinPath directory name)

theorem descriptorFiles_eq (fs : FileSystem) (directory : String) (listing : List String) :
    descriptorFiles fs directory listing =
      (descriptorNames fs directory listing).map (joinPath directory) := List.filter_map

theorem mem_descriptorNames_iff {listing : List String} {name : String} :
    name ∈ descriptorNames fs directory listing ↔
      name ∈ listing ∧ isJsonName name = true ∧ fs.isFile (joinPath directory name) = true := by
  rw [descriptorNames, List.mem_filter, mem_inNameOrder, List.mem_filter, and_assoc]

theorem pairwise_descriptorNames (fs : FileSystem) (directory : String) (listing : List String) :
    (descriptorNames fs directory listing).Pairwise Before :=
  (Assembly.NameMap.pairwise_names _).filter _

/-- The order of a listing does not matter. -/
theorem loadListed_eq_of_mem_iff {listing : List String}
    (h : ∀ name, name ∈ listing ↔ name ∈ names) :
    loadListed fs directory listing = loadListed fs directory names := by
  have hjson : ∀ name, name ∈ listing.filter isJsonName ↔ name ∈ names.filter isJsonName := by
    intro name
    rw [List.mem_filter, List.mem_filter, h]
  rw [loadListed, loadListed, descriptorFiles, descriptorFiles, inNameOrder_eq_of_mem_iff hjson]

/-! ### One file -/

/-- A file can be used, and has these members as they are written. -/
def Holds (fs : FileSystem) (path : String) (members : List (String × Json)) : Prop :=
  ∃ text, fs.readText path = .ok text ∧ Json.writtenMembers text = .ok members

/-- A file cannot be used, for a reason. -/
inductive Unusable (fs : FileSystem) (path : String) : Error → Prop where
  /-- Its text cannot be had. -/
  | unreadable {kind : Kind} (h : fs.readText path = .error kind) :
    Unusable fs path (.file path kind)
  /-- Its text is no document. -/
  | malformed {text : String} {fault : Json.Fault} (hread : fs.readText path = .ok text)
    (h : Json.parse text = .error fault) : Unusable fs path (.document path fault)
  /-- Its document is no object. -/
  | notAnObject {text : String} {document : Json} (hread : fs.readText path = .ok text)
    (hparse : Json.parse text = .ok document) (h : ∀ fields, document ≠ .object fields) :
    Unusable fs path (.invalid path .documentNotAnObject)

theorem readDocument_eq_ok_iff {path : String} {entries : Fields} :
    readDocument fs path = .ok entries ↔
      ∃ members, Holds fs path members ∧ entries = Fields.merge [] members := by
  constructor
  · intro h
    obtain ⟨text, hread, h⟩ := bind_eq_ok_iff.1 h
    obtain ⟨document, hparse, h⟩ := bind_eq_ok_iff.1 h
    cases document with
    | object fields =>
      obtain rfl := Except.ok.inj h
      obtain ⟨members, hmembers, rfl⟩ :=
        Json.parse_eq_ok_object_iff.1 (mapError_eq_ok_iff.1 hparse)
      exact ⟨members, ⟨text, mapError_eq_ok_iff.1 hread, hmembers⟩, rfl⟩
    | _ => exact nomatch h
  · rintro ⟨members, ⟨text, hread, hmembers⟩, rfl⟩
    have hparse := Json.parse_eq_ok_object_iff.2 ⟨members, hmembers, rfl⟩
    exact bind_eq_ok_iff.2 ⟨text, mapError_eq_ok_iff.2 hread,
      bind_eq_ok_iff.2 ⟨_, mapError_eq_ok_iff.2 hparse, rfl⟩⟩

theorem readDocument_eq_error_iff {path : String} {error : Error} :
    readDocument fs path = .error error ↔ Unusable fs path error := by
  simp only [readDocument, bind_eq_error_iff, mapError_eq_error_iff, mapError_eq_ok_iff]
  constructor
  · rintro (⟨kind, hread, rfl⟩ | ⟨text, hread, ⟨fault, hparse, rfl⟩ | ⟨document, hparse, h⟩⟩)
    · exact .unreadable hread
    · exact .malformed hread hparse
    · split at h
      · exact nomatch h
      · next hdocument =>
        obtain rfl := Except.error.inj h
        exact .notAnObject hread hparse fun fields heq ↦ hdocument fields heq
  · rintro (hread | ⟨hread, hparse⟩ | ⟨hread, hparse, hdocument⟩)
    · exact .inl ⟨_, hread, rfl⟩
    · exact .inr ⟨_, hread, .inl ⟨_, hparse, rfl⟩⟩
    · refine .inr ⟨_, hread, .inr ⟨_, hparse, ?_⟩⟩
      split
      · exact absurd rfl (hdocument _)
      · rfl

/-! ### One file after the other -/

/-- The next file is stored over what has been loaded, unless it cannot be used. -/
theorem outcome_mergeFiles_cons (fs : FileSystem) (documents : Fields) (path : String)
    (rest : List String) :
    (mergeFiles fs documents (path :: rest)).outcome =
      readDocument fs path >>= fun entries ↦
        (mergeFiles fs (documents.merge entries) rest).outcome := by
  rw [mergeFiles, outcome_bind, outcome_liftM]
  refine congrArg (readDocument fs path >>= ·) (funext fun entries ↦ ?_)
  rw [outcome_bind, outcome_record, outcome_bind, outcome_recordAll]
  rfl

/-- **What is loaded are the members of all files, merged**, if all files can be used. -/
theorem mergeFiles_eq_ok_iff {documents result : Fields} :
    (mergeFiles fs documents (names.map (joinPath directory))).outcome = .ok result ↔
      ∃ contents : List (String × List (String × Json)), contents.map Prod.fst = names ∧
        (∀ file ∈ contents, Holds fs (joinPath directory file.1) file.2) ∧
        result = documents.merge (contents.flatMap Prod.snd) := by
  induction names generalizing documents with
  | nil =>
    constructor
    · exact fun h ↦ ⟨[], rfl, List.forall_mem_nil _, (Except.ok.inj h).symm⟩
    · rintro ⟨contents, hnames, -, rfl⟩
      obtain rfl := List.map_eq_nil_iff.1 hnames
      rfl
  | cons name rest ih =>
    simp only [List.map_cons, outcome_mergeFiles_cons, bind_eq_ok_iff, ih, readDocument_eq_ok_iff]
    constructor
    · rintro ⟨_, ⟨members, hmembers, rfl⟩, contents, rfl, hcontents, rfl⟩
      refine ⟨(name, members) :: contents, rfl, List.forall_mem_cons.2 ⟨hmembers, hcontents⟩, ?_⟩
      rw [List.flatMap_cons, Fields.merge_merge, Fields.merge_append]
    · rintro ⟨contents, hnames, hcontents, rfl⟩
      obtain ⟨⟨_, members⟩, rest, rfl, rfl, rfl⟩ := List.map_eq_cons_iff.1 hnames
      obtain ⟨hmembers, hrest⟩ := List.forall_mem_cons.1 hcontents
      refine ⟨_, ⟨members, hmembers, rfl⟩, rest, rfl, hrest, ?_⟩
      rw [List.flatMap_cons, Fields.merge_merge, Fields.merge_append]

/-- **The loading fails at the first file that cannot be used**, whatever stands behind it. -/
theorem mergeFiles_eq_error_iff {documents : Fields} {error : Error} :
    (mergeFiles fs documents (names.map (joinPath directory))).outcome = .error error ↔
      ∃ before name after, names = before ++ name :: after ∧
        (∀ earlier ∈ before, ∃ members, Holds fs (joinPath directory earlier) members) ∧
        Unusable fs (joinPath directory name) error := by
  induction names generalizing documents with
  | nil => simp [mergeFiles]
  | cons name rest ih =>
    simp only [List.map_cons, outcome_mergeFiles_cons, bind_eq_error_iff, ih,
      readDocument_eq_ok_iff, readDocument_eq_error_iff]
    constructor
    · rintro (h | ⟨_, ⟨members, hmembers, -⟩, before, failing, after, rfl, hbefore, h⟩)
      · exact ⟨[], name, rest, rfl, List.forall_mem_nil _, h⟩
      · exact ⟨name :: before, failing, after, rfl,
          List.forall_mem_cons.2 ⟨⟨members, hmembers⟩, hbefore⟩, h⟩
    · rintro ⟨before, failing, after, hsplit, hbefore, h⟩
      cases before with
      | nil =>
        obtain ⟨rfl, rfl⟩ := List.cons.inj hsplit
        exact .inl h
      | cons first before =>
        obtain ⟨rfl, rfl⟩ := List.cons.inj hsplit
        obtain ⟨⟨members, hmembers⟩, hbefore⟩ := List.forall_mem_cons.1 hbefore
        exact .inr ⟨_, ⟨members, hmembers, rfl⟩, before, failing, after, rfl, hbefore, h⟩

/-- Nothing but such a file makes the loading fail. -/
theorem exists_mergeFiles_eq_ok_iff {documents : Fields} :
    (∃ result, (mergeFiles fs documents (names.map (joinPath directory))).outcome = .ok result) ↔
      ∀ name ∈ names, ∃ members, Holds fs (joinPath directory name) members := by
  constructor
  · rintro ⟨result, h⟩ name hname
    obtain ⟨contents, rfl, hcontents, -⟩ := mergeFiles_eq_ok_iff.1 h
    obtain ⟨file, hfile, rfl⟩ := List.mem_map.1 hname
    exact ⟨file.2, hcontents file hfile⟩
  · intro h
    cases houtcome : (mergeFiles fs documents (names.map (joinPath directory))).outcome with
    | ok result => exact ⟨result, rfl⟩
    | error error =>
      obtain ⟨before, name, after, rfl, -, hfailing⟩ := mergeFiles_eq_error_iff.1 houtcome
      obtain ⟨members, hmembers⟩ := h name (by simp)
      have hok := readDocument_eq_ok_iff.2 ⟨members, hmembers, rfl⟩
      exact nomatch hok.symm.trans (readDocument_eq_error_iff.2 hfailing)

/-! ### The last file that has a key -/

/-- In files sorted by name, the last member of a key is that in the last file that has the key. -/
theorem lastAt_flatMap_iff {contents : List (String × List (String × Json))}
    (hsorted : (contents.map Prod.fst).Pairwise Before) {key : String} {value : Json} :
    LastAt (contents.flatMap Prod.snd) key value ↔
      ∃ file ∈ contents, LastAt file.2 key value ∧ ∀ other ∈ contents,
        key ∈ other.2.map Prod.fst → other.1 = file.1 ∨ Before other.1 file.1 := by
  induction contents with
  | nil => simp [LastAt]
  | cons file rest ih =>
    obtain ⟨hfile, hrest⟩ := List.pairwise_cons.1 hsorted
    have hbehind : ∀ other ∈ rest, Before file.1 other.1 :=
      fun other hother ↦ hfile other.1 (List.mem_map_of_mem hother)
    rw [List.flatMap_cons, Json.lastAt_append_iff, ih hrest]
    constructor
    · rintro (⟨last, hlast, hvalue, hothers⟩ | ⟨hnot, hvalue⟩)
      · exact ⟨last, List.mem_cons_of_mem file hlast, hvalue,
          List.forall_mem_cons.2 ⟨fun _ ↦ .inr (hbehind last hlast), hothers⟩⟩
      · refine ⟨file, List.mem_cons_self, hvalue,
          List.forall_mem_cons.2 ⟨fun _ ↦ .inl rfl, fun other hother hkey ↦ ?_⟩⟩
        rw [List.map_flatMap, List.mem_flatMap] at hnot
        exact absurd ⟨other, hother, hkey⟩ hnot
    · rintro ⟨last, hlast, hvalue, hothers⟩
      rcases List.mem_cons.1 hlast with rfl | hlast
      · refine .inr ⟨fun hkey ↦ ?_, hvalue⟩
        rw [List.map_flatMap, List.mem_flatMap] at hkey
        obtain ⟨other, hother, hkey⟩ := hkey
        have hbefore := hbehind other hother
        rcases hothers other (List.mem_cons_of_mem _ hother) hkey with heq | hlater
        · exact hbefore.ne heq.symm
        · exact Before.irrefl _ (hbefore.trans hlater)
      · exact .inl ⟨last, hlast, hvalue, (List.forall_mem_cons.1 hothers).2⟩

/-- **Loading is a merge in which the last one wins, and the order of the listing does not count.**
What is loaded are the files with the extension `json`, in byte order of their names. If each of
them holds an object, the keys are theirs, in the order in which they appear first; and a key is
bound to what its last member has in the last file with that key. Otherwise the error is that of the
first file which cannot be read, is malformed or holds something else, and nothing is asked of the
files behind it. -/
theorem loadDocuments_merges (hlist : fs.list directory = .ok names) :
    (∀ listing : List String, listing.Perm names →
      loadListed fs directory listing = loadDocuments fs directory) ∧
    ∃ files : List String, files.Pairwise Before ∧
      (∀ name, name ∈ files ↔
        name ∈ names ∧ isJsonName name = true ∧ fs.isFile (joinPath directory name) = true) ∧
      ((∃ documents, (loadDocuments fs directory).outcome = .ok documents) ↔
        ∀ name ∈ files, ∃ members, Holds fs (joinPath directory name) members) ∧
      (∀ documents, (loadDocuments fs directory).outcome = .ok documents →
        ∃ contents : List (String × List (String × Json)), contents.map Prod.fst = files ∧
          (∀ file ∈ contents, Holds fs (joinPath directory file.1) file.2) ∧
          documents.map Prod.fst = ((contents.flatMap Prod.snd).map Prod.fst).eraseDups ∧
          ∀ key value, documents.get? key = some value ↔
            ∃ file ∈ contents, LastAt file.2 key value ∧ ∀ other ∈ contents,
              key ∈ other.2.map Prod.fst → other.1 = file.1 ∨ Before other.1 file.1) ∧
      ∀ error, (loadDocuments fs directory).outcome = .error error ↔
        ∃ before name after, files = before ++ name :: after ∧
          (∀ earlier ∈ before, ∃ members, Holds fs (joinPath directory earlier) members) ∧
          Unusable fs (joinPath directory name) error := by
  have hload : loadDocuments fs directory = loadListed fs directory names := by
    rw [loadDocuments, hlist]
    rfl
  have houtcome : loadListed fs directory names =
      mergeFiles fs [] ((descriptorNames fs directory names).map (joinPath directory)) := by
    rw [loadListed, descriptorFiles_eq]
  refine ⟨fun listing hperm ↦ ?_, descriptorNames fs directory names,
    pairwise_descriptorNames fs directory names, fun name ↦ mem_descriptorNames_iff, ?_, ?_, ?_⟩
  · rw [hload, loadListed_eq_of_mem_iff fun _ ↦ hperm.mem_iff]
  all_goals rw [hload, houtcome]
  · exact exists_mergeFiles_eq_ok_iff
  · intro documents h
    obtain ⟨contents, hnames, hcontents, rfl⟩ := mergeFiles_eq_ok_iff.1 h
    refine ⟨contents, hnames, hcontents, Fields.map_fst_merge _, fun key value ↦ ?_⟩
    rw [Fields.get?_merge_eq_some_iff, lastAt_flatMap_iff]
    rw [hnames]
    exact pairwise_descriptorNames fs directory names
  · exact fun error ↦ mergeFiles_eq_error_iff

/-- A key is repeated in a file and defined by two files, one of which is listed before the one that
comes first. When there are two files that cannot be used, the first one counts. -/
theorem loadDocuments_merges_of_overlap :
    let fs (more : List (Location × Entry)) : FileSystem := ⟨[], (["d"], .directory) ::
      (["d", "b.json"], .file "\x7b\"x\":true,\"a\":null\x7d".toUTF8) ::
      (["d", "a.json"], .file "\x7b\"a\":true,\"b\":null,\"a\":false\x7d".toUTF8) :: more⟩
    let broken : List (Location × Entry) :=
      [(["d", "z.json"], .file "\x7b".toUTF8), (["d", "aa.json"], .file "[]".toUTF8)]
    (∃ names documents, (fs []).list "d" = .ok names ∧
      (loadListed (fs []) "d" names.reverse).outcome = .ok documents ∧
      documents.map Prod.fst = ["a", "b", "x"] ∧ documents.get? "a" = some .null ∧
      ∃ name members, Holds (fs []) (joinPath "d" name) members ∧ LastAt members "a" .null) ∧
    ∃ names before name, (fs broken).list "d" = .ok names ∧ name ∈ names ∧ before ⊆ names ∧
      (∀ earlier ∈ before, ∃ members, Holds (fs broken) (joinPath "d" earlier) members) ∧
      Unusable (fs broken) (joinPath "d" name) (.invalid "d/aa.json" .documentNotAnObject) := by
  intro fs broken
  have hlist : (fs []).list "d" = .ok ["b.json", "a.json"] := by rfl
  have hbroken : (fs broken).list "d" = .ok ["b.json", "a.json", "z.json", "aa.json"] := by rfl
  have hloaded : (loadDocuments (fs []) "d").outcome.toOption.map (fun documents ↦
      (documents.map Prod.fst, (documents.get? "a").map Json.isNull)) =
        some (["a", "b", "x"], some true) := by
    decide +kernel
  have hfailed : (loadDocuments (fs broken) "d").outcome.map (fun _ ↦ ()) =
      .error (.invalid "d/aa.json" .documentNotAnObject) := by
    decide +kernel
  constructor
  · obtain ⟨hreordered, files, -, -, -, hmerged, -⟩ := loadDocuments_merges hlist
    obtain ⟨documents, hdocuments, hread⟩ := Option.map_eq_some_iff.1 hloaded
    obtain ⟨hkeys, hnull⟩ := Prod.mk.inj hread
    have hdocuments := Report.toOption_eq_some_iff.1 hdocuments
    have hget : documents.get? "a" = some .null := by
      obtain ⟨value, hvalue, hnull⟩ := Option.map_eq_some_iff.1 hnull
      cases value with
      | null => exact hvalue
      | _ => exact nomatch hnull
    obtain ⟨contents, -, hcontents, -, hbound⟩ := hmerged documents hdocuments
    obtain ⟨file, hfile, hlast, -⟩ := (hbound "a" .null).1 hget
    have hreversed := hreordered _ (List.reverse_perm ["b.json", "a.json"])
    exact ⟨_, documents, hlist, by rw [hreversed, hdocuments], hkeys, hget, file.1, file.2,
      hcontents file hfile, hlast⟩
  · obtain ⟨-, files, -, hfiles, -, -, hfirst⟩ := loadDocuments_merges hbroken
    have herror : (loadDocuments (fs broken) "d").outcome =
        .error (.invalid "d/aa.json" .documentNotAnObject) := by
      cases houtcome : (loadDocuments (fs broken) "d").outcome with
      | error error =>
        rw [houtcome] at hfailed
        exact congrArg Except.error (Except.error.inj hfailed)
      | ok documents =>
        rw [houtcome] at hfailed
        exact nomatch hfailed
    obtain ⟨before, name, after, rfl, hbefore, hname⟩ := (hfirst _).1 herror
    exact ⟨_, before, name, hbroken, ((hfiles name).1 (by simp)).1,
      fun earlier hearlier ↦ ((hfiles earlier).1 (by simp [hearlier])).1, hbefore, hname⟩

end Files

end ClientSynthesis
