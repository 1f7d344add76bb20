import ClientSynthesis.Files.FileSystem
import ClientSynthesis.Proofs.Report.Outcome

/-!
# Where paths lead

A path is followed component by component, so following a path that goes on is following its front and
then its back (`follow_append`). A plain name inside a directory is therefore looked up where the path
of the directory leads, and leads to the place of that name there
(`exists_locateDirectory_of_locate_joinPath`). Different plain names never lead to one place
(`eq_of_locate_joinPath`).
-/

namespace ClientSynthesis.Files

open Report (bind_eq_ok_iff)
open Text (split split_append_cons split_of_not_mem)

/-- A name that stands for itself wherever it is looked up. -/
structure IsPlainName (name : String) : Prop where
  slash : '/' ∉ name.toList
  empty : name ≠ ""
  here : name ≠ "."
  parent : name ≠ ".."

variable {directory name : String}

theorem IsPlainName.head?_ne (h : IsPlainName name) : name.toList.head? ≠ some '/' :=
  fun hhead ↦ h.slash (List.mem_of_mem_head? hhead)

/-! ### Paths into a directory -/

/-- What the paths of all names in a directory begin with. -/
def directoryPrefix (directory : String) : String := joinPath directory ""

theorem joinPath_eq (h : IsPlainName name) :
    joinPath directory name = directoryPrefix directory ++ name := by
  rw [joinPath, if_neg h.head?_ne, directoryPrefix, joinPath, if_neg (by simp)]
  split <;> simp

/-- The beginning is the path of the directory, up to a slash. -/
theorem directoryPrefix_of_ne_empty (h : directory ≠ "") :
    ((∃ front, directory = front ++ "/") ∧ directoryPrefix directory = directory) ∨
      directoryPrefix directory = directory ++ "/" := by
  rw [directoryPrefix, joinPath, if_neg (by simp)]
  split
  · next hlast => exact absurd (by simpa using hlast) h
  · next hlast =>
    obtain ⟨front, hfront⟩ := List.getLast?_eq_some_iff.1 hlast
    refine .inl ⟨⟨String.ofList front, String.toList_injective ?_⟩, by simp⟩
    simp [hfront]
  · exact .inr (by simp)

/-- The beginning ends in a slash, unless there is none. -/
theorem directoryPrefix_cases (directory : String) :
    directoryPrefix directory = "" ∨ ∃ front, directoryPrefix directory = front ++ "/" := by
  by_cases hempty : directory = ""
  · subst hempty
    exact .inl rfl
  · rcases directoryPrefix_of_ne_empty hempty with ⟨⟨front, hfront⟩, hbegin⟩ | hbegin
    · exact .inr ⟨front, hbegin.trans hfront⟩
    · exact .inr ⟨directory, hbegin⟩

/-- The path of a plain name goes on from the path of the directory. -/
theorem exists_joinPath_eq_append (h : IsPlainName name) (hne : directory ≠ "") :
    ∃ back, joinPath directory name = directory ++ back := by
  rw [joinPath_eq h]
  rcases directoryPrefix_of_ne_empty hne with ⟨-, hbegin⟩ | hbegin
  · exact ⟨name, by rw [hbegin]⟩
  · exact ⟨"/" ++ name, by rw [hbegin, String.append_assoc]⟩

theorem components_of_plain (h : IsPlainName name) : components name = [name] := by
  rw [components, split_of_not_mem h.slash]
  simp

theorem components_append_slash (front back : String) :
    components (front ++ "/" ++ back) = components front ++ components back := by
  have htext : (front ++ "/" ++ back).toList = front.toList ++ '/' :: back.toList := by simp
  rw [components, htext, split_append_cons, List.map_append]
  rfl

theorem components_slash (front : String) : components (front ++ "/") = components front ++ [""] := by
  have hempty := components_append_slash front ""
  rwa [String.append_empty] at hempty

/-- The path of a plain name has the components of the directory, and then the name. -/
theorem components_joinPath (h : IsPlainName name) :
    components (joinPath directory name) =
      (components (directoryPrefix directory)).dropLast ++ [name] := by
  rw [joinPath_eq h]
  obtain hbegin | ⟨front, hbegin⟩ := directoryPrefix_cases directory
  · rw [hbegin, String.empty_append, components_of_plain h]
    rfl
  · rw [hbegin, components_append_slash, components_of_plain h, components_slash, List.dropLast_concat]

/-- The path of a plain name starts where the directory's does. -/
theorem isAbsolute_joinPath (h : IsPlainName name) :
    isAbsolute (joinPath directory name) = isAbsolute (directoryPrefix directory) := by
  rw [joinPath_eq h]
  obtain hbegin | ⟨front, hbegin⟩ := directoryPrefix_cases directory
  · rw [hbegin, String.empty_append]
    simpa [isAbsolute] using h.head?_ne
  · have hne : (front ++ "/").toList ≠ [] := by simp
    rw [hbegin, isAbsolute, isAbsolute, String.toList_append, List.head?_append_of_ne_nil _ hne]

namespace FileSystem

variable {fs : FileSystem} {here place : Location}

/-! ### Following -/

theorem follow_cons (fs : FileSystem) (here : Location) (name : String) (rest : List String) :
    fs.follow here (name :: rest) = fs.follow here [name] >>= fun there ↦ fs.follow there rest := by
  rw [follow, follow]
  cases fs.occupant? here with
  | none => rfl
  | some entry =>
    cases entry with
    | file bytes => rfl
    | directory =>
      dsimp only
      split_ifs <;> rfl

/-- Following a path that goes on is following its front, and its back from there. -/
theorem follow_append (fs : FileSystem) (here : Location) (front back : List String) :
    fs.follow here (front ++ back) = fs.follow here front >>= fun there ↦ fs.follow there back := by
  induction front generalizing here with
  | nil => rfl
  | cons name rest ih =>
    rw [List.cons_append, follow_cons, follow_cons fs here name rest, bind_assoc]
    exact bind_congr fun there ↦ ih there

/-- A plain name leads from a directory to the place of that name in it. -/
theorem follow_plain_eq_ok_iff (h : IsPlainName name) :
    fs.follow here [name] = .ok place ↔
      fs.occupant? here = some .directory ∧ name.utf8ByteSize ≤ nameLimit ∧
        place = here ++ [name] := by
  rw [follow]
  cases fs.occupant? here with
  | none => simp
  | some entry =>
    cases entry with
    | file bytes => simp
    | directory =>
      dsimp only
      rw [if_neg (by simp [h.empty, h.here]), if_neg h.parent]
      by_cases hlong : nameLimit < name.utf8ByteSize
      · rw [if_pos hlong]
        exact ⟨nofun, fun hplace ↦ absurd hplace.2.1 (by omega)⟩
      · rw [if_neg hlong, follow, Except.ok.injEq, eq_comm]
        exact ⟨fun hplace ↦ ⟨rfl, by omega, hplace⟩, fun hplace ↦ hplace.2.2⟩

theorem locate_eq_ok_iff {path : String} :
    fs.locate path = .ok place ↔
      checkPath path = .ok () ∧ fs.follow (fs.origin path) (components path) = .ok place := by
  rw [locate, bind_eq_ok_iff]
  exact ⟨fun ⟨_, hcheck, hfollow⟩ ↦ ⟨hcheck, hfollow⟩, fun ⟨hcheck, hfollow⟩ ↦ ⟨(), hcheck, hfollow⟩⟩

/-- The place of a plain name in a directory is that name in the place of the directory, which is the
same for all names. -/
theorem exists_of_locate_joinPath (h : IsPlainName name)
    (hplace : fs.locate (joinPath directory name) = .ok place) :
    ∃ there, fs.follow (fs.origin (directoryPrefix directory))
        (components (directoryPrefix directory)).dropLast = .ok there ∧
      fs.occupant? there = some .directory ∧ place = there ++ [name] := by
  obtain ⟨-, hfollow⟩ := locate_eq_ok_iff.1 hplace
  rw [components_joinPath h, follow_append, bind_eq_ok_iff, origin, isAbsolute_joinPath h] at hfollow
  obtain ⟨there, hthere, hname⟩ := hfollow
  obtain ⟨hdirectory, -, hplace⟩ := (follow_plain_eq_ok_iff h).1 hname
  exact ⟨there, hthere, hdirectory, hplace⟩

/-- Different plain names in a directory have different places. -/
theorem eq_of_locate_joinPath {other : String} (hname : IsPlainName name) (hother : IsPlainName other)
    (hplace : fs.locate (joinPath directory name) = .ok place)
    (hsame : fs.locate (joinPath directory other) = .ok place) : name = other := by
  obtain ⟨there, hthere, -, rfl⟩ := exists_of_locate_joinPath hname hplace
  obtain ⟨there', hthere', -, hsame⟩ := exists_of_locate_joinPath hother hsame
  obtain rfl : there = there' := Except.ok.inj (hthere.symm.trans hthere')
  simpa using hsame

/-! ### The directory itself -/

/-- The place of a directory that files are to be written into. An empty path stands for the working
directory. -/
def locateDirectory (fs : FileSystem) (directory : String) : Except Kind Location :=
  if directory = "" then .ok fs.workingDirectory else fs.locate directory

theorem checkPath_eq_ok_iff {path : String} :
    checkPath path = .ok () ↔
      path ≠ "" ∧ '\x00' ∉ path.toList ∧ path.utf8ByteSize ≤ pathLimit := by
  unfold checkPath
  split_ifs with hempty hnul hlong
  · simp [hempty]
  · exact ⟨nofun, fun h ↦ absurd (List.contains_iff_mem.1 hnul) h.2.1⟩
  · exact ⟨nofun, fun h ↦ absurd hlong (Nat.not_lt.2 h.2.2)⟩
  · exact iff_of_true rfl ⟨hempty, mt List.contains_iff_mem.2 hnul, Nat.not_lt.1 hlong⟩

/-- A path that can be followed goes on from one that can. -/
theorem checkPath_of_append {path back : String} (hne : path ≠ "")
    (h : checkPath (path ++ back) = .ok ()) : checkPath path = .ok () := by
  obtain ⟨-, hnul, hlong⟩ := checkPath_eq_ok_iff.1 h
  rw [String.toList_append, List.mem_append, not_or] at hnul
  rw [String.utf8ByteSize_append] at hlong
  exact checkPath_eq_ok_iff.2 ⟨hne, hnul.1, by omega⟩

/-- What the paths into a directory begin with leads where the path of the directory leads. -/
theorem follow_of_directoryPrefix {there : Location} (hne : directory ≠ "")
    (hdirectory : fs.occupant? there = some .directory)
    (hthere : fs.follow (fs.origin (directoryPrefix directory))
      (components (directoryPrefix directory)).dropLast = .ok there) :
    fs.follow (fs.origin directory) (components directory) = .ok there := by
  rcases directoryPrefix_of_ne_empty hne with ⟨⟨front, rfl⟩, hbegin⟩ | hbegin
  · -- The piece behind the last slash stands for the directory itself.
    rw [hbegin, components_slash, List.dropLast_concat] at hthere
    rw [components_slash, follow_append, hthere]
    simp [bind, Except.bind, follow, hdirectory]
  · have horigin : fs.origin (directory ++ "/") = fs.origin directory := by
      have hhead : directory.toList ≠ [] := mt String.toList_eq_nil_iff.1 hne
      rw [origin, isAbsolute, String.toList_append, List.head?_append_of_ne_nil _ hhead, ← isAbsolute,
        ← origin]
    rwa [hbegin, components_slash, List.dropLast_concat, horigin] at hthere

/-- **A plain name in a directory leads to that name in the place of the directory.** -/
theorem exists_locateDirectory_of_locate_joinPath (h : IsPlainName name)
    (hplace : fs.locate (joinPath directory name) = .ok place) :
    ∃ there, fs.locateDirectory directory = .ok there ∧
      fs.occupant? there = some .directory ∧ place = there ++ [name] := by
  obtain ⟨there, hthere, hdirectory, rfl⟩ := exists_of_locate_joinPath h hplace
  refine ⟨there, ?_, hdirectory, rfl⟩
  unfold locateDirectory
  split_ifs with hempty
  · subst hempty
    exact hthere
  · obtain ⟨hcheck, -⟩ := locate_eq_ok_iff.1 hplace
    obtain ⟨back, hback⟩ := exists_joinPath_eq_append h hempty
    rw [hback] at hcheck
    exact locate_eq_ok_iff.2
      ⟨checkPath_of_append hempty hcheck, follow_of_directoryPrefix hempty hdirectory hthere⟩

end FileSystem

end ClientSynthesis.Files
