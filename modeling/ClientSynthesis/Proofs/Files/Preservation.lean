import ClientSynthesis.Proofs.Files.Location

/-!
# What operations on files keep

An operation is described by the places it may change. Outside of them everything is kept, except that
directories may come into being (`KeptOutside`), and nowhere does a directory go away. The last clause
is what makes the description compose: a path that could be followed before leads to the same place
afterwards (`KeptOutside.locate`), so the place that is written to first is still found by the same
path when more has been written.

Making directories may change no place in this sense (`keptOutside_makeDirectories`), whether or not
it succeeds; writing a file may change the place of that file (`keptOutside_of_writeText`).
-/

namespace ClientSynthesis.Files

open Report (bind_eq_ok_iff)

namespace FileSystem

variable {fs before after later : FileSystem} {place here : Location} {path text : String}

/-- Outside some places everything has been kept, and nothing has come to it but directories. -/
structure KeptOutside (places : Location → Prop) (before after : FileSystem) : Prop where
  workingDirectory : after.workingDirectory = before.workingDirectory
  directory : ∀ place, before.occupant? place = some .directory →
    after.occupant? place = some .directory
  elsewhere : ∀ place, ¬ places place → after.occupant? place = before.occupant? place ∨
    before.occupant? place = none ∧ after.occupant? place = some .directory

namespace KeptOutside

variable {places more : Location → Prop}

theorem refl (places : Location → Prop) (fs : FileSystem) : KeptOutside places fs fs where
  workingDirectory := rfl
  directory _ h := h
  elsewhere _ _ := .inl rfl

theorem mono (hsub : ∀ place, places place → more place) (h : KeptOutside places before after) :
    KeptOutside more before after where
  workingDirectory := h.workingDirectory
  directory := h.directory
  elsewhere place hplace := h.elsewhere place fun hin ↦ hplace (hsub place hin)

theorem trans (h : KeptOutside places before after) (hlater : KeptOutside places after later) :
    KeptOutside places before later where
  workingDirectory := hlater.workingDirectory.trans h.workingDirectory
  directory place hplace := hlater.directory place (h.directory place hplace)
  elsewhere place hplace := by
    rcases h.elsewhere place hplace with hsame | ⟨hnone, hdirectory⟩
    · rw [← hsame]
      exact hlater.elsewhere place hplace
    · exact .inr ⟨hnone, hlater.directory place hdirectory⟩

/-- A file at a place that is kept is the same file as before. -/
theorem file_iff (h : KeptOutside places before after) (hplace : ¬ places place) {bytes : ByteArray} :
    after.occupant? place = some (.file bytes) ↔ before.occupant? place = some (.file bytes) := by
  rcases h.elsewhere place hplace with hsame | ⟨hnone, hdirectory⟩
  · rw [hsame]
  · simp [hnone, hdirectory]

theorem follow (h : KeptOutside places before after) {names : List String}
    (hfollow : before.follow here names = .ok place) : after.follow here names = .ok place := by
  induction names generalizing here with
  | nil => exact hfollow
  | cons name rest ih =>
    rw [FileSystem.follow] at hfollow ⊢
    cases hhere : before.occupant? here with
    | none => simp [hhere] at hfollow
    | some entry =>
      cases entry with
      | file bytes => simp [hhere] at hfollow
      | directory =>
        rw [hhere] at hfollow
        rw [h.directory here hhere]
        dsimp only at hfollow ⊢
        split_ifs at hfollow ⊢
        · exact ih hfollow
        · exact ih hfollow
        · exact ih hfollow

/-- A path that could be followed leads to the same place. -/
theorem locate (h : KeptOutside places before after) (hlocate : before.locate path = .ok place) :
    after.locate path = .ok place := by
  obtain ⟨hcheck, hfollow⟩ := locate_eq_ok_iff.1 hlocate
  have horigin : after.origin path = before.origin path := by
    rw [origin, origin, h.workingDirectory]
  exact locate_eq_ok_iff.2 ⟨hcheck, horigin ▸ h.follow hfollow⟩

end KeptOutside

/-! ### Putting -/

theorem keptOutside_put (entry : Entry) (h : fs.occupant? place ≠ some .directory) :
    KeptOutside (· = place) fs (fs.put place entry) := by
  have hroot : place ≠ [] := by
    rintro rfl
    exact h rfl
  have hother : ∀ other ≠ place, (fs.put place entry).occupant? other = fs.occupant? other := by
    intro other hne
    rw [occupant?_put fs entry other hroot, if_neg hne]
  refine ⟨rfl, fun other hdirectory ↦ ?_, fun other hne ↦ .inl (hother other hne)⟩
  have hne : other ≠ place := fun heq ↦ h (heq ▸ hdirectory)
  rw [hother other hne, hdirectory]

theorem keptOutside_put_directory (h : fs.occupant? place = none) :
    KeptOutside (fun _ ↦ False) fs (fs.put place .directory) := by
  have hput : KeptOutside (· = place) fs (fs.put place .directory) :=
    keptOutside_put .directory (by simp [h])
  refine ⟨hput.workingDirectory, hput.directory, fun other _ ↦ ?_⟩
  by_cases heq : other = place
  · have hroot : place ≠ [] := by
      rintro rfl
      simp [occupant?] at h
    subst heq
    exact .inr ⟨h, by rw [occupant?_put fs .directory other hroot, if_pos rfl]⟩
  · exact hput.elsewhere other heq

/-! ### Making directories -/

theorem keptOutside_makeDirectory (h : fs.makeDirectory path = .ok after) :
    KeptOutside (fun _ ↦ False) fs after := by
  obtain ⟨_, -, h⟩ := bind_eq_ok_iff.1 h
  obtain ⟨place, -, h⟩ := bind_eq_ok_iff.1 h
  cases hplace : fs.occupant? place with
  | some entry => simp [hplace, throw, throwThe, MonadExceptOf.throw] at h
  | none =>
    rw [hplace] at h
    obtain rfl := Except.ok.inj h
    exact keptOutside_put_directory hplace

theorem keptOutside_ensureDirectory {withParent : FileSystem × Except Kind Unit}
    (h : KeptOutside (fun _ ↦ False) fs withParent.1) :
    KeptOutside (fun _ ↦ False) fs (fs.ensureDirectory path withParent).1 := by
  unfold ensureDirectory
  split
  · next hmade => exact keptOutside_makeDirectory hmade
  · split
    · exact h
    · split
      · next hmade => exact h.trans (keptOutside_makeDirectory hmade)
      · exact h
  · exact .refl _ fs

theorem keptOutside_makeTree (fs : FileSystem) (start : String) (names : List String) :
    KeptOutside (fun _ ↦ False) fs (fs.makeTree start names).1 := by
  induction names with
  | nil => exact .refl _ fs
  | cons name outer ih => exact keptOutside_ensureDirectory ih

/-- Making directories, even in vain, leaves everything in place. -/
theorem keptOutside_makeDirectories (fs : FileSystem) (path : String) :
    KeptOutside (fun _ ↦ False) fs (fs.makeDirectories path).1 := by
  rw [makeDirectories]
  by_cases hempty : path = ""
  · rw [if_pos hempty]
    exact .refl _ fs
  · rw [if_neg hempty]
    exact keptOutside_ensureDirectory (keptOutside_makeTree fs _ _)

/-! ### Writing files -/

/-- A path leads to a file with a text. -/
def Stores (fs : FileSystem) (path text : String) : Prop :=
  ∃ place, fs.locate path = .ok place ∧ fs.occupant? place = some (.file text.toUTF8)

theorem fromUTF8?_toUTF8 (text : String) : String.fromUTF8? text.toUTF8 = some text := by
  rw [String.fromUTF8?, String.toUTF8_eq_toByteArray, dif_pos text.isValidUTF8]
  rfl

/-- The text of the file is what is read from it. -/
theorem Stores.readText (h : fs.Stores path text) : fs.readText path = .ok text := by
  obtain ⟨place, hlocate, hfile⟩ := h
  have hfind : fs.find path = .ok (place, .file text.toUTF8) := by
    simp only [find, hlocate, bind, Except.bind, hfile]
    rfl
  simp only [FileSystem.readText, hfind, bind, Except.bind, fromUTF8?_toUTF8]
  rfl

/-- A file is written to the place that its path leads to, where no directory is. -/
theorem exists_of_writeText (h : fs.writeText path text = .ok after) :
    ∃ place, fs.locate path = .ok place ∧ fs.occupant? place ≠ some .directory ∧
      after = fs.put place (.file text.toUTF8) := by
  obtain ⟨_, -, h⟩ := bind_eq_ok_iff.1 h
  dsimp only at h
  split_ifs at h with hslash
  · -- A path that ends in a slash fails, wherever it leads.
    obtain ⟨_, -, h⟩ := bind_eq_ok_iff.1 h
    exact nomatch h
  · obtain ⟨place, hlocate, h⟩ := bind_eq_ok_iff.1 h
    refine ⟨place, hlocate, ?_⟩
    split at h
    · exact nomatch h
    · next hdirectory => exact ⟨hdirectory, (Except.ok.inj h).symm⟩

/-- What is written is stored, and only the place of the file may have changed. -/
theorem stores_of_writeText (h : fs.writeText path text = .ok after) :
    after.Stores path text ∧ KeptOutside (fun place ↦ after.locate path = .ok place) fs after := by
  obtain ⟨place, hlocate, hdirectory, rfl⟩ := exists_of_writeText h
  have hkept : KeptOutside (· = place) fs (fs.put place (.file text.toUTF8)) :=
    keptOutside_put _ hdirectory
  have hafter : (fs.put place (.file text.toUTF8)).locate path = .ok place := hkept.locate hlocate
  have hroot : place ≠ [] := by
    rintro rfl
    exact hdirectory rfl
  refine ⟨⟨place, hafter, ?_⟩, hkept.mono ?_⟩
  · rw [occupant?_put fs _ place hroot, if_pos rfl]
  · rintro _ rfl
    exact hafter

end FileSystem

end ClientSynthesis.Files
