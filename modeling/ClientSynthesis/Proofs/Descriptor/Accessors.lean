import ClientSynthesis.Descriptor.Fields
import ClientSynthesis.Proofs.Report.Outcome

/-!
# What accessors read

An accessor that succeeds says what the fields hold under its key, and fields that hold the same
there are read alike. The path is for messages only: a success does not depend on it.

`erase` removes a key for good, also one that occurs more than once.
-/

namespace ClientSynthesis.Json.Fields

open Report (bind_eq_ok_iff)

variable {fields others : Fields} {key path : String}

/-- The fields without those of a key. -/
def erase (fields : Fields) (key : String) : Fields := fields.filter (·.1 ≠ key)

theorem get?_erase (fields : Fields) (key other : String) :
    (fields.erase key).get? other = if other = key then none else fields.get? other := by
  induction fields with
  | nil => simp [erase]
  | cons f rest ih =>
    obtain ⟨k, v⟩ := f
    rw [erase] at ih ⊢
    by_cases hk : k = key
    · subst hk
      rw [List.filter_cons_of_neg (by simp), ih, get?_cons]
      by_cases ho : other = k <;> simp [ho]
    · rw [List.filter_cons_of_pos (by simpa using hk), get?_cons, get?_cons, ih]
      by_cases ho : other = k
      · subst ho
        simp [hk]
      · simp [ho]

/-! ### Reading alike -/

theorem present?_congr (h : fields.get? key = others.get? key) :
    fields.present? key = others.present? key := by
  rw [present?, present?, h]

theorem typed?_congr {α : Type} {convert : Json → Option α} {expected : String}
    (h : fields.get? key = others.get? key) (path : String) :
    typed? convert expected fields key path = typed? convert expected others key path := by
  rw [typed?, typed?, present?_congr h]

theorem strings?_congr (h : fields.get? key = others.get? key) (path : String) :
    fields.strings? key path = others.strings? key path := by
  have harray : fields.array? key path = others.array? key path := typed?_congr h path
  rw [strings?, strings?, harray]

/-! ### What was read -/

theorem typed?_eq_ok_some_iff {α : Type} {convert : Json → Option α} {expected : String} {a : α} :
    typed? convert expected fields key path = .ok (some a) ↔
      ∃ v, fields.present? key = some v ∧ convert v = some a := by
  unfold typed?
  cases fields.present? key with
  | none => simp
  | some v => cases h : convert v <;> simp [h]

/-- What an accessor reads does not depend on the path it would report. -/
theorem typed?_path {α : Type} {convert : Json → Option α} {expected : String} {a : Option α}
    (h : typed? convert expected fields key path = .ok a) (other : String) :
    typed? convert expected fields key other = .ok a := by
  cases a with
  | none => exact typed?_eq_ok_none_iff.2 (typed?_eq_ok_none_iff.1 h)
  | some a => exact typed?_eq_ok_some_iff.2 (typed?_eq_ok_some_iff.1 h)

theorem present?_eq_some_iff {v : Json} :
    fields.present? key = some v ↔ fields.get? key = some v ∧ v.isNull = false := by
  rw [present?, Option.filter_eq_some_iff, Bool.not_eq_true']

/-- A type of its own in the documents is read exactly where it stands. -/
theorem typed?_eq_ok_some_iff_get? {α : Type} {convert : Json → Option α} {expected : String}
    {a : α} {v : Json} (hconvert : ∀ w, convert w = some a ↔ w = v) (hnull : v.isNull = false) :
    typed? convert expected fields key path = .ok (some a) ↔ fields.get? key = some v := by
  simp only [typed?_eq_ok_some_iff, present?_eq_some_iff, hconvert]
  constructor
  · rintro ⟨w, ⟨hget, -⟩, rfl⟩
    exact hget
  · exact fun hget ↦ ⟨v, ⟨hget, hnull⟩, rfl⟩

theorem object?_eq_ok_some_iff {table : Fields} :
    fields.object? key path = .ok (some table) ↔ fields.get? key = some (.object table) :=
  typed?_eq_ok_some_iff_get? (fun w ↦ by cases w <;> simp) rfl

theorem array?_eq_ok_some_iff {items : List Json} :
    fields.array? key path = .ok (some items) ↔ fields.get? key = some (.array items) :=
  typed?_eq_ok_some_iff_get? (fun w ↦ by cases w <;> simp) rfl

theorem array?_eq_ok_some_iff_present? {items : List Json} :
    fields.array? key path = .ok (some items) ↔ fields.present? key = some (.array items) := by
  rw [array?_eq_ok_some_iff, present?_eq_some_iff]
  exact ⟨fun h ↦ ⟨h, rfl⟩, And.left⟩

theorem string?_eq_ok_some_iff {s : String} :
    fields.string? key path = .ok (some s) ↔ fields.get? key = some (.string s) :=
  typed?_eq_ok_some_iff_get? (fun w ↦ by cases w <;> simp) rfl

theorem bool?_eq_ok_some_iff {b : Bool} :
    fields.bool? key path = .ok (some b) ↔ fields.get? key = some (.bool b) :=
  typed?_eq_ok_some_iff_get? (fun w ↦ by cases w <;> simp) rfl

theorem string_eq_ok_iff {s : String} :
    fields.string key path = .ok s ↔ fields.get? key = some (.string s) := by
  rw [← string?_eq_ok_some_iff, string, bind_eq_ok_iff]
  constructor
  · rintro ⟨s?, hs?, h⟩
    cases s? with
    | none => exact nomatch h
    | some t =>
      obtain rfl := Except.ok.inj h
      exact hs?
  · exact fun h ↦ ⟨_, h, rfl⟩

/-! ### Where reading succeeds -/

/-- A type of its own in the documents is read exactly where a value of it stands, and it is missing
where nothing stands. -/
theorem typed?_eq_ok_iff {α : Type} {convert : Json → Option α} {expected : String}
    {make : α → Json} {read : Option α} (hconvert : ∀ v a, convert v = some a ↔ v = make a) :
    typed? convert expected fields key path = .ok read ↔
      fields.present? key = read.map make := by
  cases read with
  | none => exact typed?_eq_ok_none_iff
  | some a =>
    rw [typed?_eq_ok_some_iff, Option.map_some]
    constructor
    · rintro ⟨v, hv, ha⟩
      rw [hv, (hconvert v a).1 ha]
    · exact fun h ↦ ⟨make a, h, (hconvert _ a).2 rfl⟩

theorem object?_eq_ok_iff {table : Option Fields} :
    fields.object? key path = .ok table ↔ fields.present? key = table.map .object :=
  typed?_eq_ok_iff fun v a ↦ by cases v <;> simp

theorem bool?_eq_ok_iff {flag : Option Bool} :
    fields.bool? key path = .ok flag ↔ fields.present? key = flag.map .bool :=
  typed?_eq_ok_iff fun v a ↦ by cases v <;> simp

theorem stringItems_eq_ok_iff {n : Nat} {items : List Json} {strings : List String} :
    stringItems key path n items = .ok strings ↔ items = strings.map .string := by
  induction items generalizing n strings with
  | nil =>
    rw [stringItems, Except.ok.injEq]
    exact ⟨fun h ↦ h ▸ rfl, fun h ↦ (List.map_eq_nil_iff.1 h.symm).symm⟩
  | cons item rest ih =>
    cases item with
    | string s =>
      rw [stringItems]
      cases strings with
      | nil => cases stringItems key path (n + 1) rest <;> simp [Except.map]
      | cons t more =>
        rw [List.map_cons, List.cons_eq_cons, Json.string.injEq, ← ih (n := n + 1)]
        cases stringItems key path (n + 1) rest <;> simp [Except.map]
    | _ => cases strings <;> simp [stringItems]

/-- A list of strings is read exactly where an array of just these strings stands. -/
theorem strings_eq_ok_iff {strings : List String} :
    fields.strings key path = .ok strings ↔
      fields.get? key = some (.array (strings.map .string)) := by
  rw [← @array?_eq_ok_some_iff fields key path, Fields.strings, bind_eq_ok_iff]
  constructor
  · rintro ⟨read?, hread, h⟩
    cases read? with
    | none => exact nomatch h
    | some read =>
      obtain rfl := Except.ok.inj h
      obtain ⟨items?, hitems, h⟩ := bind_eq_ok_iff.1 hread
      cases items? with
      | none => exact nomatch h
      | some items =>
        obtain ⟨read', hread', h⟩ := bind_eq_ok_iff.1 h
        obtain rfl := Option.some.inj (Except.ok.inj h)
        rw [hitems, stringItems_eq_ok_iff.1 hread']
  · intro h
    have hread : fields.strings? key path = .ok (some strings) :=
      bind_eq_ok_iff.2 ⟨_, h, bind_eq_ok_iff.2 ⟨strings, stringItems_eq_ok_iff.2 rfl, rfl⟩⟩
    exact ⟨some strings, hread, rfl⟩

end ClientSynthesis.Json.Fields
