import ClientSynthesis.Descriptor.Error

/-!
# Typed access to the fields of a descriptor

Every accessor names the key it wants and the path to report. A key bound to `null` counts as
missing (`present?`), so optional keys can be blanked out without being removed. A value of another
type is an error even where the key is optional.
-/

namespace ClientSynthesis

open Descriptor (Defect Error)

/-- The fields of a document that has to be an object. -/
def Json.asObject (document : Json) (path : String) : Except Error Json.Fields :=
  match document with
  | .object fields => .ok fields
  | other => .error (.invalid path (.notAnObject other.kindName))

namespace Json.Fields

/-- The value under a key, unless it is missing or `null`. -/
def present? (fields : Fields) (key : String) : Option Json :=
  (fields.get? key).filter (!·.isNull)

/-- The value under an optional key, converted to the type it has to have. -/
def typed? {α : Type} (convert : Json → Option α) (expected : String) (fields : Fields)
    (key path : String) : Except Error (Option α) :=
  match fields.present? key with
  | none => .ok none
  | some v =>
    match convert v with
    | some a => .ok (some a)
    | none => .error (.invalid path (.mismatch key expected v.kindName))

/-- An optional string. -/
def string? : Fields → (key path : String) → Except Error (Option String) :=
  typed? (fun | .string s => some s | _ => none) "a string"

/-- An optional boolean. -/
def bool? : Fields → (key path : String) → Except Error (Option Bool) :=
  typed? (fun | .bool b => some b | _ => none) "a boolean"

/-- An optional object. -/
def object? : Fields → (key path : String) → Except Error (Option Fields) :=
  typed? (fun | .object f => some f | _ => none) "an object"

/-- An optional array. -/
def array? : Fields → (key path : String) → Except Error (Option (List Json)) :=
  typed? (fun | .array xs => some xs | _ => none) "an array"

/-- A required string. -/
def string (fields : Fields) (key path : String) : Except Error String := do
  match ← fields.string? key path with
  | some s => return s
  | none => throw (.invalid path (.missingString key))

/-- The strings of an array whose items are counted from the given number. -/
def stringItems (key path : String) : Nat → List Json → Except Error (List String)
  | _, [] => .ok []
  | i, .string s :: rest => (stringItems key path (i + 1) rest).map (s :: ·)
  | i, other :: _ =>
    .error (.invalid (path ++ "." ++ key ++ "[" ++ toString i ++ "]")
      (.itemNotAString other.kindName))

/-- An optional array of strings. -/
def strings? (fields : Fields) (key path : String) : Except Error (Option (List String)) := do
  match ← fields.array? key path with
  | none => return none
  | some xs => return some (← stringItems key path 0 xs)

/-- A required array of strings. -/
def strings (fields : Fields) (key path : String) : Except Error (List String) := do
  match ← fields.strings? key path with
  | some xs => return xs
  | none => throw (.invalid path (.missingList key))

/-! ### Interface -/

theorem present?_eq_none_iff {fields : Fields} {key : String} :
    fields.present? key = none ↔ fields.get? key = none ∨ fields.get? key = some .null := by
  unfold present?
  cases h : fields.get? key with
  | none => simp
  | some v => cases v <;> simp [isNull]

theorem typed?_eq_ok_none_iff {α : Type} {convert : Json → Option α} {expected : String}
    {fields : Fields} {key path : String} :
    typed? convert expected fields key path = .ok none ↔ fields.present? key = none := by
  unfold typed?
  cases fields.present? key with
  | none => simp
  | some v => cases h : convert v <;> simp [h]

end Json.Fields

end ClientSynthesis
