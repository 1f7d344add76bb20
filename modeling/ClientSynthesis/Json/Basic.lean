/-!
# JSON documents

Documents keep the order in which object keys are written, because descriptors are processed in that
order. An object is therefore a list of fields; `Fields.set` keeps its keys distinct, with a repeated
key staying at its first place and taking its last value.

Integers that fit 64 bits stay integers; every other number is held as the bits of a double, so that
documents can be compared and a negative zero is told from zero.
-/

namespace ClientSynthesis

/-- A JSON number. -/
inductive Json.Number where
  | int (value : Int)
  | double (bits : UInt64)
  deriving DecidableEq, Repr

/-- A JSON document. -/
inductive Json where
  | null
  | bool (value : Bool)
  | number (value : Json.Number)
  | string (value : String)
  | array (items : List Json)
  | object (fields : List (String × Json))
  deriving Inhabited, Repr

namespace Json

/-- The fields of an object, in the order written. -/
abbrev Fields := List (String × Json)

namespace Fields

/-- The value stored under a key. -/
def get? (fields : Fields) (key : String) : Option Json := fields.lookup key

/-- Store a value: in place of the one already there, otherwise at the end. -/
def set : Fields → String → Json → Fields
  | [], key, value => [(key, value)]
  | (k, v) :: rest, key, value =>
    if k = key then (k, value) :: rest else (k, v) :: set rest key value

/-- The fields with those of another object stored one after the other. -/
def merge (fields more : Fields) : Fields := more.foldl (fun acc f => acc.set f.1 f.2) fields

/-! ### Look-up -/

@[simp] theorem get?_nil (key : String) : get? [] key = none := rfl

theorem get?_cons (k key : String) (v : Json) (rest : Fields) :
    get? ((k, v) :: rest) key = if key = k then some v else get? rest key := by
  unfold get?
  rw [List.lookup_cons]
  by_cases h : key = k
  · simp [h]
  · simp [h, beq_eq_false_iff_ne.2 h]

theorem get?_set (fields : Fields) (key other : String) (value : Json) :
    (fields.set key value).get? other = if other = key then some value else fields.get? other := by
  induction fields with
  | nil => rw [set, get?_cons]
  | cons f rest ih =>
    obtain ⟨k, v⟩ := f
    rw [set]
    by_cases hk : k = key
    · subst hk
      rw [if_pos rfl, get?_cons, get?_cons]
      by_cases ho : other = k <;> simp [ho]
    · rw [if_neg hk, get?_cons, get?_cons, ih]
      by_cases ho : other = k
      · subst ho; simp [hk]
      · simp [ho]

end Fields

/-- What kind of value a document is, with its article. -/
def kindName : Json → String
  | .null => "null"
  | .bool _ => "a boolean"
  | .number _ => "a number"
  | .string _ => "a string"
  | .array _ => "an array"
  | .object _ => "an object"

/-- Whether a document is `null`. -/
def isNull : Json → Bool
  | .null => true
  | _ => false

end Json

end ClientSynthesis
