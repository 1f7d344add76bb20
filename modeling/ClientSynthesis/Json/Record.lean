import ClientSynthesis.Json.Skip

/-!
# Reading records

A record is read from JSON text straight into its type, field by field and in the order of the text,
so the first fault of the text is the one reported. Fields that are left out keep the value the
record starts with, unknown ones are passed over, and a field given twice is refused. A record may
also be written as an array of its fields in order, of which the last ones may be left out.
-/

namespace ClientSynthesis.Json

/-! ### Values of one type -/

/-- The fault of a value that has another type than the one expected. A scalar is read to its end
first, and a fault inside it counts before its type. -/
def wrongType : List Char → Fault
  | '[' :: _ | '{' :: _ => .mistyped
  | cs =>
    match scalar cs with
    | .error fault => fault
    | .ok _ => .mistyped

/-- A boolean. -/
def readBool : Reading Bool := fun cs =>
  match skipSeparators cs with
  | 't' :: rest => (expectWord "rue".toList rest).map (true, ·)
  | 'f' :: rest => (expectWord "alse".toList rest).map (false, ·)
  | cs => .error (wrongType cs)

/-- A string. -/
def readString : Reading String := fun cs =>
  match skipSeparators cs with
  | '"' :: rest => stringBody rest
  | cs => .error (wrongType cs)

/-- A list of strings. -/
def readStrings : Reading (List String) := fun cs =>
  match skipSeparators cs with
  | '[' :: rest => items readString rest
  | cs => .error (wrongType cs)

/-! ### Records -/

/-- A field of a record: its key, and how its value changes the record. -/
structure RecordField (ρ : Type) where
  key : String
  read : ρ → Reading ρ

/-- A field given by the reader of its value and the way it is stored. -/
def RecordField.of {ρ α : Type} (key : String) (reading : Reading α) (store : ρ → α → ρ) :
    RecordField ρ :=
  ⟨key, fun record cs => (reading cs).map fun (x, rest) => (store record x, rest)⟩

/-- One member of a record written as an object, beside the keys of the fields already given. -/
def recordMember {ρ : Type} (fields : List (RecordField ρ)) (state : ρ × List String) :
    Reading (ρ × List String) := fun cs => do
  let (key, rest) ← stringBody cs
  match fields.find? (·.key == key) with
  | none =>
    let rest ← colon rest
    let (_, rest) ← skip rest
    return (state, rest)
  | some field =>
    if state.2.contains key then throw .mistyped
    let rest ← colon rest
    let (record, rest) ← field.read state.1 rest
    return ((record, key :: state.2), rest)

/-- The fields of a record written as an array, after its opening bracket. -/
def recordItems {ρ : Type} : List (RecordField ρ) → (first : Bool) → ρ → Reading ρ
  | [], _, record, cs =>
    match skipSeparators cs with
    | [] => .error .truncated
    | ']' :: rest => .ok (record, rest)
    | _ => .error .malformed
  | field :: fields, first, record, cs => do
    match ← itemTurn first cs with
    | .close rest => return (record, rest)
    | .entry rest =>
      let (record, rest) ← field.read record rest
      recordItems fields false record rest

/-- A record, starting from the values that its fields have when they are left out. -/
def record {ρ : Type} (fields : List (RecordField ρ)) (start : ρ) : Reading ρ := fun cs =>
  match skipSeparators cs with
  | '{' :: rest =>
    (members (recordMember fields) (start, []) rest).map fun (state, rest) => (state.1, rest)
  | '[' :: rest => recordItems fields true start rest
  | cs => .error (wrongType cs)

end ClientSynthesis.Json
