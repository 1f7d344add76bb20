import ClientSynthesis.Json.Basic

/-!
# Counting the parts of a document

How many objects a document holds and how many fields those have, itself included. The counts bound
how deep a descriptor can be expanded.
-/

namespace ClientSynthesis.Json

mutual

/-- The number of objects in a document. -/
def objectCount : Json → Nat
  | .array items => objectCountItems items
  | .object fields => 1 + objectCountFields fields
  | _ => 0

/-- The number of objects in the items of an array. -/
def objectCountItems : List Json → Nat
  | [] => 0
  | item :: rest => item.objectCount + objectCountItems rest

/-- The number of objects in the fields of an object. -/
def objectCountFields : List (String × Json) → Nat
  | [] => 0
  | (_, value) :: rest => value.objectCount + objectCountFields rest

end

mutual

/-- The number of object fields in a document. -/
def fieldCount : Json → Nat
  | .array items => fieldCountItems items
  | .object fields => fieldCountFields fields
  | _ => 0

/-- The number of object fields in the items of an array. -/
def fieldCountItems : List Json → Nat
  | [] => 0
  | item :: rest => item.fieldCount + fieldCountItems rest

/-- The number of fields of an object, those inside their values included. -/
def fieldCountFields : List (String × Json) → Nat
  | [] => 0
  | (_, value) :: rest => 1 + value.fieldCount + fieldCountFields rest

end

end ClientSynthesis.Json
