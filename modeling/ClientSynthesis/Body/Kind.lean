/-!
# Kinds of body descriptors

A node states its kind by a token. Five tokens name a kind; the sixth makes the node a reference to a
parameter, whose fragment states the kind.
-/

namespace ClientSynthesis.Body

/-- The kinds that have no structure of their own: a value, a list of values that are objects, and a
list of plain values. -/
inductive LeafKind where
  | scalar
  | array
  | scalarArray
  deriving DecidableEq, Repr

/-- The kind of a resolved node. -/
inductive Kind where
  | object
  | enum
  | leaf (kind : LeafKind)
  deriving DecidableEq, Repr

/-- What the token of a node says. -/
inductive Token where
  | kind (kind : Kind)
  | reference
  deriving DecidableEq, Repr

/-- The meaning of a token. -/
def Token.parse? : String → Option Token
  | "struct" => some (.kind .object)
  | "enum" => some (.kind .enum)
  | "simple" => some (.kind (.leaf .scalar))
  | "array" => some (.kind (.leaf .array))
  | "simple_array" => some (.kind (.leaf .scalarArray))
  | "parameter" => some .reference
  | _ => none

end ClientSynthesis.Body
