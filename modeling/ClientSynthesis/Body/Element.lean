import ClientSynthesis.Body.Kind

/-!
# Body elements

An element is a body descriptor after its parameter references have been resolved. Objects hold the
elements they are made of; enums hold their options; the other kinds only name a type.
-/

namespace ClientSynthesis.Body

/-- How an object declares its children. -/
inductive Multiplicity where
  | none
  | oneOf
  | anyOf
  deriving DecidableEq, Repr

/-- A child of an object. -/
structure Child (ε : Type) where
  required : Bool
  element : ε
  deriving Repr

/-- What an object is made of: children, or a value under a dynamic key, or nothing. -/
structure ObjectShape (ε : Type) where
  multiplicity : Multiplicity
  /-- The field whose value becomes a key around the content. -/
  containerKey : Option String
  value : Option ε
  children : List (Child ε)
  deriving Repr

/-- What every element states. -/
structure Head where
  /-- The key the element is written under, which is also its field name in the parent. -/
  key : String
  typeName : String
  parentType : Option String
  deriving DecidableEq, Repr

/-- A resolved body descriptor. -/
inductive Element where
  | object (head : Head) (shape : ObjectShape Element)
  | enum (head : Head) (options : List String)
  | leaf (head : Head) (kind : LeafKind)
  deriving Repr

namespace Element

/-- What the element states about itself. -/
def head : Element → Head
  | .object head _ | .enum head _ | .leaf head _ => head

/-- The key the element is written under. -/
def key (e : Element) : String := e.head.key

/-- The name of the element's type. -/
def typeName (e : Element) : String := e.head.typeName

/-- The kind of the element. -/
def kind : Element → Kind
  | .object .. => .object
  | .enum .. => .enum
  | .leaf _ kind => .leaf kind

end Element

end ClientSynthesis.Body
