/-!
# Generated definitions

A definition is what one generated file holds: a type for request bodies, or the methods of an
endpoint. Definitions are plain data and can be compared; they are turned into program text only
after all of them are known.
-/

namespace ClientSynthesis

/-! ### Types -/

/-- The type of a field. -/
inductive FieldType where
  | named (name : String)
  | list (name : String)
  /-- Any type that can be written into a body. -/
  | polymorphic
  deriving DecidableEq, Repr

/-- The named type a field refers to. -/
def FieldType.referenced? : FieldType → Option String
  | .named name | .list name => some name
  | .polymorphic => none

/-- How the value of a field is written into a document. -/
inductive Encoding where
  /-- A generated object, written as its own document. -/
  | document
  /-- A generated enum, written as its wire value. -/
  | wireValue
  /-- A plain value, written as it is. -/
  | verbatim
  /-- A list of generated objects, written one by one. -/
  | documentList
  deriving DecidableEq, Repr

/-- What a field is for. -/
inductive Role where
  /-- The one alternative of a one-of object. -/
  | slot
  /-- The dynamic key around the content. -/
  | container
  /-- The value under the dynamic key. -/
  | value
  /-- A declared child. -/
  | child
  deriving DecidableEq, Repr

/-- A field of a generated struct. -/
structure Field where
  /-- The key on the wire. -/
  key : String
  ident : String
  type : FieldType
  optional : Bool
  encoding : Encoding
  role : Role
  deriving DecidableEq, Repr

/-- How a struct is written: under its wire key stands … -/
inductive Serialization where
  /-- … the document of its slot. -/
  | exactlyOne
  /-- … an object of its children, under the container's value if there is a container. -/
  | fields (container : Option String)
  /-- … an object with the value alone, under the container's value. -/
  | containerValue (container value : String)
  /-- … the empty object. -/
  | empty
  deriving DecidableEq, Repr

/-- The fields of a struct, in declaration order, and how it is written. -/
structure StructShape where
  fields : List Field
  serialization : Serialization
  deriving DecidableEq, Repr

/-- A variant of an enum and the text it is written as. -/
structure EnumCase where
  ident : String
  wireValue : String
  deriving DecidableEq, Repr

/-- The shape of a generated type. -/
inductive TypeShape where
  | struct (shape : StructShape)
  | enum (cases : List EnumCase)
  deriving DecidableEq, Repr

/-- A generated type. -/
structure TypeDefinition where
  /-- The key its document is written under. -/
  wireKey : String
  parentType : Option String
  shape : TypeShape
  deriving DecidableEq, Repr

/-! ### Methods -/

/-- Whether a path parameter takes one value or several. -/
inductive PathParamKind where
  | scalar
  | list
  deriving DecidableEq, Repr

/-- A parameter that fills a placeholder of a URL template. -/
structure PathParam where
  name : String
  kind : PathParamKind
  description : String
  deriving DecidableEq, Repr

/-- A stretch of a request path. -/
inductive UrlPart where
  | literal (text : String)
  /-- The value of a parameter. -/
  | scalar (name : String)
  /-- The values of a list parameter, with commas between them. -/
  | joined (name : String)
  deriving DecidableEq, Repr

/-- The body parameter of a method. -/
inductive BodyParam where
  | none
  /-- A value of a generated type. -/
  | typed (required : Bool)
  /-- Any JSON document. -/
  | document (required : Bool)
  deriving DecidableEq, Repr

/-- A generated method. -/
structure Method where
  ident : String
  documentation : String
  /-- The parameters of the path, in path order. -/
  pathParams : List PathParam
  url : List UrlPart
  /-- The variants of the HTTP methods it may be called with. The first is the default. -/
  allowedMethods : List String
  body : BodyParam
  deriving DecidableEq, Repr

/-- The methods of an endpoint. -/
structure MethodGroup where
  endpoint : String
  methods : List Method
  deriving DecidableEq, Repr

/-! ### Definitions -/

/-- What a definition defines. -/
inductive DefinitionKind where
  | type (definition : TypeDefinition)
  | methodGroup (group : MethodGroup)
  deriving DecidableEq, Repr

/-- A generated definition. -/
structure Definition where
  name : String
  kind : DefinitionKind
  deriving DecidableEq, Repr

end ClientSynthesis
