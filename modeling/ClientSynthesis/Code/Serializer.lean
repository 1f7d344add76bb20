import ClientSynthesis.Definition.OfElement
import ClientSynthesis.Text.Quoted

/-!
# Serializers

The function that writes a generated struct as a JSON document is a short list of statements of few
forms. They are data here: `StructShape.statements` says which statements a struct needs, and
`Statement.text` how a statement is spelled. Three local maps are used, and fields are always reached
through `self`, so no field name can hide a local one.
-/

namespace ClientSynthesis.Code

open Text (quoted)

/-- The local maps of a serializer. -/
inductive LocalMap where
  | inner
  | container
  | document
  deriving DecidableEq, Repr

/-- The variable of a local map. -/
def LocalMap.ident : LocalMap → String
  | .inner => "inner"
  | .container => "container"
  | .document => "document"

/-- Where a value is found: in a field, or in the variable that a present optional field binds. -/
inductive Place where
  | field (ident : String)
  | bound
  deriving DecidableEq, Repr

/-- A place as program text. -/
def Place.text : Place → String
  | .field ident => "self." ++ ident
  | .bound => "value"

/-- An expression for a JSON value. -/
inductive ValueExpression where
  | null
  | emptyObject
  | object (map : LocalMap)
  | encoded (place : Place) (encoding : Encoding)
  deriving DecidableEq, Repr

/-- An expression as program text. -/
def ValueExpression.text : ValueExpression → String
  | .null => "Value::Null"
  | .emptyObject => "Value::Object(Map::new())"
  | .object map => "Value::Object(" ++ map.ident ++ ")"
  | .encoded place .document => place.text ++ ".to_document()"
  | .encoded place .wireValue => "Value::from(" ++ place.text ++ ".as_str())"
  | .encoded place .verbatim => "json!(" ++ place.text ++ ")"
  | .encoded place .documentList =>
    "Value::Array(" ++ place.text ++ ".iter().map(|item| item.to_document()).collect())"

/-- The key of a map entry: a fixed text, or the value of the container field. -/
inductive KeyExpression where
  | fixed (key : String)
  | container (ident : String)
  deriving DecidableEq, Repr

/-- A key as program text. -/
def KeyExpression.text : KeyExpression → String
  | .fixed key => quoted key ++ ".to_string()"
  | .container ident => "self." ++ ident ++ ".clone()"

/-- A statement of a serializer. -/
inductive Statement where
  /-- Make an empty map. -/
  | declare (map : LocalMap)
  /-- Store an entry. -/
  | insert (map : LocalMap) (key : KeyExpression) (value : ValueExpression)
  /-- Store an entry if an optional field is present, with its value bound. -/
  | insertIfPresent (ident : String) (map : LocalMap) (key : KeyExpression)
      (value : ValueExpression)
  /-- The value of the function. -/
  | result (map : LocalMap)
  deriving DecidableEq, Repr

/-- The statement that stores an entry, at an indentation. -/
def insertText (indent : String) (map : LocalMap) (key : KeyExpression)
    (value : ValueExpression) : String :=
  indent ++ map.ident ++ ".insert(" ++ key.text ++ ", " ++ value.text ++ ");\n"

/-- A statement as program text. -/
def Statement.text : Statement → String
  | .declare map => "        let mut " ++ map.ident ++ " = Map::new();\n"
  | .insert map key value => insertText "        " map key value
  | .insertIfPresent ident map key value =>
    "        if let Some(value) = &self." ++ ident ++ " \x7b\n" ++
      insertText "            " map key value ++ "        \x7d\n"
  | .result map => "        Value::Object(" ++ map.ident ++ ")\n"

/-- The statement that stores a child. -/
def childStatement (field : Field) : Statement :=
  if field.optional then
    .insertIfPresent field.ident .inner (.fixed field.key) (.encoded .bound field.encoding)
  else .insert .inner (.fixed field.key) (.encoded (.field field.ident) field.encoding)

/-- Whether a field is for a role. -/
def hasRole (role : Role) (field : Field) : Bool := field.role == role

/-- The statements before the document is made, and the value that goes under the wire key. -/
def contentStatements (shape : StructShape) : List Statement × ValueExpression :=
  match shape.serialization with
  | .exactlyOne => ([], .encoded (.field StructShape.slotName) .document)
  | .empty => ([], .emptyObject)
  | .containerValue container value =>
    let expression := match shape.fields.find? (hasRole .value) with
      | some field => .encoded (.field value) field.encoding
      | none => .null
    ([.declare .container, .insert .container (.container container) expression],
      .object .container)
  | .fields container =>
    let inner := .declare .inner :: (shape.fields.filter (hasRole .child)).map childStatement
    match container with
    | some container =>
      (inner ++ [.declare .container, .insert .container (.container container) (.object .inner)],
        .object .container)
    | none => (inner, .object .inner)

/-- The statements that write a struct under its wire key. -/
def serializer (wireKey : String) (shape : StructShape) : List Statement :=
  let (content, value) := contentStatements shape
  content ++ [.declare .document, .insert .document (.fixed wireKey) value, .result .document]

/-- Whether a type writes a plain value, which needs a macro to be imported. -/
def usesJsonMacro (type : TypeDefinition) : Bool :=
  match type.shape with
  | .enum _ => false
  | .struct shape =>
    let writes (role : Role) : Bool :=
      shape.fields.any fun f => hasRole role f && f.encoding == .verbatim
    match shape.serialization with
    | .fields _ => writes .child
    | .containerValue .. => writes .value
    | .exactlyOne | .empty => false

end ClientSynthesis.Code
