import ClientSynthesis.Code.Chunk
import ClientSynthesis.Code.Serializer
import ClientSynthesis.Config.Basic

/-!
# Items of a type

A struct is given a constructor that takes its fields in order and the trait it is serialized by; an
enum, the text of its variants. A parent type makes a struct a marker implementation and an enum a
conversion.
-/

namespace ClientSynthesis.Code

open Text (quoted)

/-- The type of a field as program text. -/
def fieldTypeText (config : Config) (field : Field) : String :=
  let base := match field.type with
    | .named name => name
    | .list name => "Vec<" ++ name ++ ">"
    | .polymorphic => "Box<dyn " ++ config.bodyTrait ++ ">"
  if field.optional then "Option<" ++ base ++ ">" else base

/-- A field as it is declared and as it is taken by the constructor. -/
def fieldText (config : Config) (field : Field) : String :=
  field.ident ++ ": " ++ fieldTypeText config field

/-- The declaration of a struct and its constructor. -/
def structText (config : Config) (name : String) (shape : StructShape) : String :=
  let fields := shape.fields.map (fieldText config)
  let idents := shape.fields.map (·.ident)
  "#[derive(Debug)]\n" ++
  "pub struct " ++ name ++ " \x7b\n" ++
  String.join (fields.map fun f => "    pub " ++ f ++ ",\n") ++
  "\x7d\n\n" ++
  "impl " ++ name ++ " \x7b\n" ++
  "    pub fn new(" ++ ", ".intercalate fields ++ ") -> Self \x7b\n" ++
  (if idents.isEmpty then "        Self \x7b\x7d\n"
    else "        Self \x7b " ++ ", ".intercalate idents ++ " \x7d\n") ++
  "    \x7d\n\x7d\n\n"

/-- The implementation of the trait that a struct is serialized by. -/
def serializerText (config : Config) (name wireKey : String) (shape : StructShape) : String :=
  "impl " ++ config.bodyTrait ++ " for " ++ name ++ " \x7b\n" ++
  "    fn to_document(&self) -> Value \x7b\n" ++
  String.join ((serializer wireKey shape).map Statement.text) ++
  "    \x7d\n\x7d\n"

/-- The chunks of a struct. -/
def structItem (config : Config) (name : String) (type : TypeDefinition) (shape : StructShape) :
    List Chunk :=
  [.doc (docComment "" ("Request body element serialized under `" ++ type.wireKey ++ "`.")),
   .code (structText config name shape),
   .code (serializerText config name type.wireKey shape)] ++
  type.parentType.toList.map fun parent =>
    .code ("\nimpl " ++ parent ++ " for " ++ name ++ " \x7b\x7d\n")

/-- The arm that gives the text of a variant. -/
def armText (name : String) (case : EnumCase) : String :=
  "            " ++ name ++ "::" ++ case.ident ++ " => " ++ quoted case.wireValue ++ ",\n"

/-- The conversion of an enum to its parent type. -/
def conversionText (name parent : String) : String :=
  "\nimpl From<" ++ name ++ "> for " ++ parent ++ " \x7b\n" ++
  "    fn from(value: " ++ name ++ ") -> Self \x7b\n" ++
  "        " ++ parent ++ "::from(value.as_str())\n" ++
  "    \x7d\n\x7d\n"

/-- The chunks of an enum. -/
def enumItem (name : String) (type : TypeDefinition) (cases : List EnumCase) : List Chunk :=
  [.doc (docComment "" ("Allowed values of `" ++ type.wireKey ++ "`.")),
   .code ("#[derive(Debug, Clone, Copy, PartialEq, Eq, Hash)]\n" ++
    "pub enum " ++ name ++ " \x7b\n" ++
    String.join (cases.map fun c => "    " ++ c.ident ++ ",\n") ++
    "\x7d\n\n" ++
    "impl " ++ name ++ " \x7b\n"),
   .doc "    /// Literal value written on the wire.\n",
   .code ("    pub fn as_str(&self) -> &'static str \x7b\n" ++
    "        match *self \x7b\n" ++
    String.join (cases.map (armText name)) ++
    "        \x7d\n    \x7d\n\x7d\n")] ++
  type.parentType.toList.map fun parent => .code (conversionText name parent)

/-- The chunks of a type. -/
def typeItem (config : Config) (name : String) (type : TypeDefinition) : List Chunk :=
  match type.shape with
  | .struct shape => structItem config name type shape
  | .enum cases => enumItem name type cases

end ClientSynthesis.Code
