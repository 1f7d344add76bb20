import ClientSynthesis.Naming.Words
import ClientSynthesis.Text.Lowercase

/-!
# Identifiers of the generated Rust code

Descriptor names are free text; generated names have to be identifiers. A name is spelled from its
words, a leading ASCII digit is covered by a prefix, and a keyword is escaped: as a raw identifier
`r#…` where the language allows that, with a trailing underscore for the four words it does not.

The functions are total and may send two names to one identifier; whoever needs distinct
identifiers has to check.
-/

namespace ClientSynthesis.Naming

open Text

/-- The reserved words of Rust. -/
def keywords : List String :=
  ["as", "break", "const", "continue", "crate", "else", "enum", "extern", "false", "fn", "for",
   "if", "impl", "in", "let", "loop", "match", "mod", "move", "mut", "pub", "ref", "return",
   "self", "Self", "static", "struct", "super", "trait", "true", "type", "unsafe", "use", "where",
   "while", "async", "await", "dyn", "abstract", "become", "box", "do", "final", "macro",
   "override", "priv", "typeof", "unsized", "virtual", "yield", "try"]

/-- The reserved words that no raw identifier may spell. -/
def pathKeywords : List String := ["self", "Self", "crate", "super"]

/-- Whether a text is a reserved word. -/
def isKeyword (ident : String) : Bool := keywords.contains ident

/-- An identifier made safe against the reserved words. -/
def escapeKeyword (ident : String) : String :=
  if pathKeywords.contains ident then ident ++ "_"
  else if isKeyword ident then "r#" ++ ident
  else ident

/-- Whether a text begins with an ASCII digit. -/
def startsWithDigit (cs : List Char) : Bool := cs.head?.any Char.isDigit

/-- The identifier of a field or parameter. It is empty for a name without letters and numbers. -/
def fieldName (name : String) : String :=
  let snake := snakeCase name.toList
  escapeKeyword (String.ofList (if startsWithDigit snake then '_' :: snake else snake))

/-- The identifier of an enum variant. -/
def variantName (option : String) : String :=
  let camel := camelCase option.toList
  if camel.isEmpty then "Empty"
  else if startsWithDigit camel then String.ofList ('V' :: camel)
  else escapeKeyword (String.ofList camel)

/-- The identifier of the methods of an endpoint, whose name may be dotted. -/
def methodName (endpoint : String) : String :=
  fieldName (String.ofList (endpoint.toList.map fun c => if c = '.' then '_' else c))

/-- The variant for an HTTP method token, which is lowered before it is read as words. -/
def verbVariant (token : String) : String :=
  String.ofList (camelCase (lowercase token.toList))

/-- The text without the raw identifier marks at its start. -/
def dropRawMarks : List Char → List Char
  | 'r' :: '#' :: rest => dropRawMarks rest
  | cs => cs

/-- A field identifier without its raw mark, as it may stand inside a longer name. -/
def bareFieldName (name : String) : String := String.ofList (dropRawMarks (fieldName name).toList)

/-- The module holding a definition: its file is this name with `.rs`. -/
def moduleName (definition : String) : String := bareFieldName definition

/-! ### Examples -/

example : fieldName "minimumShouldMatch" = "minimum_should_match" := by decide +kernel

example : fieldName "type" = "r#type" ∧ fieldName "self" = "self_" := by decide +kernel

example : variantName "1h" = "V1h" ∧ variantName "*" = "Empty" := by decide +kernel

example : methodName "indices.get_mapping" = "indices_get_mapping" := by decide +kernel

end ClientSynthesis.Naming
