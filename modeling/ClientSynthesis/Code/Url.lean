import ClientSynthesis.Definition.Basic
import ClientSynthesis.Naming.Identifier
import ClientSynthesis.Text.Quoted

/-!
# URL expressions

The expression that builds the path of a request. A path without parameters is a constant. Any other
is a format template, in which a pair of braces stands for an argument and doubled braces for single
ones, with an argument for each parameter.
-/

namespace ClientSynthesis.Code

open Text (quoted)

/-- An argument of a format template: a parameter, whose values are joined with commas if it has
several. -/
structure UrlArgument where
  ident : String
  joined : Bool
  deriving DecidableEq, Repr

/-- An expression for the path of a request. -/
inductive UrlExpression where
  | constant (text : String)
  | format (template : String) (arguments : List UrlArgument)
  deriving DecidableEq, Repr

/-- Literal text inside a format template: braces are doubled. -/
def escapeBraces (text : List Char) : List Char :=
  text.flatMap fun c => if c = '\x7b' ∨ c = '\x7d' then [c, c] else [c]

/-- The piece of a format template that a part of the path becomes. -/
def templatePiece : UrlPart → List Char
  | .literal text => escapeBraces text.toList
  | .scalar _ | .joined _ => ['\x7b', '\x7d']

/-- The argument that a part of the path needs. -/
def argument? : UrlPart → Option UrlArgument
  | .literal _ => none
  | .scalar name => some ⟨Naming.fieldName name, false⟩
  | .joined name => some ⟨Naming.fieldName name, true⟩

/-- The literal text of a part. -/
def literalText : UrlPart → String
  | .literal text => text
  | .scalar _ | .joined _ => ""

namespace UrlExpression

/-- The expression for a path. -/
def ofParts (parts : List UrlPart) : UrlExpression :=
  let arguments := parts.filterMap argument?
  if arguments.isEmpty then .constant (String.join (parts.map literalText))
  else .format (String.ofList (parts.flatMap templatePiece)) arguments

/-- The expression as program text. -/
def text : UrlExpression → String
  | .constant text => "String::from(" ++ quoted text ++ ")"
  | .format template arguments =>
    "format!(" ++ quoted template ++ ", " ++
      ", ".intercalate (arguments.map fun a =>
        if a.joined then a.ident ++ ".join(\",\")" else a.ident) ++ ")"

end UrlExpression

end ClientSynthesis.Code
