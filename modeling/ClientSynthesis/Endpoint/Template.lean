import ClientSynthesis.Definition.Basic
import ClientSynthesis.Descriptor.Fields
import ClientSynthesis.Naming.Identifier
import ClientSynthesis.Report.Event
import ClientSynthesis.Report.Traced
import ClientSynthesis.Text.Split

/-!
# URL templates

A template is a path cut at its slashes. A segment that is exactly a name between braces is a
placeholder, provided the endpoint's parts table describes the name; otherwise the segment stays
literal text, braces and all. Parts that no path mentions are never looked at.
-/

namespace ClientSynthesis.Endpoint

open Descriptor (Defect Error)
open Json (Fields)
open Report (Event Traced)
open Text (split)

/-- A segment of a URL template. -/
inductive Segment where
  | literal (text : String)
  | placeholder (param : PathParam)
  deriving DecidableEq, Repr

/-- A URL template: the path as written, and its segments. -/
structure UrlTemplate where
  path : String
  segments : List Segment
  deriving DecidableEq, Repr

/-- The parameters that the placeholders of a template stand for, in path order. -/
def UrlTemplate.params (t : UrlTemplate) : List PathParam :=
  t.segments.filterMap fun
    | .placeholder param => some param
    | .literal _ => none

/-- The identifiers that every generated method may declare beside its path parameters. -/
def reservedIdents : List String := ["method", "body"]

/-- The name between the braces of a placeholder segment. -/
def placeholderName? : List Char → Option String
  | '\x7b' :: rest =>
    match rest.getLast? with
    | some '\x7d' =>
      let name := rest.dropLast
      if name.isEmpty || name.any (fun c => c == '\x7b' || c == '\x7d') then none
      else some (String.ofList name)
    | _ => none
  | _ => none

/-- The parameter that an entry of the parts table describes. -/
def parsePart (name : String) (entry : Fields) (urlPath : String) : Except Error PathParam := do
  let path := urlPath ++ ".parts." ++ name
  let type ← entry.string "type" path
  let kind ← match type with
    | "string" => pure PathParamKind.scalar
    | "list" => pure PathParamKind.list
    | _ => throw (Error.invalid path (.unknownPartType type))
  let description ← entry.string "description" path
  if reservedIdents.contains (Naming.fieldName name) then
    throw (.invalid path (.reservedPart name (Naming.fieldName name)))
  return ⟨name, kind, description⟩

/-- The segment that one piece of a path stands for. -/
def parseSegment (path : String) (parts : Option Fields) (urlPath : String) (piece : List Char) :
    Traced Event Error Segment := do
  let literal := Segment.literal (String.ofList piece)
  match placeholderName? piece with
  | none => return literal
  | some name =>
    match ← (parts.getD []).object? name urlPath with
    | some entry => return .placeholder (← parsePart name entry urlPath)
    | none =>
      Traced.record (.placeholderLiteral path name)
      return literal

/-- The template that a path stands for. -/
def parseTemplate (parts : Option Fields) (urlPath path : String) :
    Traced Event Error UrlTemplate := do
  return ⟨path, ← (split '/' path.toList).mapM (parseSegment path parts urlPath)⟩

/-! ### The path of a request -/

/-- Put a part in front of others: empty text vanishes, and text joins the text it meets. -/
def consPart (part : UrlPart) (parts : List UrlPart) : List UrlPart :=
  match part, parts with
  | .literal a, .literal b :: rest => .literal (a ++ b) :: rest
  | .literal a, parts => if a.isEmpty then parts else .literal a :: parts
  | part, parts => part :: parts

/-- The part a segment contributes. -/
def Segment.part : Segment → UrlPart
  | .literal text => .literal text
  | .placeholder ⟨name, .scalar, _⟩ => .scalar name
  | .placeholder ⟨name, .list, _⟩ => .joined name

/-- The parts of segments with slashes between them. -/
def urlParts : List Segment → List UrlPart
  | [] => []
  | [segment] => consPart segment.part []
  | segment :: next :: rest =>
    consPart segment.part (consPart (.literal "/") (urlParts (next :: rest)))

/-- The path of a request, as text and parameters in turn. -/
def UrlTemplate.url (t : UrlTemplate) : List UrlPart := urlParts t.segments

end ClientSynthesis.Endpoint
