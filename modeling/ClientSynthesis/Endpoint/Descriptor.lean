import ClientSynthesis.Endpoint.Template

/-!
# Endpoint descriptors

A descriptor states the documentation of an endpoint, the HTTP methods it answers to, its URL
templates and whether a request has a body. All templates are read, those on a skip list too, so a
fault in any of them is an error.
-/

namespace ClientSynthesis

open Descriptor (Defect Error)
open Report (Event Traced)

/-- Whether requests to an endpoint have a body. -/
inductive Endpoint.BodyRequirement where
  | absent
  | optional
  | required
  deriving DecidableEq, Repr

/-- An endpoint of the API. -/
structure Endpoint where
  name : String
  documentation : String
  templates : List Endpoint.UrlTemplate
  /-- The HTTP method tokens as written; the first one is the default. -/
  allowedMethods : List String
  body : Endpoint.BodyRequirement
  deriving DecidableEq, Repr

namespace Endpoint

/-- Whether a text is an HTTP method token: ASCII letters, at least one. -/
def isMethodToken (token : String) : Bool :=
  !token.isEmpty && token.toList.all Char.isAlpha

/-- The HTTP method tokens of a descriptor. -/
def parseMethods (descriptor : Json.Fields) (name : String) : Except Error (List String) := do
  let tokens ← descriptor.strings "methods" name
  if tokens.isEmpty then
    throw (.invalid name .noMethods)
  match tokens.find? (!isMethodToken ·) with
  | some token => throw (.invalid name (.invalidMethod token))
  | none => return tokens

/-- Whether a descriptor asks for a body. -/
def parseBody (descriptor : Json.Fields) (name : String) : Except Error BodyRequirement := do
  match ← descriptor.object? "body" name with
  | none => return .absent
  | some body =>
    match ← Json.Fields.bool? body "required" (name ++ ".body") with
    | some true => return .required
    | _ => return .optional

/-- The endpoint that a document stored under a name describes. -/
def parse (name : String) (document : Json) : Traced Event Error Endpoint := do
  let descriptor ← document.asObject name
  let documentation ← descriptor.string "documentation" name
  let allowedMethods ← parseMethods descriptor name
  let some url ← descriptor.object? "url" name
    | throw (.invalid name (.missingObject "url"))
  let urlPath := name ++ ".url"
  let paths ← Json.Fields.strings url "paths" urlPath
  let parts ← Json.Fields.object? url "parts" urlPath
  let templates ← paths.mapM (parseTemplate parts urlPath)
  let body ← parseBody descriptor name
  return ⟨name, documentation, templates, allowedMethods, body⟩

end Endpoint

end ClientSynthesis
