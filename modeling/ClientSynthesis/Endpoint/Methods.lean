import ClientSynthesis.Endpoint.Descriptor
import ClientSynthesis.Endpoint.SkipList

/-!
# Methods of an endpoint

Every URL template of an endpoint becomes a method named after the endpoint and the parameters of its
path. If requests have a body, it becomes two: one takes a typed body, the other, with `_json` behind
its name, a plain document. Of templates that would yield a name already given, the first one counts.

The decision about each template is a value, a `Verdict`; the methods and the events to report are
two readings of the list of verdicts.
-/

namespace ClientSynthesis.Endpoint

open Naming (bareFieldName methodName verbVariant)
open Report (Event)

/-- The name of the method for a template with the given parameters. -/
def methodIdent (base : String) (params : List PathParam) : String :=
  if params.isEmpty then base
  else base ++ "_by_" ++ "_and_".intercalate (params.map fun p => bareFieldName p.name)

/-- The name of the method for a template. -/
def identOf (e : Endpoint) (t : UrlTemplate) : String := methodIdent (methodName e.name) t.params

/-- The method for a template with a body parameter, under a name. -/
def methodWith (e : Endpoint) (t : UrlTemplate) (ident : String) (body : BodyParam) : Method where
  ident := ident
  documentation := e.documentation
  pathParams := t.params
  url := t.url
  allowedMethods := e.allowedMethods.map verbVariant
  body := body

/-- The methods for a template: one, or two if requests have a body. -/
def methodsOf (e : Endpoint) (t : UrlTemplate) : List Method :=
  let ident := e.identOf t
  let pair (required : Bool) : List Method :=
    [e.methodWith t ident (.typed required), e.methodWith t (ident ++ "_json") (.document required)]
  match e.body with
  | .absent => [e.methodWith t ident .none]
  | .optional => pair false
  | .required => pair true

/-- What becomes of a template. -/
inductive Verdict where
  /-- It is on the skip list. -/
  | skipped
  /-- An earlier template has given its name. -/
  | repeated (ident : String)
  /-- It yields methods. -/
  | kept (methods : List Method)
  deriving DecidableEq, Repr

/-- The verdicts on templates, when some names have been given already. -/
def judge (e : Endpoint) (skip : SkipList) : (used : List String) → List UrlTemplate →
    List (UrlTemplate × Verdict)
  | _, [] => []
  | used, t :: rest =>
    if skip.excludes t then (t, .skipped) :: e.judge skip used rest
    else if used.contains (e.identOf t) then
      (t, .repeated (e.identOf t)) :: e.judge skip used rest
    else
      (t, .kept (e.methodsOf t)) ::
        e.judge skip ((e.methodsOf t).map (·.ident) ++ used) rest

/-- The verdicts on all templates of an endpoint. -/
def verdicts (e : Endpoint) (skip : SkipList) : List (UrlTemplate × Verdict) :=
  e.judge skip [] e.templates

/-- The methods of an endpoint, in template order. -/
def methods (e : Endpoint) (skip : SkipList) : List Method :=
  (e.verdicts skip).flatMap fun
    | (_, .kept methods) => methods
    | _ => []

/-- What to report about the templates of an endpoint. -/
def events (e : Endpoint) (skip : SkipList) : List Event :=
  (e.verdicts skip).filterMap fun
    | (t, .skipped) => some (.templateSkipped e.name t.path)
    | (t, .repeated ident) => some (.signatureRepeated e.name t.path ident)
    | (_, .kept _) => none

end ClientSynthesis.Endpoint
