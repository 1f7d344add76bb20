import ClientSynthesis.Assembly.Registry
import ClientSynthesis.Endpoint.Methods
import ClientSynthesis.Report.Traced

/-!
# Registering endpoints

The top-level key of an endpoint document is the endpoint's name, and its methods are registered
under it as one group. An endpoint whose templates are all left out is not registered.
-/

namespace ClientSynthesis.Assembly.Registry

open Descriptor (Error)
open Endpoint (SkipList)
open Report (Event Traced)

/-- Register the methods of the endpoint that a document describes. -/
def addEndpoint (r : Registry) (skip : SkipList) (name : String) (document : Json) :
    Traced Event Error Registry := do
  let endpoint ← Endpoint.parse name document
  let methods := endpoint.methods skip
  Traced.recordAll (endpoint.events skip)
  if methods.isEmpty then
    Traced.record (.endpointEmpty name)
    return r
  Traced.record (.methodsGenerated name methods.length)
  let (r, event) ← r.register ⟨name, .methodGroup ⟨name, methods⟩⟩
  Traced.record event
  return r

/-- The registry of a namespace of endpoint documents. -/
def ofEndpoints (skip : SkipList) (documents : Json.Fields) : Traced Event Error Registry :=
  documents.foldlM (fun r (name, document) => r.addEndpoint skip name document) empty

end ClientSynthesis.Assembly.Registry
