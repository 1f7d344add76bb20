import ClientSynthesis.Assembly.Registry
import ClientSynthesis.Body.Elaboration

/-!
# Interpreting body descriptors

A registry takes an elaboration in step by step. The first conflict ends the interpretation, even
where the elaboration itself would go on to succeed or to fail otherwise, and what would come after
it is not elaborated. Definitions taken in before the end stay, whichever end it is.

`takeIn_eq` says the same of the whole trace at once: the registry holds what a list of steps leaves
in it, and the outcome is the first conflict of that list or else that of the elaboration.
-/

namespace ClientSynthesis.Assembly

open Body (Elaborated Element Scope Step)
open Descriptor (Error)
open Report (Event Traced)

/-- A registry with what was reported while it was built, and whether that came to an end. -/
structure Interpretation (α : Type) where
  registry : Registry
  events : List Event
  outcome : Except Error α

namespace Registry

/-- Take in an elaboration. -/
def takeIn {α : Type} (r : Registry) : Elaborated α → Interpretation α
  | .done outcome => ⟨r, [], outcome⟩
  | .item (.report event) rest =>
    let after := r.takeIn (rest ())
    { after with events := event :: after.events }
  | .item (.define d) rest =>
    match r.register d with
    | .error e => ⟨r, [], .error e⟩
    | .ok (r, event) =>
      let after := r.takeIn (rest ())
      { after with events := event :: after.events }

/-- Take in the steps of an elaboration that has been carried out. -/
def takeInSteps (r : Registry) : List Step → Interpretation Unit
  | [] => ⟨r, [], .ok ()⟩
  | .report event :: rest =>
    let after := r.takeInSteps rest
    { after with events := event :: after.events }
  | .define d :: rest =>
    match r.register d with
    | .error e => ⟨r, [], .error e⟩
    | .ok (r, event) =>
      let after := r.takeInSteps rest
      { after with events := event :: after.events }

/-- Interpret a node in a scope, registering every type it defines. -/
def interpret (r : Registry) (scope : Scope) (node : Json) : Interpretation Element :=
  r.takeIn (Body.elaborate scope node)

/-- Interpret body documents one after the other. The keys they are stored under do not count. -/
def interpretAll (r : Registry) : List Json → Traced Event Error Registry
  | [] => pure r
  | node :: rest => do
    let done := r.interpret .root node
    let _ ← Traced.of done.events done.outcome
    done.registry.interpretAll rest

/-- The registry of a namespace of body documents. -/
def ofBodies (documents : Json.Fields) : Traced Event Error Registry :=
  empty.interpretAll (documents.map Prod.snd)

/-! ### Interface -/

theorem takeIn_eq {α : Type} (r : Registry) (elaborated : Elaborated α) :
    r.takeIn elaborated =
      let taken := r.takeInSteps elaborated.trace
      ⟨taken.registry, taken.events, taken.outcome >>= fun _ => elaborated.outcome⟩ := by
  induction elaborated generalizing r with
  | done outcome => rfl
  | item step rest ih =>
    cases step with
    | report event => simp [takeIn, takeInSteps, ih]
    | define d =>
      simp only [takeIn, Traced.trace_item, takeInSteps, Traced.outcome_item]
      cases r.register d with
      | error e => rfl
      | ok after => simp [ih]

end Registry

end ClientSynthesis.Assembly
