import ClientSynthesis.Body.Scope
import ClientSynthesis.Definition.OfElement
import ClientSynthesis.Descriptor.Fields
import ClientSynthesis.Json.Census
import ClientSynthesis.Report.Event
import ClientSynthesis.Report.Traced

/-!
# Elaboration of body descriptors

A body descriptor is elaborated into an element. Parameter references are resolved in the scope of
the place they stand at, children are elaborated before their parent, and every object and enum
contributes a definition.

Elaboration does not touch a registry. It leaves a trace of the definitions in the order they arise,
among the events to report, and a registry takes them in as they come. What the registry holds can
therefore not influence an element, only end the elaboration early, and an error keeps the
definitions that came before it.

A fragment may contain a reference to itself, and then its expansion need not end. The recursion is
bounded by the number of situations a descent can be in: an object together with a choice, for every
name, of the fragment it is bound to. A descent that is longer comes back to a situation it was in,
and has no end.
-/

namespace ClientSynthesis.Body

open Descriptor (Defect Error)
open Json (Fields)
open Report (Event Traced)

/-- A step of an elaboration. -/
inductive Step where
  | define (definition : Definition)
  | report (event : Event)
  deriving Repr

/-- A computation that leaves elaboration steps. -/
abbrev Elaborated (α : Type) := Traced Step Error α

/-! ### Places -/

/-- The path of a node under a key. -/
def childPath (parent key : String) : String :=
  if parent.isEmpty then key else parent ++ "." ++ key

/-- The path to report for a place that may be the top. -/
def displayPath (path : String) : String :=
  if path.isEmpty then "<root>" else path

/-! ### References -/

/-- The token of a descriptor. -/
def tokenOf (descriptor : Fields) (path : String) : Except Error Token := do
  let text ← descriptor.string "type" path
  match Token.parse? text with
  | some token => return token
  | none => throw (.invalid path (.unknownKind text))

/-- The descriptor that governs a node, and its kind: the node itself, or the fragment its key is
bound to if the node is a reference. -/
def resolve (node : Fields) (key : String) (scope : Scope) (path : String) :
    Elaborated (Fields × Kind) := do
  match ← tokenOf node path with
  | .kind kind => return (node, kind)
  | .reference =>
    let some fragment := scope.lookup key | throw (.unresolvedParameter key path)
    let descriptor ← fragment.asObject path
    match ← tokenOf descriptor path with
    | .reference => throw (.invalid path (.chainedReference key))
    | .kind kind =>
      Traced.record (.report (.parameterResolved path key))
      return (descriptor, kind)

/-! ### Objects -/

/-- The children an object declares, and how: a one-of list takes precedence. -/
def declaredChildren (source : Fields) (path : String) :
    Except Error (Multiplicity × List Json) := do
  let oneOf ← source.array? "one_of" path
  let anyOf ← source.array? "any_of" path
  return match oneOf, anyOf with
    | some items, _ => (.oneOf, items)
    | none, some items => (.anyOf, items)
    | none, none => (.none, [])

/-- Whether a child is required, as its own node says; a child that is no object is not. -/
def requiredFlag (item : Json) (path : String) : Except Error Bool :=
  match item with
  | .object fields => (Fields.bool? fields "required" path).map (·.getD false)
  | _ => .ok false

/-- What an object is made of, given the elaboration of a node below it. A child container takes the
place of the object's own lists. A one-of object keeps neither container key nor value. -/
def elaborateShape (elaborateChild : Json → Elaborated Element) (descriptor : Fields)
    (path : String) : Elaborated (ObjectShape Element) := do
  let container ← descriptor.object? "childContainer" path
  let containerKey ← (container.getD []).string? "key" path
  let value ← ((container.getD []).present? "value").mapM elaborateChild
  let (multiplicity, items) ← declaredChildren (container.getD descriptor) path
  let children ← items.mapM fun item => do
    let required ← requiredFlag item path
    return (⟨required, ← elaborateChild item⟩ : Child Element)
  if multiplicity = .oneOf then
    if containerKey.isSome || value.isSome then
      Traced.record (.report (.containerIgnored path))
    return ⟨multiplicity, none, none, children⟩
  if !children.isEmpty && value.isSome then
    throw (.invalid path .childrenBesideValue)
  if value.isSome && containerKey.isNone then
    throw (.invalid path .valueWithoutKey)
  return ⟨multiplicity, containerKey, value, children⟩

/-! ### Nodes -/

/-- The element of a node whose parent has the given path, going down a bounded number of levels. -/
def elaborateAt : (levels : Nat) → Scope → (parent : String) → Json → Elaborated Element
  | 0, _, parent, _ => throw (.endlessExpansion (displayPath parent))
  | levels + 1, scope, parent, node => do
    let fields ← node.asObject (displayPath parent)
    let key ← fields.string "key" (displayPath parent)
    let path := childPath parent key
    let (descriptor, kind) ← resolve fields key scope path
    let inner := match ← descriptor.object? "parameters" path with
      | some table => scope.overlay table
      | none => scope
    let typeName ← descriptor.string "typeName" path
    let parentType ← descriptor.string? "parent" path
    let head : Head := ⟨key, typeName, parentType⟩
    let element ← match kind with
      | .object => do
        let shape ← elaborateShape (elaborateAt levels inner path) descriptor path
        pure (Element.object head shape)
      | .enum => do
        let options ← descriptor.strings? "options" path
        pure (Element.enum head (options.getD []))
      | .leaf kind => pure (Element.leaf head kind)
    if let some definition ← Definition.ofElement? element path then
      Traced.record (.define definition)
    return element

/-- How many levels an expansion with an end can have. -/
def levelBound (scope : Scope) (node : Json) : Nat :=
  let tables := scope.tables.map Json.object
  let objects := (node :: tables).foldl (fun n d => n + d.objectCount) 0
  let bindings := (node :: tables).foldl (fun n d => n + d.fieldCount) 0
  (objects + 1) * Nat.pow 2 bindings

/-- The element of a top-level node in a scope. -/
def elaborate (scope : Scope) (node : Json) : Elaborated Element :=
  elaborateAt (levelBound scope node) scope "" node

end ClientSynthesis.Body
