import ClientSynthesis.Proofs.Assembly.Content
import ClientSynthesis.Proofs.Report.Outcome
import Mathlib.Tactic.SplitIfs

/-!
# One level of a descent

An elaboration goes down level by level, and at each level it does three things: it opens the node,
fills it with what stands below, and closes it with a definition (`elaborateAt_succ`). Only the
second looks at other nodes, and only the third defines anything.

What an object is made of is likewise read first and elaborated then (`ShapeSource`). In the
elaboration itself the two are interleaved, which shows in the errors of one that fails; an
elaboration that succeeds is the same either way (`agrees_elaborateShape`). `Agrees` is the relation
for such arguments: it asks of a second computation that it does what the first does, should the
first succeed.
-/

namespace ClientSynthesis.Body

open Descriptor (Error)
open Json (Fields)
open Report (Traced bind_eq_ok_iff)
open Report.Traced

variable {α β : Type}

/-! ### Definitions along a computation -/

theorem definitions_bind_of_ok {x : Elaborated α} {a : α} (f : α → Elaborated β)
    (h : x.outcome = .ok a) : definitions (x >>= f) = definitions x ++ definitions (f a) := by
  rw [definitions, trace_bind_of_ok f h, List.filterMap_append]
  rfl

/-- A definition of a sequence comes from its first part, or from what follows a success of it. -/
theorem mem_definitions_bind {x : Elaborated α} {f : α → Elaborated β} {d : Definition}
    (h : d ∈ definitions (x >>= f)) :
    d ∈ definitions x ∨ ∃ a, x.outcome = .ok a ∧ d ∈ definitions (f a) := by
  cases hx : x.outcome with
  | error e =>
    rw [definitions, trace_bind_of_error f hx] at h
    exact .inl h
  | ok a =>
    rw [definitions_bind_of_ok f hx] at h
    exact (List.mem_append.1 h).imp id fun h ↦ ⟨a, rfl, h⟩

/-- A definition of a run through a list comes from one of its items. -/
theorem mem_definitions_mapM {f : α → Elaborated β} {xs : List α} {d : Definition}
    (h : d ∈ definitions (xs.mapM f)) : ∃ x ∈ xs, d ∈ definitions (f x) := by
  induction xs with
  | nil => exact nomatch h
  | cons x rest ih =>
    rw [List.mapM_cons] at h
    rcases mem_definitions_bind h with h | ⟨y, -, h⟩
    · exact ⟨x, List.mem_cons_self, h⟩
    · rcases mem_definitions_bind h with h | ⟨ys, -, h⟩
      · obtain ⟨x', hx', h⟩ := ih h
        exact ⟨x', List.mem_cons_of_mem x hx', h⟩
      · exact nomatch h

/-! ### Agreement -/

/-- Should the first computation succeed, the second yields the same and defines the same. -/
def Agrees (x y : Elaborated α) : Prop :=
  ∀ a, x.outcome = .ok a → y.outcome = .ok a ∧ definitions y = definitions x

namespace Agrees

theorem refl (x : Elaborated α) : Agrees x x := fun _ h ↦ ⟨h, rfl⟩

theorem trans {x y z : Elaborated α} (hxy : Agrees x y) (hyz : Agrees y z) : Agrees x z := by
  intro a hx
  obtain ⟨hy, hdefs⟩ := hxy a hx
  obtain ⟨hz, hdefs'⟩ := hyz a hy
  exact ⟨hz, hdefs'.trans hdefs⟩

theorem bind {x y : Elaborated α} {f g : α → Elaborated β} (hxy : Agrees x y)
    (hfg : ∀ a, x.outcome = .ok a → Agrees (f a) (g a)) : Agrees (x >>= f) (y >>= g) := by
  intro b h
  obtain ⟨a, hx, hf⟩ := bind_outcome_eq_ok_iff.1 h
  obtain ⟨hy, hdefs⟩ := hxy a hx
  obtain ⟨hg, hdefs'⟩ := hfg a hx b hf
  refine ⟨bind_outcome_eq_ok_iff.2 ⟨a, hy, hg⟩, ?_⟩
  rw [definitions_bind_of_ok f hx, definitions_bind_of_ok g hy, hdefs, hdefs']

theorem mapM {γ : Type} {f : α → Elaborated β} {g : γ → Elaborated β} {xs : List α} (h : α → γ)
    (hfg : ∀ x ∈ xs, Agrees (f x) (g (h x))) : Agrees (xs.mapM f) ((xs.map h).mapM g) := by
  induction xs with
  | nil => exact .refl _
  | cons x rest ih =>
    rw [List.map_cons, List.mapM_cons, List.mapM_cons]
    refine .bind (hfg x List.mem_cons_self) fun y _ ↦ ?_
    refine .bind (ih fun x' hx' ↦ hfg x' (List.mem_cons_of_mem x hx')) fun ys _ ↦ .refl _

/-- A result without a trace may be had earlier. -/
theorem swap {γ : Type} (x : Elaborated α) (y : Except Error β) (f : α → β → Elaborated γ) :
    Agrees (x >>= fun a ↦ liftM y >>= fun b ↦ f a b) (liftM y >>= fun b ↦ x >>= fun a ↦ f a b) := by
  cases y with
  | ok b => exact .refl _
  | error e =>
    intro c h
    obtain ⟨a, -, h⟩ := bind_outcome_eq_ok_iff.1 h
    exact nomatch h

/-- A result without a trace may be had later. -/
theorem swap_back {γ : Type} (x : Elaborated α) (y : Except Error β) (f : α → β → Elaborated γ) :
    Agrees (liftM y >>= fun b ↦ x >>= fun a ↦ f a b) (x >>= fun a ↦ liftM y >>= fun b ↦ f a b) := by
  cases y with
  | ok b => exact .refl _
  | error e => exact fun c h ↦ nomatch h

end Agrees

/-! ### Opening, filling, closing -/

/-- A node whose descriptor has been found. -/
structure Opened where
  path : String
  /-- What governs the node: itself, or the fragment it refers to. -/
  descriptor : Fields
  kind : Kind
  /-- The scope of what stands below. -/
  inner : Scope
  head : Head

/-- Find what governs a node. -/
def openNode (scope : Scope) (parent : String) (node : Json) : Elaborated Opened := do
  let fields ← node.asObject (displayPath parent)
  let key ← fields.string "key" (displayPath parent)
  let path := childPath parent key
  let (descriptor, kind) ← resolve fields key scope path
  let inner := match ← descriptor.object? "parameters" path with
    | some table => scope.overlay table
    | none => scope
  let typeName ← descriptor.string "typeName" path
  let parentType ← descriptor.string? "parent" path
  return ⟨path, descriptor, kind, inner, ⟨key, typeName, parentType⟩⟩

/-- The element of a node that has been opened. -/
def fillNode (elaborateChild : Json → Elaborated Element) (o : Opened) : Elaborated Element :=
  match o.kind with
  | .object => do
    let shape ← elaborateShape elaborateChild o.descriptor o.path
    return .object o.head shape
  | .enum => do
    let options ← o.descriptor.strings? "options" o.path
    return .enum o.head (options.getD [])
  | .leaf kind => return .leaf o.head kind

/-- Contribute the definition of an element, if it has one. -/
def closeNode (path : String) (element : Element) : Elaborated Element := do
  if let some definition ← Definition.ofElement? element path then
    Traced.record (.define definition)
  return element

/-- A level of a descent: the node is opened, filled with what stands below, and closed. -/
theorem elaborateAt_succ (levels : Nat) (scope : Scope) (parent : String) (node : Json) :
    elaborateAt (levels + 1) scope parent node =
      openNode scope parent node >>= fun o ↦
        fillNode (elaborateAt levels o.inner o.path) o >>= closeNode o.path := by
  rw [elaborateAt, openNode]
  simp only [bind_assoc, pure_bind]
  refine bind_congr fun fields ↦ bind_congr fun key ↦ bind_congr fun resolved ↦ ?_
  obtain ⟨descriptor, kind⟩ := resolved
  refine bind_congr fun table ↦ bind_congr fun typeName ↦ bind_congr fun parentType ↦ ?_
  -- What is left is the node's own part, which differs from kind to kind.
  cases kind with
  | object => simp only [fillNode, bind_assoc, pure_bind]; rfl
  | enum => simp only [fillNode, bind_assoc, pure_bind]; rfl
  | leaf kind => simp only [fillNode, pure_bind]; rfl

theorem definitions_resolve (node : Fields) (key : String) (scope : Scope) (path : String) :
    definitions (resolve node key scope path) = [] := by
  refine List.eq_nil_iff_forall_not_mem.2 fun d h ↦ ?_
  unfold resolve at h
  rcases mem_definitions_bind h with h | ⟨token, -, h⟩
  · exact nomatch h
  cases token with
  | kind kind => exact nomatch h
  | reference =>
    cases hfragment : scope.lookup key with
    | none =>
      simp only [hfragment] at h
      exact nomatch h
    | some fragment =>
      simp only [hfragment] at h
      rcases mem_definitions_bind h with h | ⟨descriptor, -, h⟩
      · exact nomatch h
      rcases mem_definitions_bind h with h | ⟨token, -, h⟩
      · exact nomatch h
      cases token <;> exact nomatch h

/-- Opening a node defines nothing. -/
theorem definitions_openNode (scope : Scope) (parent : String) (node : Json) :
    definitions (openNode scope parent node) = [] := by
  refine List.eq_nil_iff_forall_not_mem.2 fun d h ↦ ?_
  rcases mem_definitions_bind h with h | ⟨fields, -, h⟩
  · exact nomatch h
  rcases mem_definitions_bind h with h | ⟨key, -, h⟩
  · exact nomatch h
  rcases mem_definitions_bind h with h | ⟨⟨descriptor, kind⟩, -, h⟩
  · rw [definitions_resolve] at h
    exact nomatch h
  rcases mem_definitions_bind h with h | ⟨table, -, h⟩
  · exact nomatch h
  rcases mem_definitions_bind h with h | ⟨typeName, -, h⟩
  · exact nomatch h
  rcases mem_definitions_bind h with h | ⟨parentType, -, h⟩ <;> exact nomatch h

/-- What an object defines is its struct, under its name and its key. -/
theorem ofElement?_object_eq_ok_iff {head : Head} {object : ObjectShape Element} {path : String}
    {d? : Option Definition} :
    Definition.ofElement? (.object head object) path = .ok d? ↔
      ∃ shape, StructShape.ofObject object path = .ok shape ∧
        d? = some ⟨head.typeName, .type ⟨head.key, head.parentType, .struct shape⟩⟩ :=
  bind_eq_ok_iff.trans <| exists_congr fun _ ↦ and_congr_right fun _ ↦
    ⟨fun h ↦ (Except.ok.inj h).symm, fun h ↦ congrArg _ h.symm⟩

/-- What an enum defines is its variants, under its name and its key. -/
theorem ofElement?_enum_eq_ok_iff {head : Head} {options : List String} {path : String}
    {d? : Option Definition} :
    Definition.ofElement? (.enum head options) path = .ok d? ↔
      ∃ cases, EnumCase.ofOptions options path = .ok cases ∧
        d? = some ⟨head.typeName, .type ⟨head.key, head.parentType, .enum cases⟩⟩ :=
  bind_eq_ok_iff.trans <| exists_congr fun _ ↦ and_congr_right fun _ ↦
    ⟨fun h ↦ (Except.ok.inj h).symm, fun h ↦ congrArg _ h.symm⟩

/-- Closing defines what the element defines. -/
theorem mem_definitions_closeNode {path : String} {e : Element} {d : Definition} :
    d ∈ definitions (closeNode path e) ↔ Definition.ofElement? e path = .ok (some d) := by
  unfold closeNode
  cases h : Definition.ofElement? e path with
  | error error => exact ⟨nofun, nofun⟩
  | ok definition? =>
    cases definition? with
    | none => exact ⟨nofun, nofun⟩
    | some definition =>
      rw [Except.ok.injEq, Option.some.injEq, eq_comm]
      exact List.mem_singleton

/-- Closing returns the element, unless it has no definition where it should. -/
theorem closeNode_outcome_eq_ok_iff {path : String} {e e' : Element} :
    (closeNode path e).outcome = .ok e' ↔
      e' = e ∧ ∃ definition?, Definition.ofElement? e path = .ok definition? := by
  unfold closeNode
  cases h : Definition.ofElement? e path with
  | error error => exact ⟨nofun, nofun⟩
  | ok definition? =>
    constructor
    · intro hclose
      cases definition? <;> exact ⟨(Except.ok.inj hclose).symm, _, rfl⟩
    · rintro ⟨rfl, -⟩
      cases definition? <;> rfl

/-! ### What an object is made of -/

/-- What a descriptor says an object is made of, with nothing elaborated yet. -/
structure ShapeSource where
  containerKey : Option String
  value : Option Json
  multiplicity : Multiplicity
  items : List Json

/-- The nodes that stand below an object. -/
def ShapeSource.below (source : ShapeSource) : List Json := source.value.toList ++ source.items

/-- Read what an object is made of. -/
def readShape (descriptor : Fields) (path : String) : Except Error ShapeSource := do
  let container ← descriptor.object? "childContainer" path
  let containerKey ← (container.getD []).string? "key" path
  let (multiplicity, items) ← declaredChildren (container.getD descriptor) path
  return ⟨containerKey, (container.getD []).present? "value", multiplicity, items⟩

/-- The child that an item declares. -/
def elaborateItem (elaborateChild : Json → Elaborated Element) (path : String) (item : Json) :
    Elaborated (Child Element) := do
  let required ← requiredFlag item path
  return ⟨required, ← elaborateChild item⟩

/-- The shape of the parts that have been elaborated, if they go together. -/
def closeShape (path : String) (multiplicity : Multiplicity) (containerKey : Option String)
    (value : Option Element) (children : List (Child Element)) :
    Elaborated (ObjectShape Element) := do
  if multiplicity = .oneOf then
    if containerKey.isSome || value.isSome then
      Traced.record (.report (.containerIgnored path))
    return ⟨multiplicity, none, none, children⟩
  if !children.isEmpty && value.isSome then
    throw (.invalid path .childrenBesideValue)
  if value.isSome && containerKey.isNone then
    throw (.invalid path .valueWithoutKey)
  return ⟨multiplicity, containerKey, value, children⟩

theorem definitions_closeShape (path : String) (multiplicity : Multiplicity)
    (containerKey : Option String) (value : Option Element) (children : List (Child Element)) :
    definitions (closeShape path multiplicity containerKey value children) = [] := by
  unfold closeShape
  split_ifs <;> rfl

/-- Parts have a shape if they go together. A one-of object keeps nothing but its children. -/
theorem closeShape_outcome_eq_ok_iff {path : String} {multiplicity : Multiplicity}
    {containerKey : Option String} {value : Option Element} {children : List (Child Element)}
    {shape : ObjectShape Element} :
    (closeShape path multiplicity containerKey value children).outcome = .ok shape ↔
      (multiplicity = .oneOf ∧ shape = ⟨multiplicity, none, none, children⟩) ∨
      (multiplicity ≠ .oneOf ∧ (value.isSome → children = [] ∧ containerKey.isSome) ∧
        shape = ⟨multiplicity, containerKey, value, children⟩) := by
  unfold closeShape
  by_cases honeOf : multiplicity = .oneOf
  · have houtcome : ∀ ignored : Bool, (do
        if ignored then Traced.record (.report (.containerIgnored path))
        return ⟨multiplicity, none, none, children⟩ : Elaborated (ObjectShape Element)).outcome =
          .ok ⟨multiplicity, none, none, children⟩ := by
      intro ignored
      cases ignored <;> rfl
    rw [if_pos honeOf, houtcome, Except.ok.injEq, eq_comm]
    simp [honeOf]
  · rw [if_neg honeOf]
    constructor
    · intro h
      have htogether : ¬ (!children.isEmpty && value.isSome) = true ∧
          ¬ (value.isSome && containerKey.isNone) = true := by
        constructor <;> intro hnot
        · rw [if_pos hnot] at h
          exact nomatch h
        · split_ifs at h <;> exact nomatch h
      rw [if_neg htogether.1, if_neg htogether.2] at h
      refine .inr ⟨honeOf, fun hvalue ↦ ?_, (Except.ok.inj h).symm⟩
      simpa [hvalue, Option.isSome_iff_ne_none] using htogether
    · rintro (⟨h, -⟩ | ⟨-, htogether, rfl⟩)
      · exact absurd h honeOf
      · cases value with
        | none => simp
        | some e =>
          obtain ⟨rfl, hkey⟩ := htogether rfl
          simp [Option.isSome_iff_ne_none.1 hkey]

/-- Elaborate what an object is made of. -/
def ShapeSource.elaborate (elaborateChild : Json → Elaborated Element) (path : String)
    (source : ShapeSource) : Elaborated (ObjectShape Element) := do
  let value ← source.value.mapM elaborateChild
  let children ← source.items.mapM (elaborateItem elaborateChild path)
  closeShape path source.multiplicity source.containerKey value children

theorem elaborateShape_eq (elaborateChild : Json → Elaborated Element) (descriptor : Fields)
    (path : String) :
    elaborateShape elaborateChild descriptor path = (do
      let container ← descriptor.object? "childContainer" path
      let containerKey ← (container.getD []).string? "key" path
      let value ← ((container.getD []).present? "value").mapM elaborateChild
      let (multiplicity, items) ← declaredChildren (container.getD descriptor) path
      let children ← items.mapM (elaborateItem elaborateChild path)
      closeShape path multiplicity containerKey value children) := rfl

/-- Reading in steps is reading. -/
theorem liftM_bind (x : Except Error α) (f : α → Except Error β) :
    (liftM (x >>= f) : Elaborated β) = liftM x >>= fun a ↦ liftM (f a) := by
  cases x <;> rfl

theorem readShape_elaborate_eq (elaborateChild : Json → Elaborated Element) (descriptor : Fields)
    (path : String) :
    (liftM (readShape descriptor path) >>= ShapeSource.elaborate elaborateChild path) = (do
      let container ← descriptor.object? "childContainer" path
      let containerKey ← (container.getD []).string? "key" path
      let (multiplicity, items) ← declaredChildren (container.getD descriptor) path
      let value ← ((container.getD []).present? "value").mapM elaborateChild
      let children ← items.mapM (elaborateItem elaborateChild path)
      closeShape path multiplicity containerKey value children) := by
  rw [readShape]
  simp only [liftM_bind, bind_assoc]
  rfl

/-- An object that is elaborated is what is read first and elaborated then. -/
theorem agrees_elaborateShape (elaborateChild : Json → Elaborated Element) (descriptor : Fields)
    (path : String) :
    Agrees (elaborateShape elaborateChild descriptor path)
      (liftM (readShape descriptor path) >>= ShapeSource.elaborate elaborateChild path) := by
  rw [elaborateShape_eq, readShape_elaborate_eq]
  exact .bind (.refl _) fun container _ ↦ .bind (.refl _) fun containerKey _ ↦ .swap _ _ _

theorem elaborateShape_agrees (elaborateChild : Json → Elaborated Element) (descriptor : Fields)
    (path : String) :
    Agrees (liftM (readShape descriptor path) >>= ShapeSource.elaborate elaborateChild path)
      (elaborateShape elaborateChild descriptor path) := by
  rw [elaborateShape_eq, readShape_elaborate_eq]
  exact .bind (.refl _) fun container _ ↦ .bind (.refl _) fun containerKey _ ↦ .swap_back _ _ _

/-- What stands below an object that is elaborated is elaborated. -/
theorem below_of_elaborateShape {elaborateChild : Json → Elaborated Element} {descriptor : Fields}
    {path : String} {shape : ObjectShape Element}
    (h : (elaborateShape elaborateChild descriptor path).outcome = .ok shape) :
    ∃ source, readShape descriptor path = .ok source ∧
      (source.elaborate elaborateChild path).outcome = .ok shape ∧
      ∀ node ∈ source.below, ∃ e, (elaborateChild node).outcome = .ok e := by
  obtain ⟨source, hread, helaborate⟩ :=
    bind_outcome_eq_ok_iff.1 (agrees_elaborateShape elaborateChild descriptor path shape h).1
  refine ⟨source, hread, helaborate, fun node hnode ↦ ?_⟩
  obtain ⟨value, hvalue, hrest⟩ := bind_outcome_eq_ok_iff.1 helaborate
  obtain ⟨children, hchildren, -⟩ := bind_outcome_eq_ok_iff.1 hrest
  -- A node below is the value or an item, and either has been elaborated on the way to the shape.
  rcases List.mem_append.1 hnode with hnode | hnode
  · rw [Option.mem_toList] at hnode
    rw [hnode, Option.mapM_some, outcome_map] at hvalue
    cases he : (elaborateChild node).outcome with
    | ok e => exact ⟨e, rfl⟩
    | error e =>
      rw [he] at hvalue
      exact nomatch hvalue
  · obtain ⟨child, -, hchild⟩ := ok_of_mapM_ok hchildren hnode
    obtain ⟨required, -, hchild⟩ := bind_outcome_eq_ok_iff.1 hchild
    obtain ⟨e, he, -⟩ := bind_outcome_eq_ok_iff.1 hchild
    exact ⟨e, he⟩

end ClientSynthesis.Body
