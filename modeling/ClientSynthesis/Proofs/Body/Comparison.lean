import ClientSynthesis.Proofs.Body.Opening
import Mathlib.Tactic.SplitIfs

/-!
# Comparing descents

Two descents agree level by level. If a node that is opened has a like node to stand for it
(`Opened.Like`), and the descents agree on what stands below, they agree on the node
(`agrees_level`).

Two cases of this need no more than the node itself. Further levels change nothing
(`agrees_of_le`), and neither does another place or another scope that binds the same
(`agrees_of_lookup_eq`).
-/

namespace ClientSynthesis.Body

open Descriptor (Error)
open Json (Fields)
open Report (bind_eq_ok_iff)
open Report.Traced

variable {α β : Type}

/-! ### Places are for messages -/

theorem requiredFlag_path {item : Json} {path : String} {required : Bool}
    (h : requiredFlag item path = .ok required) (other : String) :
    requiredFlag item other = .ok required := by
  cases item with
  | object fields =>
    obtain ⟨flag, hflag, rfl⟩ := requiredFlag_object_eq_ok_iff.1 h
    exact requiredFlag_object_eq_ok_iff.2 ⟨flag, Fields.typed?_path hflag other, rfl⟩
  | _ => exact h

theorem declaredChildren_path {fields : Fields} {path : String}
    {declared : Multiplicity × List Json} (h : declaredChildren fields path = .ok declared)
    (other : String) : declaredChildren fields other = .ok declared := by
  obtain ⟨oneOf, hone, h⟩ := bind_eq_ok_iff.1 h
  obtain ⟨anyOf, hany, h⟩ := bind_eq_ok_iff.1 h
  exact bind_eq_ok_iff.2 ⟨oneOf, Fields.typed?_path hone other, bind_eq_ok_iff.2
    ⟨anyOf, Fields.typed?_path hany other, h⟩⟩

theorem readShape_path {descriptor : Fields} {path : String} {source : ShapeSource}
    (h : readShape descriptor path = .ok source) (other : String) :
    readShape descriptor other = .ok source := by
  obtain ⟨container, hcontainer, h⟩ := bind_eq_ok_iff.1 h
  obtain ⟨containerKey, hkey, h⟩ := bind_eq_ok_iff.1 h
  obtain ⟨declared, hdeclared, h⟩ := bind_eq_ok_iff.1 h
  exact bind_eq_ok_iff.2 ⟨container, Fields.typed?_path hcontainer other, bind_eq_ok_iff.2
    ⟨containerKey, Fields.typed?_path hkey other, bind_eq_ok_iff.2
      ⟨declared, declaredChildren_path hdeclared other, h⟩⟩⟩

theorem strings?_path {fields : Fields} {key path : String} {strings : Option (List String)}
    (h : fields.strings? key path = .ok strings) (other : String) :
    fields.strings? key other = .ok strings := by
  obtain ⟨items, hitems, h⟩ := bind_eq_ok_iff.1 h
  refine bind_eq_ok_iff.2 ⟨items, Fields.typed?_path hitems other, ?_⟩
  cases items with
  | none => exact h
  | some items =>
    obtain ⟨strings, hstrings, h⟩ := bind_eq_ok_iff.1 h
    have hread := Fields.stringItems_eq_ok_iff.1 hstrings
    exact bind_eq_ok_iff.2 ⟨strings, Fields.stringItems_eq_ok_iff.2 hread, h⟩

theorem ofElement?_path {e : Element} {path : String} {d : Option Definition}
    (h : Definition.ofElement? e path = .ok d) (other : String) :
    Definition.ofElement? e other = .ok d := by
  cases e with
  | object head object =>
    obtain ⟨shape, hshape, hd⟩ := ofElement?_object_eq_ok_iff.1 h
    have hother : StructShape.ofObject object other = .ok shape :=
      StructShape.ofObject_eq_ok_iff.2 (StructShape.ofObject_eq_ok_iff.1 hshape)
    exact ofElement?_object_eq_ok_iff.2 ⟨shape, hother, hd⟩
  | enum head options =>
    obtain ⟨cases, hcases, hd⟩ := ofElement?_enum_eq_ok_iff.1 h
    have hother : EnumCase.ofOptions options other = .ok cases :=
      EnumCase.ofOptions_eq_ok_iff.2 (EnumCase.ofOptions_eq_ok_iff.1 hcases)
    exact ofElement?_enum_eq_ok_iff.2 ⟨cases, hother, hd⟩
  | leaf head kind => exact h

theorem agrees_closeNode (path other : String) (e : Element) :
    Agrees (closeNode path e) (closeNode other e) := by
  intro e' h
  obtain ⟨rfl, definition?, hdefinition⟩ := closeNode_outcome_eq_ok_iff.1 h
  have hother := ofElement?_path hdefinition other
  refine ⟨closeNode_outcome_eq_ok_iff.2 ⟨rfl, definition?, hother⟩, ?_⟩
  unfold closeNode
  rw [hdefinition, hother]

theorem agrees_closeShape (path other : String) (multiplicity : Multiplicity)
    (containerKey : Option String) (value : Option Element) (children : List (Child Element)) :
    Agrees (closeShape path multiplicity containerKey value children)
      (closeShape other multiplicity containerKey value children) := by
  intro shape h
  have hother : (closeShape other multiplicity containerKey value children).outcome = .ok shape :=
    closeShape_outcome_eq_ok_iff.2 (closeShape_outcome_eq_ok_iff.1 h)
  exact ⟨hother, (definitions_closeShape ..).trans (definitions_closeShape ..).symm⟩

/-! ### Like nodes -/

namespace Agrees

theorem mapM_option {f : α → Elaborated β} {γ : Type} {g : γ → Elaborated β} {x : Option α}
    (h : α → γ) (hfg : ∀ a ∈ x, Agrees (f a) (g (h a))) : Agrees (x.mapM f) ((x.map h).mapM g) := by
  cases x with
  | none => exact .refl _
  | some a =>
    rw [Option.map_some, Option.mapM_some, Option.mapM_some, map_eq_pure_bind, map_eq_pure_bind]
    exact .bind (hfg a rfl) fun b _ ↦ .refl _

/-- Agreement with something that has succeeded is mutual. -/
theorem of_ok {x y : Elaborated α} {a : α} (h : Agrees x y) (hx : x.outcome = .ok a) :
    Agrees y x := by
  intro b hy
  obtain ⟨hy', hdefs⟩ := h a hx
  obtain rfl := Except.ok.inj (hy'.symm.trans hy)
  exact ⟨hx, hdefs.symm⟩

theorem liftM {x y : Except Error α} (h : ∀ a, x = .ok a → y = .ok a) :
    Agrees (liftM x : Elaborated α) (liftM y) := fun a hx ↦ ⟨h a hx, rfl⟩

end Agrees

/-- What an object is made of, with the nodes rewritten. -/
def ShapeSource.map (rewrite : Json → Json) (source : ShapeSource) : ShapeSource :=
  { source with value := source.value.map rewrite, items := source.items.map rewrite }

/-- A node that has been opened is like another: they say the same, where one has rewritten what
stands below the other. -/
structure Opened.Like (rewrite : Json → Json) (o o' : Opened) : Prop where
  kind : o'.kind = o.kind
  head : o'.head = o.head
  options : ∀ options, o.descriptor.strings? "options" o.path = .ok options →
    o'.descriptor.strings? "options" o'.path = .ok options
  shape : o.kind = .object → ∀ source, readShape o.descriptor o.path = .ok source →
    readShape o'.descriptor o'.path = .ok (source.map rewrite)

/-- In another place, and with another scope below, a node says the same. -/
theorem Opened.Like.of_place (o : Opened) (path : String) (inner : Scope) :
    o.Like id { o with path, inner } where
  kind := rfl
  head := rfl
  options := fun _ h ↦ strings?_path h path
  shape := fun _ source h ↦ by
    have hsource : source.map id = source := by simp [ShapeSource.map]
    rw [hsource]
    exact readShape_path h path

/-- What a rewritten child needs in order to stand for the child. -/
structure ChildAgrees (elaborateChild elaborateChild' : Json → Elaborated Element)
    (path path' : String) (node node' : Json) : Prop where
  required : ∀ required, requiredFlag node path = .ok required →
    requiredFlag node' path' = .ok required
  agrees : Agrees (elaborateChild node) (elaborateChild' node')

theorem agrees_elaborate {elaborateChild elaborateChild' : Json → Elaborated Element}
    {path path' : String} {rewrite : Json → Json} {source : ShapeSource}
    (h : ∀ node ∈ source.below,
      ChildAgrees elaborateChild elaborateChild' path path' node (rewrite node)) :
    Agrees (source.elaborate elaborateChild path)
      ((source.map rewrite).elaborate elaborateChild' path') := by
  refine .bind (.mapM_option rewrite fun node hnode ↦ ?_) fun value _ ↦
    .bind (.mapM rewrite fun node hnode ↦ ?_) fun children _ ↦ agrees_closeShape _ _ _ _ _ _
  · exact (h node (List.mem_append_left _ (Option.mem_toList.2 hnode))).agrees
  · have hchild := h node (List.mem_append_right _ hnode)
    exact .bind (.liftM hchild.required) fun required _ ↦ .bind hchild.agrees fun e _ ↦ .refl _

/-- Like nodes are filled alike, if what stands below is. -/
theorem agrees_fillNode {elaborateChild elaborateChild' : Json → Elaborated Element}
    {rewrite : Json → Json} {o o' : Opened} (hlike : o.Like rewrite o')
    (h : o.kind = .object → ∀ source, readShape o.descriptor o.path = .ok source →
      ∀ node ∈ source.below,
        ChildAgrees elaborateChild elaborateChild' o.path o'.path node (rewrite node)) :
    Agrees (fillNode elaborateChild o) (fillNode elaborateChild' o') := by
  obtain ⟨hkind, hhead, hoptions, hshape⟩ := hlike
  unfold fillNode
  rw [hkind, hhead]
  cases ho : o.kind with
  | object =>
    -- Both objects are read before anything below is elaborated, and the readings go together.
    have hread : Agrees (elaborateShape elaborateChild o.descriptor o.path)
        (elaborateShape elaborateChild' o'.descriptor o'.path) := by
      refine (agrees_elaborateShape elaborateChild o.descriptor o.path).trans
        (.trans ?_ (elaborateShape_agrees elaborateChild' o'.descriptor o'.path))
      intro shape hok
      obtain ⟨source, hsource, hok⟩ := bind_outcome_eq_ok_iff.1 hok
      rw [outcome_liftM] at hsource
      obtain ⟨hok', hdefs⟩ := agrees_elaborate (h ho source hsource) shape hok
      rw [hsource, hshape ho source hsource]
      exact ⟨hok', hdefs⟩
    exact .bind hread fun shape _ ↦ .refl _
  | enum => exact .bind (.liftM hoptions) fun options _ ↦ .refl _
  | leaf kind => exact .refl _

/-- A step of a comparison: descents agree on a node if, once that is opened, it has a like node to
stand for it and they agree on what stands below. -/
theorem agrees_level {levels levels' : Nat} {scope scope' : Scope} {parent parent' : String}
    {node node' : Json}
    (h : ∀ o, (openNode scope parent node).outcome = .ok o →
      ∃ o' rewrite, (openNode scope' parent' node').outcome = .ok o' ∧ o.Like rewrite o' ∧
        (o.kind = .object → ∀ source, readShape o.descriptor o.path = .ok source →
          ∀ child ∈ source.below, ChildAgrees (elaborateAt levels o.inner o.path)
            (elaborateAt levels' o'.inner o'.path) o.path o'.path child (rewrite child))) :
    Agrees (elaborateAt (levels + 1) scope parent node)
      (elaborateAt (levels' + 1) scope' parent' node') := by
  rw [elaborateAt_succ, elaborateAt_succ]
  intro e hok
  obtain ⟨o, hopen, hok⟩ := bind_outcome_eq_ok_iff.1 hok
  obtain ⟨o', rewrite, hopen', hlike, hbelow⟩ := h o hopen
  have hfill : Agrees (fillNode (elaborateAt levels o.inner o.path) o >>= closeNode o.path)
      (fillNode (elaborateAt levels' o'.inner o'.path) o' >>= closeNode o'.path) :=
    .bind (agrees_fillNode hlike hbelow) fun e _ ↦ agrees_closeNode _ _ e
  obtain ⟨hok', hdefs⟩ := hfill e hok
  refine ⟨bind_outcome_eq_ok_iff.2 ⟨o', hopen', hok'⟩, ?_⟩
  rw [definitions_bind_of_ok _ hopen, definitions_bind_of_ok _ hopen', definitions_openNode,
    definitions_openNode, hdefs]

/-! ### More levels, other places -/

theorem Opened.Like.refl (o : Opened) : o.Like id o := .of_place o o.path o.inner

theorem ChildAgrees.of_agrees {elaborateChild elaborateChild' : Json → Elaborated Element}
    {path path' : String} {node : Json} (h : Agrees (elaborateChild node) (elaborateChild' node)) :
    ChildAgrees elaborateChild elaborateChild' path path' node (id node) :=
  ⟨fun _ hrequired ↦ requiredFlag_path hrequired path', h⟩

/-- A descent that has come to a good end does not go on. -/
theorem agrees_of_le {levels more : Nat} (h : levels ≤ more) (scope : Scope) (parent : String)
    (node : Json) :
    Agrees (elaborateAt levels scope parent node) (elaborateAt more scope parent node) := by
  -- By induction on the levels of the first descent; without any it does not succeed.
  induction levels generalizing more scope parent node with
  | zero => exact fun _ h ↦ nomatch h
  | succ levels ih =>
    obtain ⟨more, rfl⟩ : ∃ more', more = more' + 1 := ⟨more - 1, by omega⟩
    refine agrees_level fun o hopen ↦ ⟨o, id, hopen, .refl o, fun _ source _ child _ ↦ ?_⟩
    exact .of_agrees (ih (by omega) o.inner o.path child)

theorem lookup_scopeBelow_congr {scope scope' : Scope} (h : scope.lookup = scope'.lookup)
    (descriptor : Fields) :
    (scopeBelow scope descriptor).lookup = (scopeBelow scope' descriptor).lookup := by
  unfold scopeBelow
  split
  · funext name
    rw [Scope.lookup_overlay, Scope.lookup_overlay, h]
  · exact h

/-- A descent is the same in every place, and in every scope in which names are bound to the
same. -/
theorem agrees_of_lookup_eq {scope scope' : Scope} (h : scope.lookup = scope'.lookup) (levels : Nat)
    (parent parent' : String) (node : Json) :
    Agrees (elaborateAt levels scope parent node) (elaborateAt levels scope' parent' node) := by
  induction levels generalizing scope scope' parent parent' node with
  | zero => exact fun _ h ↦ nomatch h
  | succ levels ih =>
    refine agrees_level fun o hopen ↦ ?_
    obtain ⟨fields, hobject, hopens⟩ := openNode_eq_ok_iff.1 hopen
    refine ⟨_, id, openNode_eq_ok_iff.2 ⟨fields, hobject, hopens.congr h parent'⟩, .of_place o _ _,
      fun _ source _ child _ ↦ .of_agrees (ih ?_ _ _ child)⟩
    rw [hopens.inner]
    exact lookup_scopeBelow_congr h o.descriptor

end ClientSynthesis.Body
