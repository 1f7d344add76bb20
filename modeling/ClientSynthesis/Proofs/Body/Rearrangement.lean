import ClientSynthesis.Proofs.Body.Descent
import ClientSynthesis.Proofs.Descriptor.Rearrangement

/-!
# Rearranged body descriptors

A node that has been rearranged, in a scope whose tables have been, is elaborated in the same way,
step by step and with the same end (`elaborateAt_eq_of_rearranged`). The induction is on the levels.
At each level the accessors read alike, and what they hand on to the level below has been rearranged
again.

The number of levels has to be the same on both sides here, since the errors of an elaboration that
is cut off tell where that was.
-/

namespace ClientSynthesis.Body

open Descriptor (Alike FieldsAlike Rearranged Purpose)
open Json (Fields)
open Report (Mirrors Traced)

variable {scope scope' : Scope} {purpose : Purpose} {fields fields' : Fields} {key : String}

/-! ### Scopes -/

/-- Scopes with as many tables, which have been rearranged. -/
def Scope.Rearranged (scope scope' : Scope) : Prop :=
  List.Forall₂
    (fun table table' ↦ Descriptor.Rearranged .parameters (.object table) (.object table'))
    scope.tables scope'.tables

/-- Scopes in which every table binds what is rearranged. -/
def Scope.Alike (scope scope' : Scope) : Prop :=
  List.Forall₂ (FieldsAlike .parameters) scope.tables scope'.tables

namespace Scope

theorem Rearranged.alike (h : scope.Rearranged scope') : scope.Alike scope' := by
  refine h.imp fun table table' htable ↦ ?_
  cases htable.alike with
  | object hfields => exact hfields
  | same => exact .of_read_eq fun _ _ ↦ rfl

theorem Alike.overlay (h : scope.Alike scope') (htable : FieldsAlike .parameters fields fields') :
    (scope.overlay fields).Alike (scope'.overlay fields') := .cons htable h

/-- The innermost binding is found in tables that correspond. -/
theorem Alike.lookup (h : scope.Alike scope') (name : String) :
    Option.Rel (Descriptor.Rearranged .node) (scope.lookup name) (scope'.lookup name) := by
  unfold Scope.lookup
  unfold Scope.Alike at h
  generalize scope.tables = tables at h ⊢
  generalize scope'.tables = tables' at h ⊢
  induction h with
  | nil => exact .none
  | @cons table table' _ _ htable _ ih =>
    have hread : Option.Rel (Descriptor.Rearranged .node) (table.get? name) (table'.get? name) :=
      htable name .node rfl
    rw [List.findSome?_cons, List.findSome?_cons]
    revert hread
    generalize table.get? name = x
    generalize table'.get? name = y
    rintro (hvw | _)
    · exact .some hvw
    · exact ih

end Scope

/-! ### Nodes -/

theorem tokenOf_eq (h : FieldsAlike .node fields fields') (path : String) :
    tokenOf fields path = tokenOf fields' path := by
  rw [tokenOf, tokenOf, h.string "type" rfl (by decide) path]

/-- A node and its rearrangement are governed by descriptors that are alike, and are of one kind. -/
theorem mirrors_resolve (hfields : FieldsAlike .node fields fields') (hscope : scope.Alike scope')
    (key path : String) :
    Traced.Mirrors (fun a b ↦ FieldsAlike .node a.1 b.1 ∧ a.2 = b.2) (resolve fields key scope path)
      (resolve fields' key scope' path) := by
  unfold resolve
  rw [tokenOf_eq hfields]
  refine .bind (.refl _) fun token _ heq ↦ ?_
  subst heq
  cases token with
  | kind kind => exact .pure ⟨hfields, rfl⟩
  | reference =>
    have hlookup := hscope.lookup key
    revert hlookup
    generalize scope.lookup key = x
    generalize scope'.lookup key = y
    rintro (hfragment | _)
    · refine .bind (.liftM (hfragment.asObject path)) fun descriptor descriptor' hdescriptor ↦ ?_
      rw [tokenOf_eq hdescriptor]
      refine .bind (.refl _) fun token _ heq ↦ ?_
      subst heq
      cases token with
      | reference => exact ⟨rfl, .error _⟩
      | kind kind => exact .bind (.refl _) fun _ _ _ ↦ .pure ⟨hdescriptor, rfl⟩
    · exact ⟨rfl, .error _⟩

/-! ### Objects -/

theorem mirrors_declaredChildren (h : FieldsAlike purpose fields fields')
    (hone : purpose.field? "one_of" = some .nodes) (hany : purpose.field? "any_of" = some .nodes)
    (hpurpose : purpose ≠ .parameters) (path : String) :
    Mirrors (fun a b ↦ a.1 = b.1 ∧ List.Forall₂ (Rearranged .node) a.2 b.2)
      (declaredChildren fields path) (declaredChildren fields' path) := by
  refine .bind (h.array? "one_of" hone hpurpose path) fun ones ones' hones ↦
    .bind (h.array? "any_of" hany hpurpose path) fun anys anys' hanys ↦ ?_
  cases hones with
  | some hones => exact .ok ⟨rfl, hones⟩
  | none =>
    cases hanys with
    | some hanys => exact .ok ⟨rfl, hanys⟩
    | none => exact .ok ⟨rfl, .nil⟩

theorem requiredFlag_eq {item item' : Json} (h : Rearranged .node item item') (path : String) :
    requiredFlag item path = requiredFlag item' path := by
  cases h.alike with
  | object hfields =>
    rw [requiredFlag, requiredFlag, hfields.bool? "required" rfl (by decide) path]
  | array _ => rfl
  | same => rfl

/-- Nodes that are rearranged are elaborated in the same way. -/
def ElaboratedAlike (elaborateChild elaborateChild' : Json → Elaborated Element) : Prop :=
  ∀ node node', Rearranged .node node node' → elaborateChild node = elaborateChild' node'

variable {elaborateChild elaborateChild' : Json → Elaborated Element}

theorem mapM_value_eq (hchild : ElaboratedAlike elaborateChild elaborateChild')
    {value value' : Option Json} (h : Option.Rel (Rearranged .node) value value') :
    value.mapM elaborateChild = value'.mapM elaborateChild' := by
  cases h with
  | some h => rw [Option.mapM_some, Option.mapM_some, hchild _ _ h]
  | none => rfl

theorem mapM_elaborateItem_eq (hchild : ElaboratedAlike elaborateChild elaborateChild')
    {items items' : List Json} (h : List.Forall₂ (Rearranged .node) items items') {path : String} :
    items.mapM (elaborateItem elaborateChild path) =
      items'.mapM (elaborateItem elaborateChild' path) := by
  induction h with
  | nil => rfl
  | @cons item item' _ _ hitem _ ih =>
    have heq :
        elaborateItem elaborateChild path item = elaborateItem elaborateChild' path item' := by
      rw [elaborateItem, elaborateItem, requiredFlag_eq hitem, hchild _ _ hitem]
    rw [List.mapM_cons, List.mapM_cons, heq, ih]

/-- What an object is made of, if what stands below is elaborated in the same way. -/
theorem elaborateShape_eq_of_alike (hchild : ElaboratedAlike elaborateChild elaborateChild')
    (h : FieldsAlike .node fields fields') (path : String) :
    elaborateShape elaborateChild fields path = elaborateShape elaborateChild' fields' path := by
  rw [elaborateShape_eq, elaborateShape_eq]
  refine (Traced.Mirrors.liftM (h.object? "childContainer" rfl (by decide) path)).bind_eq
    fun container container' hread ↦ ?_
  have hcontainer : FieldsAlike .container (container.getD []) (container'.getD []) := by
    cases hread with
    | some hread => exact hread
    | none => exact .of_read_eq fun _ _ ↦ rfl
  have hvalue := hcontainer.present? "value" rfl (by decide)
  have hchildren : Mirrors (fun a b ↦ a.1 = b.1 ∧ List.Forall₂ (Rearranged .node) a.2 b.2)
      (declaredChildren (container.getD fields) path)
      (declaredChildren (container'.getD fields') path) := by
    cases hread with
    | some hread => exact mirrors_declaredChildren hread rfl rfl (by decide) path
    | none => exact mirrors_declaredChildren h rfl rfl (by decide) path
  rw [hcontainer.string? "key" rfl (by decide) path]
  refine bind_congr fun containerKey ↦ ?_
  rw [mapM_value_eq hchild hvalue]
  refine bind_congr fun value ↦ ?_
  refine (Traced.Mirrors.liftM hchildren).bind_eq fun declared declared' hdeclared ↦ ?_
  obtain ⟨multiplicity, items⟩ := declared
  obtain ⟨multiplicity', items'⟩ := declared'
  obtain ⟨rfl, hitems⟩ :
    multiplicity = multiplicity' ∧ List.Forall₂ (Rearranged .node) items items' := hdeclared
  dsimp only
  rw [mapM_elaborateItem_eq hchild hitems]

/-! ### Levels -/

/-- **A rearranged node in a rearranged scope is elaborated in the same way.** -/
theorem elaborateAt_eq_of_rearranged {node node' : Json} (hscope : scope.Alike scope')
    (hnode : Rearranged .node node node') (levels : Nat) (parent : String) :
    elaborateAt levels scope parent node = elaborateAt levels scope' parent node' := by
  induction levels generalizing scope scope' parent node node' with
  | zero => rfl
  | succ levels ih =>
    rw [elaborateAt, elaborateAt]
    refine (Traced.Mirrors.liftM (hnode.asObject _)).bind_eq fun fields fields' hfields ↦ ?_
    rw [hfields.string "key" rfl (by decide)]
    refine bind_congr fun key ↦ ?_
    refine (mirrors_resolve hfields hscope key _).bind_eq fun resolved resolved' hresolved ↦ ?_
    obtain ⟨descriptor, kind⟩ := resolved
    obtain ⟨descriptor', kind'⟩ := resolved'
    obtain ⟨hdescriptor, rfl⟩ : FieldsAlike .node descriptor descriptor' ∧ kind = kind' := hresolved
    refine (Traced.Mirrors.liftM (hdescriptor.object? "parameters" rfl (by decide) _)).bind_eq
      fun table table' htable ↦ ?_
    rw [hdescriptor.string "typeName" rfl (by decide),
      hdescriptor.string? "parent" rfl (by decide)]
    refine bind_congr fun typeName ↦ bind_congr fun parentType ↦ ?_
    -- What is left differs in the scope below and in the descriptor of an object or an enum.
    cases kind with
    | object =>
      have hinner : ∀ inner inner' : Scope, inner.Alike inner' →
          elaborateShape (elaborateAt levels inner (childPath parent key)) descriptor
              (childPath parent key) =
            elaborateShape (elaborateAt levels inner' (childPath parent key)) descriptor'
              (childPath parent key) := fun inner inner' halike ↦
        elaborateShape_eq_of_alike (fun node node' hvw ↦ ih halike hvw _) hdescriptor _
      cases htable with
      | some htable => dsimp only; rw [hinner _ _ (hscope.overlay htable)]
      | none => dsimp only; rw [hinner _ _ hscope]
    | enum =>
      dsimp only
      rw [hdescriptor.strings? "options" rfl (by decide)]
    | leaf kind => rfl

end ClientSynthesis.Body
