import ClientSynthesis.Proofs.Body.Descent
import ClientSynthesis.Proofs.Descriptor.Accessors
import Mathlib.Logic.Relation

/-!
# Opening nodes

When a node can be opened, and what is then found, in terms of what its fields hold (`Opens`). Paths
do not enter into it, and of the scope it is only asked what the node's own key is bound to.

A descent goes from an object to the nodes below it in the scope that its descriptor makes
(`Situation.Leads`), and comes to whatever can be reached that way (`Situation.ComesTo`).
-/

namespace ClientSynthesis.Body

open Json (Fields)
open Report (bind_eq_ok_iff)
open Report.Traced

/-! ### Tokens -/

/-- The token that a node states, if it states one. -/
def typeToken? (fields : Fields) : Option Token :=
  match fields.get? "type" with
  | some (.string text) => Token.parse? text
  | _ => none

theorem tokenOf_eq_ok_iff {fields : Fields} {path : String} {token : Token} :
    tokenOf fields path = .ok token ↔ typeToken? fields = some token := by
  rw [tokenOf, bind_eq_ok_iff]
  constructor
  · rintro ⟨text, htext, h⟩
    rw [typeToken?, Fields.string_eq_ok_iff.1 htext]
    dsimp only
    cases hparse : Token.parse? text with
    | none =>
      rw [hparse] at h
      exact nomatch h
    | some token' =>
      rw [hparse] at h
      exact congrArg some (Except.ok.inj h)
  · intro h
    unfold typeToken? at h
    split at h
    · next text htext =>
      refine ⟨text, Fields.string_eq_ok_iff.2 htext, ?_⟩
      rw [h]
      rfl
    · exact nomatch h

/-- A node that is a reference to a parameter. -/
def IsReference (node : Json) : Prop :=
  ∃ fields, node = .object fields ∧ typeToken? fields = some .reference

/-! ### What governs a node -/

theorem asObject_eq_ok_iff {document : Json} {path : String} {fields : Fields} :
    document.asObject path = .ok fields ↔ document = .object fields := by
  cases document <;> simp [Json.asObject]

/-- A node is governed by itself, or as a reference by what its key is bound to, and in either case
by something that states a kind. -/
theorem resolve_eq_ok_iff {node descriptor : Fields} {key path : String} {scope : Scope}
    {kind : Kind} :
    (resolve node key scope path).outcome = .ok (descriptor, kind) ↔
      typeToken? descriptor = some (.kind kind) ∧
        (descriptor = node ∨
          typeToken? node = some .reference ∧ scope.lookup key = some (.object descriptor)) := by
  constructor
  · intro h
    obtain ⟨token, htoken, h⟩ := bind_outcome_eq_ok_iff.1 h
    rw [outcome_liftM, tokenOf_eq_ok_iff] at htoken
    cases token with
    | kind kind' =>
      obtain ⟨rfl, rfl⟩ := Prod.mk.inj (Except.ok.inj h)
      exact ⟨htoken, .inl rfl⟩
    | reference =>
      cases hfragment : scope.lookup key with
      | none =>
        simp only [hfragment] at h
        exact nomatch h
      | some fragment =>
        simp only [hfragment] at h
        obtain ⟨fields, hfields, h⟩ := bind_outcome_eq_ok_iff.1 h
        obtain ⟨token, htoken', h⟩ := bind_outcome_eq_ok_iff.1 h
        rw [outcome_liftM, asObject_eq_ok_iff] at hfields
        rw [outcome_liftM, tokenOf_eq_ok_iff] at htoken'
        cases token with
        | reference => exact nomatch h
        | kind kind' =>
          obtain ⟨rfl, rfl⟩ := Prod.mk.inj (Except.ok.inj h)
          exact ⟨htoken', .inr ⟨htoken, congrArg some hfields⟩⟩
  · rintro ⟨hkind, rfl | ⟨hreference, hlookup⟩⟩
    · exact bind_outcome_eq_ok_iff.2 ⟨_, tokenOf_eq_ok_iff.2 hkind, rfl⟩
    · refine bind_outcome_eq_ok_iff.2 ⟨_, tokenOf_eq_ok_iff.2 hreference, ?_⟩
      simp only [hlookup]
      exact bind_outcome_eq_ok_iff.2 ⟨descriptor, rfl, bind_outcome_eq_ok_iff.2
        ⟨_, tokenOf_eq_ok_iff.2 hkind, rfl⟩⟩

/-! ### What opening finds -/

/-- The scope below a node with the given descriptor. -/
def scopeBelow (scope : Scope) (descriptor : Fields) : Scope :=
  match descriptor.get? "parameters" with
  | some (.object table) => scope.overlay table
  | _ => scope

/-- What it is for a node to be opened. -/
structure Opens (scope : Scope) (parent : String) (node : Fields) (o : Opened) : Prop where
  key : node.get? "key" = some (.string o.head.key)
  path : o.path = childPath parent o.head.key
  kind : typeToken? o.descriptor = some (.kind o.kind)
  governs : o.descriptor = node ∨
    typeToken? node = some .reference ∧ scope.lookup o.head.key = some (.object o.descriptor)
  parameters : ∃ table, ∀ path, o.descriptor.object? "parameters" path = .ok table
  inner : o.inner = scopeBelow scope o.descriptor
  typeName : o.descriptor.get? "typeName" = some (.string o.head.typeName)
  parentType : ∀ path, o.descriptor.string? "parent" path = .ok o.head.parentType

theorem scopeBelow_eq {scope : Scope} {descriptor : Fields} {path : String} {table : Option Fields}
    (h : descriptor.object? "parameters" path = .ok table) :
    scopeBelow scope descriptor = (table.map scope.overlay).getD scope := by
  cases table with
  | some table =>
    rw [scopeBelow, Fields.object?_eq_ok_some_iff.1 h]
    rfl
  | none =>
    rw [scopeBelow]
    rcases Fields.present?_eq_none_iff.1 (Fields.typed?_eq_ok_none_iff.1 h) with h | h <;>
      rw [h] <;> rfl

theorem openNode_eq_ok_iff {scope : Scope} {parent : String} {node : Json} {o : Opened} :
    (openNode scope parent node).outcome = .ok o ↔
      ∃ fields, node = .object fields ∧ Opens scope parent fields o := by
  constructor
  · intro h
    obtain ⟨fields, hfields, h⟩ := bind_outcome_eq_ok_iff.1 h
    -- Each accessor that has succeeded says what the fields hold.
    obtain ⟨key, hkey, h⟩ := bind_outcome_eq_ok_iff.1 h
    obtain ⟨⟨descriptor, kind⟩, hresolve, h⟩ := bind_outcome_eq_ok_iff.1 h
    obtain ⟨table, htable, h⟩ := bind_outcome_eq_ok_iff.1 h
    obtain ⟨typeName, htypeName, h⟩ := bind_outcome_eq_ok_iff.1 h
    obtain ⟨parentType, hparentType, h⟩ := bind_outcome_eq_ok_iff.1 h
    obtain rfl := Except.ok.inj h
    obtain ⟨hkind, hgoverns⟩ := resolve_eq_ok_iff.1 hresolve
    exact ⟨fields, asObject_eq_ok_iff.1 hfields,
      { key := Fields.string_eq_ok_iff.1 hkey
        path := rfl
        kind := hkind
        governs := hgoverns
        parameters := ⟨table, Fields.typed?_path htable⟩
        inner := by rw [scopeBelow_eq htable]; cases table <;> rfl
        typeName := Fields.string_eq_ok_iff.1 htypeName
        parentType := Fields.typed?_path hparentType }⟩
  · rintro ⟨fields, rfl, h⟩
    obtain ⟨path, descriptor, kind, inner, key, typeName, parentType⟩ := o
    obtain ⟨hkey, hpath, hkind, hgoverns, ⟨table, htable⟩, hinner, htypeName, hparentType⟩ := h
    dsimp only at hpath hinner
    subst hpath hinner
    refine bind_outcome_eq_ok_iff.2 ⟨fields, rfl, bind_outcome_eq_ok_iff.2
      ⟨key, Fields.string_eq_ok_iff.2 hkey, bind_outcome_eq_ok_iff.2
        ⟨(descriptor, kind), resolve_eq_ok_iff.2 ⟨hkind, hgoverns⟩, bind_outcome_eq_ok_iff.2
          ⟨table, htable _, bind_outcome_eq_ok_iff.2
            ⟨typeName, Fields.string_eq_ok_iff.2 htypeName, bind_outcome_eq_ok_iff.2
              ⟨parentType, hparentType _, ?_⟩⟩⟩⟩⟩⟩
    rw [scopeBelow_eq (htable "")]
    cases table <;> rfl

/-- How a node is opened depends on the scope by what names are bound to, and on the place not at
all. -/
theorem Opens.congr {scope scope' : Scope} {parent : String} {node : Fields} {o : Opened}
    (h : Opens scope parent node o) (hscope : scope.lookup = scope'.lookup) (parent' : String) :
    Opens scope' parent' node
      { o with path := childPath parent' o.head.key, inner := scopeBelow scope' o.descriptor } where
  key := h.key
  path := rfl
  kind := h.kind
  governs := hscope ▸ h.governs
  parameters := h.parameters
  inner := rfl
  typeName := h.typeName
  parentType := h.parentType

/-! ### The governing list -/

/-- Which list governs an object, and what it holds. The other list is looked at, too, but only for
what it is not. -/
theorem declaredChildren_eq_ok_iff {fields : Fields} {path : String} {multiplicity : Multiplicity}
    {items : List Json} :
    declaredChildren fields path = .ok (multiplicity, items) ↔
      (multiplicity = .oneOf ∧ fields.present? "one_of" = some (.array items) ∧
        ∃ anyOf, fields.array? "any_of" path = .ok anyOf) ∨
      (multiplicity = .anyOf ∧ fields.present? "one_of" = none ∧
        fields.present? "any_of" = some (.array items)) ∨
      (multiplicity = .none ∧ fields.present? "one_of" = none ∧ fields.present? "any_of" = none ∧
        items = []) := by
  constructor
  · intro h
    obtain ⟨oneOf, hone, h⟩ := bind_eq_ok_iff.1 h
    obtain ⟨anyOf, hany, h⟩ := bind_eq_ok_iff.1 h
    cases oneOf with
    | some ones =>
      obtain ⟨rfl, rfl⟩ := Prod.mk.inj (Except.ok.inj h)
      exact .inl ⟨rfl, Fields.array?_eq_ok_some_iff_present?.1 hone, anyOf, hany⟩
    | none =>
      have habsent := Fields.typed?_eq_ok_none_iff.1 hone
      cases anyOf with
      | some anys =>
        obtain ⟨rfl, rfl⟩ := Prod.mk.inj (Except.ok.inj h)
        exact .inr (.inl ⟨rfl, habsent, Fields.array?_eq_ok_some_iff_present?.1 hany⟩)
      | none =>
        obtain ⟨rfl, rfl⟩ := Prod.mk.inj (Except.ok.inj h)
        exact .inr (.inr ⟨rfl, habsent, Fields.typed?_eq_ok_none_iff.1 hany, rfl⟩)
  · rintro (⟨rfl, hone, anyOf, hany⟩ | ⟨rfl, hone, hany⟩ | ⟨rfl, hone, hany, rfl⟩)
    · exact bind_eq_ok_iff.2 ⟨some items, Fields.array?_eq_ok_some_iff_present?.2 hone,
        bind_eq_ok_iff.2 ⟨anyOf, hany, rfl⟩⟩
    · exact bind_eq_ok_iff.2 ⟨none, Fields.typed?_eq_ok_none_iff.2 hone,
        bind_eq_ok_iff.2 ⟨some items, Fields.array?_eq_ok_some_iff_present?.2 hany, rfl⟩⟩
    · exact bind_eq_ok_iff.2 ⟨none, Fields.typed?_eq_ok_none_iff.2 hone,
        bind_eq_ok_iff.2 ⟨none, Fields.typed?_eq_ok_none_iff.2 hany, rfl⟩⟩

/-! ### Required children -/

theorem requiredFlag_object_eq_ok_iff {fields : Fields} {path : String} {required : Bool} :
    requiredFlag (.object fields) path = .ok required ↔
      ∃ flag, Fields.bool? fields "required" path = .ok flag ∧ flag.getD false = required := by
  rw [requiredFlag]
  cases Fields.bool? fields "required" path with
  | error e => exact ⟨nofun, nofun⟩
  | ok flag => simp [Except.map]

/-- A child is required just if its node says so. -/
theorem eq_true_iff_of_requiredFlag {fields : Fields} {path : String} {required : Bool}
    (h : requiredFlag (.object fields) path = .ok required) :
    required = true ↔ fields.get? "required" = some (.bool true) := by
  obtain ⟨flag, hflag, rfl⟩ := requiredFlag_object_eq_ok_iff.1 h
  cases flag with
  | none =>
    have habsent := Fields.present?_eq_none_iff.1 (Fields.typed?_eq_ok_none_iff.1 hflag)
    rcases habsent with habsent | habsent <;> simp [habsent]
  | some b => simp [Fields.bool?_eq_ok_some_iff.1 hflag]

/-! ### Situations -/

/-- A node as a descent comes to it. -/
structure Situation where
  scope : Scope
  parent : String
  node : Json

namespace Situation

/-- A descent goes on from one situation to the other. -/
def Leads (s t : Situation) : Prop :=
  ∃ o source, (openNode s.scope s.parent s.node).outcome = .ok o ∧ o.kind = .object ∧
    readShape o.descriptor o.path = .ok source ∧ t.node ∈ source.below ∧
    t.scope = o.inner ∧ t.parent = o.path

/-- A descent that sets out from one situation comes to the other. -/
def ComesTo : Situation → Situation → Prop := Relation.ReflTransGen Leads

end Situation

end ClientSynthesis.Body
