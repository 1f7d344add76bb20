import ClientSynthesis.Assembly.Interpretation
import Mathlib.Data.Set.Function

/-!
# Registries as sets of definitions

A registry is determined by the set of its definitions (`Registry.ext_content`), and that set binds
no name twice (`Registry.unambiguous_content`). Read this way, registering is insertion into a set:
it succeeds exactly while the set stays unambiguous, and nothing else about the registry is
consulted.

Taking in an elaboration is then a union. `takeIn_of_unambiguous` gives content and outcome when the
union is unambiguous, `unambiguous_of_takeIn` says that success needs it to be. Between them the
registry that was there before shows in one way only, which is by a conflict. No order of arrival is
left in either statement, so whatever permutes or repeats definitions can be argued on sets.
-/

namespace ClientSynthesis

/-- No name is given to two of the definitions. -/
def Unambiguous (S : Set Definition) : Prop := S.InjOn Definition.name

namespace Unambiguous

variable {S T : Set Definition}

/-- Fewer definitions are no more ambiguous. -/
theorem mono (h : S ⊆ T) (hT : Unambiguous T) : Unambiguous S := Set.InjOn.mono h hT

/-- Adding a definition is harmless exactly if its name is new or bound to itself. -/
theorem insert_iff (hS : Unambiguous S) (d : Definition) :
    Unambiguous (insert d S) ↔ ∀ e ∈ S, e.name = d.name → e = d := by
  constructor
  · intro h e he hname
    exact h (Set.mem_insert_of_mem d he) (Set.mem_insert d S) hname
  · rintro h a (rfl | ha) b (rfl | hb) hname
    · rfl
    · exact (h b hb hname.symm).symm
    · exact h a ha hname
    · exact hS ha hb hname

end Unambiguous

/-! ### What an elaboration defines -/

namespace Body

/-- The definition that a step brings, if it brings one. -/
def Step.definition? : Step → Option Definition
  | .define d => some d
  | .report _ => none

/-- The definitions of an elaboration, in the order they arise. -/
def definitions {α : Type} (x : Elaborated α) : List Definition :=
  x.trace.filterMap Step.definition?

variable {α β : Type}

@[simp] theorem definitions_done (outcome : Except Descriptor.Error α) :
    definitions (.done outcome : Elaborated α) = [] := rfl

@[simp] theorem definitions_report (event : Report.Event) (rest : Unit → Elaborated α) :
    definitions (.item (.report event) rest) = definitions (rest ()) := rfl

@[simp] theorem definitions_define (d : Definition) (rest : Unit → Elaborated α) :
    definitions (.item (.define d) rest) = d :: definitions (rest ()) := rfl

/-- The definitions of an elaboration as a set. -/
def contribution (x : Elaborated α) : Set Definition := {d | d ∈ definitions x}

end Body

namespace Assembly.Registry

open Body (Elaborated contribution definitions)
open Descriptor (Error)

variable {α : Type} {r s : Registry} {d : Definition}

/-! ### Content -/

/-- The definitions a registry holds. -/
def content (r : Registry) : Set Definition := {d | r.kinds.get? d.name = some d.kind}

theorem mem_content : d ∈ r.content ↔ r.kinds.get? d.name = some d.kind := Iff.rfl

@[simp] theorem content_empty : empty.content = ∅ := by
  ext d
  simp [mem_content, empty]

theorem unambiguous_content (r : Registry) : Unambiguous r.content := by
  intro d hd e he hname
  have hkind : some d.kind = some e.kind := by
    rw [← mem_content.1 hd, ← mem_content.1 he, hname]
  cases d; cases e
  simp_all

/-- Registries that hold the same definitions are the same. -/
theorem ext_content (h : r.content = s.content) : r = s := by
  refine ext (NameMap.ext_get? fun name ↦ ?_)
  have hiff : ∀ kind, r.kinds.get? name = some kind ↔ s.kinds.get? name = some kind :=
    fun kind ↦ Set.ext_iff.1 h ⟨name, kind⟩
  exact Option.ext hiff

/-! ### Registering is insertion -/

theorem status_eq_fresh_iff : r.status d = .fresh ↔ r.kinds.get? d.name = none := by
  unfold status
  cases r.kinds.get? d.name with
  | none => simp
  | some kind => by_cases h : kind = d.kind <;> simp [h]

theorem status_eq_known_iff : r.status d = .known ↔ d ∈ r.content := by
  rw [mem_content]
  unfold status
  cases r.kinds.get? d.name with
  | none => simp
  | some kind => by_cases h : kind = d.kind <;> simp [h]

theorem status_eq_conflicting_iff :
    r.status d = .conflicting ↔ ∃ e ∈ r.content, e.name = d.name ∧ e ≠ d := by
  constructor
  · intro h
    cases hkind : r.kinds.get? d.name with
    | none => exact nomatch (status_eq_fresh_iff.2 hkind).symm.trans h
    | some kind =>
      refine ⟨⟨d.name, kind⟩, hkind, rfl, fun heq ↦ ?_⟩
      exact nomatch (status_eq_known_iff.2 (heq ▸ hkind)).symm.trans h
  · rintro ⟨e, he, hname, hne⟩
    cases hstatus : r.status d with
    | fresh =>
      have hbound := mem_content.1 he
      rw [hname, status_eq_fresh_iff.1 hstatus] at hbound
      exact nomatch hbound
    | known =>
      exact absurd (r.unambiguous_content he (status_eq_known_iff.1 hstatus) hname) hne
    | conflicting => rfl

/-- Registering that succeeds adds the definition and leaves the others. -/
theorem content_of_register_ok {event : Report.Event} (h : r.register d = .ok (s, event)) :
    s.content = insert d r.content := by
  cases hstatus : r.status d with
  | fresh =>
    obtain ⟨rfl, -⟩ := Prod.mk.inj (Except.ok.inj ((register_of_fresh hstatus).symm.trans h))
    have hfree := status_eq_fresh_iff.1 hstatus
    ext ⟨name, kind⟩
    rw [Set.mem_insert_iff, mem_content, mem_content, NameMap.get?_insert]
    by_cases hname : name = d.name
    · subst hname
      rw [if_pos rfl, hfree]
      cases d
      simp [eq_comm]
    · rw [if_neg hname]
      exact ⟨.inr, fun h ↦ h.resolve_left fun heq ↦ hname (heq ▸ rfl)⟩
  | known =>
    obtain ⟨rfl, -⟩ := Prod.mk.inj (Except.ok.inj ((register_of_known hstatus).symm.trans h))
    exact (Set.insert_eq_of_mem (status_eq_known_iff.1 hstatus)).symm
  | conflicting => exact nomatch (register_of_conflicting hstatus).symm.trans h

/-- Registering fails only for a definition whose name stands for another one. -/
theorem not_unambiguous_of_register_error {e : Error} (h : r.register d = .error e) :
    ¬ Unambiguous (insert d r.content) := by
  rw [Unambiguous.insert_iff r.unambiguous_content]
  intro hall
  cases hstatus : r.status d with
  | fresh => exact nomatch (register_of_fresh hstatus).symm.trans h
  | known => exact nomatch (register_of_known hstatus).symm.trans h
  | conflicting =>
    obtain ⟨other, hother, hname, hne⟩ := status_eq_conflicting_iff.1 hstatus
    exact hne (hall other hother hname)

/-! ### Taking in is union -/

/-- Whatever does not conflict is taken in whole, and then the outcome is that of the
elaboration. -/
theorem takeIn_of_unambiguous {x : Elaborated α}
    (h : Unambiguous (r.content ∪ contribution x)) :
    (r.takeIn x).registry.content = r.content ∪ contribution x ∧
      (r.takeIn x).outcome = x.outcome := by
  induction x generalizing r with
  | done outcome => exact ⟨by simp [takeIn, contribution], rfl⟩
  | item step rest ih =>
    cases step with
    | report event => exact ih () h
    | define d =>
      -- To take in a definition and then the rest is to take in both, as far as sets go.
      have hunion : r.content ∪ contribution (.item (.define d) rest) =
          insert d r.content ∪ contribution (rest ()) := by
        ext e
        simp only [contribution, Body.definitions_define, Set.mem_union, Set.mem_insert_iff,
          Set.mem_ofPred_eq, List.mem_cons]
        tauto
      rw [hunion] at h ⊢
      cases hreg : r.register d with
      | error e =>
        exact absurd (h.mono Set.subset_union_left) (not_unambiguous_of_register_error hreg)
      | ok after =>
        rw [takeIn, hreg]
        have hcontent : after.1.content = insert d r.content := content_of_register_ok hreg
        rw [← hcontent] at h ⊢
        exact ih () h

theorem conflict_of_register_error {e : Error} (h : r.register d = .error e) :
    e = .nameConflict d.name := by
  cases hstatus : r.status d with
  | fresh => exact nomatch (register_of_fresh hstatus).symm.trans h
  | known => exact nomatch (register_of_known hstatus).symm.trans h
  | conflicting => exact (Except.error.inj ((register_of_conflicting hstatus).symm.trans h)).symm

/-- An elaboration that is taken in without a conflict conflicts neither with the registry nor with
itself. -/
theorem unambiguous_of_not_conflict {x : Elaborated α}
    (h : ∀ name, (r.takeIn x).outcome ≠ .error (.nameConflict name)) :
    Unambiguous (r.content ∪ contribution x) := by
  induction x generalizing r with
  | done outcome => simpa [contribution] using r.unambiguous_content
  | item step rest ih =>
    cases step with
    | report event => exact ih () h
    | define d =>
      cases hreg : r.register d with
      | error e =>
        rw [takeIn, hreg, conflict_of_register_error hreg] at h
        exact absurd rfl (h d.name)
      | ok after =>
        rw [takeIn, hreg] at h
        have hafter := ih () h
        rw [content_of_register_ok hreg] at hafter
        refine hafter.mono ?_
        rintro e (he | he)
        · exact .inl (.inr he)
        · rcases List.mem_cons.1 he with rfl | he
          · exact .inl (.inl rfl)
          · exact .inr he

theorem unambiguous_of_takeIn {x : Elaborated α} {a : α} (h : (r.takeIn x).outcome = .ok a) :
    Unambiguous (r.content ∪ contribution x) :=
  unambiguous_of_not_conflict fun _ hconflict ↦ nomatch h.symm.trans hconflict

/-- Success of an elaboration in a registry: it succeeds by itself, and nothing conflicts. -/
theorem takeIn_outcome_eq_ok_iff {x : Elaborated α} {a : α} :
    (r.takeIn x).outcome = .ok a ↔
      x.outcome = .ok a ∧ Unambiguous (r.content ∪ contribution x) := by
  constructor
  · intro h
    have hunamb := unambiguous_of_takeIn h
    exact ⟨(takeIn_of_unambiguous hunamb).2 ▸ h, hunamb⟩
  · rintro ⟨hok, hunamb⟩
    rw [(takeIn_of_unambiguous hunamb).2, hok]

end Assembly.Registry

end ClientSynthesis
