import ClientSynthesis.Proofs.Body.EndlessDescent

/-!
# Interpretations without an end

A registry that takes in an elaboration notices that it is cut off unless there is a conflict
before. So an interpretation that ends in `endlessExpansion` has no end, with however many levels,
and one that ends otherwise ends the same with more of them (`sameEnd_interpret`). The number of
levels that `Body.elaborate` begins with is therefore of no account; two documents may differ in it.
-/

namespace ClientSynthesis.Assembly

open Body (CutOff Elaborated Element Extends Scope Situation contribution elaborateAt levelBound)
open Report (Traced)

variable {α : Type}

/-- The interpretation comes to no end. -/
def Interpretation.Endless (i : Interpretation α) : Prop :=
  ∃ path, i.outcome = .error (.endlessExpansion path)

/-- Interpretations that are the same, unless neither has an end. -/
def Interpretation.SameEnd (i j : Interpretation α) : Prop := i = j ∨ i.Endless ∧ j.Endless

namespace Interpretation.SameEnd

variable {i j k : Interpretation α}

theorem symm (h : i.SameEnd j) : j.SameEnd i := h.imp Eq.symm And.symm

theorem trans (hij : i.SameEnd j) (hjk : j.SameEnd k) : i.SameEnd k := by
  rcases hij with rfl | ⟨hi, hj⟩
  · exact hjk
  · rcases hjk with rfl | ⟨-, hk⟩
    · exact .inr ⟨hi, hj⟩
    · exact .inr ⟨hi, hk⟩

end Interpretation.SameEnd

namespace Registry

variable {r : Registry} {x y : Elaborated α}

/-- Taking in comes to no end if the elaboration is cut off and nothing conflicts before. -/
theorem endless_takeIn_iff :
    (r.takeIn x).Endless ↔ CutOff x ∧ Unambiguous (r.content ∪ contribution x) := by
  constructor
  · rintro ⟨path, hpath⟩
    have hunamb : Unambiguous (r.content ∪ contribution x) :=
      unambiguous_of_not_conflict fun _ hconflict ↦ nomatch hpath.symm.trans hconflict
    exact ⟨⟨path, (takeIn_of_unambiguous hunamb).2 ▸ hpath⟩, hunamb⟩
  · rintro ⟨⟨path, hpath⟩, hunamb⟩
    exact ⟨path, (takeIn_of_unambiguous hunamb).2.trans hpath⟩

/-- Behind a conflict nothing is taken in. -/
theorem takeInSteps_append_of_error {steps : List Body.Step} {e : Descriptor.Error}
    (h : (r.takeInSteps steps).outcome = .error e) (more : List Body.Step) :
    r.takeInSteps (steps ++ more) = r.takeInSteps steps := by
  induction steps generalizing r with
  | nil => exact nomatch h
  | cons step rest ih =>
    cases step with
    | report event =>
      rw [takeInSteps] at h
      rw [List.cons_append, takeInSteps, takeInSteps, ih h]
    | define d =>
      rw [takeInSteps] at h
      rw [List.cons_append, takeInSteps, takeInSteps]
      cases hreg : r.register d with
      | error e => rfl
      | ok after =>
        rw [hreg] at h
        dsimp only at h ⊢
        rw [ih h]

theorem takeIn_eq_or_endless (h : Extends x y) :
    r.takeIn x = r.takeIn y ∨ (r.takeIn x).Endless := by
  rcases h with rfl | ⟨⟨path, hpath⟩, more, hmore⟩
  · exact .inl rfl
  · cases htaken : (r.takeInSteps x.trace).outcome with
    | ok _ =>
      refine .inr ⟨path, ?_⟩
      rw [takeIn_eq]
      dsimp only
      rw [htaken, hpath]
      rfl
    | error e =>
      refine .inl ?_
      rw [takeIn_eq, takeIn_eq, ← hmore, takeInSteps_append_of_error htaken]
      dsimp only
      rw [htaken]
      rfl

/-- **With more levels than the bound, a node is interpreted the same, or both ways without an
end.** -/
theorem sameEnd_interpret (r : Registry) (scope : Scope) (node : Json) {levels : Nat}
    (h : levelBound scope node ≤ levels) :
    (r.interpret scope node).SameEnd (r.takeIn (elaborateAt levels scope "" node)) := by
  have hextends := Body.extends_elaborateAt h scope "" node
  rcases takeIn_eq_or_endless (r := r) hextends with heq | hendless
  · exact .inl heq
  · refine .inr ⟨hendless, endless_takeIn_iff.2 ?_⟩
    obtain ⟨hcut, hunamb⟩ := endless_takeIn_iff.1 hendless
    have hstuck := Body.stuck_of_levelBound ⟨hcut, hunamb⟩ levels
    exact ⟨hstuck.cutOff, hstuck.unambiguous⟩

/-- Nodes that are elaborated alike with any number of levels are interpreted the same, or both
without an end, though each interpretation has its own number to begin with. -/
theorem sameEnd_interpret_of_elaborateAt_eq (r : Registry) {scope scope' : Scope}
    {node node' : Json}
    (h : ∀ levels, elaborateAt levels scope "" node = elaborateAt levels scope' "" node') :
    (r.interpret scope node).SameEnd (r.interpret scope' node') := by
  let levels := max (levelBound scope node) (levelBound scope' node')
  have hleft := r.sameEnd_interpret scope node (le_max_left _ _ : _ ≤ levels)
  have hright := r.sameEnd_interpret scope' node' (le_max_right _ _ : _ ≤ levels)
  rw [h levels] at hleft
  exact hleft.trans hright.symm

end Registry

end ClientSynthesis.Assembly
