import ClientSynthesis.Proofs.Body.Opening

/-!
# Where definitions come from

Whatever an elaboration defines is the definition of an element that was elaborated on the way, at a
node that the descent has visited, also if the elaboration goes on to fail (`exists_origin_visited`).
-/

namespace ClientSynthesis.Body

open Json (Fields)
open Report.Traced

/-- A node stands below an object, whatever comes of the nodes beside it. -/
def StandsBelow (descriptor : Fields) (path : String) (node : Json) : Prop :=
  ∃ container, descriptor.object? "childContainer" path = .ok container ∧
    ((container.getD []).present? "value" = some node ∨
      ∃ multiplicity items,
        declaredChildren (container.getD descriptor) path = .ok (multiplicity, items) ∧
          node ∈ items)

namespace Situation

/-- A descent enters one situation from the other. It has then found what governs the first node,
but need not get through with it, which is the difference to `Leads`. -/
def Enters (s t : Situation) : Prop :=
  ∃ o, (openNode s.scope s.parent s.node).outcome = .ok o ∧ o.kind = .object ∧
    StandsBelow o.descriptor o.path t.node ∧ t.scope = o.inner ∧ t.parent = o.path

/-- A descent that sets out from one situation enters the other at some time. -/
def Visits : Situation → Situation → Prop := Relation.ReflTransGen Enters

end Situation

theorem mem_definitions_elaborateShape {elaborateChild : Json → Elaborated Element}
    {descriptor : Fields} {path : String} {d : Definition}
    (h : d ∈ definitions (elaborateShape elaborateChild descriptor path)) :
    ∃ node, StandsBelow descriptor path node ∧ d ∈ definitions (elaborateChild node) := by
  rw [elaborateShape_eq] at h
  rcases mem_definitions_bind h with h | ⟨container, hcontainer, h⟩
  · exact nomatch h
  rcases mem_definitions_bind h with h | ⟨containerKey, -, h⟩
  · exact nomatch h
  rcases mem_definitions_bind h with h | ⟨value, -, h⟩
  · cases hvalue : (container.getD []).present? "value" with
    | none =>
      rw [hvalue] at h
      exact nomatch h
    | some node =>
      rw [hvalue, Option.mapM_some, map_eq_pure_bind] at h
      rcases mem_definitions_bind h with h | ⟨e, -, h⟩
      · exact ⟨node, ⟨container, hcontainer, .inl hvalue⟩, h⟩
      · exact nomatch h
  rcases mem_definitions_bind h with h | ⟨⟨multiplicity, items⟩, hdeclared, h⟩
  · exact nomatch h
  rcases mem_definitions_bind h with h | ⟨children, -, h⟩
  · obtain ⟨item, hitem, h⟩ := mem_definitions_mapM h
    rcases mem_definitions_bind h with h | ⟨required, -, h⟩
    · exact nomatch h
    rcases mem_definitions_bind h with h | ⟨e, -, h⟩
    · exact ⟨item, ⟨container, hcontainer, .inr ⟨multiplicity, items, hdeclared, hitem⟩⟩, h⟩
    · exact nomatch h
  · rw [definitions_closeShape] at h
    exact nomatch h

/-- Filling a node defines nothing but what is defined below it. -/
theorem mem_definitions_fillNode {elaborateChild : Json → Elaborated Element} {o : Opened}
    {d : Definition} (h : d ∈ definitions (fillNode elaborateChild o)) :
    o.kind = .object ∧
      ∃ node, StandsBelow o.descriptor o.path node ∧ d ∈ definitions (elaborateChild node) := by
  unfold fillNode at h
  split at h
  · next hkind =>
    rcases mem_definitions_bind h with h | ⟨shape, -, h⟩
    · exact ⟨hkind, mem_definitions_elaborateShape h⟩
    · exact nomatch h
  · rcases mem_definitions_bind h with h | ⟨options, -, h⟩ <;> exact nomatch h
  · exact nomatch h

/-- **What is defined in a descent, even in one that fails, is the definition of an element that has
been elaborated**, at a node that the descent has visited. -/
theorem exists_origin_visited {levels : Nat} {scope : Scope} {parent : String} {node : Json}
    {d : Definition} (h : d ∈ definitions (elaborateAt levels scope parent node)) :
    ∃ levels t e path, Situation.Visits ⟨scope, parent, node⟩ t ∧
      (elaborateAt levels t.scope t.parent t.node).outcome = .ok e ∧
      Definition.ofElement? e path = .ok (some d) := by
  induction levels generalizing scope parent node with
  | zero => exact nomatch h
  | succ levels ih =>
    have hsucc := elaborateAt_succ levels scope parent node
    rw [hsucc] at h
    rcases mem_definitions_bind h with h | ⟨o, hopen, h⟩
    · rw [definitions_openNode] at h
      exact nomatch h
    rcases mem_definitions_bind h with h | ⟨e, hfill, h⟩
    · obtain ⟨hkind, child, hstands, h⟩ := mem_definitions_fillNode h
      obtain ⟨levels', t, e, path, hvisits, horigin⟩ := ih h
      have henters : Situation.Enters ⟨scope, parent, node⟩ ⟨o.inner, o.path, child⟩ :=
        ⟨o, hopen, hkind, hstands, rfl, rfl⟩
      exact ⟨levels', t, e, path, .head henters hvisits, horigin⟩
    · have hdefines := mem_definitions_closeNode.1 h
      refine ⟨levels + 1, ⟨scope, parent, node⟩, e, o.path, .refl, ?_, hdefines⟩
      rw [hsucc]
      exact bind_outcome_eq_ok_iff.2 ⟨o, hopen, bind_outcome_eq_ok_iff.2
        ⟨e, hfill, closeNode_outcome_eq_ok_iff.2 ⟨rfl, _, hdefines⟩⟩⟩

end ClientSynthesis.Body
