import ClientSynthesis.Proofs.Body.Calls
import ClientSynthesis.Proofs.Body.LevelBound

/-!
# Descents without an end

A descent that ends well with some number of levels does so at the bound (`agrees_levelBound`). The
bound is faithful to other descents, too. If one is cut off there and nothing that it has defined by
then is in conflict, nothing ever will be, however many levels it gets (`stuck_of_levelBound`);
whoever takes the definitions in waits for an end forever.

Again situations are counted, but now along one chain of calls, each of which inherits the
definitions that came before it. Suppose that the chain gives way with one more level, by an end or
by a conflict, and that it comes to some situation twice. The second time the situation would have
to give way earlier, with no more definitions to conflict with than the first time had in the end.
-/

namespace ClientSynthesis.Body

open Json (Fields)

namespace Situation

variable {documents : List Json} {known known' : Set Definition} {s t : Situation}
  {levels more n m : Nat} {defs : List Definition}

/-! ### Being stuck -/

/-- With so many levels, the descent is cut off before anything it defines is in conflict. -/
structure Stuck (known : Set Definition) (s : Situation) (levels : Nat) : Prop where
  cutOff : CutOff (s.descend levels)
  unambiguous : Unambiguous (known ∪ contribution (s.descend levels))

/-- With so many levels the descent is stuck, but not with one more. -/
structure GivesWay (known : Set Definition) (s : Situation) (levels : Nat) : Prop where
  stuck : s.Stuck known levels
  freed : ¬ s.Stuck known (levels + 1)

/-- What has been defined when a descent is cut off in a call. -/
theorem contribution_of_calls (h : s.Calls levels defs t) (hcut : CutOff (t.descend levels)) :
    contribution (s.descend (levels + 1)) = {d | d ∈ defs} ∪ contribution (t.descend levels) := by
  ext d
  simp only [contribution, (h.cutAfter hcut).definitions_eq, List.mem_append, Set.mem_union,
    Set.mem_ofPred_eq]

/-- To be stuck is to be stuck in a call. -/
theorem Stuck.of_calls (h : s.Calls levels defs t) (ht : t.Stuck (known ∪ {d | d ∈ defs}) levels) :
    s.Stuck known (levels + 1) := by
  refine ⟨(h.cutAfter ht.cutOff).cutOff, ?_⟩
  rw [contribution_of_calls h ht.cutOff, ← Set.union_assoc]
  exact ht.unambiguous

theorem Stuck.exists_calls (h : s.Stuck known (levels + 1)) :
    ∃ defs t, s.Calls levels defs t ∧ t.Stuck (known ∪ {d | d ∈ defs}) levels := by
  obtain ⟨defs, t, hcalls, hcut⟩ := exists_calls_of_cutOff h.cutOff
  refine ⟨defs, t, hcalls, hcut, ?_⟩
  rw [Set.union_assoc, ← contribution_of_calls hcalls hcut]
  exact h.unambiguous

theorem contribution_subset_of_le (h : levels ≤ more) (s : Situation) :
    contribution (s.descend levels) ⊆ contribution (s.descend more) :=
  (extends_elaborateAt h s.scope s.parent s.node).contribution_subset

theorem Stuck.of_le (h : s.Stuck known more) (hle : levels ≤ more) : s.Stuck known levels where
  cutOff := (extends_elaborateAt hle s.scope s.parent s.node).cutOff h.cutOff
  unambiguous :=
    h.unambiguous.mono (Set.union_subset_union_right _ (contribution_subset_of_le hle s))

theorem exists_givesWay (h : s.Stuck known levels) (hmore : ¬ s.Stuck known more) :
    ∃ n, levels ≤ n ∧ s.GivesWay known n := by
  induction more with
  | zero => exact absurd (h.of_le (Nat.zero_le _)) hmore
  | succ more ih =>
    by_cases hstuck : s.Stuck known more
    · refine ⟨more, ?_, hstuck, hmore⟩
      exact Nat.le_of_not_lt fun hlt ↦ hmore (h.of_le hlt)
    · exact ih hstuck

/-! ### What is called -/

theorem part_of_comes {elaborateChild : Json → Elaborated Element} {descriptor : Fields}
    {path : String} {way : Way} {node : Json}
    (h : Comes elaborateChild descriptor path way node defs)
    (hdescriptor : Json.Part documents (.object descriptor)) : Json.Part documents node := by
  have hcontainer : ∀ {container : Option Fields},
      descriptor.object? "childContainer" path = .ok container →
        ∀ key, (container.getD []).get? key = some node → Json.Part documents node := by
    intro container hread key hget
    cases container with
    | none => exact nomatch hget
    | some container => exact (hdescriptor.field (Fields.object?_eq_ok_some_iff.1 hread)).field hget
  cases h with
  | value hread hkey hvalue => exact hcontainer hread _ (Fields.present?_eq_some_iff.1 hvalue).1
  | @item container _ _ _ _ _ _ _ _ hread hkey hvalue hdeclared hfront hrequired =>
    refine part_of_mem_children hdeclared ?_ (List.mem_append_right _ List.mem_cons_self)
    cases container with
    | none => exact hdescriptor
    | some container => exact hdescriptor.field (Fields.object?_eq_ok_some_iff.1 hread)

/-- A call meets nothing but parts of the documents. -/
theorem DrawnFrom.calls (hs : s.DrawnFrom documents) (h : s.Calls levels defs t) :
    t.DrawnFrom documents := by
  obtain ⟨o, way, hopen, -, hcomes, hscope, -⟩ := h
  obtain ⟨fields, hobject, hopens⟩ := openNode_eq_ok_iff.1 hopen
  have hdescriptor := part_of_opens hopens (hobject ▸ hs.node) hs.table
  refine ⟨part_of_comes hcomes hdescriptor, ?_⟩
  rw [hscope, hopens.inner]
  exact part_scopeBelow hdescriptor hs.table

/-- What calls is an object. -/
theorem DrawnFrom.mem_objects_of_calls (hs : s.DrawnFrom documents) (h : s.Calls levels defs t) :
    s.node ∈ documents.flatMap Json.objectsWithin := by
  obtain ⟨o, way, hopen, -⟩ := h
  obtain ⟨fields, hobject, -⟩ := openNode_eq_ok_iff.1 hopen
  have hnode := hs.node
  rw [hobject] at hnode ⊢
  exact hnode.mem_objectsWithin

/-! ### One chain of calls -/

/-- What gives way does so by a call that gives way one level earlier. -/
theorem GivesWay.exists_calls (h : s.GivesWay known (levels + 1)) :
    ∃ defs t, s.Calls levels defs t ∧ t.GivesWay (known ∪ {d | d ∈ defs}) levels := by
  obtain ⟨defs, t, hcalls, hstuck⟩ := h.stuck.exists_calls
  refine ⟨defs, t, hcalls, hstuck, fun hmore ↦ ?_⟩
  exact h.freed (.of_calls (hcalls.mono (Nat.le_succ _)) hmore)

/-- A situation does not come again below itself, with a later call to give way. -/
theorem GivesWay.not_repeated (hs : s.GivesWay known n) (ht : t.GivesWay known' m) (hlt : m < n)
    (hknown : known' ⊆ known ∪ contribution (s.descend n)) (hnode : s.node = t.node) :
    s.scope.lookup ≠ t.scope.lookup := by
  intro hlookup
  have hcut := (hs.stuck.of_le hlt).cutOff
  have hagain := cutOff_congr hnode hlookup hcut
  refine ht.freed ⟨hagain.cutOff, hs.stuck.unambiguous.mono (Set.union_subset hknown ?_)⟩
  have hsame : contribution (t.descend (m + 1)) = contribution (s.descend (m + 1)) := by
    rw [contribution, hagain.definitions_eq]
    rfl
  rw [hsame]
  exact (contribution_subset_of_le hlt s).trans Set.subset_union_right

/-- The chain of calls along which a descent gives way, by the levels left to them. What is known to
a call is known in the end to each call before. -/
theorem GivesWay.exists_chain (h : s.GivesWay known n) (hs : s.DrawnFrom documents) :
    ∃ (k : Nat → Set Definition) (u : Nat → Situation), k n = known ∧ u n = s ∧
      (∀ m ≤ n, (u m).GivesWay (k m) m ∧ (u m).DrawnFrom documents) ∧
      ∀ m m', m < m' → m' ≤ n → k m ⊆ k m' ∪ contribution ((u m').descend m') := by
  induction n generalizing known s with
  | zero =>
    refine ⟨fun _ ↦ known, fun _ ↦ s, rfl, rfl, fun m hm ↦ ?_, fun m m' hlt hle ↦ ?_⟩
    · obtain rfl := Nat.le_zero.1 hm
      exact ⟨h, hs⟩
    · omega
  | succ n ih =>
    obtain ⟨defs, t, hcalls, ht⟩ := h.exists_calls
    obtain ⟨k, u, hk, hu, hchain, hknown⟩ := ih ht (hs.calls hcalls)
    have hstep : k n ∪ contribution ((u n).descend n) ⊆
        known ∪ contribution (s.descend (n + 1)) := by
      rw [hk, hu, contribution_of_calls hcalls ht.stuck.cutOff, Set.union_assoc]
    refine ⟨Function.update k (n + 1) known, Function.update u (n + 1) s, ?_, ?_, ?_, ?_⟩
    · exact Function.update_self ..
    · exact Function.update_self ..
    · intro m hm
      rcases Nat.le_succ_iff.1 hm with hm | rfl
      · rw [Function.update_of_ne (by omega), Function.update_of_ne (by omega)]
        exact hchain m hm
      · rw [Function.update_self, Function.update_self]
        exact ⟨h, hs⟩
    · intro m m' hlt hle
      rw [Function.update_of_ne (show m ≠ n + 1 by omega)]
      rcases Nat.le_succ_iff.1 hle with hle | rfl
      · rw [Function.update_of_ne (by omega), Function.update_of_ne (by omega)]
        exact hknown m m' hlt hle
      · rw [Function.update_self, Function.update_self]
        refine subset_trans ?_ hstep
        rcases Nat.lt_succ_iff_lt_or_eq.1 hlt with hlt | rfl
        · exact hknown m n hlt le_rfl
        · exact Set.subset_union_left

/-- A descent gives way with no more levels than there are objects, times the sets of fields. -/
theorem GivesWay.le (h : s.GivesWay known n) (hs : s.DrawnFrom documents) :
    n ≤ (documents.flatMap Json.objectsWithin).length *
      2 ^ (documents.flatMap Json.fieldsWithin).length := by
  obtain ⟨k, u, -, -, hchain, hknown⟩ := h.exists_chain hs
  cases n with
  | zero => exact Nat.zero_le _
  | succ n =>
    have hdistinct : ∀ m m', m < m' → m' ≤ n + 1 → (u m').node = (u m).node →
        (u m').scope.lookup ≠ (u m).scope.lookup := fun m m' hlt hle hnode ↦
      (hchain m' hle).1.not_repeated (hchain m (by omega)).1 hlt (hknown m m' hlt hle) hnode
    -- All situations of the chain but the last one make a call.
    refine Nat.succ_le_of_lt (lt_of_distinct (u := fun m ↦ u (m + 1)) ?_ ?_ ?_)
    · exact fun m hm ↦ (hchain (m + 1) (by omega)).2
    · intro m hm
      obtain ⟨hgives, hdrawn⟩ := hchain (m + 1) (by omega)
      obtain ⟨defs, t, hcalls, -⟩ := hgives.exists_calls
      exact hdrawn.mem_objects_of_calls hcalls
    · intro m hm m' hm' hnode hlookup
      rcases Nat.lt_trichotomy m m' with hlt | heq | hlt
      · exact absurd hlookup.symm (hdistinct _ _ (by omega) (by omega) hnode.symm)
      · exact heq
      · exact absurd hlookup (hdistinct _ _ (by omega) (by omega) hnode)

end Situation

/-- **A descent that is stuck at the bound is stuck for good.** -/
theorem stuck_of_levelBound {scope : Scope} {parent : String} {node : Json} {known : Set Definition}
    (h : Situation.Stuck known ⟨scope, parent, node⟩ (levelBound scope node)) (levels : Nat) :
    Situation.Stuck known ⟨scope, parent, node⟩ levels := by
  by_contra hfreed
  obtain ⟨n, hle, hgives⟩ := Situation.exists_givesWay h hfreed
  refine absurd (hgives.le (drawnFrom_documentsOf scope parent node)) (Nat.not_le_of_lt ?_)
  refine lt_of_lt_of_le ?_ hle
  rw [levelBound_eq]
  exact Nat.mul_lt_mul_of_pos_right (Nat.lt_succ_self _) (Nat.two_pow_pos _)

end ClientSynthesis.Body
