import ClientSynthesis.Proofs.Body.Comparison
import ClientSynthesis.Proofs.Json.Census
import Mathlib.Data.Set.Card
import Mathlib.Order.Interval.Finset.Nat

/-!
# The bound on expansions

A descent that has an end at all has it within `levelBound` levels (`agrees_levelBound`), so the
bound only ever cuts off what has no end.

The argument counts situations by the levels they take (`Situation.Takes`). Where a situation takes
some number of levels, the descent comes to situations that take every smaller number. But what a
situation takes is determined by its node and by what the names are bound to there, and there are
only as many choices of these as there are objects in the documents, times the sets of their fields.
-/

namespace ClientSynthesis.Body

open Json (Fields Part)
open Report (bind_eq_ok_iff)
open Report.Traced

namespace Situation

variable {s t : Situation} {levels more n m : Nat}

/-! ### The levels a situation takes -/

/-- A descent from the situation ends well within the given number of levels. -/
def Ends (levels : Nat) (s : Situation) : Prop :=
  ∃ e, (elaborateAt levels s.scope s.parent s.node).outcome = .ok e

/-- A descent from the situation goes exactly so many levels below it. -/
def Takes (n : Nat) (s : Situation) : Prop := s.Ends (n + 1) ∧ ¬ s.Ends n

theorem Ends.mono (h : s.Ends levels) (hle : levels ≤ more) : s.Ends more := by
  obtain ⟨e, he⟩ := h
  exact ⟨e, (agrees_of_le hle _ _ _ e he).1⟩

/-- Only the node counts, and what names are bound to. -/
theorem Ends.congr (hnode : s.node = t.node) (hscope : s.scope.lookup = t.scope.lookup)
    (h : s.Ends levels) : t.Ends levels := by
  obtain ⟨e, he⟩ := h
  refine ⟨e, ?_⟩
  rw [← hnode]
  exact (agrees_of_lookup_eq hscope levels s.parent t.parent s.node e he).1

theorem Takes.congr (hnode : s.node = t.node) (hscope : s.scope.lookup = t.scope.lookup)
    (h : s.Takes n) : t.Takes n :=
  ⟨h.1.congr hnode hscope, fun ht ↦ h.2 (ht.congr hnode.symm hscope.symm)⟩

theorem Takes.unique (hm : s.Takes m) (hn : s.Takes n) : m = n := by
  refine le_antisymm ?_ ?_
  · exact Nat.le_of_not_lt fun hlt ↦ hm.2 (hn.1.mono hlt)
  · exact Nat.le_of_not_lt fun hlt ↦ hn.2 (hm.1.mono hlt)

theorem exists_takes (h : s.Ends levels) : ∃ n, s.Takes n := by
  induction levels with
  | zero => exact nomatch h.choose_spec
  | succ levels ih =>
    by_cases hless : s.Ends levels
    · exact ih hless
    · exact ⟨levels, h, hless⟩

/-- The last of the levels a situation takes is taken by one that it leads to. -/
theorem Takes.exists_leads (h : s.Takes (n + 1)) : ∃ t, s.Leads t ∧ t.Takes n := by
  by_contra hnone
  obtain ⟨e, he⟩ := h.1
  refine h.2 ⟨e, (agrees_level (fun o hopen ↦ ⟨o, id, hopen, .refl o, ?_⟩) e he).1⟩
  intro hkind source hsource child hchild
  refine .of_agrees fun e' he' ↦ ?_
  -- The child ends one level earlier, or it would be the situation that is not there.
  have hends : Ends n ⟨o.inner, o.path, child⟩ := by
    by_contra hlate
    exact hnone ⟨⟨o.inner, o.path, child⟩, ⟨o, source, hopen, hkind, hsource, hchild, rfl, rfl⟩,
      ⟨e', he'⟩, hlate⟩
  obtain ⟨e'', he''⟩ := hends
  exact (agrees_of_le (Nat.le_succ n) o.inner o.path child).of_ok he'' e' he'

/-- Every number of levels up to the one a situation takes is taken by one that the descent comes
to. -/
theorem Takes.exists_comesTo (h : s.Takes n) (hm : m ≤ n) : ∃ t, s.ComesTo t ∧ t.Takes m := by
  induction n generalizing s with
  | zero =>
    obtain rfl := Nat.le_zero.1 hm
    exact ⟨s, .refl, h⟩
  | succ n ih =>
    rcases Nat.le_succ_iff.1 hm with hm | rfl
    · obtain ⟨t, hleads, ht⟩ := h.exists_leads
      obtain ⟨u, hcomes, hu⟩ := ih ht hm
      exact ⟨u, .head hleads hcomes, hu⟩
    · exact ⟨s, .refl, h⟩

/-! ### What a descent is made of -/

/-- The node and the bindings are parts of the documents. -/
structure DrawnFrom (documents : List Json) (s : Situation) : Prop where
  node : Part documents s.node
  table : ∀ table ∈ s.scope.tables, Part documents (.object table)

end Situation

variable {documents : List Json}

theorem part_of_lookup {scope : Scope} (h : ∀ table ∈ scope.tables, Part documents (.object table))
    {name : String} {v : Json} (hlookup : scope.lookup name = some v) :
    ∃ table : Fields, Part documents (.object table) ∧ table.get? name = some v := by
  obtain ⟨table, htable, hget⟩ := List.exists_of_findSome?_eq_some hlookup
  exact ⟨table, h table htable, hget⟩

theorem part_of_opens {scope : Scope} {parent : String} {node : Fields} {o : Opened}
    (h : Opens scope parent node o) (hnode : Part documents (.object node))
    (hscope : ∀ table ∈ scope.tables, Part documents (.object table)) :
    Part documents (.object o.descriptor) := by
  rcases h.governs with hself | ⟨-, hlookup⟩
  · rw [hself]
    exact hnode
  · obtain ⟨table, htable, hget⟩ := part_of_lookup hscope hlookup
    exact htable.field hget

theorem part_scopeBelow {scope : Scope} {descriptor : Fields}
    (hdescriptor : Part documents (.object descriptor))
    (hscope : ∀ table ∈ scope.tables, Part documents (.object table)) :
    ∀ table ∈ (scopeBelow scope descriptor).tables, Part documents (.object table) := by
  unfold scopeBelow
  split
  · next table hget =>
    intro table' htable'
    rcases List.mem_cons.1 htable' with rfl | htable'
    · exact hdescriptor.field hget
    · exact hscope table' htable'
  · exact hscope

theorem part_of_mem_children {fields : Fields} {path : String} {multiplicity : Multiplicity}
    {items : List Json} (h : declaredChildren fields path = .ok (multiplicity, items))
    (hfields : Part documents (.object fields)) {item : Json} (hitem : item ∈ items) :
    Part documents item := by
  have hget : ∀ key, fields.present? key = some (.array items) → Part documents item :=
    fun key hpresent ↦ (hfields.field (Fields.present?_eq_some_iff.1 hpresent).1).item hitem
  rcases declaredChildren_eq_ok_iff.1 h with ⟨-, hone, -⟩ | ⟨-, -, hany⟩ | ⟨-, -, -, rfl⟩
  · exact hget "one_of" hone
  · exact hget "any_of" hany
  · exact nomatch hitem

theorem part_of_mem_below {descriptor : Fields} {path : String} {source : ShapeSource}
    (h : readShape descriptor path = .ok source) (hdescriptor : Part documents (.object descriptor))
    {node : Json} (hnode : node ∈ source.below) : Part documents node := by
  obtain ⟨container, hcontainer, h⟩ := bind_eq_ok_iff.1 h
  obtain ⟨containerKey, -, h⟩ := bind_eq_ok_iff.1 h
  obtain ⟨⟨multiplicity, items⟩, hchildren, h⟩ := bind_eq_ok_iff.1 h
  obtain rfl := Except.ok.inj h
  cases container with
  | none =>
    have hitem : node ∈ items := by simpa [ShapeSource.below, Fields.present?] using hnode
    exact part_of_mem_children hchildren hdescriptor hitem
  | some container =>
    have hpart := hdescriptor.field (Fields.object?_eq_ok_some_iff.1 hcontainer)
    rcases List.mem_append.1 hnode with hvalue | hitem
    · have hget := (Fields.present?_eq_some_iff.1 (Option.mem_toList.1 hvalue)).1
      exact hpart.field hget
    · exact part_of_mem_children hchildren hpart hitem

namespace Situation

variable {s t : Situation}

theorem DrawnFrom.leads (hs : s.DrawnFrom documents) (h : s.Leads t) : t.DrawnFrom documents := by
  obtain ⟨o, source, hopen, -, hsource, hnode, hscope, -⟩ := h
  obtain ⟨fields, hobject, hopens⟩ := openNode_eq_ok_iff.1 hopen
  have hdescriptor := part_of_opens hopens (hobject ▸ hs.node) hs.table
  refine ⟨part_of_mem_below hsource hdescriptor hnode, ?_⟩
  rw [hscope, hopens.inner]
  exact part_scopeBelow hdescriptor hs.table

/-- A descent meets nothing but parts of the documents it starts with. -/
theorem DrawnFrom.comesTo (hs : s.DrawnFrom documents) (h : s.ComesTo t) :
    t.DrawnFrom documents := by
  induction h with
  | refl => exact hs
  | tail _ hleads ih => exact ih.leads hleads

/-! ### Counting situations -/

/-- The bindings that a scope makes with the given fields. -/
def bindings (entries : List (String × Json)) (s : Situation) : Set (String × Json) :=
  {entry | entry ∈ entries ∧ s.scope.lookup entry.1 = some entry.2}

theorem DrawnFrom.mem_bindings (hs : s.DrawnFrom documents) {name : String} {v : Json} :
    (name, v) ∈ s.bindings (documents.flatMap Json.fieldsWithin) ↔
      s.scope.lookup name = some v := by
  refine ⟨And.right, fun h ↦ ⟨?_, h⟩⟩
  obtain ⟨table, htable, hget⟩ := part_of_lookup hs.table h
  exact htable.mem_fieldsWithin hget

theorem DrawnFrom.lookup_eq (hs : s.DrawnFrom documents) (ht : t.DrawnFrom documents)
    (h : s.bindings (documents.flatMap Json.fieldsWithin) =
      t.bindings (documents.flatMap Json.fieldsWithin)) :
    s.scope.lookup = t.scope.lookup := by
  funext name
  refine Option.ext fun v ↦ ?_
  rw [← hs.mem_bindings, ← ht.mem_bindings, h]

/-- A situation in which a descent ends well has an object for a node. -/
theorem DrawnFrom.mem_objects (hs : s.DrawnFrom documents) {levels : Nat} (h : s.Ends levels) :
    s.node ∈ documents.flatMap Json.objectsWithin := by
  obtain ⟨e, he⟩ := h
  cases levels with
  | zero => exact nomatch he
  | succ levels =>
    rw [elaborateAt_succ] at he
    obtain ⟨o, hopen, -⟩ := bind_outcome_eq_ok_iff.1 he
    obtain ⟨fields, hobject, -⟩ := openNode_eq_ok_iff.1 hopen
    have hnode := hs.node
    rw [hobject] at hnode ⊢
    exact hnode.mem_objectsWithin

theorem ncard_mem_le {α : Type} (xs : List α) : {x | x ∈ xs}.ncard ≤ xs.length := by
  classical
  have hcoe : {x | x ∈ xs} = (xs.toFinset : Set α) := by
    ext x
    simp
  rw [hcoe, Set.ncard_coe_finset]
  exact xs.toFinset_card_le

/-- Situations that are told apart by node and bindings are no more than there are objects, times the
sets of fields. -/
theorem lt_of_distinct {u : Nat → Situation} {n : Nat} (hdrawn : ∀ m ≤ n, (u m).DrawnFrom documents)
    (hobject : ∀ m ≤ n, (u m).node ∈ documents.flatMap Json.objectsWithin)
    (hdistinct : ∀ m ≤ n, ∀ m' ≤ n, (u m).node = (u m').node →
      (u m).scope.lookup = (u m').scope.lookup → m = m') :
    n < (documents.flatMap Json.objectsWithin).length *
      2 ^ (documents.flatMap Json.fieldsWithin).length := by
  let objects : Set Json := {d | d ∈ documents.flatMap Json.objectsWithin}
  let entries : Set (String × Json) := {p | p ∈ documents.flatMap Json.fieldsWithin}
  have hobjects : objects.Finite := List.finite_toSet _
  have hentries : entries.Finite := List.finite_toSet _
  have hmaps : ∀ m ∈ Set.Iic n, ((u m).node, (u m).bindings (documents.flatMap Json.fieldsWithin)) ∈
      objects ×ˢ entries.powerset := fun m hm ↦ ⟨hobject m hm, fun p hp ↦ hp.1⟩
  have hinjective : Set.InjOn
      (fun m ↦ ((u m).node, (u m).bindings (documents.flatMap Json.fieldsWithin))) (Set.Iic n) := by
    intro m hm m' hm' heq
    obtain ⟨hnode, hbindings⟩ := Prod.mk.inj heq
    exact hdistinct m hm m' hm' hnode ((hdrawn m hm).lookup_eq (hdrawn m' hm') hbindings)
  have hcard := Set.ncard_le_ncard_of_injOn _ hmaps hinjective
    (hobjects.prod hentries.finite_subsets)
  rw [Set.ncard_prod, Set.ncard_powerset _ hentries] at hcard
  have hIic : (Set.Iic n).ncard = n + 1 := by
    rw [Set.ncard_eq_toFinset_card', Set.toFinset_Iic, Nat.card_Iic]
  calc n < (Set.Iic n).ncard := by omega
    _ ≤ objects.ncard * 2 ^ entries.ncard := hcard
    _ ≤ _ := Nat.mul_le_mul (ncard_mem_le _) (Nat.pow_le_pow_right (by decide) (ncard_mem_le _))

/-- No situation takes as many levels as there are objects, times the sets of fields. -/
theorem Takes.lt (hs : s.DrawnFrom documents) {n : Nat} (h : s.Takes n) :
    n < (documents.flatMap Json.objectsWithin).length *
      2 ^ (documents.flatMap Json.fieldsWithin).length := by
  -- One situation for every number of levels up to `n`, told apart by node and bindings.
  have : Nonempty Situation := ⟨s⟩
  choose! u hcomes htakes using fun m (hm : m ≤ n) ↦ h.exists_comesTo hm
  have hdrawn : ∀ m ≤ n, (u m).DrawnFrom documents := fun m hm ↦ hs.comesTo (hcomes m hm)
  refine lt_of_distinct hdrawn (fun m hm ↦ (hdrawn m hm).mem_objects (htakes m hm).1) ?_
  intro m hm m' hm' hnode hlookup
  exact ((htakes m hm).congr hnode hlookup).unique (htakes m' hm')

end Situation

/-! ### The bound -/

theorem length_flatMap_eq {α : Type} (f : Json → List α) (count : Json → Nat)
    (h : ∀ d, (f d).length = count d) (documents : List Json) (n : Nat) :
    documents.foldl (fun n d ↦ n + count d) n = n + (documents.flatMap f).length := by
  induction documents generalizing n with
  | nil => rfl
  | cons d rest ih =>
    rw [List.foldl_cons, ih, List.flatMap_cons, List.length_append, h, Nat.add_assoc]

/-- The documents that an elaboration draws from. -/
def documentsOf (scope : Scope) (node : Json) : List Json := node :: scope.tables.map Json.object

theorem levelBound_eq (scope : Scope) (node : Json) :
    levelBound scope node = (((documentsOf scope node).flatMap Json.objectsWithin).length + 1) *
      2 ^ ((documentsOf scope node).flatMap Json.fieldsWithin).length := by
  rw [levelBound]
  rw [length_flatMap_eq Json.objectsWithin _ Json.length_objectsWithin,
    length_flatMap_eq Json.fieldsWithin _ Json.length_fieldsWithin, Nat.zero_add, Nat.zero_add]
  rfl

/-- What an elaboration begins with is drawn from its documents. -/
theorem drawnFrom_documentsOf (scope : Scope) (parent : String) (node : Json) :
    Situation.DrawnFrom (documentsOf scope node) ⟨scope, parent, node⟩ where
  node := .document List.mem_cons_self
  table := fun _ htable ↦ .document (List.mem_cons_of_mem _ (List.mem_map_of_mem htable))

theorem ends_levelBound {scope : Scope} {parent : String} {node : Json} {levels : Nat}
    (h : Situation.Ends levels ⟨scope, parent, node⟩) :
    Situation.Ends (levelBound scope node) ⟨scope, parent, node⟩ := by
  obtain ⟨n, hn⟩ := Situation.exists_takes h
  refine hn.1.mono ((Nat.succ_le_of_lt (hn.lt (drawnFrom_documentsOf scope parent node))).trans ?_)
  rw [levelBound_eq]
  exact Nat.mul_le_mul_right _ (Nat.le_succ _)

/-- A descent with an end has it within the bound. -/
theorem agrees_levelBound (levels : Nat) (scope : Scope) (parent : String) (node : Json) :
    Agrees (elaborateAt levels scope parent node)
      (elaborateAt (levelBound scope node) scope parent node) := by
  intro e he
  obtain ⟨e', he'⟩ := ends_levelBound ⟨e, he⟩
  rcases Nat.le_total levels (levelBound scope node) with hle | hle
  · exact agrees_of_le hle scope parent node e he
  · exact (agrees_of_le hle scope parent node).of_ok he' e he

end ClientSynthesis.Body
