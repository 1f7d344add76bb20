import ClientSynthesis.Proofs.Body.Expansion
import ClientSynthesis.Proofs.Body.LevelBound

/-!
# Elaborating the expansion

A node that elaborates in its scope elaborates from its expansion in no scope at all, to the same
element and with the same definitions in the same order (`agrees_expand`). Nowhere does the second
descent come to a reference (`not_isReference_of_comesTo`).

The expansion itself is rewritten down a bounded number of levels. For a node that elaborates the
bound does not show: its expansion is made of the expansions of the nodes below it (`expand_eq`).
-/

namespace ClientSynthesis.Body

open Json (Fields)
open Report (bind_eq_ok_iff)
open Report.Traced

/-! ### Below a node that elaborates -/

/-- A node that elaborates can be opened, and the nodes below it elaborate with a level less. -/
theorem Situation.Ends.below {scope : Scope} {parent : String} {node : Json} {levels : Nat}
    (h : Situation.Ends (levels + 1) ⟨scope, parent, node⟩) :
    ∃ o, (openNode scope parent node).outcome = .ok o ∧ (o.kind = .object →
      ∃ source, readShape o.descriptor o.path = .ok source ∧
        ∀ child ∈ source.below, Situation.Ends levels ⟨o.inner, o.path, child⟩) := by
  obtain ⟨e, he⟩ := h
  dsimp only at he
  rw [elaborateAt_succ] at he
  obtain ⟨o, hopen, he⟩ := bind_outcome_eq_ok_iff.1 he
  obtain ⟨filled, hfill, -⟩ := bind_outcome_eq_ok_iff.1 he
  refine ⟨o, hopen, fun hkind ↦ ?_⟩
  rw [fillNode, hkind] at hfill
  obtain ⟨shape, hshape, -⟩ := bind_outcome_eq_ok_iff.1 hfill
  obtain ⟨source, hsource, -, hbelow⟩ := below_of_elaborateShape hshape
  exact ⟨source, hsource, hbelow⟩

theorem ShapeSource.below_map (rewrite : Json → Json) (source : ShapeSource) :
    (source.map rewrite).below = source.below.map rewrite := by
  rw [below, below, List.map_append]
  cases hvalue : source.value <;> simp [map, hvalue]

/-! ### The same elements -/

/-- A descent through the expansion keeps up with the descent through the node, level by level. -/
theorem agrees_expandAt (levels : Nat) (scope : Scope) (parent : String) (node : Json) :
    Agrees (elaborateAt levels scope parent node)
      (elaborateAt levels .root parent (expandAt levels scope node)) := by
  induction levels generalizing scope parent node with
  | zero => exact fun _ h ↦ nomatch h
  | succ levels ih =>
    refine agrees_level fun o hopen ↦ ?_
    obtain ⟨expanded, hexpanded, hopens, hlike⟩ :=
      openNode_expandNode hopen (keepsPresence_expandAt levels _)
    -- Whether a child is required is read off its expansion, which says the same.
    refine ⟨_, _, openNode_eq_ok_iff.2 ⟨expanded, hexpanded, hopens⟩, hlike,
      fun _ source _ child _ ↦ ⟨fun required hrequired ↦ ?_, ih o.inner o.path child⟩⟩
    rw [requiredFlag_expandAt]
    exact hrequired

/-- Elaborating a node is elaborating its expansion in no scope. -/
theorem agrees_expand (scope : Scope) (node : Json) :
    Agrees (elaborate scope node) (elaborate .root (expand scope node)) :=
  (agrees_expandAt _ scope "" node).trans (agrees_levelBound _ .root "" _)

/-! ### No references -/

/-- A situation in the expansion of a node that elaborates. -/
def Situation.InExpansion (s : Situation) : Prop :=
  s.scope = .root ∧ ∃ levels scope node,
    Situation.Ends levels ⟨scope, s.parent, node⟩ ∧ s.node = expandAt levels scope node

theorem Situation.InExpansion.not_isReference {s : Situation} (h : s.InExpansion) :
    ¬ IsReference s.node := by
  obtain ⟨-, levels, scope, node, hends, hnode⟩ := h
  cases levels with
  | zero => exact nomatch hends.choose_spec
  | succ levels =>
    obtain ⟨o, hopen, -⟩ := hends.below
    obtain ⟨expanded, hexpanded, hopens, -⟩ :=
      openNode_expandNode hopen (keepsPresence_expandAt levels _)
    rintro ⟨fields, hobject, hreference⟩
    obtain rfl := Json.object.inj (hexpanded.symm.trans (hnode.symm.trans hobject))
    exact nomatch hopens.kind.symm.trans hreference

theorem Situation.InExpansion.leads {s t : Situation} (h : s.InExpansion) (hleads : s.Leads t) :
    t.InExpansion := by
  obtain ⟨hscope, levels, scope, node, hends, hnode⟩ := h
  obtain ⟨o', source', hopen', hkind, hsource', hbelow', hscope', hparent'⟩ := hleads
  cases levels with
  | zero => exact nomatch hends.choose_spec
  | succ levels =>
    obtain ⟨o, hopen, hbelow⟩ := hends.below
    obtain ⟨expanded, hexpanded, hopens, hlike⟩ :=
      openNode_expandNode hopen (keepsPresence_expandAt levels _)
    -- What is opened in the expansion is what stands for the node that was opened.
    have ho' : o' = { o with descriptor := expanded, inner := .root } := by
      have hroot := openNode_eq_ok_iff.2 ⟨expanded, hexpanded, hopens⟩
      rw [hscope, hnode, expandAt, hroot] at hopen'
      exact (Except.ok.inj hopen').symm
    subst ho'
    obtain ⟨source, hsource, hends⟩ := hbelow hkind
    obtain rfl := Except.ok.inj ((hlike.shape hkind source hsource).symm.trans hsource')
    rw [ShapeSource.below_map] at hbelow'
    obtain ⟨child, hchild, hnode'⟩ := List.mem_map.1 hbelow'
    refine ⟨hscope', levels, o.inner, child, ?_, hnode'.symm⟩
    rw [hparent']
    exact hends child hchild

/-- Where a node elaborates, a descent through its expansion never comes to a reference. -/
theorem not_isReference_of_comesTo {scope : Scope} {node : Json} {e : Element}
    (h : (elaborate scope node).outcome = .ok e) {t : Situation}
    (ht : Situation.ComesTo ⟨.root, "", expand scope node⟩ t) : ¬ IsReference t.node := by
  refine Situation.InExpansion.not_isReference ?_
  induction ht with
  | refl => exact ⟨rfl, _, scope, node, ⟨e, h⟩, rfl⟩
  | tail _ hleads ih => exact ih.leads hleads

/-! ### The bound does not show -/

theorem expandLists_congr {expand expand' : Json → Json} {fields : Fields} {path : String}
    {multiplicity : Multiplicity} {items : List Json}
    (h : declaredChildren fields path = .ok (multiplicity, items))
    (hitems : ∀ item ∈ items, expand item = expand' item) :
    expandLists expand fields = expandLists expand' fields := by
  have hmap : items.map expand = items.map expand' := List.map_congr_left hitems
  rcases declaredChildren_eq_ok_iff.1 h with ⟨-, hone, -⟩ | ⟨-, hone, hany⟩ | ⟨-, hone, hany, -⟩
  · rw [expandLists, expandLists, hone]
    dsimp only
    rw [hmap]
  · rw [expandLists, expandLists, hone, hany]
    dsimp only
    rw [hmap]
  · rw [expandLists, expandLists, hone, hany]

theorem expandParts_congr {expand expand' : Json → Json} {fields : Fields} {path : String}
    {source : ShapeSource} (h : readShape fields path = .ok source)
    (hbelow : ∀ node ∈ source.below, expand node = expand' node) :
    expandParts expand fields = expandParts expand' fields := by
  obtain ⟨container, hcontainer, h⟩ := bind_eq_ok_iff.1 h
  obtain ⟨containerKey, -, h⟩ := bind_eq_ok_iff.1 h
  obtain ⟨⟨multiplicity, items⟩, hchildren, h⟩ := bind_eq_ok_iff.1 h
  obtain rfl := Except.ok.inj h
  have hitems : ∀ item ∈ items, expand item = expand' item :=
    fun item hitem ↦ hbelow item (List.mem_append_right _ hitem)
  cases container with
  | none =>
    rw [expandParts_of_none expand hcontainer, expandParts_of_none expand' hcontainer]
    exact expandLists_congr hchildren hitems
  | some container =>
    have hvalue : expandValue expand container = expandValue expand' container := by
      unfold expandValue
      cases hpresent : container.present? "value" with
      | none => rfl
      | some value =>
        have hmem : value ∈ (Option.toList (container.present? "value")) ++ items :=
          List.mem_append_left _ (Option.mem_toList.2 hpresent)
        dsimp only
        rw [hbelow value hmem]
    have hchildren' :
        declaredChildren (expandValue expand' container) path = .ok (multiplicity, items) :=
      (declaredChildren_congr (get?_expandValue _ _ (by decide)) (get?_expandValue _ _ (by decide))
        path).trans hchildren
    rw [expandParts_of_some expand hcontainer, expandParts_of_some expand' hcontainer, hvalue,
      expandLists_congr hchildren' hitems]

/-- It is enough to expand alike the nodes below one that can be opened. -/
theorem expandNode_congr {expandBelow expandBelow' : Scope → Json → Json} {scope : Scope}
    {parent : String} {node : Json} {o : Opened} (h : (openNode scope parent node).outcome = .ok o)
    (hbelow : o.kind = .object → ∃ source, readShape o.descriptor o.path = .ok source ∧
      ∀ child ∈ source.below, expandBelow o.inner child = expandBelow' o.inner child) :
    expandNode expandBelow scope node = expandNode expandBelow' scope node := by
  obtain ⟨fields, rfl, hopens⟩ := openNode_eq_ok_iff.1 h
  rw [expandNode_of_opens hopens, expandNode_of_opens hopens]
  by_cases hkind : o.kind = .object
  · obtain ⟨source, hsource, hchildren⟩ := hbelow hkind
    rw [if_pos hkind, if_pos hkind,
      expandParts_congr (readShape_bareFields hopens hsource) hchildren]
  · rw [if_neg hkind, if_neg hkind]

/-- Further levels than a node takes change nothing about its expansion. -/
theorem expandAt_eq_of_le {scope : Scope} {parent : String} {node : Json} {levels more : Nat}
    (h : Situation.Ends levels ⟨scope, parent, node⟩) (hle : levels ≤ more) :
    expandAt more scope node = expandAt levels scope node := by
  induction levels generalizing more scope parent node with
  | zero => exact nomatch h.choose_spec
  | succ levels ih =>
    obtain ⟨more, rfl⟩ : ∃ more', more = more' + 1 := ⟨more - 1, by omega⟩
    obtain ⟨o, hopen, hbelow⟩ := h.below
    refine expandNode_congr hopen fun hkind ↦ ?_
    obtain ⟨source, hsource, hends⟩ := hbelow hkind
    exact ⟨source, hsource, fun child hchild ↦ ih (hends child hchild) (by omega)⟩

theorem expandAt_eq_expand {scope : Scope} {parent : String} {node : Json} {levels : Nat}
    (h : Situation.Ends levels ⟨scope, parent, node⟩) :
    expandAt levels scope node = expand scope node := by
  rcases Nat.le_total levels (levelBound scope node) with hle | hle
  · exact (expandAt_eq_of_le h hle).symm
  · exact expandAt_eq_of_le (ends_levelBound h) hle

/-- The expansion of a node that elaborates, with no bound on it: the node or what it refers to,
without its table of parameters, and if it is an object with the nodes below it expanded in the
scope that the table makes. -/
theorem expand_eq {scope : Scope} {parent : String} {node : Json} {levels : Nat}
    (h : Situation.Ends levels ⟨scope, parent, node⟩) :
    expand scope node = expandNode expand scope node := by
  cases levels with
  | zero => exact nomatch h.choose_spec
  | succ levels =>
    obtain ⟨o, hopen, hbelow⟩ := h.below
    rw [← expandAt_eq_expand h]
    refine expandNode_congr hopen fun hkind ↦ ?_
    obtain ⟨source, hsource, hends⟩ := hbelow hkind
    exact ⟨source, hsource, fun child hchild ↦ expandAt_eq_expand (hends child hchild)⟩

end ClientSynthesis.Body
