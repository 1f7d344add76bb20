import ClientSynthesis.Proofs.Body.Comparison
import ClientSynthesis.Proofs.Body.References

/-!
# The definitions of an element tree

A descent that succeeds yields a tree of elements and, beside it, a list of definitions. Elements are
dropped from the tree in one place only: a one-of object elaborates the value of its container and
then keeps its children alone (`Situation.LeadsAside`). The definitions of what is dropped are not
taken back.

So what a descent defines is what its tree defines, together with what the dropped elements and
those below them define (`contribution_elaborateAt`). The proof follows the descent. At each object
it compares the nodes that stand below with the elements that are kept, and `Makes` has them side by
side.
-/

namespace ClientSynthesis.Body

open Report.Traced

/-! ### Trees -/

namespace Element

/-- The elements directly below an element: the value and the children of an object. -/
def parts : Element → List Element
  | .object _ shape => shape.elements
  | .enum .. | .leaf .. => []

/-- An element is another one, or stands below it at some depth. -/
def Within : Element → Element → Prop := Relation.ReflTransGen fun part e ↦ part ∈ e.parts

/-- What an element and those below it define. -/
def treeDefinitions (e : Element) : Set Definition :=
  {d | ∃ part path, part.Within e ∧ Definition.ofElement? part path = .ok (some d)}

theorem within_iff {part e : Element} :
    part.Within e ↔ e = part ∨ ∃ between : Element, part.Within between ∧ between ∈ e.parts :=
  Relation.ReflTransGen.cases_tail_iff _ part e

/-- A tree defines what its root defines, and what the trees of the root's parts define. -/
theorem mem_treeDefinitions_iff {e : Element} {d : Definition} :
    d ∈ e.treeDefinitions ↔ (∃ path, Definition.ofElement? e path = .ok (some d)) ∨
      ∃ part ∈ e.parts, d ∈ part.treeDefinitions := by
  constructor
  · rintro ⟨part, path, hwithin, hd⟩
    rcases within_iff.1 hwithin with rfl | ⟨between, hwithin, hpart⟩
    · exact .inl ⟨path, hd⟩
    · exact .inr ⟨between, hpart, part, path, hwithin, hd⟩
  · rintro (⟨path, hd⟩ | ⟨between, hpart, part, path, hwithin, hd⟩)
    · exact ⟨e, path, .refl, hd⟩
    · exact ⟨part, path, hwithin.tail hpart, hd⟩

end Element

/-! ### Levels do not show -/

variable {levels : Nat} {scope : Scope} {parent : String} {node : Json}

/-- A descent that succeeds has one element, however many levels it is given. -/
theorem elaborateAt_outcome_unique {more : Nat} {e e' : Element}
    (h : (elaborateAt levels scope parent node).outcome = .ok e)
    (h' : (elaborateAt more scope parent node).outcome = .ok e') : e = e' := by
  rcases Nat.le_total levels more with hle | hle
  · exact Except.ok.inj ((agrees_of_le hle _ _ _ e h).1.symm.trans h')
  · exact Except.ok.inj (h.symm.trans (agrees_of_le hle _ _ _ e' h').1)

/-! ### Elements that are dropped -/

namespace Situation

variable {s t u : Situation} {e : Element}

/-- A descent goes on from one situation to the other, which is that of a one-of object's value. -/
def LeadsAside (s t : Situation) : Prop :=
  ∃ o source, (openNode s.scope s.parent s.node).outcome = .ok o ∧ o.kind = .object ∧
    readShape o.descriptor o.path = .ok source ∧ source.multiplicity = .oneOf ∧
    source.value = some t.node ∧ t.scope = o.inner ∧ t.parent = o.path

theorem LeadsAside.leads (h : s.LeadsAside t) : s.Leads t := by
  obtain ⟨o, source, hopen, hkind, hread, -, hvalue, hscope, hparent⟩ := h
  have hbelow : t.node ∈ source.below := List.mem_append_left _ (Option.mem_toList.2 hvalue)
  exact ⟨o, source, hopen, hkind, hread, hbelow, hscope, hparent⟩

/-- An element that a descent elaborates somewhere, and that the object there does not keep. -/
def Drops (s : Situation) (e : Element) : Prop :=
  ∃ t u levels, s.ComesTo t ∧ t.LeadsAside u ∧
    (elaborateAt levels u.scope u.parent u.node).outcome = .ok e

theorem Drops.of_leads (h : s.Leads t) (ht : t.Drops e) : s.Drops e := by
  obtain ⟨t', u, levels, hcomes, haside, hok⟩ := ht
  exact ⟨t', u, levels, .head h hcomes, haside, hok⟩

/-- What is dropped in a descent is dropped at its first node, or further on. -/
theorem drops_iff : s.Drops e ↔
    (∃ u levels, s.LeadsAside u ∧ (elaborateAt levels u.scope u.parent u.node).outcome = .ok e) ∨
      ∃ t, s.Leads t ∧ t.Drops e := by
  constructor
  · rintro ⟨t, u, levels, hcomes, haside, hok⟩
    rcases Relation.ReflTransGen.cases_head hcomes with rfl | ⟨t', hleads, hcomes⟩
    · exact .inl ⟨u, levels, haside, hok⟩
    · exact .inr ⟨t', hleads, t, u, levels, hcomes, haside, hok⟩
  · rintro (⟨u, levels, haside, hok⟩ | ⟨t, hleads, ht⟩)
    · exact ⟨s, u, levels, .refl, haside, hok⟩
    · exact ht.of_leads hleads

end Situation

/-! ### One object -/

section

variable {elaborateChild : Json → Elaborated Element} {path : String} {source : ShapeSource}
  {shape : ObjectShape Element}

/-- What is elaborated below an object is kept, unless it is the value of a one-of. -/
theorem ShapeSource.Makes.mem_elements_or_aside (h : source.Makes elaborateChild path shape)
    {node : Json} (hnode : node ∈ source.below) {e : Element}
    (he : (elaborateChild node).outcome = .ok e) :
    e ∈ shape.elements ∨ source.multiplicity = .oneOf ∧ source.value = some node := by
  rcases List.mem_append.1 hnode with hvalue | hitem
  · have hvalue : source.value = some node := Option.mem_toList.1 hvalue
    by_cases honeOf : source.multiplicity = .oneOf
    · exact .inr ⟨honeOf, hvalue⟩
    · have hrel := h.value (h.multiplicity ▸ honeOf)
      rw [hvalue] at hrel
      obtain ⟨e', hkept, he'⟩ := exists_of_some_rel hrel
      obtain rfl : e = e' := Except.ok.inj (he.symm.trans he')
      exact .inl (List.mem_append_left _ (Option.mem_toList.2 hkept))
  · obtain ⟨c, hc, -, he'⟩ := Report.exists_mem_of_forall₂ h.children hitem
    obtain rfl : e = c.element := Except.ok.inj (he.symm.trans he')
    exact .inl (List.mem_append_right _ (List.mem_map_of_mem hc))

end

/-! ### One level -/

theorem elaborateAt_succ_outcome_eq_ok_iff {e : Element} :
    (elaborateAt (levels + 1) scope parent node).outcome = .ok e ↔
      ∃ o, (openNode scope parent node).outcome = .ok o ∧
        (fillNode (elaborateAt levels o.inner o.path) o).outcome = .ok e ∧
          ∃ d?, Definition.ofElement? e o.path = .ok d? := by
  rw [elaborateAt_succ, bind_outcome_eq_ok_iff]
  refine exists_congr fun o ↦ and_congr_right fun _ ↦ ?_
  rw [bind_outcome_eq_ok_iff]
  constructor
  · rintro ⟨filled, hfill, hclose⟩
    obtain ⟨rfl, hdefinition⟩ := closeNode_outcome_eq_ok_iff.1 hclose
    exact ⟨hfill, hdefinition⟩
  · rintro ⟨hfill, hdefinition⟩
    exact ⟨e, hfill, closeNode_outcome_eq_ok_iff.2 ⟨rfl, hdefinition⟩⟩

/-- A node that is elaborated defines what filling it defines, and what its element defines. -/
theorem mem_contribution_elaborateAt_succ_iff {o : Opened} {e : Element} {d : Definition}
    (hopen : (openNode scope parent node).outcome = .ok o)
    (hfill : (fillNode (elaborateAt levels o.inner o.path) o).outcome = .ok e) :
    d ∈ contribution (elaborateAt (levels + 1) scope parent node) ↔
      d ∈ definitions (fillNode (elaborateAt levels o.inner o.path) o) ∨
        ∃ path, Definition.ofElement? e path = .ok (some d) := by
  show d ∈ definitions (elaborateAt (levels + 1) scope parent node) ↔ _
  rw [elaborateAt_succ, definitions_bind_of_ok _ hopen, definitions_bind_of_ok _ hfill,
    definitions_openNode, List.nil_append, List.mem_append, mem_definitions_closeNode]
  exact or_congr_right ⟨fun h ↦ ⟨o.path, h⟩, fun ⟨path, h⟩ ↦ ofElement?_path h o.path⟩

/-- The node of an object is filled to an object. -/
theorem exists_shape_of_fillNode {elaborateChild : Json → Elaborated Element} {o : Opened}
    {e : Element} (hkind : o.kind = .object) (h : (fillNode elaborateChild o).outcome = .ok e) :
    ∃ shape, e = .object o.head shape ∧
      (elaborateShape elaborateChild o.descriptor o.path).outcome = .ok shape := by
  unfold fillNode at h
  rw [hkind] at h
  obtain ⟨shape, hshape, h⟩ := bind_outcome_eq_ok_iff.1 h
  exact ⟨shape, (Except.ok.inj h).symm, hshape⟩

/-- A node that is elaborated to an object, with what was read for it and what it is made of. -/
structure Situation.Becomes (levels : Nat) (s : Situation) (o : Opened) (source : ShapeSource)
    (shape : ObjectShape Element) : Prop where
  opens : (openNode s.scope s.parent s.node).outcome = .ok o
  kind : o.kind = .object
  reads : readShape o.descriptor o.path = .ok source
  makes : source.Makes (elaborateAt levels o.inner o.path) o.path shape
  definitions : ∀ d, d ∈ definitions (fillNode (elaborateAt levels o.inner o.path) o) ↔
    ∃ node ∈ source.below, d ∈ contribution (elaborateAt levels o.inner o.path node)
  elaborates : ∀ node ∈ source.below,
    ∃ part, (elaborateAt levels o.inner o.path node).outcome = .ok part

section

variable {s t : Situation} {e part : Element} {o : Opened} {source : ShapeSource}
  {shape : ObjectShape Element} {d : Definition}

theorem Situation.exists_becomes (hopen : (openNode s.scope s.parent s.node).outcome = .ok o)
    (hkind : o.kind = .object)
    (hfill : (fillNode (elaborateAt levels o.inner o.path) o).outcome = .ok e) :
    ∃ source shape, e = .object o.head shape ∧ s.Becomes levels o source shape := by
  obtain ⟨shape, rfl, hshape⟩ := exists_shape_of_fillNode hkind hfill
  obtain ⟨source, hread, helaborate, hbelow⟩ := below_of_elaborateShape hshape
  have hmakes := ShapeSource.makes_of_elaborate helaborate
  refine ⟨source, shape, rfl, hopen, hkind, hread, hmakes, fun d ↦ ?_, hbelow⟩
  unfold fillNode
  rw [hkind]
  dsimp only
  rw [definitions_bind_of_ok _ hshape, definitions_of_elaborateShape hread hshape]
  have hpure : definitions (pure (.object o.head shape) : Elaborated Element) = [] := rfl
  rw [hpure, List.append_nil, List.mem_flatMap]
  rfl

/-- An object leads to the nodes that stand below it. -/
theorem Situation.Becomes.leads_iff (h : s.Becomes levels o source shape) :
    s.Leads t ↔ ∃ node ∈ source.below, t = ⟨o.inner, o.path, node⟩ := by
  constructor
  · rintro ⟨o', source', hopen, -, hread, hbelow, hscope, hparent⟩
    obtain rfl : o = o' := Except.ok.inj (h.opens.symm.trans hopen)
    obtain rfl : source = source' := Except.ok.inj (h.reads.symm.trans hread)
    obtain ⟨scope, parent, node⟩ := t
    exact ⟨node, hbelow, by rw [show scope = o.inner from hscope, show parent = o.path from hparent]⟩
  · rintro ⟨node, hbelow, rfl⟩
    exact ⟨o, source, h.opens, h.kind, h.reads, hbelow, rfl, rfl⟩

end

section

variable {s t : Situation} {e part : Element} {d : Definition}

/-- The parts of an element are those of nodes that the descent goes on to. -/
theorem exists_leads_of_mem_parts
    (h : (elaborateAt (levels + 1) s.scope s.parent s.node).outcome = .ok e)
    (hpart : part ∈ e.parts) :
    ∃ t, s.Leads t ∧ (elaborateAt levels t.scope t.parent t.node).outcome = .ok part := by
  obtain ⟨o, hopen, hfill, -⟩ := elaborateAt_succ_outcome_eq_ok_iff.1 h
  have hkind : o.kind = .object := by
    cases e with
    | object head shape => exact (fillNode_outcome_eq_object_iff.1 hfill).1
    | enum head options => exact nomatch hpart
    | leaf head kind => exact nomatch hpart
  obtain ⟨source, shape, rfl, hbecomes⟩ := Situation.exists_becomes hopen hkind hfill
  obtain ⟨node, hnode, hok⟩ := hbecomes.makes.exists_node hpart
  exact ⟨⟨o.inner, o.path, node⟩, hbecomes.leads_iff.2 ⟨node, hnode, rfl⟩, hok⟩

/-- What the descent goes on to is elaborated, and is a part of the element or is dropped. -/
theorem mem_parts_or_leadsAside
    (h : (elaborateAt (levels + 1) s.scope s.parent s.node).outcome = .ok e) (hleads : s.Leads t) :
    ∃ part, (elaborateAt levels t.scope t.parent t.node).outcome = .ok part ∧
      (part ∈ e.parts ∨ s.LeadsAside t) := by
  obtain ⟨o, hopen, hfill, -⟩ := elaborateAt_succ_outcome_eq_ok_iff.1 h
  obtain ⟨o', source', hopen', hkind, -⟩ := id hleads
  obtain rfl : o = o' := Except.ok.inj (hopen.symm.trans hopen')
  obtain ⟨source, shape, rfl, hbecomes⟩ := Situation.exists_becomes hopen hkind hfill
  obtain ⟨node, hnode, rfl⟩ := hbecomes.leads_iff.1 hleads
  obtain ⟨part, hok⟩ := hbecomes.elaborates node hnode
  refine ⟨part, hok, ?_⟩
  rcases hbecomes.makes.mem_elements_or_aside hnode hok with hkept | ⟨honeOf, hvalue⟩
  · exact .inl hkept
  · exact .inr ⟨o, source, hopen, hkind, hbecomes.reads, honeOf, hvalue, rfl, rfl⟩

/-- A node that is elaborated defines what its element defines, and what the nodes define that the
descent goes on to. -/
theorem mem_contribution_succ_iff
    (h : (elaborateAt (levels + 1) s.scope s.parent s.node).outcome = .ok e) :
    d ∈ contribution (elaborateAt (levels + 1) s.scope s.parent s.node) ↔
      (∃ path, Definition.ofElement? e path = .ok (some d)) ∨
        ∃ t, s.Leads t ∧ d ∈ contribution (elaborateAt levels t.scope t.parent t.node) := by
  obtain ⟨o, hopen, hfill, -⟩ := elaborateAt_succ_outcome_eq_ok_iff.1 h
  rw [mem_contribution_elaborateAt_succ_iff hopen hfill, or_comm]
  refine or_congr_right ⟨fun hd ↦ ?_, ?_⟩
  · obtain ⟨hkind, -⟩ := mem_definitions_fillNode hd
    obtain ⟨source, shape, -, hbecomes⟩ := Situation.exists_becomes hopen hkind hfill
    obtain ⟨node, hnode, hd⟩ := (hbecomes.definitions d).1 hd
    exact ⟨_, hbecomes.leads_iff.2 ⟨node, hnode, rfl⟩, hd⟩
  · rintro ⟨t, hleads, hd⟩
    obtain ⟨o', source', hopen', hkind, -⟩ := id hleads
    obtain rfl : o = o' := Except.ok.inj (hopen.symm.trans hopen')
    obtain ⟨source, shape, -, hbecomes⟩ := Situation.exists_becomes hopen hkind hfill
    obtain ⟨node, hnode, rfl⟩ := hbecomes.leads_iff.1 hleads
    exact (hbecomes.definitions d).2 ⟨node, hnode, hd⟩

end

/-! ### Whole descents -/

/-- **A descent that succeeds defines what its tree defines, and what the elements define that it
has dropped.** -/
theorem contribution_elaborateAt {s : Situation} {e : Element}
    (h : (elaborateAt levels s.scope s.parent s.node).outcome = .ok e) :
    contribution (elaborateAt levels s.scope s.parent s.node) =
      e.treeDefinitions ∪ {d | ∃ dropped, s.Drops dropped ∧ d ∈ dropped.treeDefinitions} := by
  -- By induction on the levels; a node is compared with its element, and so is each node below.
  induction levels generalizing s e with
  | zero => exact nomatch h
  | succ levels ih =>
    ext d
    rw [mem_contribution_succ_iff h, Set.mem_union, Element.mem_treeDefinitions_iff, or_assoc]
    refine or_congr_right ⟨?_, ?_⟩
    · rintro ⟨t, hleads, hd⟩
      obtain ⟨part, hok, hkept⟩ := mem_parts_or_leadsAside h hleads
      rw [ih hok] at hd
      rcases hd with hd | ⟨dropped, hdrops, hd⟩
      · rcases hkept with hpart | haside
        · exact .inl ⟨part, hpart, hd⟩
        · exact .inr ⟨part, Situation.drops_iff.2 (.inl ⟨t, levels, haside, hok⟩), hd⟩
      · exact .inr ⟨dropped, hdrops.of_leads hleads, hd⟩
    · rintro (⟨part, hpart, hd⟩ | ⟨dropped, hdrops, hd⟩)
      · obtain ⟨t, hleads, hok⟩ := exists_leads_of_mem_parts h hpart
        refine ⟨t, hleads, ?_⟩
        rw [ih hok]
        exact .inl hd
      · rcases Situation.drops_iff.1 hdrops with ⟨t, more, haside, hmore⟩ | ⟨t, hleads, ht⟩
        · obtain ⟨part, hok, -⟩ := mem_parts_or_leadsAside h haside.leads
          obtain rfl : part = dropped := elaborateAt_outcome_unique hok hmore
          refine ⟨t, haside.leads, ?_⟩
          rw [ih hok]
          exact .inl hd
        · obtain ⟨part, hok, -⟩ := mem_parts_or_leadsAside h hleads
          refine ⟨t, hleads, ?_⟩
          rw [ih hok]
          exact .inr ⟨dropped, ht, hd⟩

end ClientSynthesis.Body
