import ClientSynthesis.Proofs.Body.EndlessDescent
import ClientSynthesis.Proofs.Descriptor.Rearrangement
import ClientSynthesis.Proofs.Json.Places

/-!
# How deep calls are nested

Calls are located: a call knows at which place its node stands, where the tables around it are, and
at which places the fragments stand that are being expanded around it (`Call`). Two fragments may be
equal, and one may stand inside the other; as places they differ.

If no call refers to a fragment that is being expanded around it, nested calls are governed by
descriptors at different places, and then they are no more than there are objects
(`Reached.depth_le`). The reason lies in the way to a place. A descent goes from a descriptor to the
nodes below it without entering a table, and it enters a table only by a reference. So the last
table entry on the way to a descriptor is the last fragment that has been referred to
(`Standing.home`). Descriptors with different fragments are at different places, and among those
with the same one each is deeper than the one above.
-/

namespace ClientSynthesis.Body

open Descriptor (Purpose)
open Json (Fields Hop Place)

/-! ### The way to a place -/

/-- What the hops to a place tell of it. -/
structure Standing where
  /-- What there should be at the place. -/
  purpose : Purpose
  /-- The innermost entry of a table of parameters that the place is in, or else the document. -/
  home : Place

/-- The standing of a place in documents of which the first is a node and all others are tables. -/
def standingOf (document : Nat) : List Hop → Standing
  | [] => ⟨if document = 0 then .node else .parameters, ⟨document, []⟩⟩
  | .field key :: outer =>
    let around := standingOf document outer
    ⟨(around.purpose.field? key).getD .plain,
      if around.purpose = .parameters then ⟨document, .field key :: outer⟩ else around.home⟩
  | .item _ :: outer =>
    let around := standingOf document outer
    ⟨around.purpose.item, around.home⟩

/-- The standing of a place. -/
def standing (p : Place) : Standing := standingOf p.document p.hops

/-- The key of the list in which an object declares its children, if it declares any. -/
def Multiplicity.listKey : Multiplicity → String
  | .oneOf => "one_of"
  | .anyOf | .none => "any_of"

/-- The hops from a descriptor to a node below it, the last one first. -/
def Way.hops : Way → List Hop
  | .value => [.field "value", .field "childContainer"]
  | .item inContainer multiplicity index =>
    [.item index, .field multiplicity.listKey] ++
      if inContainer then [.field "childContainer"] else []

/-- The place of a node below the descriptor at a place. -/
def Way.from (way : Way) (p : Place) : Place := ⟨p.document, way.hops ++ p.hops⟩

variable {documents : List Json} {p : Place}

/-- From a node to the nodes below it no table is entered. -/
theorem standing_from (way : Way) (h : (standing p).purpose = .node) :
    standing (way.from p) = ⟨.node, (standing p).home⟩ := by
  unfold standing at h
  unfold standing Way.from
  cases way with
  | value => simp [Way.hops, standingOf, h, Purpose.field?, Purpose.keys, List.lookup_cons]
  | item inContainer multiplicity index =>
    cases inContainer <;> cases multiplicity <;>
      simp [Way.hops, Multiplicity.listKey, standingOf, h, Purpose.field?, Purpose.keys,
        Purpose.item, List.lookup_cons]

theorem standing_parameters (h : (standing p).purpose = .node) :
    (standing (p.into (.field "parameters"))).purpose = .parameters := by
  unfold standing at h
  simp [standing, Place.into, standingOf, h, Purpose.field?, Purpose.keys, List.lookup_cons]

theorem standing_entry (h : (standing p).purpose = .parameters) (name : String) :
    standing (p.into (.field name)) = ⟨.node, p.into (.field name)⟩ := by
  unfold standing at h
  simp [standing, Place.into, standingOf, h, Purpose.field?]

theorem length_hops_lt (way : Way) (p : Place) : p.hops.length < (way.from p).hops.length := by
  cases way with
  | value => simp [Way.from, Way.hops]
  | item => simp [Way.from, Way.hops]; omega

/-- The children that an object declares stand in its list. -/
theorem find?_declared {fields : Fields} {path : String} {multiplicity : Multiplicity}
    {front back : List Json} {node : Json} (h : p.find? documents = some (.object fields))
    (hdeclared : declaredChildren fields path = .ok (multiplicity, front ++ node :: back)) :
    ((p.into (.field multiplicity.listKey)).into (.item front.length)).find? documents =
      some node := by
  have hlist : fields.get? multiplicity.listKey = some (.array (front ++ node :: back)) := by
    rcases declaredChildren_eq_ok_iff.1 hdeclared with
      ⟨rfl, hone, -⟩ | ⟨rfl, -, hany⟩ | ⟨-, -, -, hnil⟩
    · exact (Fields.present?_eq_some_iff.1 hone).1
    · exact (Fields.present?_eq_some_iff.1 hany).1
    · exact absurd hnil (by simp)
  rw [Place.find?_item ((Place.find?_field h _).trans hlist)]
  rw [List.getElem?_append_right (le_refl _), Nat.sub_self]
  rfl

/-- What a descent comes to stands at the place it has gone to. -/
theorem find?_from {elaborateChild : Json → Elaborated Element} {descriptor : Fields}
    {path : String} {way : Way} {node : Json} {defs : List Definition}
    (h : Comes elaborateChild descriptor path way node defs)
    (hdescriptor : p.find? documents = some (.object descriptor)) :
    (way.from p).find? documents = some node := by
  have hinside : ∀ container, descriptor.object? "childContainer" path = .ok (some container) →
      (p.into (.field "childContainer")).find? documents = some (.object container) :=
    fun _ hread ↦ (Place.find?_field hdescriptor _).trans (Fields.object?_eq_ok_some_iff.1 hread)
  cases h with
  | @value container _ _ hcontainer hkey hvalue =>
    cases container with
    | none => exact nomatch hvalue
    | some container =>
      have hget := (Fields.present?_eq_some_iff.1 hvalue).1
      exact (Place.find?_field (hinside container hcontainer) "value").trans hget
  | @item container _ _ multiplicity front back _ _ _ hcontainer hkey hvalue hdeclared hfront
      hrequired =>
    cases container with
    | none => exact find?_declared hdescriptor hdeclared
    | some container => exact find?_declared (hinside container hcontainer) hdeclared

/-! ### Located calls -/

/-- A call, with the places of all that it has to do with. -/
structure Call where
  /-- The tables of parameters around the node, the innermost first. -/
  tables : List (Place × Fields)
  parent : String
  place : Place
  node : Json
  /-- The fragments that are being expanded around the node, the innermost first. -/
  expanding : List Place

namespace Call

/-- The first call, for a node in a scope. -/
def first (scope : Scope) (node : Json) : Call where
  tables := scope.tables.zipIdx.map fun table ↦ (⟨table.2 + 1, []⟩, table.1)
  parent := ""
  place := ⟨0, []⟩
  node := node
  expanding := []

def scope (c : Call) : Scope := ⟨c.tables.map Prod.snd⟩

/-- The call without places. -/
def situation (c : Call) : Situation := ⟨c.scope, c.parent, c.node⟩

/-- The place of the fragment that a name is bound to. -/
def binding? (c : Call) (name : String) : Option Place :=
  c.tables.findSome? fun table ↦ (table.2.get? name).map fun _ ↦ table.1.into (.field name)

/-- The place of the fragment that the node refers to, if it refers to one. -/
def fragment? (c : Call) : Option Place :=
  match c.node with
  | .object fields =>
    match typeToken? fields, Fields.get? fields "key" with
    | some .reference, some (.string key) => c.binding? key
    | _, _ => none
  | _ => none

/-- The place of the descriptor that governs the node. -/
def governing (c : Call) : Place := c.fragment?.getD c.place

/-- The call for a node below the one that has been opened. -/
def below (c : Call) (o : Opened) (way : Way) (node : Json) : Call where
  tables := match o.descriptor.get? "parameters" with
    | some (.object table) => (c.governing.into (.field "parameters"), table) :: c.tables
    | _ => c.tables
  parent := o.path
  place := way.from c.governing
  node := node
  expanding := c.fragment?.toList ++ c.expanding

/-- An elaboration calls itself, having defined something before. -/
def Makes (c : Call) (defs : List Definition) (c' : Call) : Prop :=
  ∃ levels o way, (openNode c.scope c.parent c.node).outcome = .ok o ∧ o.kind = .object ∧
    Comes (elaborateAt levels o.inner o.path) o.descriptor o.path way c'.node defs ∧
    c' = c.below o way c'.node

/-- An elaboration reaches a call inside so many others, with the given definitions before it, none
of which conflicts with what is known. -/
inductive Reached (known : Set Definition) (start : Call) : Nat → List Definition → Call → Prop
  | start : Reached known start 0 [] start
  | call {depth : Nat} {defs more : List Definition} {c c' : Call}
    (h : Reached known start depth defs c) (hmakes : c.Makes more c')
    (hunambiguous : Unambiguous (known ∪ {d | d ∈ defs ++ more})) :
    Reached known start (depth + 1) (defs ++ more) c'

variable {c c' : Call} {o : Opened} {defs : List Definition}

/-! ### Places that are right -/

/-- Everything stands where the call has it. -/
structure Sound (documents : List Json) (c : Call) : Prop where
  node : c.place.find? documents = some c.node
  purpose : (standing c.place).purpose = .node
  table : ∀ table ∈ c.tables, table.1.find? documents = some (.object table.2) ∧
    (standing table.1).purpose = .parameters
  /-- The node is in the fragment that was referred to last. -/
  home : (standing c.place).home = c.expanding.headD ⟨0, []⟩

theorem sound_first (scope : Scope) (node : Json) :
    (first scope node).Sound (documentsOf scope node) where
  node := rfl
  purpose := rfl
  table := by
    intro table htable
    obtain ⟨⟨fields, index⟩, hmem, rfl⟩ := List.mem_map.1 htable
    have hfields : scope.tables[index]? = some fields := List.mk_mem_zipIdx_iff_getElem?.1 hmem
    refine ⟨?_, rfl⟩
    simp [Place.find?, documentsOf, hfields]
  home := rfl

/-- What a name is bound to stands at the place of the binding, an entry of a table. -/
theorem Sound.binding (h : c.Sound documents) {name : String} {v : Json}
    (hlookup : c.scope.lookup name = some v) :
    ∃ p, c.binding? name = some p ∧ p.find? documents = some v := by
  have htables := h.table
  have hfound : (c.tables.map Prod.snd).findSome? (·.get? name) = some v := hlookup
  unfold binding?
  clear hlookup h
  generalize c.tables = tables at htables hfound ⊢
  induction tables with
  | nil => exact nomatch hfound
  | cons table rest ih =>
    rw [List.map_cons, List.findSome?_cons] at hfound
    rw [List.findSome?_cons]
    cases hget : table.2.get? name with
    | none =>
      rw [hget] at hfound
      exact ih (fun table htable ↦ htables table (List.mem_cons_of_mem _ htable)) hfound
    | some w =>
      rw [hget] at hfound
      obtain rfl := Option.some.inj hfound
      refine ⟨_, rfl, ?_⟩
      exact (Place.find?_field (htables table List.mem_cons_self).1 name).trans hget

theorem Sound.fragment (h : c.Sound documents) {p : Place} (hfragment : c.fragment? = some p) :
    standing p = ⟨.node, p⟩ ∧ p ≠ ⟨0, []⟩ := by
  unfold fragment? at hfragment
  split at hfragment
  · split at hfragment
    · unfold binding? at hfragment
      obtain ⟨table, htable, hentry⟩ := List.exists_of_findSome?_eq_some hfragment
      obtain ⟨v, -, rfl⟩ := Option.map_eq_some_iff.1 hentry
      exact ⟨standing_entry (h.table table htable).2 _, by simp [Place.into]⟩
    · exact nomatch hfragment
  · exact nomatch hfragment

/-- The governing descriptor is in place, and belongs to the fragment referred to last. -/
theorem Sound.governing (h : c.Sound documents)
    (hopen : (openNode c.scope c.parent c.node).outcome = .ok o) :
    c.governing.find? documents = some (.object o.descriptor) ∧
      standing c.governing = ⟨.node, (c.fragment?.toList ++ c.expanding).headD ⟨0, []⟩⟩ := by
  obtain ⟨fields, hnode, hopens⟩ := openNode_eq_ok_iff.1 hopen
  have hstanding : standing c.place = ⟨.node, c.expanding.headD ⟨0, []⟩⟩ := by
    rw [← h.purpose, ← h.home]
  rcases hopens.governs with hself | ⟨hreference, hlookup⟩
  · -- What states a kind is no reference.
    have hfragment : c.fragment? = none := by
      have hkind : typeToken? fields = some (.kind o.kind) := hself ▸ hopens.kind
      rw [fragment?, hnode]
      simp [hkind]
    rw [Call.governing, hfragment]
    exact ⟨by rw [hself, ← hnode]; exact h.node, hstanding⟩
  · obtain ⟨p, hp, hfind⟩ := h.binding hlookup
    have hfragment : c.fragment? = some p := by
      rw [fragment?, hnode]
      simp [hreference, hopens.key, hp]
    rw [Call.governing, hfragment]
    exact ⟨hfind, (h.fragment hfragment).1⟩

theorem scope_below (hopen : (openNode c.scope c.parent c.node).outcome = .ok o) (way : Way)
    (node : Json) : (c.below o way node).scope = o.inner := by
  obtain ⟨fields, -, hopens⟩ := openNode_eq_ok_iff.1 hopen
  rw [hopens.inner, scopeBelow, scope, below]
  cases hget : o.descriptor.get? "parameters" with
  | none => rfl
  | some table => cases table <;> rfl

/-- What is called is in place again. -/
theorem Sound.makes (h : c.Sound documents) (hmakes : c.Makes defs c') : c'.Sound documents := by
  obtain ⟨levels, o, way, hopen, -, hcomes, heq⟩ := hmakes
  obtain ⟨hfind, hstanding⟩ := h.governing hopen
  have hnode := find?_from hcomes hfind
  have hfrom := standing_from way (p := c.governing) (by rw [hstanding])
  rw [heq]
  refine ⟨hnode, by rw [below, hfrom], fun table htable ↦ ?_, by rw [below, hfrom, hstanding]⟩
  unfold below at htable
  dsimp only at htable
  split at htable
  · next fields hget =>
    rcases List.mem_cons.1 htable with rfl | htable
    · exact ⟨(Place.find?_field hfind _).trans hget, standing_parameters (by rw [hstanding])⟩
    · exact h.table table htable
  · exact h.table table htable

/-! ### The depth of a call -/

/-- A call stands below descriptors at different places. They belong to the document or to fragments
that are being expanded, and those in the same fragment as the call are further out. -/
structure Nested (documents : List Json) (c : Call) (above : List Place) : Prop where
  sound : c.Sound documents
  nodup : above.Nodup
  objects : above ⊆ Place.ofObjects documents
  home : ∀ p ∈ above, (standing p).home = ⟨0, []⟩ ∨ (standing p).home ∈ c.expanding
  further : ∀ p ∈ above, (standing p).home = (standing c.place).home →
    p.hops.length < c.place.hops.length

/-- Nothing above is in a fragment that is only now referred to. -/
theorem Nested.home_ne {above : List Place} (h : c.Nested documents above) {q : Place}
    (hfragment : c.fragment? = some q) (hfresh : q ∉ c.expanding) (hp : p ∈ above) :
    (standing p).home ≠ q := by
  intro heq
  have hhome := h.home p hp
  rw [heq] at hhome
  exact hhome.elim (h.sound.fragment hfragment).2 hfresh

theorem Nested.governing_not_mem {above : List Place} (h : c.Nested documents above)
    (hfresh : ∀ p, c.fragment? = some p → p ∉ c.expanding) : c.governing ∉ above := by
  intro hmem
  cases hfragment : c.fragment? with
  | none =>
    rw [governing, hfragment] at hmem
    exact absurd (h.further _ hmem rfl) (Nat.lt_irrefl _)
  | some p =>
    rw [governing, hfragment] at hmem
    refine h.home_ne hfragment (hfresh p hfragment) hmem ?_
    rw [Option.getD_some, (h.sound.fragment hfragment).1]

/-- A call that does not return to a fragment makes calls that stand below one more descriptor. -/
theorem Nested.makes {above : List Place} (h : c.Nested documents above)
    (hfresh : ∀ p, c.fragment? = some p → p ∉ c.expanding) (hmakes : c.Makes defs c') :
    c'.Nested documents (c.governing :: above) := by
  have hsound := h.sound.makes hmakes
  obtain ⟨levels, o, way, hopen, -, hcomes, heq⟩ := hmakes
  obtain ⟨hfind, hstanding⟩ := h.sound.governing hopen
  have hexpanding : c'.expanding = c.fragment?.toList ++ c.expanding := by rw [heq]; rfl
  have hplace : c'.place = way.from c.governing := by rw [heq]; rfl
  have hhome : (standing c'.place).home = (standing c.governing).home := by
    rw [hplace, standing_from way (by rw [hstanding])]
  refine ⟨hsound, List.nodup_cons.2 ⟨h.governing_not_mem hfresh, h.nodup⟩, ?_, ?_, ?_⟩
  · exact List.cons_subset.2 ⟨Place.mem_ofObjects hfind, h.objects⟩
  · intro p hp
    rw [hexpanding]
    rcases List.mem_cons.1 hp with rfl | hp
    · rw [hstanding]
      cases c.fragment?.toList ++ c.expanding with
      | nil => exact .inl rfl
      | cons q rest => exact .inr List.mem_cons_self
    · exact (h.home p hp).imp_right (List.mem_append_right _)
  · intro p hp heq'
    have hlength := length_hops_lt way c.governing
    rw [← hplace] at hlength
    rcases List.mem_cons.1 hp with rfl | hp
    · exact hlength
    · rw [hhome] at heq'
      cases hfragment : c.fragment? with
      | none =>
        rw [governing, hfragment] at heq' hlength
        exact (h.further p hp heq').trans hlength
      | some q =>
        rw [governing, hfragment, Option.getD_some, (h.sound.fragment hfragment).1] at heq'
        exact absurd heq' (h.home_ne hfragment (hfresh q hfragment) hp)

/-- No call that is reached refers to a fragment that is still being expanded around it. -/
def NoReentry (known : Set Definition) (start : Call) : Prop :=
  ∀ depth defs c, Reached known start depth defs c → ∀ p, c.fragment? = some p → p ∉ c.expanding

variable {known : Set Definition} {scope : Scope} {node : Json} {depth : Nat}

theorem Reached.exists_nested (hno : NoReentry known (first scope node))
    (h : Reached known (first scope node) depth defs c) :
    ∃ above, above.length = depth ∧ c.Nested (documentsOf scope node) above := by
  induction h with
  | start => exact ⟨[], rfl, sound_first scope node, .nil, List.nil_subset _, nofun, nofun⟩
  | @call depth defs more c c' h hmakes hunambiguous ih =>
    obtain ⟨above, rfl, hnested⟩ := ih
    exact ⟨c.governing :: above, rfl, hnested.makes (hno _ _ c h) hmakes⟩

/-- **Without reentry, a call is inside no more others than there are objects.** -/
theorem Reached.depth_le (hno : NoReentry known (first scope node))
    (h : Reached known (first scope node) depth defs c) :
    depth ≤ ((documentsOf scope node).map Json.objectCount).sum := by
  obtain ⟨above, rfl, hnested⟩ := h.exists_nested hno
  rw [← Place.length_ofObjects]
  exact (List.subperm_of_subset hnested.nodup hnested.objects).length_le

/-! ### Descents that are stuck -/

theorem situation_first (scope : Scope) (node : Json) :
    (first scope node).situation = ⟨scope, "", node⟩ := by
  have htables : (scope.tables.zipIdx.map fun table ↦
      ((⟨table.2 + 1, []⟩, table.1) : Place × Fields)).map Prod.snd = scope.tables := by
    rw [List.map_map]
    exact List.zipIdx_map_fst 0 scope.tables
  rw [situation, Call.scope, first, htables]

theorem exists_makes_of_calls {levels : Nat} {t : Situation} (h : c.situation.Calls levels defs t) :
    ∃ c', c.Makes defs c' ∧ c'.situation = t := by
  obtain ⟨o, way, hopen, hkind, hcomes, hscope, hparent⟩ := h
  refine ⟨c.below o way t.node, ⟨levels, o, way, hopen, hkind, hcomes, rfl⟩, ?_⟩
  rw [situation, scope_below hopen, ← hscope]
  obtain ⟨scope, parent, node⟩ := t
  obtain rfl : parent = o.path := hparent
  rfl

/-- A descent that is stuck has reached a call inside as many others as it had levels. -/
theorem Reached.exists_of_stuck {start : Call} (h : Reached known start depth defs c) {levels : Nat}
    (hstuck : c.situation.Stuck (known ∪ {d | d ∈ defs}) levels) :
    ∃ defs' c', Reached known start (depth + levels) defs' c' := by
  induction levels generalizing depth defs c with
  | zero => exact ⟨defs, c, h⟩
  | succ levels ih =>
    obtain ⟨more, t, hcalls, ht⟩ := hstuck.exists_calls
    obtain ⟨c', hmakes, rfl⟩ := exists_makes_of_calls hcalls
    have hknown : known ∪ {d | d ∈ defs} ∪ {d | d ∈ more} = known ∪ {d | d ∈ defs ++ more} := by
      ext d
      simp only [Set.mem_union, Set.mem_ofPred_eq, List.mem_append, or_assoc]
    rw [hknown] at ht
    have hreached := Reached.call h hmakes (ht.unambiguous.mono Set.subset_union_left)
    obtain ⟨defs', c'', hdeep⟩ := ih hreached ht
    exact ⟨defs', c'', by rwa [Nat.add_right_comm, Nat.add_assoc] at hdeep⟩

/-- Without reentry no descent is stuck with more levels than there are objects. -/
theorem NoReentry.not_stuck (hno : NoReentry known (first scope node)) {levels : Nat}
    (hlevels : ((documentsOf scope node).map Json.objectCount).sum < levels) :
    ¬ Situation.Stuck known ⟨scope, "", node⟩ levels := by
  intro hstuck
  have hempty : known ∪ {d | d ∈ ([] : List Definition)} = known := by simp
  have hstart : Reached known (first scope node) 0 [] (first scope node) := .start
  obtain ⟨defs, c, hdeep⟩ := hstart.exists_of_stuck (by rwa [situation_first, hempty])
  have hdepth := hdeep.depth_le hno
  omega

end Call

end ClientSynthesis.Body
