import ClientSynthesis.Proofs.Body.Origin

/-!
# Parts of objects

An object that is elaborated is put together from the nodes that its descriptor names: the value and
the children are the elements of those nodes, in the order in which they stand there
(`ShapeSource.Makes`), and it defines what they define, in that order
(`definitions_of_elaborateShape`).

A one-of object is no exception. It drops its value and its container key, but not what the value
has defined. What comes out is regular in any case (`ObjectShape.Regular`): with a value there is a
container key for it and no child beside it, and a one-of has neither key nor value.
-/

namespace ClientSynthesis.Body

open Json (Fields)
open Report.Traced

variable {α β : Type} {elaborateChild : Json → Elaborated Element} {path : String}

/-! ### Results beside items -/

/-- What is there is elaborated, and what is not there needs no elaboration. -/
theorem mapM_option_outcome_eq_ok_iff {f : α → Elaborated β} {x : Option α} {y : Option β} :
    (x.mapM f).outcome = .ok y ↔ Option.Rel (fun a b ↦ (f a).outcome = .ok b) x y := by
  cases x with
  | none =>
    constructor
    · intro h
      obtain rfl := Except.ok.inj h
      exact .none
    · rintro ⟨⟩
      rfl
  | some a =>
    rw [Option.mapM_some, map_eq_pure_bind, bind_outcome_eq_ok_iff]
    constructor
    · rintro ⟨b, hb, h⟩
      obtain rfl := Except.ok.inj h
      exact .some hb
    · rintro (⟨hb⟩ | _)
      exact ⟨_, hb, rfl⟩

theorem isSome_eq_of_rel {R : α → β → Prop} {x : Option α} {y : Option β}
    (h : Option.Rel R x y) : x.isSome = y.isSome := by
  cases h <;> rfl

theorem exists_of_rel_some {R : α → β → Prop} {x : Option α} {b : β}
    (h : Option.Rel R x (some b)) : ∃ a, x = some a ∧ R a b := by
  obtain ⟨hab⟩ | _ := h
  exact ⟨_, rfl, hab⟩

theorem exists_of_some_rel {R : α → β → Prop} {a : α} {y : Option β}
    (h : Option.Rel R (some a) y) : ∃ b, y = some b ∧ R a b := by
  obtain ⟨hab⟩ | _ := h
  exact ⟨_, rfl, hab⟩

theorem definitions_mapM_option (f : α → Elaborated β) (x : Option α) :
    definitions (x.mapM f) = x.toList.flatMap fun a ↦ definitions (f a) := by
  cases x with
  | none => rfl
  | some a =>
    rw [Option.mapM_some, map_eq_pure_bind, Option.toList_some, List.flatMap_singleton]
    cases h : (f a).outcome with
    | error e => rw [definitions, trace_bind_of_error _ h, definitions]
    | ok b => exact (definitions_bind_of_ok _ h).trans (List.append_nil _)

/-- A list that is run through defines what its items define. -/
theorem definitions_mapM_of_ok {f : α → Elaborated β} {xs : List α} {ys : List β}
    (h : (xs.mapM f).outcome = .ok ys) :
    definitions (xs.mapM f) = xs.flatMap fun x ↦ definitions (f x) := by
  induction xs generalizing ys with
  | nil => rfl
  | cons x rest ih =>
    rw [List.mapM_cons] at h ⊢
    obtain ⟨y, hy, h⟩ := bind_outcome_eq_ok_iff.1 h
    obtain ⟨ys', hys, -⟩ := bind_outcome_eq_ok_iff.1 h
    rw [definitions_bind_of_ok _ hy, definitions_bind_of_ok _ hys, ih hys, List.flatMap_cons]
    exact congrArg _ (List.append_nil _)

/-! ### Items -/

theorem elaborateItem_outcome_eq_ok_iff {item : Json} {c : Child Element} :
    (elaborateItem elaborateChild path item).outcome = .ok c ↔
      requiredFlag item path = .ok c.required ∧ (elaborateChild item).outcome = .ok c.element := by
  rw [elaborateItem, bind_outcome_eq_ok_iff]
  constructor
  · rintro ⟨required, hrequired, h⟩
    obtain ⟨e, he, h⟩ := bind_outcome_eq_ok_iff.1 h
    obtain rfl := Except.ok.inj h
    exact ⟨hrequired, he⟩
  · rintro ⟨hrequired, he⟩
    exact ⟨_, hrequired, bind_outcome_eq_ok_iff.2 ⟨_, he, rfl⟩⟩

theorem definitions_elaborateItem_of_ok {item : Json} {c : Child Element}
    (h : (elaborateItem elaborateChild path item).outcome = .ok c) :
    definitions (elaborateItem elaborateChild path item) = definitions (elaborateChild item) := by
  obtain ⟨hrequired, he⟩ := elaborateItem_outcome_eq_ok_iff.1 h
  have hflag : (liftM (requiredFlag item path) : Elaborated Bool).outcome = .ok c.required :=
    hrequired
  rw [elaborateItem, definitions_bind_of_ok _ hflag, definitions_bind_of_ok _ he]
  exact List.append_nil _

/-! ### Regular shapes -/

/-- The parts of an object go together. -/
structure ObjectShape.Regular {ε : Type} (shape : ObjectShape ε) : Prop where
  containerKey_of_value : shape.value.isSome → shape.containerKey.isSome
  children_of_value : shape.value.isSome → shape.children = []
  bare_of_oneOf : shape.multiplicity = .oneOf → shape.containerKey = none ∧ shape.value = none

theorem regular_of_closeShape {path : String} {multiplicity : Multiplicity}
    {containerKey : Option String} {value : Option Element} {children : List (Child Element)}
    {shape : ObjectShape Element}
    (h : (closeShape path multiplicity containerKey value children).outcome = .ok shape) :
    shape.Regular := by
  rcases closeShape_outcome_eq_ok_iff.1 h with ⟨-, rfl⟩ | ⟨honeOf, htogether, rfl⟩
  · exact ⟨nofun, nofun, fun _ ↦ ⟨rfl, rfl⟩⟩
  · exact ⟨fun hvalue ↦ (htogether hvalue).2, fun hvalue ↦ (htogether hvalue).1,
      fun h ↦ absurd h honeOf⟩

/-! ### Objects -/

/-- The elements that an object is made of. -/
def ObjectShape.elements (shape : ObjectShape Element) : List Element :=
  shape.value.toList ++ shape.children.map Child.element

/-- A shape is made of what a descriptor names. -/
structure ShapeSource.Makes (elaborateChild : Json → Elaborated Element) (path : String)
    (source : ShapeSource) (shape : ObjectShape Element) : Prop where
  multiplicity : shape.multiplicity = source.multiplicity
  containerKey : shape.multiplicity ≠ .oneOf → shape.containerKey = source.containerKey
  value : shape.multiplicity ≠ .oneOf →
    Option.Rel (fun node e ↦ (elaborateChild node).outcome = .ok e) source.value shape.value
  children : List.Forall₂
    (fun item (c : Child Element) ↦ requiredFlag item path = .ok c.required ∧
      (elaborateChild item).outcome = .ok c.element) source.items shape.children
  regular : shape.Regular

theorem ShapeSource.makes_of_elaborate {source : ShapeSource} {shape : ObjectShape Element}
    (h : (source.elaborate elaborateChild path).outcome = .ok shape) :
    source.Makes elaborateChild path shape := by
  obtain ⟨value, hvalue, h⟩ := bind_outcome_eq_ok_iff.1 h
  obtain ⟨children, hchildren, h⟩ := bind_outcome_eq_ok_iff.1 h
  have hregular : shape.Regular := regular_of_closeShape h
  have hitems := (mapM_outcome_eq_ok_iff.1 hchildren).imp fun _ _ ↦
    elaborateItem_outcome_eq_ok_iff.1
  rcases closeShape_outcome_eq_ok_iff.1 h with ⟨honeOf, rfl⟩ | ⟨honeOf, -, rfl⟩
  · exact ⟨rfl, fun hnot ↦ absurd honeOf hnot, fun hnot ↦ absurd honeOf hnot, hitems, hregular⟩
  · exact ⟨rfl, fun _ ↦ rfl, fun _ ↦ mapM_option_outcome_eq_ok_iff.1 hvalue, hitems, hregular⟩

/-- Every element of an object is that of a node below. -/
theorem ShapeSource.Makes.exists_node {source : ShapeSource} {shape : ObjectShape Element}
    (h : source.Makes elaborateChild path shape) {e : Element} (he : e ∈ shape.elements) :
    ∃ node ∈ source.below, (elaborateChild node).outcome = .ok e := by
  rcases List.mem_append.1 he with he | he
  · rw [Option.mem_toList] at he
    have honeOf : shape.multiplicity ≠ .oneOf := by
      intro honeOf
      rw [(h.regular.bare_of_oneOf honeOf).2] at he
      exact nomatch he
    have hvalue := h.value honeOf
    rw [he] at hvalue
    obtain ⟨node, hnode, hok⟩ := exists_of_rel_some hvalue
    exact ⟨node, List.mem_append_left _ (Option.mem_toList.2 hnode), hok⟩
  · obtain ⟨c, hc, rfl⟩ := List.mem_map.1 he
    obtain ⟨item, hitem, -, hok⟩ := Report.exists_mem_of_forall₂ h.children.flip hc
    exact ⟨item, List.mem_append_right _ hitem, hok⟩

/-- An object that is elaborated has been read, and is made of what was read. -/
theorem exists_makes_of_elaborateShape {descriptor : Fields} {shape : ObjectShape Element}
    (h : (elaborateShape elaborateChild descriptor path).outcome = .ok shape) :
    ∃ source, readShape descriptor path = .ok source ∧ source.Makes elaborateChild path shape := by
  obtain ⟨source, hread, helaborate, -⟩ := below_of_elaborateShape h
  exact ⟨source, hread, ShapeSource.makes_of_elaborate helaborate⟩

theorem ShapeSource.definitions_elaborate_of_ok {source : ShapeSource} {shape : ObjectShape Element}
    (h : (source.elaborate elaborateChild path).outcome = .ok shape) :
    definitions (source.elaborate elaborateChild path) =
      source.below.flatMap fun node ↦ definitions (elaborateChild node) := by
  obtain ⟨value, hvalue, h⟩ := bind_outcome_eq_ok_iff.1 h
  obtain ⟨children, hchildren, -⟩ := bind_outcome_eq_ok_iff.1 h
  have hitems : definitions (source.items.mapM (elaborateItem elaborateChild path)) =
      source.items.flatMap fun item ↦ definitions (elaborateChild item) := by
    rw [definitions_mapM_of_ok hchildren]
    refine List.flatMap_congr fun item hitem ↦ ?_
    obtain ⟨c, -, hc⟩ := ok_of_mapM_ok hchildren hitem
    exact definitions_elaborateItem_of_ok hc
  rw [ShapeSource.elaborate, definitions_bind_of_ok _ hvalue, definitions_bind_of_ok _ hchildren,
    definitions_closeShape, definitions_mapM_option, hitems, List.append_nil, ShapeSource.below,
    List.flatMap_append]

/-- An object that is elaborated defines what stands below it. -/
theorem definitions_of_elaborateShape {descriptor : Fields} {source : ShapeSource}
    {shape : ObjectShape Element} (hread : readShape descriptor path = .ok source)
    (h : (elaborateShape elaborateChild descriptor path).outcome = .ok shape) :
    definitions (elaborateShape elaborateChild descriptor path) =
      source.below.flatMap fun node ↦ definitions (elaborateChild node) := by
  obtain ⟨hok, hdefinitions⟩ := agrees_elaborateShape elaborateChild descriptor path shape h
  have hlift : (liftM (readShape descriptor path) : Elaborated ShapeSource).outcome = .ok source :=
    hread
  rw [← hdefinitions, definitions_bind_of_ok _ hlift]
  obtain ⟨source', hsource', hok⟩ := bind_outcome_eq_ok_iff.1 hok
  obtain rfl := Except.ok.inj (hlift.symm.trans hsource')
  exact ShapeSource.definitions_elaborate_of_ok hok

/-! ### Nodes -/

theorem head_of_fillNode {o : Opened} {e : Element}
    (h : (fillNode elaborateChild o).outcome = .ok e) : e.head = o.head := by
  unfold fillNode at h
  split at h
  · obtain ⟨shape, -, h⟩ := bind_outcome_eq_ok_iff.1 h
    obtain rfl := Except.ok.inj h
    rfl
  · obtain ⟨options, -, h⟩ := bind_outcome_eq_ok_iff.1 h
    obtain rfl := Except.ok.inj h
    rfl
  · obtain rfl := Except.ok.inj h
    rfl

/-- A node is filled to an object if it is one, with the shape that its descriptor has. -/
theorem fillNode_outcome_eq_object_iff {o : Opened} {head : Head} {shape : ObjectShape Element} :
    (fillNode elaborateChild o).outcome = .ok (.object head shape) ↔
      o.kind = .object ∧ o.head = head ∧
        (elaborateShape elaborateChild o.descriptor o.path).outcome = .ok shape := by
  unfold fillNode
  cases o.kind with
  | object =>
    rw [bind_outcome_eq_ok_iff]
    constructor
    · rintro ⟨shape', hshape, h⟩
      obtain ⟨hhead, rfl⟩ := Element.object.inj (Except.ok.inj h)
      exact ⟨rfl, hhead, hshape⟩
    · rintro ⟨-, rfl, hshape⟩
      exact ⟨shape, hshape, rfl⟩
  | enum =>
    rw [bind_outcome_eq_ok_iff]
    constructor
    · rintro ⟨options, -, h⟩
      exact nomatch h
    · exact fun h ↦ nomatch h.1
  | leaf kind => exact ⟨nofun, nofun⟩

variable {levels : Nat} {scope : Scope} {parent : String} {node : Json}

/-- A node that is elaborated has been opened, and is filled to the element. -/
theorem exists_opened_of_elaborateAt {e : Element}
    (h : (elaborateAt levels scope parent node).outcome = .ok e) :
    ∃ below o, (openNode scope parent node).outcome = .ok o ∧
      (fillNode (elaborateAt below o.inner o.path) o).outcome = .ok e := by
  cases levels with
  | zero => exact nomatch h
  | succ levels =>
    rw [elaborateAt_succ] at h
    obtain ⟨o, hopen, h⟩ := bind_outcome_eq_ok_iff.1 h
    obtain ⟨filled, hfill, hclose⟩ := bind_outcome_eq_ok_iff.1 h
    obtain ⟨rfl, -⟩ := closeNode_outcome_eq_ok_iff.1 hclose
    exact ⟨levels, o, hopen, hfill⟩

/-- The key of an element is that of its node, also where a fragment governs the node. -/
theorem key_of_elaborateAt {e : Element}
    (h : (elaborateAt levels scope parent node).outcome = .ok e) :
    ∃ fields : Fields, node = .object fields ∧ fields.get? "key" = some (.string e.key) := by
  obtain ⟨below, o, hopen, hfill⟩ := exists_opened_of_elaborateAt h
  obtain ⟨fields, hnode, hopens⟩ := openNode_eq_ok_iff.1 hopen
  refine ⟨fields, hnode, ?_⟩
  rw [Element.key, head_of_fillNode hfill]
  exact hopens.key

/-- An object has been opened and read, and is made of what was read. -/
theorem exists_makes_of_elaborateAt {head : Head} {shape : ObjectShape Element}
    (h : (elaborateAt levels scope parent node).outcome = .ok (.object head shape)) :
    ∃ below o source, (openNode scope parent node).outcome = .ok o ∧ o.kind = .object ∧
      o.head = head ∧ readShape o.descriptor o.path = .ok source ∧
      source.Makes (elaborateAt below o.inner o.path) o.path shape := by
  obtain ⟨below, o, hopen, hfill⟩ := exists_opened_of_elaborateAt h
  obtain ⟨hkind, hhead, hshape⟩ := fillNode_outcome_eq_object_iff.1 hfill
  obtain ⟨source, hread, hmakes⟩ := exists_makes_of_elaborateShape hshape
  exact ⟨below, o, source, hopen, hkind, hhead, hread, hmakes⟩

/-- A descent reads an object: it visits a node that opens to one, and what that is made of can be
read. -/
def Situation.Reads (s : Situation) (o : Opened) (source : ShapeSource) : Prop :=
  ∃ t, s.Visits t ∧ (openNode t.scope t.parent t.node).outcome = .ok o ∧ o.kind = .object ∧
    readShape o.descriptor o.path = .ok source

/-- A descent builds an object: it reads one, and the object is made of what has been read. -/
def Situation.Builds (s : Situation) (head : Head) (object : ObjectShape Element) : Prop :=
  ∃ below o source, s.Reads o source ∧ o.head = head ∧
    source.Makes (elaborateAt below o.inner o.path) o.path object

/-- What is elaborated to an object where a descent comes by is built by the descent. -/
theorem Situation.Visits.builds {s t : Situation} (h : s.Visits t) {levels : Nat} {head : Head}
    {object : ObjectShape Element}
    (hok : (elaborateAt levels t.scope t.parent t.node).outcome = .ok (.object head object)) :
    s.Builds head object := by
  obtain ⟨below, o, source, hopen, hkind, hhead, hread, hmakes⟩ := exists_makes_of_elaborateAt hok
  exact ⟨below, o, source, ⟨t, h, hopen, hkind, hread⟩, hhead, hmakes⟩

theorem Situation.Builds.regular {s : Situation} {head : Head} {object : ObjectShape Element}
    (h : s.Builds head object) : object.Regular := by
  obtain ⟨below, o, source, -, -, hmakes⟩ := h
  exact hmakes.regular

end ClientSynthesis.Body
