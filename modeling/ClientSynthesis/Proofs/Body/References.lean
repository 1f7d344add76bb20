import ClientSynthesis.Proofs.Body.Parts

/-!
# References between definitions

A field that holds a generated object or a generated enum is written by the definition of its type,
and refers to it. What it relies on is that the definition is there, that it is a struct or an enum
as the field has it, and that it is written under the field's own key (`Definition.Provides`).

A list of definitions is **grounded** in a set if every definition in it finds what its fields refer
to in that set or before itself (`Grounded`). This is an invariant of a list as it grows, and
elaborations have it: children are elaborated before their parent, so whatever a descent defines, up
to its end or to its failure, is grounded in nothing at all (`groundedIn_elaborateAt`).
-/

namespace ClientSynthesis

open Body (Element ObjectShape)
open StructShape (containerField objectFields)

/-! ### References of fields -/

/-- A field that is written by the definition of its type. -/
def Field.Refers (f : Field) : Prop :=
  f.role ≠ .slot ∧ (f.encoding = .document ∨ f.encoding = .wireValue)

/-- A shape that the encoding of a field can be carried out on. -/
def Encoding.Suits : Encoding → TypeShape → Prop
  | .document, .struct _ => True
  | .wireValue, .enum _ => True
  | _, _ => False

theorem Encoding.suits_document_iff {shape : TypeShape} :
    Encoding.document.Suits shape ↔ ∃ inner, shape = .struct inner := by
  cases shape with
  | struct inner => exact ⟨fun _ ↦ ⟨inner, rfl⟩, fun _ ↦ trivial⟩
  | enum cases => exact ⟨nofun, nofun⟩

theorem Encoding.suits_wireValue_iff {shape : TypeShape} :
    Encoding.wireValue.Suits shape ↔ ∃ cases, shape = .enum cases := by
  cases shape with
  | struct inner => exact ⟨nofun, nofun⟩
  | enum cases => exact ⟨fun _ ↦ ⟨cases, rfl⟩, fun _ ↦ trivial⟩

/-- A definition is what a field refers to: it defines the field's type, as the encoding has it, and
under the field's key. -/
structure Definition.Provides (d : Definition) (f : Field) : Prop where
  name : f.type = .named d.name
  shape : ∃ type, d.kind = .type type ∧ type.wireKey = f.key ∧ f.encoding.Suits type.shape

/-- The fields of what is defined, if that is a struct. -/
def Definition.fields (d : Definition) : List Field :=
  match d.kind with
  | .type ⟨_, _, .struct shape⟩ => shape.fields
  | _ => []

/-- Every reference of a definition finds what it refers to in a set. -/
def Definition.Supported (S : Set Definition) (d : Definition) : Prop :=
  ∀ f ∈ d.fields, f.Refers → ∃ e ∈ S, e.Provides f

theorem Definition.Supported.mono {S T : Set Definition} (h : S ⊆ T) {d : Definition}
    (hd : d.Supported S) : d.Supported T := by
  intro f hf hrefers
  obtain ⟨e, he, hprovides⟩ := hd f hf hrefers
  exact ⟨e, h he, hprovides⟩

/-! ### Grounded lists -/

/-- Every definition of a list finds what it refers to in a set or before itself. -/
def Grounded : Set Definition → List Definition → Prop
  | _, [] => True
  | S, d :: rest => d.Supported S ∧ Grounded (insert d S) rest

namespace Grounded

variable {S T : Set Definition} {ds : List Definition}

theorem mono (h : S ⊆ T) (hds : Grounded S ds) : Grounded T ds := by
  induction ds generalizing S T with
  | nil => trivial
  | cons d rest ih => exact ⟨hds.1.mono h, ih (Set.insert_subset_insert h) hds.2⟩

theorem append {es : List Definition} (hds : Grounded S ds)
    (hes : Grounded (S ∪ {d | d ∈ ds}) es) : Grounded S (ds ++ es) := by
  induction ds generalizing S with
  | nil => exact hes.mono (by simp)
  | cons d rest ih =>
    refine ⟨hds.1, ih hds.2 (hes.mono ?_)⟩
    rintro e (he | he)
    · exact .inl (.inr he)
    · rcases List.mem_cons.1 he with rfl | he
      · exact .inl (.inl rfl)
      · exact .inr he

end Grounded

/-! ### What elements define -/

/-- A field holds an element: the element's key, type and encoding are the field's. -/
structure Field.Holds (f : Field) (e : Element) : Prop where
  key : f.key = e.key
  type : f.type = e.fieldType.1
  encoding : f.encoding = e.fieldType.2

/-- An element that a field refers to has a definition, and that is what the field refers to. -/
theorem exists_provides_of_holds {f : Field} {e : Element} (hholds : f.Holds e)
    (hrefers : f.Refers) {path : String} {d? : Option Definition}
    (h : Definition.ofElement? e path = .ok d?) : ∃ d, d? = some d ∧ d.Provides f := by
  obtain ⟨hkey, htype, hencoding⟩ := hholds
  cases e with
  | object head object =>
    obtain ⟨shape, -, rfl⟩ := Body.ofElement?_object_eq_ok_iff.1 h
    refine ⟨_, rfl, htype, _, rfl, hkey.symm, ?_⟩
    rw [hencoding]
    trivial
  | enum head options =>
    obtain ⟨cases, -, rfl⟩ := Body.ofElement?_enum_eq_ok_iff.1 h
    refine ⟨_, rfl, htype, _, rfl, hkey.symm, ?_⟩
    rw [hencoding]
    trivial
  | leaf head kind =>
    -- The other kinds have neither of the two encodings.
    rcases hrefers.2 with h | h <;> rw [hencoding] at h <;> cases kind <;> exact nomatch h

/-- The fields of an object that refer hold the elements it is made of. -/
theorem exists_holds_of_mem_objectFields {object : ObjectShape Element} {f : Field}
    (hf : f ∈ objectFields object) (hrefers : f.Refers) : ∃ e ∈ object.elements, f.Holds e := by
  rw [objectFields, List.mem_append, List.mem_append] at hf
  rcases hf with (hf | hf) | hf
  · obtain ⟨key, -, rfl⟩ := Option.map_eq_some_iff.1 (Option.mem_toList.1 hf)
    have hencoding : (containerField key).encoding = .verbatim := rfl
    rw [Field.Refers, hencoding] at hrefers
    exact absurd hrefers.2 (by decide)
  · obtain ⟨e, he, rfl⟩ := Option.map_eq_some_iff.1 (Option.mem_toList.1 hf)
    exact ⟨e, List.mem_append_left _ (Option.mem_toList.2 he), rfl, rfl, rfl⟩
  · obtain ⟨c, hc, rfl⟩ := List.mem_map.1 hf
    exact ⟨c.element, List.mem_append_right _ (List.mem_map_of_mem hc), rfl, rfl, rfl⟩

/-- What a definition refers to is defined by the elements that an object is made of. -/
theorem exists_holds_of_ofElement? {e : Element} {path : String} {d : Definition}
    (h : Definition.ofElement? e path = .ok (some d)) {f : Field} (hf : f ∈ d.fields)
    (hrefers : f.Refers) :
    ∃ head object, e = .object head object ∧ ∃ part ∈ object.elements, f.Holds part := by
  cases e with
  | object head object =>
    obtain ⟨shape, hshape, hd⟩ := Body.ofElement?_object_eq_ok_iff.1 h
    obtain rfl := Option.some.inj hd
    refine ⟨head, object, rfl, ?_⟩
    replace hf : f ∈ shape.fields := hf
    rcases StructShape.ofObject_eq_ok_iff.1 hshape with ⟨-, rfl⟩ | ⟨-, -, rfl⟩
    · obtain rfl := List.mem_singleton.1 hf
      exact absurd rfl hrefers.1
    · exact exists_holds_of_mem_objectFields hf hrefers
  | enum head options =>
    obtain ⟨cases, -, hd⟩ := Body.ofElement?_enum_eq_ok_iff.1 h
    obtain rfl := Option.some.inj hd
    exact nomatch hf
  | leaf head kind => exact nomatch h

namespace Body

open Json (Fields)
open Report.Traced

variable {α β : Type} {S : Set Definition} {elaborateChild : Json → Elaborated Element}

/-! ### Grounded computations -/

/-- A computation defines nothing before what it refers to. -/
def GroundedIn (S : Set Definition) (x : Elaborated α) : Prop := Grounded S (definitions x)

namespace GroundedIn

theorem of_no_definitions {x : Elaborated α} (h : definitions x = []) : GroundedIn S x := by
  rw [GroundedIn, h]
  trivial

/-- What follows a success may refer to all that was defined until then. -/
theorem bind {x : Elaborated α} {f : α → Elaborated β} (hx : GroundedIn S x)
    (hf : ∀ a, x.outcome = .ok a → GroundedIn (S ∪ contribution x) (f a)) :
    GroundedIn S (x >>= f) := by
  cases h : x.outcome with
  | error e =>
    rw [GroundedIn, definitions, trace_bind_of_error f h]
    exact hx
  | ok a =>
    rw [GroundedIn, definitions_bind_of_ok f h]
    exact hx.append (hf a h)

/-- What follows a success need not refer to it. -/
theorem seq {x : Elaborated α} {f : α → Elaborated β} (hx : GroundedIn S x)
    (hf : ∀ a, GroundedIn S (f a)) : GroundedIn S (x >>= f) :=
  hx.bind fun a _ ↦ (hf a).mono Set.subset_union_left

theorem mapM {f : α → Elaborated β} (hf : ∀ a, GroundedIn S (f a)) (xs : List α) :
    GroundedIn S (xs.mapM f) := by
  induction xs with
  | nil => exact of_no_definitions rfl
  | cons x rest ih =>
    rw [List.mapM_cons]
    exact (hf x).seq fun y ↦ ih.seq fun ys ↦ of_no_definitions rfl

theorem mapM_option {f : α → Elaborated β} (hf : ∀ a, GroundedIn S (f a)) (x : Option α) :
    GroundedIn S (x.mapM f) := by
  cases x with
  | none => exact of_no_definitions rfl
  | some a =>
    rw [Option.mapM_some, map_eq_pure_bind]
    exact (hf a).seq fun b ↦ of_no_definitions rfl

end GroundedIn

/-! ### Descents -/

/-- Where every node below is grounded for itself, so is filling the node above. -/
theorem groundedIn_fillNode (h : ∀ node, GroundedIn S (elaborateChild node)) (o : Opened) :
    GroundedIn S (fillNode elaborateChild o) := by
  have hitem (path : String) (item : Json) : GroundedIn S (elaborateItem elaborateChild path item) :=
    GroundedIn.seq (.of_no_definitions rfl) fun required ↦
      (h item).seq fun e ↦ .of_no_definitions rfl
  have hshape : GroundedIn S (elaborateShape elaborateChild o.descriptor o.path) := by
    rw [elaborateShape_eq]
    refine .seq (.of_no_definitions rfl) fun container ↦ ?_
    refine .seq (.of_no_definitions rfl) fun containerKey ↦ ?_
    refine .seq (.mapM_option h _) fun value ↦ ?_
    refine .seq (.of_no_definitions rfl) fun declared ↦ ?_
    refine .seq (.mapM (hitem o.path) _) fun children ↦ ?_
    exact .of_no_definitions (definitions_closeShape ..)
  unfold fillNode
  cases o.kind with
  | object => exact hshape.seq fun shape ↦ .of_no_definitions rfl
  | enum => exact .seq (.of_no_definitions rfl) fun options ↦ .of_no_definitions rfl
  | leaf kind => exact .of_no_definitions rfl

theorem groundedIn_closeNode {path : String} {e : Element}
    (h : ∀ d, Definition.ofElement? e path = .ok (some d) → d.Supported S) :
    GroundedIn S (closeNode path e) := by
  cases hd? : Definition.ofElement? e path with
  | error error => exact .of_no_definitions (by rw [closeNode, hd?]; rfl)
  | ok d? =>
    cases d? with
    | none => exact .of_no_definitions (by rw [closeNode, hd?]; rfl)
    | some d =>
      have hdefinitions : definitions (closeNode path e) = [d] := by rw [closeNode, hd?]; rfl
      rw [GroundedIn, hdefinitions]
      exact ⟨h d hd?, trivial⟩

/-- An element that is elaborated has its definition, if it has one, defined. -/
theorem exists_definition_of_elaborateAt {levels : Nat} {scope : Scope} {parent : String}
    {node : Json} {e : Element} (h : (elaborateAt levels scope parent node).outcome = .ok e) :
    ∃ path d?, Definition.ofElement? e path = .ok d? ∧
      ∀ d ∈ d?, d ∈ contribution (elaborateAt levels scope parent node) := by
  cases levels with
  | zero => exact nomatch h
  | succ levels =>
    rw [elaborateAt_succ] at h ⊢
    obtain ⟨o, hopen, h⟩ := bind_outcome_eq_ok_iff.1 h
    obtain ⟨filled, hfill, hclose⟩ := bind_outcome_eq_ok_iff.1 h
    obtain ⟨rfl, d?, hd?⟩ := closeNode_outcome_eq_ok_iff.1 hclose
    refine ⟨o.path, d?, hd?, fun d hd ↦ ?_⟩
    obtain rfl : d? = some d := hd
    have hdefined : d ∈ definitions (closeNode o.path e) := mem_definitions_closeNode.2 hd?
    show d ∈ definitions (openNode scope parent node >>= fun o ↦
      fillNode (elaborateAt levels o.inner o.path) o >>= closeNode o.path)
    rw [definitions_bind_of_ok _ hopen, definitions_bind_of_ok _ hfill]
    exact List.mem_append_right _ (List.mem_append_right _ hdefined)

/-- What an element's definition refers to is defined while the element's node is filled. -/
theorem supported_of_fillNode {levels : Nat} {o : Opened} {e : Element}
    (hfill : (fillNode (elaborateAt levels o.inner o.path) o).outcome = .ok e) {path : String}
    {d : Definition} (hd : Definition.ofElement? e path = .ok (some d)) :
    d.Supported (contribution (fillNode (elaborateAt levels o.inner o.path) o)) := by
  intro f hf hrefers
  obtain ⟨head, object, rfl, part, hpart, hholds⟩ := exists_holds_of_ofElement? hd hf hrefers
  obtain ⟨hkind, -, hshape⟩ := fillNode_outcome_eq_object_iff.1 hfill
  obtain ⟨source, hread, hmakes⟩ := exists_makes_of_elaborateShape hshape
  -- The part is the element of a node below, whose descent has defined it.
  obtain ⟨node, hnode, hok⟩ := hmakes.exists_node hpart
  obtain ⟨path, d?, hd?, hdefined⟩ := exists_definition_of_elaborateAt hok
  obtain ⟨target, rfl, hprovides⟩ := exists_provides_of_holds hholds hrefers hd?
  have hbelow : target ∈ definitions (elaborateAt levels o.inner o.path node) := hdefined target rfl
  refine ⟨target, ?_, hprovides⟩
  show target ∈ definitions (fillNode _ o)
  unfold fillNode
  rw [hkind]
  dsimp only
  rw [definitions_bind_of_ok _ hshape, definitions_of_elaborateShape hread hshape]
  exact List.mem_append_left _ (List.mem_flatMap.2 ⟨node, hnode, hbelow⟩)

/-- **A descent defines nothing before what it refers to**, whether or not it comes to a good
end. -/
theorem groundedIn_elaborateAt (levels : Nat) (scope : Scope) (parent : String) (node : Json) :
    GroundedIn ∅ (elaborateAt levels scope parent node) := by
  induction levels generalizing scope parent node with
  | zero => exact .of_no_definitions rfl
  | succ levels ih =>
    rw [elaborateAt_succ]
    refine .seq (.of_no_definitions (definitions_openNode ..)) fun o ↦ ?_
    refine (groundedIn_fillNode (ih o.inner o.path) o).bind fun e hfill ↦ ?_
    rw [Set.empty_union]
    exact groundedIn_closeNode fun d hd ↦ supported_of_fillNode hfill hd

end Body

end ClientSynthesis
