import ClientSynthesis.Proofs.Body.Parts
import ClientSynthesis.Proofs.Code.SerializerRun
import Mathlib.Data.List.Nodup

/-!
# What serializers mean

A serializer writes what the descriptor says: under the wire key stands the content of the object,
which `content` gives from the element alone, with neither fields nor statements in it. A serializer
of an object is run in `run?_serializer_ofObject`, statement list by statement list, and read in
front of that (`runText?_serializer`).

Two things have to be known of the object. Its parts go together (`ObjectShape.Regular`), since a
value without a container key would be dropped. And its identifiers are distinct, which
`StructShape.ofObject` has made sure of; that the keys on the wire are distinct is then a
consequence, and with it every child that is required or present has its entry
(`exists_child_get?_childEntries`).

The content can be told from the struct as well, by the roles of its fields, and then comes out the
same (`content_eq_fieldsContent`). So it does not matter which object a struct is seen as made of.
-/

namespace ClientSynthesis.Code

open Body (Child Element ObjectShape)
open Json (Fields)
open Naming (fieldName isNameChar isNameChar_of_mem_fieldName)
open StructShape (childField containerField objectFields objectSerialization ofObject
  ofObject_eq_ok_iff slotName slotOnly valueField)

variable {V : Type}

/-! ### The content of an object -/

/-- A value as the kind of its element has it written. -/
def Runtime.ofKind (rt : Runtime V) : Body.Kind → V → Json
  | .object, v => rt.toDocument v
  | .enum, v => .string (rt.wireText v)
  | .leaf .scalar, v | .leaf .scalarArray, v => rt.toJson v
  | .leaf .array, v => .array ((rt.items v).map rt.toDocument)

/-- The field for the alternative of a one-of object. -/
def slotField : Field := ⟨slotName, slotName, .polymorphic, false, .document, .slot⟩

/-- The value of a child, if it is required or present. -/
def childValue? (values : Instance V) (c : Child Element) : Option V :=
  if c.required then some (values.plain (childField c)) else values.optional (childField c)

/-- The entries of the children of an object, in the order they are declared. -/
def childEntries (rt : Runtime V) (values : Instance V) (object : ObjectShape Element) : Fields :=
  object.children.filterMap fun c ↦
    (childValue? values c).map fun v ↦ (c.element.key, rt.ofKind c.element.kind v)

/-- What an object holds at run time. -/
def content (rt : Runtime V) (values : Instance V) (object : ObjectShape Element) : Json :=
  let container := object.containerKey.map containerField
  if object.multiplicity = .oneOf then rt.toDocument (values.plain slotField)
  else
    match object.children, object.value with
    | [], none => .object []
    | [], some e => under values container (rt.ofKind e.kind (values.plain (valueField e)))
    | _ :: _, _ => under values container (.object (childEntries rt values object))

theorem encode_fieldType (rt : Runtime V) (e : Element) (v : V) :
    rt.encode e.fieldType.2 v = rt.ofKind e.kind v := by
  cases e with
  | object head shape => rfl
  | enum head options => rfl
  | leaf head kind => cases kind <;> rfl

/-- The entries of the children are those of their fields. -/
theorem filterMap_member?_childField (rt : Runtime V) (values : Instance V)
    (object : ObjectShape Element) :
    (object.children.map childField).filterMap (member? rt values) =
      childEntries rt values object := by
  rw [List.filterMap_map, childEntries]
  refine List.filterMap_congr fun c _ ↦ ?_
  have hoptional : (childField c).optional = !c.required := rfl
  have hencode (v : V) : rt.encode (childField c).encoding v = rt.ofKind c.element.kind v :=
    encode_fieldType rt c.element v
  rw [Function.comp_apply, member?, hoptional, childValue?]
  simp only [hencode]
  by_cases hrequired : c.required = true
  · rw [hrequired, Bool.not_true, if_neg Bool.false_ne_true, if_pos rfl]
    rfl
  · rw [Bool.not_eq_true] at hrequired
    rw [hrequired, Bool.not_false, if_pos rfl, if_neg Bool.false_ne_true]
    rfl

/-! ### The fields of an object -/

-- The identifiers are rewritten with these equations, since a reduction to them would go on to
-- compute the identifier.

@[simp] theorem childField_ident (c : Child Element) :
    (childField c).ident = fieldName c.element.key := by
  rw [childField]

@[simp] theorem containerField_ident (key : String) :
    (containerField key).ident = fieldName key := by
  rw [containerField]

@[simp] theorem valueField_ident (e : Element) : (valueField e).ident = fieldName e.key := by
  rw [valueField]

theorem filter_child_objectFields (object : ObjectShape Element) :
    (objectFields object).filter (hasRole .child) = object.children.map childField := by
  have hchildren : (object.children.map childField).filter (hasRole .child) =
      object.children.map childField := by
    rw [List.filter_eq_self]
    intro f hf
    obtain ⟨c, -, rfl⟩ := List.mem_map.1 hf
    rfl
  rw [objectFields, List.filter_append, List.filter_append, hchildren]
  cases object.containerKey <;> cases object.value <;> rfl

/-- A field for another role than that of a child is to be found before the children. -/
theorem find?_objectFields {role : Role} (h : role ≠ .child) (object : ObjectShape Element) :
    (objectFields object).find? (hasRole role) = ((object.containerKey.map containerField).toList ++
      (object.value.map valueField).toList).find? (hasRole role) := by
  have hchildren : (object.children.map childField).find? (hasRole role) = none := by
    refine List.find?_eq_none.2 (List.forall_mem_map.2 fun c _ hrole ↦ ?_)
    exact h (beq_iff_eq.1 hrole).symm
  rw [objectFields, List.find?_append, hchildren, Option.or_none]

theorem find?_slot_objectFields (object : ObjectShape Element) :
    (objectFields object).find? (hasRole .slot) = none := by
  rw [find?_objectFields (by decide)]
  cases object.containerKey <;> cases object.value <;> rfl

theorem find?_container_objectFields (object : ObjectShape Element) :
    (objectFields object).find? (hasRole .container) = object.containerKey.map containerField := by
  rw [find?_objectFields (by decide)]
  cases object.containerKey <;> cases object.value <;> rfl

theorem find?_value_objectFields (object : ObjectShape Element) :
    (objectFields object).find? (hasRole .value) = object.value.map valueField := by
  rw [find?_objectFields (by decide)]
  cases object.containerKey <;> cases object.value <;> rfl

/-- The identifier of a field is made from its key. -/
theorem ident_of_mem_objectFields {object : ObjectShape Element} {f : Field}
    (h : f ∈ objectFields object) : f.ident = fieldName f.key := by
  simp only [objectFields, List.mem_append, Option.mem_toList, Option.map_eq_some_iff,
    List.mem_map] at h
  rcases h with (⟨key, -, rfl⟩ | ⟨e, -, rfl⟩) | ⟨c, -, rfl⟩
  · exact containerField_ident key
  · exact valueField_ident e
  · exact childField_ident c

/-- With distinct identifiers, keys are distinct. -/
theorem nodup_map_key_objectFields {object : ObjectShape Element}
    (h : ((objectFields object).map Field.ident).Nodup) :
    ((objectFields object).map Field.key).Nodup := by
  have hidents : (objectFields object).map Field.ident =
      ((objectFields object).map Field.key).map fieldName := by
    rw [List.map_map, Function.comp_def]
    exact List.map_congr_left fun f hf ↦ ident_of_mem_objectFields hf
  rw [hidents] at h
  exact h.of_map fieldName

theorem nodup_keys_of_nodup_idents {object : ObjectShape Element}
    (h : ((objectFields object).map Field.ident).Nodup) :
    (object.children.map fun c ↦ c.element.key).Nodup := by
  have hkeys := nodup_map_key_objectFields h
  rw [objectFields, List.map_append, List.nodup_append] at hkeys
  have hchildren : object.children.map (fun c ↦ c.element.key) =
      (object.children.map childField).map Field.key := by
    rw [List.map_map]
    rfl
  rw [hchildren]
  exact hkeys.2.1

theorem objectSerialization_of_nothing {object : ObjectShape Element}
    (hchildren : object.children = []) (h : object.containerKey = none ∨ object.value = none) :
    objectSerialization object = .empty := by
  rcases h with hkey | hvalue
  · simp only [objectSerialization, hchildren, hkey, Option.map_none]
  · simp only [objectSerialization, hchildren, hvalue]
    cases object.containerKey <;> rfl

theorem objectSerialization_of_value {object : ObjectShape Element} {key : String} {e : Element}
    (hchildren : object.children = []) (hkey : object.containerKey = some key)
    (hvalue : object.value = some e) :
    objectSerialization object =
      .containerValue (containerField key).ident (valueField e).ident := by
  simp only [objectSerialization, hchildren, hkey, hvalue, Option.map_some, containerField_ident,
    valueField_ident]

theorem objectSerialization_of_children {object : ObjectShape Element}
    (hchildren : object.children ≠ []) :
    objectSerialization object =
      .fields ((object.containerKey.map containerField).map Field.ident) := by
  cases h : object.children with
  | nil => exact absurd h hchildren
  | cons c rest =>
    simp only [objectSerialization, h, Option.map_map, Function.comp_def, containerField_ident]

/-! ### Running the serializer of an object -/

/-- The serializer of an object writes the object's content. -/
theorem run?_serializer_ofObject {object : ObjectShape Element} (hregular : object.Regular)
    {path : String} {shape : StructShape} (hshape : ofObject object path = .ok shape)
    (rt : Runtime V) (values : Instance V) (wireKey : String) :
    run? rt ⟨shape.fields, values⟩ (serializer wireKey shape) =
      some (.object [(wireKey, content rt values object)]) := by
  rcases ofObject_eq_ok_iff.1 hshape with ⟨honeOf, rfl⟩ | ⟨honeOf, hnodup, rfl⟩
  · have hslot : Self.field? ⟨slotOnly.fields, values⟩ slotField.ident = some slotField := rfl
    rw [content, if_pos honeOf]
    exact run?_of_exactlyOne rfl hslot rfl rfl
  · have hfield : ∀ f ∈ objectFields object,
        Self.field? ⟨objectFields object, values⟩ f.ident = some f :=
      fun f hf ↦ Self.field?_ident hnodup hf
    rw [content, if_neg honeOf]
    cases hchildren : object.children with
    | nil =>
      cases hvalue : object.value with
      | none => exact run?_of_empty (objectSerialization_of_nothing hchildren (.inr hvalue))
      | some e =>
        -- A value without a container key would have no place to be written to.
        obtain ⟨key, hkey⟩ := Option.isSome_iff_exists.1
          (hregular.containerKey_of_value (by rw [hvalue]; rfl))
        have hcontainer : containerField key ∈ objectFields object := by simp [objectFields, hkey]
        have hmem : valueField e ∈ objectFields object := by simp [objectFields, hvalue]
        dsimp only
        rw [← encode_fieldType, hkey]
        exact run?_of_containerValue (objectSerialization_of_value hchildren hkey hvalue)
          (by rw [find?_value_objectFields, hvalue, Option.map_some]) (hfield _ hcontainer) rfl
          (hfield _ hmem) rfl
    | cons c rest =>
      have hserialization : objectSerialization object = _ :=
        objectSerialization_of_children (by rw [hchildren]; exact List.cons_ne_nil c rest)
      have hcontainer : ∀ f ∈ object.containerKey.map containerField,
          Self.field? ⟨objectFields object, values⟩ f.ident = some f ∧
            hasRole .container f = true := by
        intro f hf
        obtain ⟨key, hkey, rfl⟩ := Option.map_eq_some_iff.1 hf
        exact ⟨hfield _ (by simp [objectFields, hkey]), rfl⟩
      have hkeys : (((objectFields object).filter (hasRole .child)).map Field.key).Nodup := by
        rw [filter_child_objectFields, List.map_map]
        exact nodup_keys_of_nodup_idents hnodup
      have hrun : run? rt ⟨objectFields object, values⟩
          (serializer wireKey ⟨objectFields object, objectSerialization object⟩) = _ :=
        run?_of_fields hserialization hcontainer
          (fun f hf ↦ hfield f (List.mem_of_mem_filter hf)) hkeys
      rw [filter_child_objectFields, filterMap_member?_childField] at hrun
      exact hrun

/-! ### Reading the serializer of an object -/

/-- The identifiers that a serialization mentions. -/
def serializationIdents : Serialization → List String
  | .fields container => container.toList
  | .containerValue container value => [container, value]
  | .exactlyOne | .empty => []

/-- Whether the identifiers of a struct are made of name characters. -/
def NamedShape (shape : StructShape) : Prop :=
  ∀ ident ∈ shape.fields.map Field.ident ++ serializationIdents shape.serialization,
    ∀ c ∈ ident.toList, isNameChar c = true

theorem exists_name_of_mem_serializationIdents {object : ObjectShape Element} {ident : String}
    (h : ident ∈ serializationIdents (objectSerialization object)) :
    ∃ name, ident = fieldName name := by
  by_cases hchildren : object.children = []
  · cases hkey : object.containerKey with
    | none =>
      rw [objectSerialization_of_nothing hchildren (.inl hkey)] at h
      exact nomatch h
    | some key =>
      cases hvalue : object.value with
      | none =>
        rw [objectSerialization_of_nothing hchildren (.inr hvalue)] at h
        exact nomatch h
      | some e =>
        rw [objectSerialization_of_value hchildren hkey hvalue, serializationIdents] at h
        simp only [List.mem_cons, List.not_mem_nil, or_false] at h
        rcases h with rfl | rfl
        · exact ⟨key, containerField_ident key⟩
        · exact ⟨e.key, valueField_ident e⟩
  · rw [objectSerialization_of_children hchildren, serializationIdents] at h
    simp only [Option.mem_toList, Option.map_eq_some_iff] at h
    obtain ⟨f, ⟨key, -, rfl⟩, rfl⟩ := h
    exact ⟨key, containerField_ident key⟩

theorem isNameChar_of_mem_slotName {c : Char} (h : c ∈ slotName.toList) : isNameChar c = true :=
  List.all_eq_true.1 (by decide : slotName.toList.all isNameChar = true) c h

theorem namedShape_of_ofObject {object : ObjectShape Element} {path : String} {shape : StructShape}
    (h : ofObject object path = .ok shape) : NamedShape shape := by
  rcases ofObject_eq_ok_iff.1 h with ⟨-, rfl⟩ | ⟨-, -, rfl⟩
  · intro ident hident
    obtain rfl : ident = slotName := List.mem_singleton.1 hident
    exact fun c hc ↦ isNameChar_of_mem_slotName hc
  · -- Whatever the role of a field, its identifier was made by `fieldName`.
    have hnames : ∀ ident ∈ (objectFields object).map Field.ident ++
        serializationIdents (objectSerialization object), ∃ name, ident = fieldName name := by
      intro ident hident
      rcases List.mem_append.1 hident with hident | hident
      · obtain ⟨f, hf, rfl⟩ := List.mem_map.1 hident
        exact ⟨f.key, ident_of_mem_objectFields hf⟩
      · exact exists_name_of_mem_serializationIdents hident
    intro ident hident
    obtain ⟨name, rfl⟩ := hnames ident hident
    exact isNameChar_of_mem_fieldName name

/-- The identifiers that a serializer may mention: those of the fields and of the serialization, and
that of the slot. -/
def shapeIdents (shape : StructShape) : List String :=
  slotName :: (shape.fields.map Field.ident ++ serializationIdents shape.serialization)

theorem idents_childStatement {shape : StructShape} {f : Field} (h : f ∈ shape.fields) :
    (childStatement f).idents ⊆ shapeIdents shape := by
  have hident : f.ident ∈ shapeIdents shape :=
    List.mem_cons_of_mem _ (List.mem_append_left _ (List.mem_map_of_mem h))
  unfold childStatement
  split_ifs <;>
    simpa [Statement.idents, KeyExpression.idents, ValueExpression.idents, Place.idents] using hident

theorem idents_contentStatements (shape : StructShape) :
    (∀ s ∈ (contentStatements shape).1, s.idents ⊆ shapeIdents shape) ∧
      (contentStatements shape).2.idents ⊆ shapeIdents shape := by
  have hslot : slotName ∈ shapeIdents shape := List.mem_cons_self
  have hserialization : serializationIdents shape.serialization ⊆ shapeIdents shape :=
    fun _ h ↦ List.mem_cons_of_mem _ (List.mem_append_right _ h)
  have hchildren : ∀ s ∈ (shape.fields.filter (hasRole .child)).map childStatement,
      s.idents ⊆ shapeIdents shape := by
    intro s hs
    obtain ⟨f, hf, rfl⟩ := List.mem_map.1 hs
    exact idents_childStatement (List.mem_of_mem_filter hf)
  unfold contentStatements
  cases hrule : shape.serialization with
  | exactlyOne => exact ⟨nofun, List.cons_subset.2 ⟨hslot, List.nil_subset _⟩⟩
  | empty => exact ⟨nofun, List.nil_subset _⟩
  | containerValue container value =>
    rw [hrule, serializationIdents] at hserialization
    refine ⟨fun s hs ↦ ?_, List.nil_subset _⟩
    simp only [List.mem_cons, List.not_mem_nil, or_false] at hs
    rcases hs with rfl | rfl
    · exact List.nil_subset _
    · cases shape.fields.find? (hasRole .value) with
      | none => exact fun _ h ↦ hserialization (List.mem_cons.2 (.inl (List.mem_singleton.1 h)))
      | some f => exact hserialization
  | fields container =>
    rw [hrule, serializationIdents] at hserialization
    cases container with
    | none =>
      refine ⟨fun s hs ↦ ?_, List.nil_subset _⟩
      rcases List.mem_cons.1 hs with rfl | hs
      · exact List.nil_subset _
      · exact hchildren s hs
    | some container =>
      refine ⟨fun s hs ↦ ?_, List.nil_subset _⟩
      rcases List.mem_append.1 hs with hs | hs
      · rcases List.mem_cons.1 hs with rfl | hs
        · exact List.nil_subset _
        · exact hchildren s hs
      · simp only [List.mem_cons, List.not_mem_nil, or_false] at hs
        rcases hs with rfl | rfl
        · exact List.nil_subset _
        · exact hserialization

/-- A serializer mentions no other identifiers. -/
theorem idents_serializer (wireKey : String) (shape : StructShape) :
    ∀ s ∈ serializer wireKey shape, s.idents ⊆ shapeIdents shape := by
  obtain ⟨hcontent, hvalue⟩ := idents_contentStatements shape
  intro s hs
  rcases List.mem_append.1 hs with hs | hs
  · exact hcontent s hs
  · simp only [List.mem_cons, List.not_mem_nil, or_false] at hs
    rcases hs with rfl | rfl | rfl
    · exact List.nil_subset _
    · exact hvalue
    · exact List.nil_subset _

theorem named_serializer {shape : StructShape} (h : NamedShape shape) (wireKey : String) :
    ∀ s ∈ serializer wireKey shape, s.Named := by
  intro s hs
  refine s.named_of_idents fun ident hident c hc ↦ ?_
  rcases List.mem_cons.1 (idents_serializer wireKey shape s hs hident) with rfl | hmem
  · exact isNameChar_of_mem_slotName hc
  · exact h ident hmem c hc

/-- The text of the serializer of an object, run, writes the object's content. -/
theorem runText?_serializer {object : ObjectShape Element} (hregular : object.Regular)
    {path : String} {shape : StructShape} (hshape : ofObject object path = .ok shape)
    (rt : Runtime V) (values : Instance V) (wireKey : String) :
    runText? rt ⟨shape.fields, values⟩
      (String.join ((serializer wireKey shape).map Statement.text)) =
        some (.object [(wireKey, content rt values object)]) := by
  rw [runText?, readStatements_join (named_serializer (namedShape_of_ofObject hshape) wireKey),
    Option.bind_some, run?_serializer_ofObject hregular hshape]

/-! ### Entries of children -/

theorem get?_filterMap_of_not_mem {α : Type} {key : α → String} {value? : α → Option Json}
    {xs : List α} {other : String} (h : other ∉ xs.map key) :
    Fields.get? (xs.filterMap fun x ↦ (value? x).map fun v ↦ (key x, v)) other = none := by
  induction xs with
  | nil => rfl
  | cons y rest ih =>
    rw [List.map_cons, List.mem_cons, not_or] at h
    cases hvalue : value? y with
    | some v =>
      rw [List.filterMap_cons, hvalue, Option.map_some, Fields.get?_cons, if_neg h.1]
      exact ih h.2
    | none =>
      rw [List.filterMap_cons, hvalue, Option.map_none]
      exact ih h.2

theorem get?_filterMap {α : Type} {key : α → String} {value? : α → Option Json} {xs : List α}
    (hnodup : (xs.map key).Nodup) {x : α} (hx : x ∈ xs) :
    Fields.get? (xs.filterMap fun x ↦ (value? x).map fun v ↦ (key x, v)) (key x) = value? x := by
  induction xs with
  | nil => exact nomatch hx
  | cons y rest ih =>
    rw [List.map_cons, List.nodup_cons] at hnodup
    rcases List.mem_cons.1 hx with rfl | hrest
    · cases hvalue : value? x with
      | some v => rw [List.filterMap_cons, hvalue, Option.map_some, Fields.get?_cons, if_pos rfl]
      | none =>
        rw [List.filterMap_cons, hvalue, Option.map_none]
        exact get?_filterMap_of_not_mem hnodup.1
    · have hne : key x ≠ key y := fun heq ↦ hnodup.1 (heq ▸ List.mem_map_of_mem hrest)
      cases hvalue : value? y with
      | some v =>
        rw [List.filterMap_cons, hvalue, Option.map_some, Fields.get?_cons, if_neg hne]
        exact ih hnodup.2 hrest
      | none =>
        rw [List.filterMap_cons, hvalue, Option.map_none]
        exact ih hnodup.2 hrest

/-- With distinct keys, every child that is required or present is found under its own key, and
nothing is found for one that is absent. -/
theorem get?_childEntries {object : ObjectShape Element}
    (hnodup : (object.children.map fun c ↦ c.element.key).Nodup) (rt : Runtime V)
    (values : Instance V) {c : Child Element} (hc : c ∈ object.children) :
    (childEntries rt values object).get? c.element.key =
      (childValue? values c).map (rt.ofKind c.element.kind) := by
  have hentries : childEntries rt values object = object.children.filterMap fun c ↦
      ((childValue? values c).map (rt.ofKind c.element.kind)).map fun v ↦ (c.element.key, v) := by
    simp only [childEntries, Option.map_map, Function.comp_def]
  rw [hentries]
  exact get?_filterMap hnodup hc

/-- **Every field of a struct that is for a child has its entry.** It is the field of a child of the
object, and under its key stands the value of that child, if this is required or present. -/
theorem exists_child_get?_childEntries {object : ObjectShape Element} {path : String}
    {shape : StructShape} (h : ofObject object path = .ok shape) (rt : Runtime V)
    (values : Instance V) {f : Field} (hf : f ∈ shape.fields) (hrole : f.role = .child) :
    ∃ c ∈ object.children, f = childField c ∧ (childEntries rt values object).get? f.key =
      (childValue? values c).map (rt.ofKind c.element.kind) := by
  rcases ofObject_eq_ok_iff.1 h with ⟨-, rfl⟩ | ⟨-, hnodup, rfl⟩
  · -- The only field of a one-of is for the slot.
    rw [List.mem_singleton.1 hf] at hrole
    exact nomatch hrole
  · have hmem : f ∈ (objectFields object).filter (hasRole .child) :=
      List.mem_filter.2 ⟨hf, beq_iff_eq.2 hrole⟩
    rw [filter_child_objectFields] at hmem
    obtain ⟨c, hc, rfl⟩ := List.mem_map.1 hmem
    exact ⟨c, hc, rfl, get?_childEntries (nodup_keys_of_nodup_idents hnodup) rt values hc⟩

/-! ### The content of a struct -/

/-- What a struct holds at run time, by the roles of its fields. -/
def fieldsContent (rt : Runtime V) (values : Instance V) (fields : List Field) : Json :=
  let container := fields.find? (hasRole .container)
  match fields.find? (hasRole .slot), fields.filter (hasRole .child),
    fields.find? (hasRole .value) with
  | some slot, _, _ => rt.toDocument (values.plain slot)
  | none, [], none => .object []
  | none, [], some f => under values container (rt.encode f.encoding (values.plain f))
  | none, c :: rest, _ => under values container (.object ((c :: rest).filterMap (member? rt values)))

/-- **What an object holds, its struct holds.** The content says nothing that the fields do not say. -/
theorem content_eq_fieldsContent {object : ObjectShape Element} {path : String} {shape : StructShape}
    (h : ofObject object path = .ok shape) (rt : Runtime V) (values : Instance V) :
    content rt values object = fieldsContent rt values shape.fields := by
  rcases ofObject_eq_ok_iff.1 h with ⟨honeOf, rfl⟩ | ⟨honeOf, -, rfl⟩
  · rw [content, if_pos honeOf]
    rfl
  · have hentries := filterMap_member?_childField rt values object
    rw [content, if_neg honeOf, fieldsContent, find?_slot_objectFields,
      find?_container_objectFields, find?_value_objectFields, filter_child_objectFields]
    cases hchildren : object.children with
    | nil =>
      cases object.value with
      | none => rfl
      | some e => exact congrArg (under values _) (encode_fieldType rt e _).symm
    | cons c rest =>
      rw [hchildren] at hentries
      exact congrArg (fun entries ↦ under values _ (.object entries)) hentries.symm

end ClientSynthesis.Code
