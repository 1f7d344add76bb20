import ClientSynthesis.Proofs.Code.SerializerMeaning

/-!
# How structs are arranged

A struct that is made of an object has one of two forms. Either it has a single field, the slot of a
one-of object (`StructShape.HoldsSlot`), or its fields are a container, a value and children, in this
order, of which each may be missing but not all combinations occur (`StructShape.Arranged`). The rule
it is written by follows from what is there, and names the fields that are there.

The renderer has to find the value of a struct by its role, and falls back on `null` where there is
none. It does so exactly if the rule speaks of a value and no field has that role
(`Code.storesNull_iff`), which no arranged struct has it come to.
-/

namespace ClientSynthesis

open Body (Element ObjectShape)

namespace StructShape

/-! ### The two forms -/

/-- The struct has a slot for one alternative, and nothing beside it. -/
structure HoldsSlot (shape : StructShape) : Prop where
  fields : ∃ slot : Field, shape.fields = [slot] ∧ slot.role = .slot ∧ slot.ident = "child"
  serialization : shape.serialization = .exactlyOne

/-- The struct has a container, a value and children for its fields, as far as they are given, and is
written by the rule for what is given. -/
structure Arranged (shape : StructShape) (container value : Option Field)
    (children : List Field) : Prop where
  fields : shape.fields = container.toList ++ value.toList ++ children
  isContainer : ∀ f ∈ container, f.role = .container ∧ f.type = .named "String" ∧ f.optional = false
  isValue : ∀ f ∈ value, f.role = .value ∧ f.optional = false
  isChild : ∀ f ∈ children, f.role = .child
  container_of_value : value.isSome → container.isSome
  children_of_value : value.isSome → children = []
  fields_iff : ∀ ident, shape.serialization = .fields ident ↔
    children ≠ [] ∧ ident = container.map Field.ident
  containerValue_iff : ∀ containerIdent valueIdent,
    shape.serialization = .containerValue containerIdent valueIdent ↔
      container.map Field.ident = some containerIdent ∧ value.map Field.ident = some valueIdent
  empty_iff : shape.serialization = .empty ↔ children = [] ∧ value = none

/-! ### Structs of objects -/

theorem holdsSlot_slotOnly : slotOnly.HoldsSlot := ⟨⟨_, rfl, rfl, rfl⟩, rfl⟩

/-- The rule of an object whose parts go together is that for what it has. -/
theorem objectSerialization_cases {object : ObjectShape Element} (hregular : object.Regular) :
    (object.children ≠ [] ∧ object.value = none ∧ objectSerialization object =
      .fields ((object.containerKey.map containerField).map Field.ident)) ∨
    (object.children = [] ∧ ∃ key e, object.containerKey = some key ∧ object.value = some e ∧
      objectSerialization object =
        .containerValue (containerField key).ident (valueField e).ident) ∨
    (object.children = [] ∧ object.value = none ∧ objectSerialization object = .empty) := by
  cases hvalue : object.value with
  | some e =>
    have hsome : object.value.isSome := by rw [hvalue]; rfl
    have hchildren : object.children = [] := hregular.children_of_value hsome
    obtain ⟨key, hkey⟩ := Option.isSome_iff_exists.1 (hregular.containerKey_of_value hsome)
    exact .inr (.inl ⟨hchildren, key, e, hkey, rfl,
      Code.objectSerialization_of_value hchildren hkey hvalue⟩)
  | none =>
    by_cases hchildren : object.children = []
    · exact .inr (.inr ⟨hchildren, rfl,
        Code.objectSerialization_of_nothing hchildren (.inr hvalue)⟩)
    · exact .inl ⟨hchildren, rfl, Code.objectSerialization_of_children hchildren⟩

/-- **The struct of an object is arranged as the object is**, unless that is a one-of. -/
theorem arranged_of_regular {object : ObjectShape Element} (hregular : object.Regular) :
    Arranged ⟨objectFields object, objectSerialization object⟩
      (object.containerKey.map containerField) (object.value.map valueField)
      (object.children.map childField) where
  fields := rfl
  isContainer := by
    intro f hf
    obtain ⟨key, -, rfl⟩ := Option.map_eq_some_iff.1 hf
    exact ⟨rfl, rfl, rfl⟩
  isValue := by
    intro f hf
    obtain ⟨e, -, rfl⟩ := Option.map_eq_some_iff.1 hf
    exact ⟨rfl, rfl⟩
  isChild := by
    intro f hf
    obtain ⟨c, -, rfl⟩ := List.mem_map.1 hf
    rfl
  container_of_value := by
    rw [Option.isSome_map, Option.isSome_map]
    exact hregular.containerKey_of_value
  children_of_value := by
    rw [Option.isSome_map, List.map_eq_nil_iff]
    exact hregular.children_of_value
  fields_iff := by
    intro ident
    rcases objectSerialization_cases hregular with ⟨hchildren, hvalue, h⟩ |
      ⟨hchildren, key, e, hkey, hvalue, h⟩ | ⟨hchildren, hvalue, h⟩
    · rw [h, Serialization.fields.injEq, eq_comm, ne_eq, List.map_eq_nil_iff]
      exact (and_iff_right hchildren).symm
    · simp [h, hchildren]
    · simp [h, hchildren]
  containerValue_iff := by
    intro containerIdent valueIdent
    rcases objectSerialization_cases hregular with ⟨hchildren, hvalue, h⟩ |
      ⟨hchildren, key, e, hkey, hvalue, h⟩ | ⟨hchildren, hvalue, h⟩
    · simp [h, hvalue]
    · simp [h, hkey, hvalue]
    · simp [h, hvalue]
  empty_iff := by
    rcases objectSerialization_cases hregular with ⟨hchildren, hvalue, h⟩ |
      ⟨hchildren, key, e, hkey, hvalue, h⟩ | ⟨hchildren, hvalue, h⟩
    · simp [h, hchildren]
    · simp [h, hvalue]
    · simp [h, hchildren, hvalue]

/-- A struct of an object has its identifiers and its keys distinct. -/
theorem nodup_of_ofObject {object : ObjectShape Element} {path : String} {shape : StructShape}
    (h : ofObject object path = .ok shape) :
    (shape.fields.map Field.ident).Nodup ∧ (shape.fields.map Field.key).Nodup := by
  rcases ofObject_eq_ok_iff.1 h with ⟨-, rfl⟩ | ⟨-, hnodup, rfl⟩
  · exact ⟨List.nodup_singleton _, List.nodup_singleton _⟩
  · exact ⟨hnodup, Code.nodup_map_key_objectFields hnodup⟩

end StructShape

/-! ### The fallback of the renderer -/

namespace Code

/-- The expression that a statement stores. -/
def Statement.value? : Statement → Option ValueExpression
  | .insert _ _ value | .insertIfPresent _ _ _ value => some value
  | .declare _ | .result _ => none

/-- The serializer has a statement that stores `null`. -/
def StoresNull (wireKey : String) (shape : StructShape) : Prop :=
  ∃ s ∈ serializer wireKey shape, s.value? = some .null

theorem value?_childStatement_ne_null (f : Field) : (childStatement f).value? ≠ some .null := by
  unfold childStatement
  split_ifs <;> exact nofun

theorem content_ne_null (shape : StructShape) : (contentStatements shape).2 ≠ .null := by
  unfold contentStatements
  cases shape.serialization with
  | fields container => cases container <;> exact nofun
  | _ => exact nofun

/-- What makes the document itself stores no `null`. -/
theorem storesNull_iff_content {wireKey : String} {shape : StructShape} :
    StoresNull wireKey shape ↔ ∃ s ∈ (contentStatements shape).1, s.value? = some .null := by
  constructor
  · rintro ⟨s, hs, hnull⟩
    rcases List.mem_append.1 hs with hs | hs
    · exact ⟨s, hs, hnull⟩
    · simp only [List.mem_cons, List.not_mem_nil, or_false] at hs
      rcases hs with rfl | rfl | rfl
      · exact nomatch hnull
      · exact absurd (Option.some.inj hnull) (content_ne_null shape)
      · exact nomatch hnull
  · rintro ⟨s, hs, hnull⟩
    exact ⟨s, List.mem_append_left _ hs, hnull⟩

/-- A serializer stores `null` exactly for a value that no field holds. -/
theorem storesNull_iff {wireKey : String} {shape : StructShape} :
    StoresNull wireKey shape ↔
      (∃ container value, shape.serialization = .containerValue container value) ∧
        ∀ f ∈ shape.fields, f.role ≠ .value := by
  rw [storesNull_iff_content]
  unfold contentStatements
  cases hserialization : shape.serialization with
  | exactlyOne => exact ⟨nofun, nofun⟩
  | empty => exact ⟨nofun, nofun⟩
  | fields container =>
    have hchildren : ∀ s ∈ .declare .inner ::
        (shape.fields.filter (hasRole .child)).map childStatement, s.value? ≠ some .null := by
      intro s hs
      rcases List.mem_cons.1 hs with rfl | hs
      · exact nofun
      · obtain ⟨f, -, rfl⟩ := List.mem_map.1 hs
        exact value?_childStatement_ne_null f
    refine ⟨?_, nofun⟩
    rintro ⟨s, hs, hnull⟩
    cases container with
    | none => exact absurd hnull (hchildren s hs)
    | some container =>
      rcases List.mem_append.1 hs with hs | hs
      · exact absurd hnull (hchildren s hs)
      · simp only [List.mem_cons, List.not_mem_nil, or_false] at hs
        rcases hs with rfl | rfl <;> exact nomatch hnull
  | containerValue container value =>
    have hfind : shape.fields.find? (hasRole .value) = none ↔ ∀ f ∈ shape.fields, f.role ≠ .value := by
      simp [List.find?_eq_none, hasRole]
    rw [← hfind]
    cases shape.fields.find? (hasRole .value) with
    | some f => simp [Statement.value?]
    | none => simp [Statement.value?]

/-- **No arranged struct comes to the fallback**: where the rule speaks of a value, there is a field
for it. -/
theorem not_storesNull_of_arranged {shape : StructShape} {container value : Option Field}
    {children : List Field} (h : shape.Arranged container value children) (wireKey : String) :
    ¬ StoresNull wireKey shape := by
  rw [storesNull_iff]
  rintro ⟨⟨containerIdent, valueIdent, hserialization⟩, hnone⟩
  obtain ⟨-, hvalue⟩ := (h.containerValue_iff _ _).1 hserialization
  obtain ⟨f, hf, -⟩ := Option.map_eq_some_iff.1 hvalue
  have hmem : f ∈ shape.fields := by
    rw [h.fields, hf]
    simp
  exact hnone f hmem (h.isValue f hf).1

theorem not_storesNull_of_holdsSlot {shape : StructShape} (h : shape.HoldsSlot)
    (wireKey : String) : ¬ StoresNull wireKey shape := by
  rw [storesNull_iff, h.serialization]
  rintro ⟨⟨container, value, hserialization⟩, -⟩
  exact nomatch hserialization

end Code

end ClientSynthesis
