import ClientSynthesis.Proofs.Assembly.Reached
import ClientSynthesis.Proofs.Code.Arrangement

/-!
# The form of registered structs

Two places decide on the form of a struct. An object is read and elaborated, with checks on how its
parts go together, and a struct is then made of what came out of that. Neither looks at the whole.
Put together they leave two forms: a slot, or a container, a value and the children in the order in
which the descriptor declares them (`FormedBy`).

Every struct in a registry has that form, relative to an object that a descent has read on behalf of
an entry of the registry's history (`struct_wellFormed`). The history of a namespace is its documents
in turn, as far as they are interpreted. One that fails counts, and the struct may come from it.
-/

namespace ClientSynthesis

open Body (Child Element ObjectShape Scope ShapeSource Situation elaborateAt requiredFlag)
open Json (Fields)
open StructShape (childField containerField ofObject ofObject_eq_ok_iff valueField)

/-! ### What a descriptor asks of a struct -/

/-- A node declares a field, which has the node's key and is optional unless the node itself says
that it is required. -/
def Declares (node : Json) (f : Field) : Prop :=
  ∃ fields : Fields, node = .object fields ∧ fields.get? "key" = some (.string f.key) ∧
    (f.optional = false ↔ fields.get? "required" = some (.bool true))

/-- A struct has the form that an object asks for: a slot if that is a one-of, and else the container
and the value that it has, and the children that it declares, in order. -/
structure FormedBy (source : ShapeSource) (shape : StructShape) : Prop where
  slot : source.multiplicity = .oneOf → shape.HoldsSlot
  arranged : source.multiplicity ≠ .oneOf → ∃ container value children,
    shape.Arranged container value children ∧ container.map Field.key = source.containerKey ∧
      value.isSome = source.value.isSome ∧ List.Forall₂ Declares source.items children

theorem declares_childField {levels : Nat} {scope : Scope} {path : String} {item : Json}
    {c : Child Element} (hrequired : requiredFlag item path = .ok c.required)
    (hok : (elaborateAt levels scope path item).outcome = .ok c.element) :
    Declares item (childField c) := by
  obtain ⟨fields, rfl, hkey⟩ := Body.key_of_elaborateAt hok
  have hoptional : (childField c).optional = !c.required := rfl
  refine ⟨fields, rfl, hkey, ?_⟩
  rw [hoptional, Bool.not_eq_false']
  exact Body.eq_true_iff_of_requiredFlag hrequired

/-- **The struct of an object that is made of what was read has the form for it.** -/
theorem formedBy_of_makes {levels : Nat} {scope : Scope} {path path' : String}
    {source : ShapeSource} {object : ObjectShape Element}
    (hmakes : source.Makes (elaborateAt levels scope path) path object) {shape : StructShape}
    (h : ofObject object path' = .ok shape) : FormedBy source shape := by
  rcases ofObject_eq_ok_iff.1 h with ⟨honeOf, rfl⟩ | ⟨honeOf, -, rfl⟩
  · rw [hmakes.multiplicity] at honeOf
    exact ⟨fun _ ↦ StructShape.holdsSlot_slotOnly, fun hnot ↦ absurd honeOf hnot⟩
  · refine ⟨fun hnot ↦ absurd (hmakes.multiplicity.trans hnot) honeOf, fun _ ↦ ?_⟩
    have hcontainer : (object.containerKey.map containerField).map Field.key =
        source.containerKey := by
      have hkey : Field.key ∘ containerField = id := rfl
      rw [Option.map_map, hkey, Option.map_id]
      exact hmakes.containerKey honeOf
    have hvalue : (object.value.map valueField).isSome = source.value.isSome := by
      rw [Option.isSome_map]
      exact (Body.isSome_eq_of_rel (hmakes.value honeOf)).symm
    have hchildren : List.Forall₂ Declares source.items (object.children.map childField) := by
      rw [List.forall₂_map_right_iff]
      exact hmakes.children.imp fun item c hc ↦ declares_childField hc.1 hc.2
    exact ⟨_, _, _, StructShape.arranged_of_regular hmakes.regular, hcontainer, hvalue, hchildren⟩

theorem not_storesNull_of_formedBy {source : ShapeSource} {shape : StructShape}
    (h : FormedBy source shape) (wireKey : String) : ¬ Code.StoresNull wireKey shape := by
  by_cases honeOf : source.multiplicity = .oneOf
  · exact Code.not_storesNull_of_holdsSlot (h.slot honeOf) wireKey
  · obtain ⟨container, value, children, harranged, -⟩ := h.arranged honeOf
    exact Code.not_storesNull_of_arranged harranged wireKey

namespace Assembly.Registry

/-! ### Registered structs -/

/-- Every struct that a history of interpretations has registered is well formed, also if one of them
has failed. Identifiers and keys are distinct, fields and rule have the form that an object asks for
which was read on the way, and the serializer does not fall back on `null`. -/
theorem struct_wellFormed (history : List (Scope × Json)) {name : String} {type : TypeDefinition}
    {shape : StructShape} (htype : (empty.interpretEach history).type? name = some type)
    (hshape : type.shape = .struct shape) :
    (shape.fields.map Field.ident).Nodup ∧ (shape.fields.map Field.key).Nodup ∧
    (∃ entry ∈ history, ∃ o source, Situation.Reads ⟨entry.1, "", entry.2⟩ o source ∧
      o.head.typeName = name ∧ o.head.key = type.wireKey ∧ FormedBy source shape) ∧
    ¬ Code.StoresNull type.wireKey shape := by
  obtain ⟨entry, hentry, head, object, path, hbuilds, hname, hkey, hofObject⟩ :=
    exists_builds_of_type? htype hshape
  obtain ⟨below, o, source, hreads, rfl, hmakes⟩ := hbuilds
  have hformed : FormedBy source shape := formedBy_of_makes hmakes hofObject
  obtain ⟨hidents, hkeys⟩ := StructShape.nodup_of_ofObject hofObject
  exact ⟨hidents, hkeys, ⟨entry, hentry, o, source, hreads, hname, hkey, hformed⟩,
    not_storesNull_of_formedBy hformed type.wireKey⟩

/-- A struct with two children under a container, left by an interpretation that fails behind it. -/
theorem struct_wellFormed_of_failed :
    let bound (key : String) (required : Bool) : Json := .object [("key", .string key),
      ("type", .string "simple"), ("typeName", .string "f64"), ("required", .bool required)]
    let range := Json.object [("key", .string "range"), ("type", .string "struct"),
      ("typeName", .string "Range"), ("childContainer", .object [("key", .string "field"),
        ("any_of", .array [bound "gte" true, bound "lt-e" false])])]
    let unknown := Json.object [("key", .string "shape"), ("type", .string "polygon"),
      ("typeName", .string "Shape")]
    let history := [(Scope.root, Json.object [("key", .string "query"), ("type", .string "struct"),
      ("typeName", .string "Query"), ("any_of", .array [range, unknown])])]
    let shape : StructShape :=
      ⟨[containerField "field", ⟨"gte", "gte", .named "f64", false, .verbatim, .child⟩,
        ⟨"lt-e", "lt_e", .named "f64", true, .verbatim, .child⟩], .fields (some "field")⟩
    (∀ entry ∈ history, (empty.interpret entry.1 entry.2).outcome.isOk = false) ∧
    (empty.interpretEach history).type? "Range" = some ⟨"range", none, .struct shape⟩ ∧
    (shape.fields.map Field.ident).Nodup ∧ (shape.fields.map Field.key).Nodup ∧
    (∃ entry ∈ history, ∃ o source, Situation.Reads ⟨entry.1, "", entry.2⟩ o source ∧
      o.head.typeName = "Range" ∧ o.head.key = "range" ∧ FormedBy source shape) ∧
    ¬ Code.StoresNull "range" shape := by
  intro bound range unknown history shape
  have hfailed : ∀ entry ∈ history, (empty.interpret entry.1 entry.2).outcome.isOk = false := by
    decide +kernel
  have htype : (empty.interpretEach history).type? "Range" =
      some ⟨"range", none, .struct shape⟩ := by decide +kernel
  exact ⟨hfailed, htype, struct_wellFormed history htype rfl⟩

end Assembly.Registry

end ClientSynthesis
