import ClientSynthesis.Code.TypeItem
import ClientSynthesis.Proofs.Assembly.Reached
import ClientSynthesis.Proofs.Code.SerializerMeaning

/-!
# Serializers of registered structs

Whatever struct a registry holds, it holds it because an object was built for one of the entries of
its history, and the struct is that object's (`exists_builds_of_type?`). The serializer generated for
the struct writes that object's content (`serializer_writes_content`). The statement is about every
history, whether or not its interpretations come to a good end, since a definition stays registered
when a later one is refused.
-/

namespace ClientSynthesis.Assembly.Registry

open Body (Element ObjectShape Scope Situation elaborateAt)
open Code (Instance Runtime childEntries childValue? fieldsContent runText?)
open StructShape (childField containerField ofObject)

/-! ### What is written -/

/-- The body of the function that writes a struct. -/
def serializerBody (type : TypeDefinition) (shape : StructShape) : String :=
  String.join ((Code.serializer type.wireKey shape).map Code.Statement.text)

/-- An implementation of the trait of all bodies, given the body of its function. -/
def implementation (config : Config) (name body : String) : String :=
  "impl " ++ config.bodyTrait ++ " for " ++ name ++ " \x7b\n" ++
    "    fn to_document(&self) -> Value \x7b\n" ++ body ++ "    \x7d\n\x7d\n"

/-- The item of a struct implements the trait with that function body. -/
theorem implementation_mem_typeItem (config : Config) (name : String) {type : TypeDefinition}
    {shape : StructShape} (hshape : type.shape = .struct shape) :
    .code (implementation config name (serializerBody type shape)) ∈
      Code.typeItem config name type := by
  rw [Code.typeItem, hshape]
  exact List.mem_append_left _ (List.mem_cons_of_mem _ (List.mem_cons_of_mem _ List.mem_cons_self))

/-- **The generated serializer means what the descriptor says.** Every struct of a registry is that of
an object which was built on the way, from what the descriptors of an entry say. Whatever the fields
of the struct hold, the function body that is generated for it writes the content of that object under
the wire key, and this is the content that the fields have by their roles. Every field for a child
has its entry there: it is the field of a child of the object, and under its key stands the encoding
of that child if it is required or present, and nothing otherwise. -/
theorem serializer_writes_content (history : List (Scope × Json)) {name : String}
    {type : TypeDefinition} {shape : StructShape}
    (htype : (empty.interpretEach history).type? name = some type)
    (hshape : type.shape = .struct shape) :
    (∀ config, .code (implementation config name (serializerBody type shape)) ∈
      Code.typeItem config name type) ∧
    ∃ entry ∈ history, ∃ head object path,
      Situation.Builds ⟨entry.1, "", entry.2⟩ head object ∧
      head.typeName = name ∧ head.key = type.wireKey ∧ ofObject object path = .ok shape ∧
      ∀ (V : Type) (rt : Runtime V) (values : Instance V),
        runText? rt ⟨shape.fields, values⟩ (serializerBody type shape) =
          some (.object [(type.wireKey, Code.content rt values object)]) ∧
        Code.content rt values object = fieldsContent rt values shape.fields ∧
        ∀ f ∈ shape.fields, f.role = .child → ∃ c ∈ object.children, f = childField c ∧
          (childEntries rt values object).get? f.key =
            (childValue? values c).map (rt.ofKind c.element.kind) := by
  obtain ⟨entry, hentry, head, object, path, hbuilds, hname, hkey, hofObject⟩ :=
    exists_builds_of_type? htype hshape
  refine ⟨fun config ↦ implementation_mem_typeItem config name hshape, entry, hentry, head, object,
    path, hbuilds, hname, hkey, hofObject, fun V rt values ↦ ⟨?_, ?_, ?_⟩⟩
  · exact Code.runText?_serializer hbuilds.regular hofObject rt values type.wireKey
  · exact Code.content_eq_fieldsContent hofObject rt values
  · exact fun f hf hrole ↦ Code.exists_child_get?_childEntries hofObject rt values hf hrole

/-- A struct with a required and an optional child under a container, the object that it is of, and the
document that is written whatever the struct holds. -/
theorem serializer_writes_content_of_term :
    let child (key : String) (required : Bool) : Json := .object [("key", .string key),
      ("type", .string "simple"), ("typeName", .string "f64"), ("required", .bool required)]
    let node := Json.object [("key", .string "term"), ("type", .string "struct"),
      ("typeName", .string "Term"), ("childContainer", .object [("key", .string "field"),
        ("any_of", .array [child "value" true, child "boost" false])])]
    let container := containerField "field"
    let value : Field := ⟨"value", "value", .named "f64", false, .verbatim, .child⟩
    let boost : Field := ⟨"boost", "boost", .named "f64", true, .verbatim, .child⟩
    let shape : StructShape := ⟨[container, value, boost], .fields (some "field")⟩
    let type : TypeDefinition := ⟨"term", none, .struct shape⟩
    let leaf (key : String) : Element := .leaf ⟨key, "f64", none⟩ .scalar
    let object : ObjectShape Element :=
      ⟨.anyOf, some "field", none, [⟨true, leaf "value"⟩, ⟨false, leaf "boost"⟩]⟩
    (empty.interpretEach [(.root, node)]).type? "Term" = some type ∧
    Situation.Builds ⟨.root, "", node⟩ ⟨"term", "Term", none⟩ object ∧
    ofObject object "term" = .ok shape ∧
    ∀ (V : Type) (rt : Runtime V) (values : Instance V),
      let document := Json.object [(values.text container,
        .object (("value", rt.toJson (values.plain value)) ::
          ((values.optional boost).map fun v ↦ ("boost", rt.toJson v)).toList))]
      Code.content rt values object = document ∧
      runText? rt ⟨shape.fields, values⟩ (serializerBody type shape) =
        some (.object [("term", document)]) := by
  intro child node container value boost shape type leaf object
  have htype : (empty.interpretEach [(.root, node)]).type? "Term" = some type := by decide +kernel
  have hobject : ofObject object "term" = .ok shape := by decide +kernel
  have hregular : object.Regular :=
    ⟨fun h ↦ absurd h (by decide), fun h ↦ absurd h (by decide), fun h ↦ absurd h (by decide)⟩
  have hmakes : Body.ShapeSource.Makes (elaborateAt 1 .root "term") "term"
      ⟨some "field", none, .anyOf, [child "value" true, child "boost" false]⟩ object :=
    ⟨rfl, fun _ ↦ rfl, fun _ ↦ .none, .cons ⟨rfl, rfl⟩ (.cons ⟨rfl, rfl⟩ .nil), hregular⟩
  refine ⟨htype, ⟨1, _, _, ⟨_, .refl, rfl, rfl, rfl⟩, rfl, hmakes⟩, hobject, fun V rt values ↦ ?_⟩
  have hentries : fieldsContent rt values shape.fields = Json.object [(values.text container,
      .object ([value, boost].filterMap (Code.member? rt values)))] := rfl
  have hvalue : Code.member? rt values value =
      some ("value", rt.toJson (values.plain value)) := rfl
  have hboost : Code.member? rt values boost =
      (values.optional boost).map fun v ↦ ("boost", rt.toJson v) := rfl
  rw [List.filterMap_cons, hvalue, List.filterMap_cons, hboost] at hentries
  -- The theorem is about some object of the struct, which has the content of this one.
  obtain ⟨-, -, -, -, other, path, -, -, -, hother, hwrites⟩ :=
    serializer_writes_content [(.root, node)] htype rfl
  obtain ⟨hrun, hcontent, -⟩ := hwrites V rt values
  rw [Code.content_eq_fieldsContent hobject, hrun, hcontent, hentries]
  cases values.optional boost <;> exact ⟨rfl, rfl⟩

end ClientSynthesis.Assembly.Registry
