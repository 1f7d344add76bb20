import ClientSynthesis.Proofs.Assembly.Serialization
import ClientSynthesis.Proofs.Code.Imports
import ClientSynthesis.Proofs.Code.MacroUse

/-!
# The macro is imported where it is used

A module imports the macro for plain values by what `Code.usesJsonMacro` says, and the generated
program would not compile if that were wrong in one direction, nor without a warning in the other.
For whatever a registry holds it is right (`macro_imported_iff_invoked`), since its structs come
from objects.
-/

namespace ClientSynthesis.Assembly.Registry

open Code (typeImports usesJsonMacro)
open Text (Before Invokes outside)

/-- The import that has the macro among its names. -/
def macroImport : Code.Import := ⟨"serde_json", ["json", "Map", "Value"]⟩

/-- The import with the macro is made exactly if the fields ask for it, whatever the configuration
has other imports look like. -/
theorem macroImport_mem_iff {config : Config} {r : Registry} {name : String}
    {type : TypeDefinition} : macroImport ∈ typeImports config r name type ↔
      usesJsonMacro type = true := by
  -- The names of a runtime import are in order, and those of this one are not.
  have hruntime (names : List String) : macroImport ≠ Code.runtimeImport config names := by
    intro h
    have hnames : macroImport.names = inNameOrder names := congrArg Code.Import.names h
    have hordered : macroImport.names.Pairwise Before := by
      rw [hnames]
      exact NameMap.pairwise_names _
    exact absurd hordered (by decide)
  have hsibling : macroImport ∉
      ((r.dependencies type).filter (· != name)).map Code.siblingImport := by
    intro h
    obtain ⟨other, -, h⟩ := List.mem_map.1 h
    exact nomatch congrArg (fun i : Code.Import ↦ i.names.length) h
  rw [typeImports, List.mem_append, or_iff_left hsibling]
  cases hshape : type.shape with
  | enum cases =>
    have huses : usesJsonMacro type = false := by rw [usesJsonMacro, hshape]
    simp [huses, hruntime]
  | struct shape =>
    cases huses : usesJsonMacro type with
    | false =>
      have hjson : macroImport ≠ ⟨"serde_json", ["Map", "Value"]⟩ := by decide
      simp [hruntime, hjson]
    | true => simp [macroImport]

/-- **The macro for plain values is imported exactly where it is invoked.** Of every type that
interpretations register, the definition asks for the macro if and only if the body of its
`to_document` invokes it outside of string literals, and the module imports it if and only if the
definition asks for it. An enum has no such body, and does not ask for it. -/
theorem macro_imported_iff_invoked {r : Registry} (hr : Reached r) {name : String}
    {type : TypeDefinition} (htype : r.type? name = some type) (config : Config) :
    (usesJsonMacro type = true ↔ ∃ shape, type.shape = .struct shape ∧
      Invokes "json" (outside (serializerBody type shape).toList)) ∧
    (macroImport ∈ typeImports config r name type ↔ usesJsonMacro type = true) := by
  refine ⟨?_, macroImport_mem_iff⟩
  cases hshape : type.shape with
  | enum cases =>
    have huses : usesJsonMacro type = false := by rw [usesJsonMacro, hshape]
    simp [huses]
  | struct shape =>
    obtain ⟨history, rfl⟩ := hr.exists_history
    obtain ⟨-, -, -, object, path, -, -, -, hofObject⟩ := exists_builds_of_type? htype hshape
    have hnamed := Code.named_serializer (Code.namedShape_of_ofObject hofObject) type.wireKey
    rw [Code.usesJsonMacro_iff hshape (Code.length_filter_value_of_ofObject hofObject),
      ← Code.invokes_statements_iff hnamed]
    constructor
    · exact fun hinvokes ↦ ⟨shape, rfl, hinvokes⟩
    · rintro ⟨shape', hsame, hinvokes⟩
      obtain rfl := TypeShape.struct.inj hsame
      exact hinvokes

/-- A struct whose key looks like an invocation, and one inside it that stores a plain value: only
the latter asks for the macro. -/
theorem macro_imported_iff_invoked_of_nested :
    let boost := Json.object [("key", .string "boost"), ("type", .string "simple"),
      ("typeName", .string "f64")]
    let inner := Json.object [("key", .string "inner"), ("type", .string "struct"),
      ("typeName", .string "Inner"), ("any_of", .array [boost])]
    let node := Json.object [("key", .string "json!("), ("type", .string "struct"),
      ("typeName", .string "Outer"), ("any_of", .array [inner])]
    let r := (empty.interpret .root node).registry
    let outerShape : StructShape :=
      ⟨[⟨"inner", "inner", .named "Inner", true, .document, .child⟩], .fields none⟩
    let innerShape : StructShape :=
      ⟨[⟨"boost", "boost", .named "f64", true, .verbatim, .child⟩], .fields none⟩
    let outerType : TypeDefinition := ⟨"json!(", none, .struct outerShape⟩
    let innerType : TypeDefinition := ⟨"inner", none, .struct innerShape⟩
    Reached r ∧ r.type? "Outer" = some outerType ∧ r.type? "Inner" = some innerType ∧
    ¬ Invokes "json" (outside (serializerBody outerType outerShape).toList) ∧
    Invokes "json" (outside (serializerBody innerType innerShape).toList) ∧
    ∀ config, macroImport ∉ typeImports config r "Outer" outerType ∧
      macroImport ∈ typeImports config r "Inner" innerType := by
  intro boost inner node r outerShape innerShape outerType innerType
  have hr : Reached r := .interpret .empty .root node
  have houter : r.type? "Outer" = some outerType := by decide +kernel
  have hinner : r.type? "Inner" = some innerType := by decide +kernel
  obtain ⟨houterUse, -⟩ := macro_imported_iff_invoked hr houter .default
  obtain ⟨hinnerUse, -⟩ := macro_imported_iff_invoked hr hinner .default
  have hnot : usesJsonMacro outerType = false := rfl
  have huses : usesJsonMacro innerType = true := rfl
  obtain ⟨shape, hshape, hinvokes⟩ := hinnerUse.1 huses
  obtain rfl := TypeShape.struct.inj hshape
  refine ⟨hr, houter, hinner, fun h ↦ ?_, hinvokes, fun config ↦ ⟨fun h ↦ ?_, ?_⟩⟩
  · exact absurd (houterUse.2 ⟨outerShape, rfl, h⟩) (by rw [hnot]; decide)
  · exact absurd (macroImport_mem_iff.1 h) (by rw [hnot]; decide)
  · exact macroImport_mem_iff.2 huses

end ClientSynthesis.Assembly.Registry
