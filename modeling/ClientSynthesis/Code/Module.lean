import ClientSynthesis.Assembly.Registry
import ClientSynthesis.Code.MethodItem
import ClientSynthesis.Code.TypeItem

/-!
# Modules

The file of one definition: a header, what it imports, and its item. Imports are data, a path with
the names taken from it, so what a module brings into scope can be read off without reading text.
-/

namespace ClientSynthesis.Code

open Assembly (Registry inNameOrder)

/-- Names brought into scope from one path. -/
structure Import where
  path : String
  names : List String
  deriving DecidableEq, Repr

/-- An import as program text. One name stands alone, several stand between braces. -/
def Import.text (i : Import) : String :=
  match i.names with
  | [] => ""
  | [name] => "use " ++ i.path ++ "::" ++ name ++ ";\n"
  | names => "use " ++ i.path ++ "::\x7b" ++ ", ".intercalate names ++ "\x7d;\n"

/-- The import of names from the runtime. -/
def runtimeImport (config : Config) (names : List String) : Import :=
  ⟨config.runtimePath, inNameOrder names⟩

/-- The import of another generated type. -/
def siblingImport (name : String) : Import := ⟨"super::" ++ Naming.moduleName name, [name]⟩

/-- The imports of a type: JSON values and the body trait for a struct, its parent type, and the
types of its fields. An enum whose parent is `String` needs no import for it. -/
def typeImports (config : Config) (r : Registry) (name : String) (type : TypeDefinition) :
    List Import :=
  let json := if usesJsonMacro type then ["json", "Map", "Value"] else ["Map", "Value"]
  let own := match type.shape with
    | .struct _ =>
      [⟨"serde_json", json⟩, runtimeImport config (config.bodyTrait :: type.parentType.toList)]
    | .enum _ => [runtimeImport config (type.parentType.toList.filter (· != "String"))]
  own ++ ((r.dependencies type).filter (· != name)).map siblingImport

/-- Whether a method takes a typed body. -/
def takesTyped (m : Method) : Bool :=
  match m.body with
  | .typed _ => true
  | _ => false

/-- Whether a method takes a document as its body. -/
def takesDocument (m : Method) : Bool :=
  match m.body with
  | .document _ => true
  | _ => false

/-- The imports of a method group. -/
def groupImports (config : Config) (group : MethodGroup) : List Import :=
  (if group.methods.any takesDocument then [⟨"serde_json", ["Value"]⟩] else []) ++
  [runtimeImport config ("HttpMethod" :: config.receiverType ::
    if group.methods.any takesTyped then [config.bodyTrait] else [])]

/-- The line that every generated file begins with. -/
def header : String := "// @generated by apigen. Do not edit.\n\n"

/-- The chunks of a definition's file. -/
def moduleChunks (config : Config) (r : Registry) (d : Definition) : List Chunk :=
  let (title, imports, item) := match d.kind with
    | .type type =>
      (d.name ++ " type definition", typeImports config r d.name type,
        typeItem config d.name type)
    | .methodGroup group =>
      ("`" ++ group.endpoint ++ "` endpoint methods", groupImports config group,
        groupItem config group)
  [.code header, .doc ("//! " ++ title ++ "\n\n"),
   .code (String.join (imports.map Import.text) ++ "\n")] ++ item

/-- The text of a definition's file. -/
def moduleText (config : Config) (r : Registry) (d : Definition) : String :=
  render config.docs (moduleChunks config r d)

end ClientSynthesis.Code
