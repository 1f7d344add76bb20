import ClientSynthesis.Code.Module
import ClientSynthesis.Proofs.Code.SerializerMeaning
import ClientSynthesis.Proofs.Text.Lines

/-!
# The lines of a module

A module is written in chunks, and every chunk is a list of whole lines: so the text of a module is
its lines put together (`moduleText_eq`), where those of the documentation are there or not.
-/

namespace ClientSynthesis.Code

open Assembly (Registry)
open Naming (isNameChar)
open Text

/-! ### Blocks -/

/-- The lines of a chunk. -/
inductive Block where
  | code (lines : List String)
  | doc (lines : List String)

/-- The chunk with the lines of a block. -/
def Block.chunk : Block → Chunk
  | .code ls => .code (unlines ls)
  | .doc ls => .doc (unlines ls)

/-- The lines of a block that are written, with or without documentation. -/
def Block.lines (docs : Bool) : Block → List String
  | .code ls => ls
  | .doc ls => if docs then ls else []

theorem Block.text_chunk (docs : Bool) (b : Block) : b.chunk.text docs = unlines (b.lines docs) := by
  cases b with
  | code ls => rfl
  | doc ls => cases docs <;> rfl

theorem render_chunks (docs : Bool) (blocks : List Block) :
    render docs (blocks.map Block.chunk) = unlines (blocks.flatMap (Block.lines docs)) := by
  rw [render, List.map_map, unlines_flatMap]
  exact congrArg String.join (List.map_congr_left fun b _ ↦ b.text_chunk docs)

/-! ### Documentation -/

/-- The lines of a documentation comment. -/
def commentLines (indent text : String) : List String :=
  (docLines text.toList).map fun line ↦ indent ++ String.ofList line

theorem docComment_eq (indent text : String) :
    docComment indent text = unlines (commentLines indent text) :=
  (unlines_map (fun line ↦ indent ++ String.ofList line) (docLines text.toList)).symm

/-- The lines of the documentation of a method. -/
def methodDocLines (m : Method) : List String :=
  commentLines "    " m.documentation ++ ["    ///"] ++
    (m.pathParams.flatMap fun p ↦
      commentLines "    " ("- `" ++ p.name ++ "`: " ++ p.description)) ++
    ["    /// - `method`: The http method used to execute the request"] ++
    if m.body = .none then [] else ["    /// - `body`: The body to be sent with the request"]

theorem methodDocs_eq (m : Method) : methodDocs m = unlines (methodDocLines m) := by
  have hparams : String.join (m.pathParams.map fun p ↦
      docComment "    " ("- `" ++ p.name ++ "`: " ++ p.description)) =
      unlines (m.pathParams.flatMap fun p ↦
        commentLines "    " ("- `" ++ p.name ++ "`: " ++ p.description)) := by
    rw [unlines_flatMap]
    exact congrArg String.join (List.map_congr_left fun p _ ↦ docComment_eq _ _)
  rw [methodDocs, methodDocLines, hparams, docComment_eq]
  simp only [unlines_append]
  split <;> rfl

/-! ### Types -/

/-- The line that stores an entry, at an indentation. -/
def insertLine (indent : String) (map : LocalMap) (key : KeyExpression) (value : ValueExpression) :
    String :=
  indent ++ map.ident ++ ".insert(" ++ key.text ++ ", " ++ value.text ++ ");"

/-- The lines of a statement. -/
def Statement.lines : Statement → List String
  | .declare map => ["        let mut " ++ map.ident ++ " = Map::new();"]
  | .insert map key value => [insertLine "        " map key value]
  | .insertIfPresent ident map key value =>
    ["        if let Some(value) = &self." ++ ident ++ " \x7b",
      insertLine "            " map key value, "        \x7d"]
  | .result map => ["        Value::Object(" ++ map.ident ++ ")"]

theorem insertText_eq (indent : String) (map : LocalMap) (key : KeyExpression)
    (value : ValueExpression) :
    insertText indent map key value = insertLine indent map key value ++ "\n" := by
  refine String.toList_injective ?_
  simp [insertText, insertLine]

theorem Statement.text_eq (s : Statement) : s.text = unlines s.lines := by
  refine String.toList_injective ?_
  unfold Statement.text Statement.lines
  cases s <;> simp [insertText_eq, toList_unlines]

/-- The lines of the declaration of a struct. -/
def structLines (config : Config) (name : String) (shape : StructShape) : List String :=
  let fields := shape.fields.map (fieldText config)
  let idents := shape.fields.map (·.ident)
  ["#[derive(Debug)]", "pub struct " ++ name ++ " \x7b"] ++
    (fields.map fun f ↦ "    pub " ++ f ++ ",") ++
    ["\x7d", "", "impl " ++ name ++ " \x7b",
      "    pub fn new(" ++ ", ".intercalate fields ++ ") -> Self \x7b",
      if idents.isEmpty then "        Self \x7b\x7d"
        else "        Self \x7b " ++ ", ".intercalate idents ++ " \x7d",
      "    \x7d", "\x7d", ""]

theorem structText_eq (config : Config) (name : String) (shape : StructShape) :
    structText config name shape = unlines (structLines config name shape) := by
  refine String.toList_injective ?_
  unfold structText structLines
  dsimp only
  split <;> simp [toList_unlines, String.toList_join, List.flatMap_map]

/-- The lines of the implementation of the trait that a struct is serialized by. -/
def serializerLines (config : Config) (name wireKey : String) (shape : StructShape) : List String :=
  ["impl " ++ config.bodyTrait ++ " for " ++ name ++ " \x7b",
    "    fn to_document(&self) -> Value \x7b"] ++
    (serializer wireKey shape).flatMap Statement.lines ++ ["    \x7d", "\x7d"]

theorem serializerText_eq_unlines (config : Config) (name wireKey : String) (shape : StructShape) :
    serializerText config name wireKey shape =
      unlines (serializerLines config name wireKey shape) := by
  have hstatements : String.join ((serializer wireKey shape).map Statement.text) =
      unlines ((serializer wireKey shape).flatMap Statement.lines) := by
    rw [unlines_flatMap]
    exact congrArg String.join (List.map_congr_left fun s _ ↦ s.text_eq)
  refine String.toList_injective ?_
  unfold serializerText serializerLines
  rw [hstatements]
  simp [toList_unlines]

/-- The lines of the declaration of an enum. -/
def enumLines (name : String) (cases : List EnumCase) : List String :=
  ["#[derive(Debug, Clone, Copy, PartialEq, Eq, Hash)]", "pub enum " ++ name ++ " \x7b"] ++
    (cases.map fun c ↦ "    " ++ c.ident ++ ",") ++ ["\x7d", "", "impl " ++ name ++ " \x7b"]

/-- The line of the arm that gives the text of a variant. -/
def armLine (name : String) (case : EnumCase) : String :=
  "            " ++ name ++ "::" ++ case.ident ++ " => " ++ quoted case.wireValue ++ ","

/-- The lines of the function that gives the text of a variant. -/
def armLines (name : String) (cases : List EnumCase) : List String :=
  ["    pub fn as_str(&self) -> &'static str \x7b", "        match *self \x7b"] ++
    cases.map (armLine name) ++ ["        \x7d", "    \x7d", "\x7d"]

/-- The lines of the conversion of an enum to its parent type. -/
def conversionLines (name parent : String) : List String :=
  ["", "impl From<" ++ name ++ "> for " ++ parent ++ " \x7b",
    "    fn from(value: " ++ name ++ ") -> Self \x7b",
    "        " ++ parent ++ "::from(value.as_str())", "    \x7d", "\x7d"]

theorem conversionText_eq (name parent : String) :
    conversionText name parent = unlines (conversionLines name parent) := by
  refine String.toList_injective ?_
  unfold conversionText conversionLines
  simp [toList_unlines]

/-- The blocks of a struct. -/
def structBlocks (config : Config) (name : String) (type : TypeDefinition) (shape : StructShape) :
    List Block :=
  [.doc (commentLines "" ("Request body element serialized under `" ++ type.wireKey ++ "`.")),
    .code (structLines config name shape),
    .code (serializerLines config name type.wireKey shape)] ++
  type.parentType.toList.map fun parent ↦
    .code ["", "impl " ++ parent ++ " for " ++ name ++ " \x7b\x7d"]

/-- The blocks of an enum. -/
def enumBlocks (name : String) (type : TypeDefinition) (cases : List EnumCase) : List Block :=
  [.doc (commentLines "" ("Allowed values of `" ++ type.wireKey ++ "`.")),
    .code (enumLines name cases), .doc ["    /// Literal value written on the wire."],
    .code (armLines name cases)] ++
  type.parentType.toList.map fun parent ↦ .code (conversionLines name parent)

theorem structItem_eq (config : Config) (name : String) (type : TypeDefinition)
    (shape : StructShape) :
    structItem config name type shape = (structBlocks config name type shape).map Block.chunk := by
  have hmarker (parent : String) : "\nimpl " ++ parent ++ " for " ++ name ++ " \x7b\x7d\n" =
      unlines ["", "impl " ++ parent ++ " for " ++ name ++ " \x7b\x7d"] := by
    refine String.toList_injective ?_
    simp [toList_unlines]
  unfold structItem structBlocks
  simp only [docComment_eq, structText_eq, serializerText_eq_unlines, hmarker, List.map_append,
    List.map_map]
  rfl

theorem enumItem_eq (name : String) (type : TypeDefinition) (cases : List EnumCase) :
    enumItem name type cases = (enumBlocks name type cases).map Block.chunk := by
  have hdeclaration : "#[derive(Debug, Clone, Copy, PartialEq, Eq, Hash)]\n" ++
      "pub enum " ++ name ++ " \x7b\n" ++
      String.join (cases.map fun c => "    " ++ c.ident ++ ",\n") ++
      "\x7d\n\n" ++ "impl " ++ name ++ " \x7b\n" = unlines (enumLines name cases) := by
    refine String.toList_injective ?_
    unfold enumLines
    simp [toList_unlines, String.toList_join, List.flatMap_map]
  have harms : "    pub fn as_str(&self) -> &'static str \x7b\n" ++
      "        match *self \x7b\n" ++ String.join (cases.map (armText name)) ++
      "        \x7d\n    \x7d\n\x7d\n" = unlines (armLines name cases) := by
    refine String.toList_injective ?_
    unfold armLines armText armLine
    simp [toList_unlines, String.toList_join, List.flatMap_map]
  have hdoc : "    /// Literal value written on the wire.\n" =
      unlines ["    /// Literal value written on the wire."] := by
    rfl
  unfold enumItem enumBlocks
  simp only [docComment_eq, hdeclaration, harms, hdoc, conversionText_eq, List.map_append,
    List.map_map]
  rfl

/-- The blocks of a type. -/
def typeBlocks (config : Config) (name : String) (type : TypeDefinition) : List Block :=
  match type.shape with
  | .struct shape => structBlocks config name type shape
  | .enum cases => enumBlocks name type cases

theorem typeItem_eq (config : Config) (name : String) (type : TypeDefinition) :
    typeItem config name type = (typeBlocks config name type).map Block.chunk := by
  rw [typeItem, typeBlocks]
  cases type.shape with
  | struct shape => exact structItem_eq config name type shape
  | enum cases => exact enumItem_eq name type cases

/-! ### Method groups -/

/-- The line of a step of a method. -/
def RequestStep.line : RequestStep → String
  | .chooseMethod default => "        let method = method.unwrap_or(HttpMethod::" ++ default ++ ");"
  | .checkMethod allowed =>
    "        assert!(matches!(method, " ++
      " | ".intercalate (allowed.map ("HttpMethod::" ++ ·)) ++ "));"
  | .buildUrl url => "        let url = " ++ url.text ++ ";"
  | .promoteGet =>
    "        let method = if matches!(method, HttpMethod::Get) \x7b HttpMethod::Post \x7d " ++
      "else \x7b method \x7d;"
  | .construct body => "        Self::new(method, url, " ++ body.text ++ ")"

theorem RequestStep.text_eq (s : RequestStep) : s.text = s.line ++ "\n" := by
  refine String.toList_injective ?_
  unfold RequestStep.text RequestStep.line
  cases s <;> simp

/-- The lines of a method. -/
def methodLines (config : Config) (m : Method) : List String :=
  ["    pub fn " ++ m.ident ++ "(" ++
    ", ".intercalate ((signature config.bodyTrait m).map fun (ident, type) ↦
      ident ++ ": " ++ type) ++ ") -> Self \x7b"] ++
    (requestSteps m).map RequestStep.line ++ ["    \x7d"]

/-- The blocks of a method. -/
def methodBlocks (config : Config) (m : Method) : List Block :=
  [.doc (methodDocLines m), .code (methodLines config m)]

theorem methodItem_eq (config : Config) (m : Method) :
    methodItem config m = (methodBlocks config m).map Block.chunk := by
  have hsteps : String.join ((requestSteps m).map RequestStep.text) =
      unlines ((requestSteps m).map RequestStep.line) := by
    rw [unlines_map]
    exact congrArg String.join (List.map_congr_left fun s _ ↦ s.text_eq)
  have hlines : "    pub fn " ++ m.ident ++ "(" ++
      ", ".intercalate ((signature config.bodyTrait m).map fun (ident, type) =>
        ident ++ ": " ++ type) ++ ") -> Self \x7b\n" ++
      String.join ((requestSteps m).map RequestStep.text) ++ "    \x7d\n" =
      unlines (methodLines config m) := by
    refine String.toList_injective ?_
    rw [hsteps, methodLines]
    simp [toList_unlines]
  unfold methodItem
  rw [hlines, methodDocs_eq]
  rfl

/-- The blocks of the methods of an endpoint. -/
def groupBlocks (config : Config) (group : MethodGroup) : List Block :=
  .code ["impl " ++ config.receiverType ++ " \x7b"] ::
    [Block.code [""]].intercalate (group.methods.map (methodBlocks config)) ++ [.code ["\x7d"]]

theorem map_intercalate {α β : Type} (f : α → β) (sep : List α) (ls : List (List α)) :
    (sep.intercalate ls).map f = (sep.map f).intercalate (ls.map (List.map f)) := by
  induction ls with
  | nil => rfl
  | cons l rest ih =>
    cases rest with
    | nil => simp
    | cons next more =>
      rw [List.intercalate_cons_cons, List.map_append, List.map_append, ih]
      exact List.intercalate_cons_cons.symm

theorem groupItem_eq (config : Config) (group : MethodGroup) :
    groupItem config group = (groupBlocks config group).map Block.chunk := by
  have hmethods : group.methods.map (methodItem config) =
      (group.methods.map (methodBlocks config)).map (List.map Block.chunk) := by
    rw [List.map_map]
    exact List.map_congr_left fun m _ ↦ methodItem_eq config m
  have hopening : "impl " ++ config.receiverType ++ " \x7b\n" =
      unlines ["impl " ++ config.receiverType ++ " \x7b"] := by
    refine String.toList_injective ?_
    simp [toList_unlines]
  rw [groupItem, groupBlocks, hmethods, hopening, List.map_append, List.map_cons, map_intercalate]
  rfl

/-! ### Modules -/

/-- The lines of an import: one, if any name is imported. -/
def Import.lines (i : Import) : List String :=
  match i.names with
  | [] => []
  | [name] => ["use " ++ i.path ++ "::" ++ name ++ ";"]
  | names => ["use " ++ i.path ++ "::\x7b" ++ ", ".intercalate names ++ "\x7d;"]

theorem Import.text_eq (i : Import) : i.text = unlines i.lines := by
  obtain ⟨path, names⟩ := i
  refine String.toList_injective ?_
  match names with
  | [] => rfl
  | [name] => simp [Import.text, Import.lines, toList_unlines]
  | first :: second :: more => simp [Import.text, Import.lines, toList_unlines]

/-- The title of a definition's module. -/
def title (d : Definition) : String :=
  match d.kind with
  | .type _ => d.name ++ " type definition"
  | .methodGroup group => "`" ++ group.endpoint ++ "` endpoint methods"

/-- The imports of a definition's module. -/
def imports (config : Config) (r : Registry) (d : Definition) : List Import :=
  match d.kind with
  | .type type => typeImports config r d.name type
  | .methodGroup group => groupImports config group

/-- The blocks of a definition behind its imports. -/
def itemBlocks (config : Config) (d : Definition) : List Block :=
  match d.kind with
  | .type type => typeBlocks config d.name type
  | .methodGroup group => groupBlocks config group

/-- The blocks of a definition's module. -/
def moduleBlocks (config : Config) (r : Registry) (d : Definition) : List Block :=
  [.code ["// @generated by apigen. Do not edit.", ""], .doc ["//! " ++ title d, ""],
    .code ((imports config r d).flatMap Import.lines ++ [""])] ++ itemBlocks config d

theorem moduleChunks_eq (config : Config) (r : Registry) (d : Definition) :
    moduleChunks config r d = (moduleBlocks config r d).map Block.chunk := by
  have hheader : header = unlines ["// @generated by apigen. Do not edit.", ""] := by rfl
  have htitle (title : String) : "//! " ++ title ++ "\n\n" = unlines ["//! " ++ title, ""] := by
    refine String.toList_injective ?_
    simp [toList_unlines]
  have himports (imports : List Import) : String.join (imports.map Import.text) ++ "\n" =
      unlines (imports.flatMap Import.lines ++ [""]) := by
    rw [unlines_append, unlines_flatMap]
    exact congrArg (String.join · ++ "\n") (List.map_congr_left fun i _ ↦ i.text_eq)
  obtain ⟨name, kind⟩ := d
  cases kind with
  | type type =>
    simp only [moduleChunks, htitle, himports, hheader, typeItem_eq]
    rfl
  | methodGroup group =>
    simp only [moduleChunks, htitle, himports, hheader, groupItem_eq]
    rfl

/-- The lines of a definition's module. -/
def moduleLines (config : Config) (r : Registry) (d : Definition) : List String :=
  (moduleBlocks config r d).flatMap (Block.lines config.docs)

theorem moduleText_eq (config : Config) (r : Registry) (d : Definition) :
    moduleText config r d = unlines (moduleLines config r d) := by
  rw [moduleText, moduleChunks_eq, render_chunks]
  rfl

end ClientSynthesis.Code
