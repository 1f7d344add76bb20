import ClientSynthesis.Proofs.Run.ModuleNames

/-!
# Names declared in a module

A module of a type brings names into scope from three places and declares one of its own. Within a
place no name is repeated, but the places are put together without being compared, and so are the
type's own name and the traits that are implemented for it. What has to be known of the names is
therefore stated pair by pair (`nodup_importedNames_iff`, `nodup_implementedTraits_iff`): that the type
and those it refers to are named like nothing that is imported for the code around them, and that the
parent of a struct is not the trait of all bodies.

The names are read off the text: what a line imports are the identifiers behind its last colon, and what
it implements for a type is what stands between `impl` and the type.
-/

namespace ClientSynthesis.Code

open Assembly (NameMap Registry inNameOrder mem_inNameOrder nodup_inNameOrder)
open Naming (isNameChar)
open Text

variable {config : Config} {r : Registry} {name : String} {type : TypeDefinition}

/-! ### Identifiers in a text -/

/-- The identifiers of a text, taken apart at everything that no name has. -/
def identifiers (cs : List Char) : List String :=
  ((splitWhere (fun c ↦ !isNameChar c) cs).filter (· ≠ [])).map String.ofList

/-- A name that is read as it was written. -/
def IsPlain (name : String) : Prop := name ≠ "" ∧ ∀ c ∈ name.toList, isNameChar c = true

-- A quantifier over all characters is decided as well, so the one over those of a name is singled out.
instance (name : String) : Decidable (IsPlain name) :=
  have : Decidable (∀ c ∈ name.toList, isNameChar c = true) := List.decidableBAll _ _
  inferInstanceAs (Decidable (name ≠ "" ∧ ∀ c ∈ name.toList, isNameChar c = true))

theorem identifiers_append_cons {c : Char} (hc : isNameChar c = false) (front back : List Char) :
    identifiers (front ++ c :: back) = identifiers front ++ identifiers back := by
  rw [identifiers, splitWhere_append_cons (by simp [hc]), List.filter_append, List.map_append]
  rfl

theorem identifiers_of_plain {name : String} (h : IsPlain name) : identifiers name.toList = [name] := by
  have hpiece : splitWhere (fun c ↦ !isNameChar c) name.toList = [name.toList] :=
    splitWhere_of_forall fun c hc ↦ by simp [h.2 c hc]
  have hne : name.toList ≠ [] := mt String.toList_eq_nil_iff.1 h.1
  rw [identifiers, hpiece, List.filter_cons_of_pos (by simpa using hne)]
  simp

theorem identifiers_intercalate {names : List String} (h : ∀ name ∈ names, IsPlain name) :
    identifiers (", ".intercalate names).toList = names := by
  rw [String.toList_intercalate]
  induction names with
  | nil => rfl
  | cons name rest ih =>
    obtain ⟨hname, hrest⟩ := List.forall_mem_cons.1 h
    cases rest with
    | nil => simpa using identifiers_of_plain hname
    | cons next more =>
      have hsep : ", ".toList.intercalate ((name :: next :: more).map String.toList) =
          name.toList ++ ',' :: ([] ++ ' ' ::
            ", ".toList.intercalate ((next :: more).map String.toList)) := by
        rw [List.map_cons, List.map_cons, List.intercalate_cons_cons]
        simp
      rw [hsep, identifiers_append_cons (by decide), identifiers_append_cons (by decide), ih hrest,
        identifiers_of_plain hname]
      rfl

/-! ### Readers -/

/-- The names that a line brings into scope. -/
def usedNames? (line : List Char) : Option (List String) :=
  (statement? "use " line).map fun path ↦ identifiers ((split ':' path).getLastD [])

/-- The names that a text brings into scope, line by line. -/
def usedNames (text : String) : List String :=
  ((split '\n' text.toList).filterMap usedNames?).flatten

/-- What a line implements for a type. -/
def implementedTrait? (name : String) (line : List Char) : Option String := do
  let rest ← expect "impl " line
  let trait ← textBefore (" for " ++ name ++ " \x7b") rest <|>
    textBefore (" for " ++ name ++ " \x7b\x7d") rest
  return String.ofList trait

/-- What a text implements for a type, line by line. -/
def implementedTraits (name text : String) : List String :=
  (split '\n' text.toList).filterMap (implementedTrait? name)

/-! ### Imported names -/

theorem nodup_jsonNames (type : TypeDefinition) : (jsonNames type).Nodup := by
  unfold jsonNames
  cases type.shape with
  | struct shape =>
    dsimp only
    split_ifs <;> decide
  | enum cases => exact List.nodup_nil

/-- The names that are imported, and that of the type itself, are distinct just if no two places have
one in common. -/
theorem nodup_importedNames_iff :
    (importedNames config r name type ++ [name]).Nodup ↔
      (∀ other ∈ siblings r name type ++ [name],
        other ∉ jsonNames type ∧ other ∉ runtimeNames config type) ∧
      ∀ other ∈ runtimeNames config type, other ∉ jsonNames type := by
  have hown : (siblings r name type ++ [name]).Nodup :=
    (nodup_siblings r name type).append (List.nodup_singleton name)
      (List.disjoint_singleton.2 fun h ↦ (mem_siblings_iff.1 h).1 rfl)
  rw [importedNames, List.append_assoc, List.nodup_append, List.nodup_append]
  simp only [nodup_jsonNames, nodup_inNameOrder, hown, true_and, List.mem_append, mem_inNameOrder,
    List.mem_singleton]
  constructor
  · rintro ⟨hplaces, hown⟩
    refine ⟨fun other hother ↦ ⟨fun hmem ↦ ?_, fun hmem ↦ ?_⟩, fun other hother hmem ↦ ?_⟩
    · exact hown other (.inl hmem) other hother rfl
    · exact hown other (.inr hmem) other hother rfl
    · exact hplaces other hmem other hother rfl
  · rintro ⟨hown, hplaces⟩
    refine ⟨fun a ha b hb heq ↦ hplaces b hb (heq ▸ ha), fun a ha b hb heq ↦ ?_⟩
    rcases ha with ha | ha
    · exact (hown b hb).1 (heq ▸ ha)
    · exact (hown b hb).2 (heq ▸ ha)

theorem usedNames?_line (path : String) {list : List Char} (h : ':' ∉ list) :
    usedNames? ("use ".toList ++ (path.toList ++ ("::".toList ++ (list ++ [';'])))) =
      some (identifiers list) := by
  have hline : "use ".toList ++ (path.toList ++ ("::".toList ++ (list ++ [';']))) =
      "use ".toList ++ ((path.toList ++ ':' :: ([] ++ ':' :: list)) ++ [';']) := by simp
  have hlast : (split ':' (path.toList ++ ':' :: ([] ++ ':' :: list))).getLastD [] = list := by
    rw [split_append_cons, split_append_cons, split_of_not_mem h]
    simp
  rw [usedNames?, hline, statement?_append, Option.map_some, hlast]

theorem usedNames?_lines {i : Import} (h : ∀ other ∈ i.names, IsPlain other) :
    (i.lines.filterMap fun l ↦ usedNames? l.toList).flatten = i.names := by
  obtain ⟨path, names⟩ := i
  dsimp only at h
  have hcolon {name : String} (hname : IsPlain name) : ':' ∉ name.toList := fun hmem ↦
    absurd (hname.2 ':' hmem) (by decide)
  match names with
  | [] => rfl
  | [name] =>
    have hname := h name List.mem_cons_self
    have hline : ("use " ++ path ++ "::" ++ name ++ ";").toList =
        "use ".toList ++ (path.toList ++ ("::".toList ++ (name.toList ++ [';']))) := by simp
    rw [Import.lines, List.filterMap_cons, hline, usedNames?_line path (hcolon hname),
      identifiers_of_plain hname]
    rfl
  | first :: second :: more =>
    have hlist : ':' ∉ (", ".intercalate (first :: second :: more)).toList :=
      not_mem_intercalate (by decide) fun other hother ↦ hcolon (h other hother)
    have hidentifiers := identifiers_intercalate h
    unfold Import.lines
    dsimp only
    generalize ", ".intercalate (first :: second :: more) = list at hlist hidentifiers ⊢
    have hline : ("use " ++ path ++ "::\x7b" ++ list ++ "\x7d;").toList =
        "use ".toList ++ (path.toList ++ ("::".toList ++
          (([] ++ '\x7b' :: (list.toList ++ '\x7d' :: [])) ++ [';']))) := by
      simp
    rw [List.filterMap_cons, hline, usedNames?_line path (by simpa using hlist),
      identifiers_append_cons (by decide), identifiers_append_cons (by decide), hidentifiers]
    simp [identifiers, splitWhere]

theorem usedNames?_imports {imports : List Import}
    (h : ∀ i ∈ imports, ∀ other ∈ i.names, IsPlain other) :
    ((imports.flatMap Import.lines).filterMap fun l ↦ usedNames? l.toList).flatten =
      imports.flatMap Import.names := by
  induction imports with
  | nil => rfl
  | cons i rest ih =>
    obtain ⟨hi, hrest⟩ := List.forall_mem_cons.1 h
    rw [List.flatMap_cons, List.filterMap_append, List.flatten_append, usedNames?_lines hi, ih hrest,
      List.flatMap_cons]

/-- What is read of the imports of a type are the names that are imported. -/
theorem usedNames_moduleText (h : OneLine config ⟨name, .type type⟩)
    (hplain : ∀ other ∈ importedNames config r name type, IsPlain other) :
    usedNames (moduleText config r ⟨name, .type type⟩) = importedNames config r name type := by
  have hread : ∀ line, isHead line = false → usedNames? line = none := fun line hline ↦ by
    rw [usedNames?, statement?, expect_eq_none (by decide) hline]
    rfl
  have hheads : (typeHeads config name type).filterMap (fun l ↦ usedNames? l.toList) = [] := by
    obtain ⟨keyword, implementations, hkeyword, heq, himpl⟩ := exists_typeHeads config name type
    rw [heq]
    refine List.filterMap_eq_nil_iff.2 (List.forall_mem_cons.2 ⟨?_, fun l hl ↦ ?_⟩)
    · rcases hkeyword with rfl | rfl <;> simp [usedNames?, statement?, expect, List.isPrefixOf?]
    · obtain ⟨rest, hrest⟩ := himpl l hl
      simp [hrest, usedNames?, statement?, expect, List.isPrefixOf?]
  have himports : ∀ i ∈ typeImports config r name type, ∀ other ∈ i.names, IsPlain other := by
    rw [← flatMap_names_typeImports] at hplain
    exact List.forall_mem_flatMap.1 hplain
  rw [usedNames, filterMap_split_moduleText r hread h, moduleHeads, List.filterMap_append,
    List.flatten_append, imports, usedNames?_imports himports, flatMap_names_typeImports]
  rw [show itemHeads config ⟨name, .type type⟩ = typeHeads config name type from rfl, hheads,
    List.flatten_nil, List.append_nil]

/-! ### Implementations -/

theorem textBefore_of_length_lt {ending : String} {cs : List Char}
    (h : cs.length < ending.toList.length) : textBefore ending cs = none := by
  refine if_neg fun hsuffix ↦ ?_
  have hle := (List.isSuffixOf_iff_suffix.1 hsuffix).length_le
  omega

/-- What is implemented for a type without a trait is no implementation of a trait. -/
theorem implementedTrait?_inherent (name : String) :
    implementedTrait? name ("impl " ++ name ++ " \x7b").toList = none := by
  have hline : ("impl " ++ name ++ " \x7b").toList =
      "impl ".toList ++ (name.toList ++ " \x7b".toList) := by simp
  rw [implementedTrait?, hline, expect_append, Option.bind_eq_bind, Option.bind_some,
    textBefore_of_length_lt, textBefore_of_length_lt]
  · rfl
  · simp
  · simp

theorem implementedTrait?_trait (trait name : String) :
    implementedTrait? name ("impl " ++ trait ++ " for " ++ name ++ " \x7b").toList = some trait := by
  have hline : ("impl " ++ trait ++ " for " ++ name ++ " \x7b").toList =
      "impl ".toList ++ (trait.toList ++ (" for " ++ name ++ " \x7b").toList) := by simp
  rw [implementedTrait?, hline, expect_append, Option.bind_eq_bind, Option.bind_some,
    textBefore_append]
  simp

theorem implementedTrait?_marker (parent name : String) :
    implementedTrait? name ("impl " ++ parent ++ " for " ++ name ++ " \x7b\x7d").toList =
      some parent := by
  have hline : ("impl " ++ parent ++ " for " ++ name ++ " \x7b\x7d").toList =
      "impl ".toList ++ (parent.toList ++ (" for " ++ name ++ " \x7b\x7d").toList) := by simp
  have hnone : textBefore (" for " ++ name ++ " \x7b")
      (parent.toList ++ (" for " ++ name ++ " \x7b\x7d").toList) = none := by
    -- The two endings end in different braces.
    refine if_neg fun hsuffix ↦ ?_
    obtain ⟨front, hfront⟩ := List.isSuffixOf_iff_suffix.1 hsuffix
    have hopening : (" for " ++ name ++ " \x7b").toList =
        (" for " ++ name ++ " ").toList ++ ['\x7b'] := by simp
    have hclosing : (" for " ++ name ++ " \x7b\x7d").toList =
        (" for " ++ name ++ " \x7b").toList ++ ['\x7d'] := by simp
    rw [hclosing, hopening, ← List.append_assoc, ← List.append_assoc] at hfront
    exact absurd (List.append_inj_right' hfront rfl) (by decide)
  rw [implementedTrait?, hline, expect_append, Option.bind_eq_bind, Option.bind_some, hnone,
    textBefore_append]
  simp

theorem implementedTraits_eq (h : OneLine config ⟨name, .type type⟩) :
    implementedTraits name (moduleText config r ⟨name, .type type⟩) =
      (typeHeads config name type).filterMap fun l ↦ implementedTrait? name l.toList := by
  have hread : ∀ line, isHead line = false → implementedTrait? name line = none := fun line hline ↦ by
    rw [implementedTrait?, expect_eq_none (by decide) hline]
    rfl
  have himports : ((typeImports config r name type).flatMap Import.lines).filterMap
      (fun l ↦ implementedTrait? name l.toList) = [] := by
    refine List.filterMap_eq_nil_iff.2 (List.forall_mem_flatMap.2 fun i _ l hl ↦ ?_)
    obtain ⟨rest, hl⟩ := exists_toList_of_mem_lines hl
    rw [hl]
    rfl
  rw [implementedTraits, filterMap_split_moduleText r hread h, moduleHeads, List.filterMap_append,
    imports, himports]
  rfl

theorem implementedTraits_struct {shape : StructShape} (h : OneLine config ⟨name, .type type⟩)
    (hshape : type.shape = .struct shape) :
    implementedTraits name (moduleText config r ⟨name, .type type⟩) =
      config.bodyTrait :: type.parentType.toList := by
  have hdeclaration : implementedTrait? name ("pub struct " ++ name ++ " \x7b").toList = none := by
    simp [implementedTrait?, expect, List.isPrefixOf?]
  rw [implementedTraits_eq h, typeHeads, hshape]
  dsimp only
  simp only [List.filterMap_append, List.filterMap_map, List.filterMap_cons, List.filterMap_nil,
    Function.comp_def, hdeclaration, implementedTrait?_inherent, implementedTrait?_trait,
    implementedTrait?_marker, List.filterMap_some]
  rfl

theorem nodup_implementedTraits_iff (h : OneLine config ⟨name, .type type⟩) :
    (implementedTraits name (moduleText config r ⟨name, .type type⟩)).Nodup ↔
      ∀ shape, type.shape = .struct shape → type.parentType ≠ some config.bodyTrait := by
  cases hshape : type.shape with
  | struct shape =>
    rw [implementedTraits_struct h hshape]
    cases hparent : type.parentType with
    | none => simp
    | some parent =>
      simp [eq_comm]
  | enum cases =>
    have hdeclaration : implementedTrait? name ("pub enum " ++ name ++ " \x7b").toList = none := by
      simp [implementedTrait?, expect, List.isPrefixOf?]
    refine iff_of_true ?_ fun _ hstruct ↦ TypeShape.noConfusion hstruct
    rw [implementedTraits_eq h, typeHeads, hshape]
    dsimp only
    rw [List.filterMap_append]
    simp only [List.filterMap_cons, List.filterMap_nil, hdeclaration, implementedTrait?_inherent,
      List.nil_append]
    -- What is left to read is the line of the conversion, if there is one.
    cases type.parentType with
    | none => exact List.nodup_nil
    | some parent =>
      rw [Option.toList_some, List.map_singleton, List.filterMap_cons, List.filterMap_nil]
      split
      · exact List.nodup_nil
      · exact List.nodup_singleton _

end ClientSynthesis.Code

namespace ClientSynthesis.Run

open Assembly (NameMap Registry)
open Code
open Naming (moduleName)

/-- **What a module of a type declares twice.** The names that are imported and that of the type are
distinct just if the type and those it refers to are named like nothing that is imported for JSON values
or from the runtime, and nothing from the runtime is named like what is imported for JSON values. And a
trait is implemented twice for the type just if that is a struct and its parent is the trait of all bodies.
The names that a reader of the text finds are these, if they are plain and no text with a line feed is
written as it is. -/
theorem declared_once_iff {documents : Json.Fields} {files : NameMap String}
    (h : (renderDocuments .bodies .default documents).outcome = .ok files) :
    ∃ r, (Registry.ofBodies documents).outcome = .ok r ∧
      ∀ name type, r.type? name = some type → ∃ text,
        files.get? (moduleName name ++ ".rs") = some text ∧
        ((importedNames .default r name type ++ [name]).Nodup ↔
          (∀ other ∈ siblings r name type ++ [name],
            other ∉ jsonNames type ∧ other ∉ runtimeNames .default type) ∧
          ∀ other ∈ runtimeNames .default type, other ∉ jsonNames type) ∧
        (OneLine .default ⟨name, .type type⟩ →
          definedTypes text = [name] ∧
          ((implementedTraits name text).Nodup ↔
            ∀ shape, type.shape = .struct shape → type.parentType ≠ some Config.default.bodyTrait) ∧
          ((∀ other ∈ importedNames .default r name type, IsPlain other) →
            usedNames text = importedNames .default r name type)) := by
  obtain ⟨r, hinterpret, hpackage⟩ := renderDocuments_eq_ok_iff.1 h
  refine ⟨r, hinterpret, fun name type htype ↦ ⟨_, (get?_eq_some_iff_of_package hpackage).2
    (.inl ⟨_, type?_eq_some_iff_mem_definitions.1 htype, rfl, rfl⟩), nodup_importedNames_iff,
    fun hlines ↦ ⟨definedTypes_moduleText r hlines, nodup_implementedTraits_iff hlines,
      usedNames_moduleText hlines⟩⟩⟩

theorem exists_structDefinition (typeName : String) (parent : Option String)
    (h : (Registry.ofBodies (structDocument "flag" typeName parent)).outcome.toOption.map
      Registry.definitions = some [structDefinition "flag" typeName parent]) :
    ∃ r files, (Registry.ofBodies (structDocument "flag" typeName parent)).outcome = .ok r ∧
      (renderDocuments .bodies .default (structDocument "flag" typeName parent)).outcome = .ok files ∧
      r.type? typeName = some ⟨"flag", parent, .struct ⟨[], .empty⟩⟩ ∧
      files.get? (moduleName typeName ++ ".rs") =
        some (moduleText .default r (structDefinition "flag" typeName parent)) := by
  obtain ⟨r, files, hinterpret, hdefinitions, hpackage, hrender⟩ :=
    exists_renderDocuments_of_definitions .bodies .default _ h (List.nodup_singleton _) nofun
  have hmem : structDefinition "flag" typeName parent ∈ r.definitions := by
    rw [hdefinitions]
    exact List.mem_singleton.2 rfl
  exact ⟨r, files, hinterpret, hrender, type?_eq_some_iff_mem_definitions.2 hmem,
    (get?_eq_some_iff_of_package hpackage).2 (.inl ⟨_, hmem, rfl, rfl⟩)⟩

theorem importedNames_structDefinition (r : Registry) (typeName : String) (parent : Option String) :
    importedNames .default r typeName ⟨"flag", parent, .struct ⟨[], .empty⟩⟩ =
      ["Map", "Value"] ++ Assembly.inNameOrder ("QueryItem" :: parent.toList) :=
  List.append_nil _

/-- A type may be named like the JSON values that its module imports, and a struct may have the trait of
all bodies for its parent. -/
theorem not_declared_once_of_value :
    (∃ (files : NameMap String) (text : String),
      (renderDocuments .bodies .default (structDocument "flag" "Value" none)).outcome = .ok files ∧
      files.get? "value.rs" = some text ∧ "Value" ∈ usedNames text ∧ "Value" ∈ definedTypes text) ∧
    ∃ (files : NameMap String) (text : String),
      (renderDocuments .bodies .default (structDocument "flag" "Leaf" (some "QueryItem"))).outcome =
        .ok files ∧
      files.get? "leaf.rs" = some text ∧ implementedTraits "Leaf" text = ["QueryItem", "QueryItem"] := by
  obtain ⟨r, files, -, hrender, -, hvalue⟩ :=
    exists_structDefinition "Value" none (by decide +kernel)
  obtain ⟨s, others, -, hother, -, hleaf⟩ :=
    exists_structDefinition "Leaf" (some "QueryItem") (by decide +kernel)
  rw [show moduleName "Value" ++ ".rs" = "value.rs" by decide +kernel] at hvalue
  rw [show moduleName "Leaf" ++ ".rs" = "leaf.rs" by decide +kernel] at hleaf
  refine ⟨⟨files, _, hrender, hvalue, ?_, ?_⟩, others, _, hother, hleaf, ?_⟩
  · rw [structDefinition, usedNames_moduleText (by decide +kernel)]
    · rw [importedNames_structDefinition]
      decide +kernel
    · rw [importedNames_structDefinition]
      decide +kernel
  · rw [structDefinition, definedTypes_moduleText r (by decide +kernel)]
    exact List.mem_singleton.2 rfl
  · rw [structDefinition, implementedTraits_struct (by decide +kernel) rfl]
    rfl

/-- A struct that has a parent and refers to an enum, so that it imports from all three places. -/
theorem declared_once_of_flag :
    let unit := Json.object [("key", .string "unit"), ("type", .string "enum"),
      ("typeName", .string "Unit"), ("options", .array [.string "on"])]
    let documents : Json.Fields := [("flag", .object [("key", .string "flag"),
      ("type", .string "struct"), ("typeName", .string "Flag"), ("parent", .string "Query"),
      ("any_of", .array [unit])])]
    ∃ (files : NameMap String) (text : String),
      (renderDocuments .bodies .default documents).outcome = .ok files ∧
      files.get? "flag.rs" = some text ∧ definedTypes text = ["Flag"] ∧
      usedNames text = ["Map", "Value", "Query", "QueryItem", "Unit"] ∧
      (usedNames text ++ definedTypes text).Nodup ∧ (implementedTraits "Flag" text).Nodup := by
  intro unit documents
  let type : TypeDefinition := ⟨"flag", some "Query",
    .struct ⟨[⟨"unit", "unit", .named "Unit", true, .wireValue, .child⟩], .fields none⟩⟩
  obtain ⟨r, files, hinterpret, hdefinitions, -, hrender⟩ := exists_renderDocuments_of_definitions
    .bodies .default documents
    (show _ = some [⟨"Flag", .type type⟩, ⟨"Unit", .type ⟨"unit", none, .enum [⟨"On", "on"⟩]⟩⟩] by
      decide +kernel) (by decide +kernel) nofun
  have htype : r.type? "Flag" = some type := by
    rw [type?_eq_some_iff_mem_definitions, hdefinitions]
    exact List.mem_cons_self
  have hsiblings : siblings r "Flag" type = ["Unit"] := by
    have heval : (Registry.ofBodies documents).outcome.map (siblings · "Flag" type) =
        .ok ["Unit"] := by decide +kernel
    have hr : (Registry.ofBodies documents).outcome = .ok r := hinterpret
    rw [hr] at heval
    exact Except.ok.inj heval
  obtain ⟨r', hr', hall⟩ := declared_once_iff hrender
  obtain rfl : r' = r := Except.ok.inj (hr'.symm.trans hinterpret)
  obtain ⟨text, hfile, hnames, hread⟩ := hall "Flag" type htype
  obtain ⟨hdefined, htraits, hused⟩ := hread (by decide +kernel)
  rw [show moduleName "Flag" ++ ".rs" = "flag.rs" by decide +kernel] at hfile
  have himported : importedNames .default r' "Flag" type =
      ["Map", "Value", "Query", "QueryItem", "Unit"] := by
    rw [importedNames, hsiblings]
    decide +kernel
  have husedNames := hused (by rw [himported]; decide +kernel)
  refine ⟨files, text, hrender, hfile, hdefined, husedNames.trans himported, ?_, ?_⟩
  · rw [husedNames, hdefined, hnames, hsiblings]
    decide +kernel
  · exact htraits.2 fun _ _ ↦ by decide

end ClientSynthesis.Run
