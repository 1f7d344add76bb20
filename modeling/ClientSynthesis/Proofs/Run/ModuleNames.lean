import ClientSynthesis.Proofs.Code.SiblingImports
import ClientSynthesis.Proofs.Naming.RawIdentifiers
import ClientSynthesis.Proofs.Run.Generation

/-!
# Module names in generated code

The name of a definition's module is the stem of its file, and it is written into the code in three
places: where the module is declared, where a type is re-exported from it, and where another module
imports from it. Every name that is written there is that of a module in the package. But it is
written as it stands in the file name, without a raw mark; so the code has a keyword for a module
just if a definition whose identifier is a raw one is declared or imported
(`written_modules_legal_iff`).
-/

namespace ClientSynthesis.Code

open Assembly (NameMap Registry)
open Naming (isKeyword isKeyword_moduleName_iff isNameChar isNameChar_of_mem_moduleName IsRaw
  moduleName)
open Text

variable {config : Config} {r : Registry} {files : NameMap String}

/-! ### Readers -/

/-- The module that a line imports from, if that is beside the one it is in. -/
def superModule? (line : List Char) : Option String :=
  (expect "use super::" line).map fun rest ↦ (readRun isNameChar rest).1

/-- The modules that a text imports from, line by line, among those beside its own. -/
def superModules (text : String) : List String :=
  (split '\n' text.toList).filterMap superModule?

/-- The module names that a text writes: where it declares modules, re-exports from them and imports
from them. -/
def writtenModules (text : String) : List String :=
  declaredModules text ++ (reexports text).map Prod.fst ++ superModules text

theorem superModules_eq (text : String) :
    superModules text = (superLines text).filterMap fun l ↦ superModule? l.toList := by
  rw [superModules, superLines, List.filterMap_filterMap]
  refine List.filterMap_congr fun line _ ↦ ?_
  by_cases hsuper : isSuperLine line = true
  · simp [hsuper]
  · rw [if_neg hsuper, Option.bind_none, superModule?, Option.map_eq_none_iff]
    refine Option.eq_none_iff_forall_ne_some.2 fun rest hrest ↦ hsuper ?_
    exact List.isPrefixOf_iff_prefix.2 ⟨rest, expect_eq_some_iff.1 hrest⟩

theorem superModule?_siblingLine (name : String) :
    superModule? (siblingLine name).toList = some (moduleName name) := by
  have hline : (siblingLine name).toList =
      "use super::".toList ++ ((moduleName name).toList ++ ':' :: (':' :: name.toList ++ [';'])) := by
    simp [siblingLine]
  rw [superModule?, hline, expect_append, Option.map_some,
    readRun_append (isNameChar_of_mem_moduleName name) (by decide)]

/-! ### What is written -/

theorem superLines_groupText {name : String} {group : MethodGroup}
    (h : OneLine config ⟨name, .methodGroup group⟩) (hruntime : ¬ Beside config.runtimePath) :
    superLines (moduleText config r ⟨name, .methodGroup group⟩) = [] := by
  have himports : ∀ i ∈ groupImports config group, ¬ Beside i.path := by
    unfold groupImports
    refine List.forall_mem_append.2 ⟨?_, List.forall_mem_singleton.2 hruntime⟩
    split_ifs
    · exact List.forall_mem_singleton.2 (show ¬ Beside "serde_json" by decide)
    · exact nofun
  rw [superLines_eq r h]
  refine List.filter_eq_nil_iff.2 (List.forall_mem_append.2
    ⟨List.forall_mem_flatMap.2 fun i hi l hl ↦ ?_, List.forall_mem_singleton.2 ?_⟩)
  · exact mt (isSuperLine_of_mem_lines hl).1 (himports i hi)
  · simp [isSuperLine, List.isPrefixOf]

/-- What the heads of a module begin with. -/
theorem exists_keyword_of_mem_moduleHeads {d : Definition} :
    ∀ l ∈ moduleHeads config r d, ∃ keyword ∈ ["use ", "pub struct ", "pub enum ", "impl "],
      keyword.toList <+: l.toList := by
  refine List.forall_mem_append.2 ⟨List.forall_mem_flatMap.2 fun i _ l hl ↦ ?_, ?_⟩
  · obtain ⟨rest, hrest⟩ := exists_toList_of_mem_lines hl
    exact ⟨"use ", by simp, _, hrest.symm⟩
  · unfold itemHeads
    obtain ⟨name, kind⟩ := d
    cases kind with
    | type type =>
      obtain ⟨keyword, implementations, hkeyword, heq, himpl⟩ := exists_typeHeads config name type
      dsimp only
      rw [heq]
      refine List.forall_mem_cons.2 ⟨⟨keyword, ?_, ?_⟩, fun l hl ↦ ?_⟩
      · rcases hkeyword with rfl | rfl <;> simp
      · exact ⟨(name ++ " \x7b").toList, by simp⟩
      · obtain ⟨rest, hrest⟩ := himpl l hl
        exact ⟨"impl ", by simp, rest, hrest.symm⟩
    | methodGroup group =>
      exact List.forall_mem_singleton.2
        ⟨"impl ", by simp, (config.receiverType ++ " \x7b").toList, by simp⟩

/-- A definition's module declares no modules and re-exports nothing. -/
theorem declares_nothing {d : Definition} (h : OneLine config d) :
    declaredModules (moduleText config r d) = [] ∧ reexports (moduleText config r d) = [] := by
  have hstatement {token : String} (htoken : token = "pub mod " ∨ token = "pub use ") {l : String}
      (hl : l ∈ moduleHeads config r d) : expect token l.toList = none := by
    obtain ⟨keyword, hkeyword, behind, hbehind⟩ := exists_keyword_of_mem_moduleHeads l hl
    refine Option.eq_none_iff_forall_ne_some.2 fun rest hrest ↦ ?_
    have hclash := (expect_eq_some_iff.1 hrest).trans hbehind.symm
    rcases htoken with rfl | rfl <;>
      simp only [List.mem_cons, List.not_mem_nil, or_false] at hkeyword <;>
      rcases hkeyword with rfl | rfl | rfl | rfl <;> simp at hclash
  have hmod : ∀ line, isHead line = false → (statement? "pub mod " line).map String.ofList = none :=
    fun line hline ↦ by rw [statement?, expect_eq_none (by decide) hline]; rfl
  have huse : ∀ line, isHead line = false → reexport? line = none :=
    fun line hline ↦ by rw [reexport?, statement?, expect_eq_none (by decide) hline]; rfl
  rw [declaredModules, filterMap_split_moduleText r hmod h, reexports,
    filterMap_split_moduleText r huse h]
  refine ⟨List.filterMap_eq_nil_iff.2 fun l hl ↦ ?_, List.filterMap_eq_nil_iff.2 fun l hl ↦ ?_⟩
  · simp [statement?, hstatement (.inl rfl) hl]
  · simp [reexport?, statement?, hstatement (.inr rfl) hl]

/-- The modules whose names are written into a definition's own module. -/
theorem writtenModules_moduleText {d : Definition} (h : OneLine config d)
    (hruntime : ¬ Beside config.runtimePath) :
    writtenModules (moduleText config r d) =
      match d.kind with
      | .type type => (siblings r d.name type).map moduleName
      | .methodGroup _ => [] := by
  obtain ⟨hdeclared, hreexports⟩ := declares_nothing h (r := r)
  rw [writtenModules, hdeclared, hreexports, superModules_eq]
  obtain ⟨name, kind⟩ := d
  cases kind with
  | type type =>
    rw [superLines_moduleText r h, if_neg hruntime]
    simp [List.filterMap_map, superModule?_siblingLine]
  | methodGroup group =>
    rw [superLines_groupText h hruntime]
    rfl

theorem writtenModules_modFileText (h : ∀ name ∈ r.typeNames, '\n' ∉ name.toList) :
    writtenModules (modFileText r) = r.names.map moduleName ++ r.typeNames.map moduleName := by
  have hsuper : superModules (modFileText r) = [] := by
    have hmod (name : String) : superModule? (modLine name).toList = none := by
      rw [toList_modLine]
      simp [superModule?, expect, List.isPrefixOf?]
    have huse (name : String) : superModule? (useLine name).toList = none := by
      rw [toList_useLine]
      simp [superModule?, expect, List.isPrefixOf?]
    rw [superModules, filterMap_lines_modFileText h (by decide)]
    simp [hmod, huse]
  rw [writtenModules, declaredModules_modFileText h, reexports_modFileText h, hsuper,
    List.append_nil, List.map_map]
  rfl

theorem not_mem_typeNames (hlines : ∀ d ∈ r.definitions, OneLine config d) :
    ∀ name ∈ r.typeNames, '\n' ∉ name.toList := by
  rw [typeNames_eq]
  refine List.forall_mem_map.2 fun d hd ↦ ?_
  obtain ⟨hmem, htype⟩ := List.mem_filter.1 hd
  obtain ⟨name, kind⟩ := d
  cases kind with
  | type type => exact (hlines _ hmem).of_type.1
  | methodGroup group => exact absurd htype nofun

/-- The module names of a package are those of its definitions, if there is a file that declares the
modules, and of the types that types refer to. -/
theorem forall_writtenModules_iff (h : package config r = .ok files)
    (hruntime : ¬ Beside config.runtimePath) (hlines : ∀ d ∈ r.definitions, OneLine config d)
    {p : String → Prop} :
    (∀ file text, files.get? file = some text → ∀ module ∈ writtenModules text, p module) ↔
      (config.modFile = true → ∀ d ∈ r.definitions, p (moduleName d.name)) ∧
        ∀ name type, r.type? name = some type →
          ∀ other ∈ siblings r name type, p (moduleName other) := by
  have hmodFile : (∀ module ∈ writtenModules (modFileText r), p module) ↔
      ∀ d ∈ r.definitions, p (moduleName d.name) := by
    rw [writtenModules_modFileText (not_mem_typeNames hlines), List.forall_mem_append,
      names_eq_map_definitions, typeNames_eq]
    simp only [List.forall_mem_map]
    exact and_iff_left_of_imp fun hall d hd ↦ hall d (List.mem_of_mem_filter hd)
  simp only [get?_eq_some_iff_of_package h]
  constructor
  · intro hall
    refine ⟨fun hmod ↦ hmodFile.1 fun module hmodule ↦
      hall _ _ (.inr ⟨hmod, rfl, rfl⟩) module hmodule, fun name type htype other hother ↦ ?_⟩
    have hd := type?_eq_some_iff_mem_definitions.1 htype
    refine hall _ _ (.inl ⟨_, hd, rfl, rfl⟩) _ ?_
    rw [writtenModules_moduleText (hlines _ hd) hruntime]
    exact List.mem_map_of_mem hother
  · rintro ⟨hdeclared, himported⟩ file text (⟨d, hd, -, rfl⟩ | ⟨hmod, -, rfl⟩) module hmodule
    · rw [writtenModules_moduleText (hlines d hd) hruntime] at hmodule
      obtain ⟨name, kind⟩ := d
      cases kind with
      | type type =>
        obtain ⟨other, hother, rfl⟩ := List.mem_map.1 hmodule
        exact himported name type (type?_eq_some_iff_mem_definitions.2 hd) other hother
      | methodGroup group => exact nomatch hmodule
    · exact hmodFile.2 (hdeclared hmod) module hmodule

end ClientSynthesis.Code

namespace ClientSynthesis.Run

open Assembly (NameMap Registry)
open Code
open Naming (isKeyword isKeyword_moduleName_iff IsRaw moduleName)

/-- **The module names in generated code are those of modules that are there, and legal but for raw
identifiers.** Where no text with a line feed is written as it is and the runtime is not beside the
modules, each name after `pub mod`, in `pub use` and in `use super` is that of a definition's module,
and it is a keyword just if the definition's identifier is a raw one. So all of them are legal just if no
such definition is declared in a file for the modules, and none is the type of another type's field. -/
theorem written_modules_legal_iff {mode : Mode} {config : Config} {documents : Json.Fields}
    {files : NameMap String} (h : (renderDocuments mode config documents).outcome = .ok files)
    (hruntime : ¬ Beside config.runtimePath) :
    ∃ r, (interpret mode config documents).outcome = .ok r ∧
      ((∀ d ∈ r.definitions, OneLine config d) →
        (∀ file text, files.get? file = some text → ∀ module ∈ writtenModules text,
          ∃ d ∈ r.definitions, module = moduleName d.name ∧ (isKeyword module = true ↔ IsRaw d.name)) ∧
        ((∀ file text, files.get? file = some text → ∀ module ∈ writtenModules text,
            isKeyword module = false) ↔
          (config.modFile = true → ∀ d ∈ r.definitions, ¬ IsRaw d.name) ∧
            ∀ name type, r.type? name = some type →
              ∀ other ∈ siblings r name type, ¬ IsRaw other)) := by
  obtain ⟨r, hinterpret, hpackage⟩ := renderDocuments_eq_ok_iff.1 h
  refine ⟨r, hinterpret, fun hlines ↦ ⟨?_, ?_⟩⟩
  · refine (forall_writtenModules_iff hpackage hruntime hlines).2
      ⟨fun _ d hd ↦ ⟨d, hd, rfl, isKeyword_moduleName_iff d.name⟩, fun name type _ other hother ↦ ?_⟩
    obtain ⟨otherType, hotherType⟩ := Option.isSome_iff_exists.1 (mem_siblings_iff.1 hother).2.2
    exact ⟨_, type?_eq_some_iff_mem_definitions.1 hotherType, rfl, isKeyword_moduleName_iff other⟩
  · rw [forall_writtenModules_iff hpackage hruntime hlines]
    simp only [← isKeyword_moduleName_iff, Bool.not_eq_true]

/-- The namespace of one document, for a struct without content. -/
def structDocument (key typeName : String) (parent : Option String) : Json.Fields :=
  [(key, .object ([("key", .string key), ("type", .string "struct"), ("typeName", .string typeName)] ++
    parent.toList.map fun parent ↦ ("parent", .string parent)))]

/-- The definition for the document of a struct without content. -/
def structDefinition (key typeName : String) (parent : Option String) : Definition :=
  ⟨typeName, .type ⟨key, parent, .struct ⟨[], .empty⟩⟩⟩

/-- A type whose name is a keyword in small letters is declared in a module named by the keyword. -/
theorem exists_keyword_module_of_type :
    ∃ (files : NameMap String) (text : String),
      (renderDocuments .bodies { Config.default with modFile := true }
        (structDocument "type" "Type" none)).outcome = .ok files ∧
      files.get? "mod.rs" = some text ∧ "type" ∈ writtenModules text ∧ isKeyword "type" = true := by
  obtain ⟨r, files, -, hdefinitions, hpackage, hrender⟩ := exists_renderDocuments_of_definitions
    .bodies { Config.default with modFile := true } (structDocument "type" "Type" none)
    (show _ = some [structDefinition "type" "Type" none] by decide +kernel) (by decide +kernel)
    (by decide +kernel)
  have hlines : ∀ d ∈ r.definitions, OneLine { Config.default with modFile := true } d := by
    rw [hdefinitions]
    decide +kernel
  refine ⟨files, modFileText r, hrender,
    (get?_eq_some_iff_of_package hpackage).2 (.inr ⟨rfl, rfl, rfl⟩), ?_, by decide⟩
  rw [writtenModules_modFileText (not_mem_typeNames hlines), names_eq_map_definitions, hdefinitions]
  refine List.mem_append_left _ (List.mem_map.2 ⟨"Type", List.mem_singleton.2 rfl, ?_⟩)
  decide +kernel

theorem written_modules_legal_of_term :
    ∃ files, (renderDocuments .bodies { Config.default with modFile := true }
        (structDocument "term" "Term" none)).outcome = .ok files ∧
      ∀ file text, files.get? file = some text → ∀ module ∈ writtenModules text,
        isKeyword module = false := by
  obtain ⟨r, files, hinterpret, hdefinitions, -, hrender⟩ := exists_renderDocuments_of_definitions
    .bodies { Config.default with modFile := true } (structDocument "term" "Term" none)
    (show _ = some [structDefinition "term" "Term" none] by decide +kernel) (by decide +kernel)
    (by decide +kernel)
  obtain ⟨r', hr', hlegal⟩ := written_modules_legal_iff hrender
    (show ¬ Beside Config.default.runtimePath by decide +kernel)
  obtain rfl : r' = r := Except.ok.inj (hr'.symm.trans hinterpret)
  have hlines : ∀ d ∈ r'.definitions, OneLine { Config.default with modFile := true } d := by
    rw [hdefinitions]
    decide +kernel
  have hplain : ∀ d ∈ r'.definitions, ¬ IsRaw d.name := by
    rw [hdefinitions]
    decide +kernel
  refine ⟨files, hrender, (hlegal hlines).2.2 ⟨fun _ ↦ hplain, fun name type _ other hother ↦ ?_⟩⟩
  obtain ⟨otherType, hotherType⟩ := Option.isSome_iff_exists.1 (mem_siblings_iff.1 hother).2.2
  exact hplain ⟨other, .type otherType⟩ (type?_eq_some_iff_mem_definitions.1 hotherType)

end ClientSynthesis.Run
