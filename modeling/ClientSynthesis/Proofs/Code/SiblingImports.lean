import ClientSynthesis.Proofs.Code.Layout
import ClientSynthesis.Proofs.Code.WholeLines

/-!
# Imports between modules

The types of a package refer to each other, and each of them has a file of its own, so a module has
to import what its fields refer to. The import section ends with one line for each other type, and each
of these lines leads to the one file that holds the type (`package_imports_siblings`). That the lines
are there holds of all names; that a reader of lines finds no other of this kind takes whole lines and
a runtime that is not itself looked for beside the module.
-/

namespace ClientSynthesis.Code

open Assembly (NameMap Registry references)
open Naming (moduleName)
open Text

/-! ### Readers -/

/-- Whether a line imports from a module beside the one it is in. -/
def isSuperLine (line : List Char) : Bool := "use super::".toList.isPrefixOf line

/-- The lines of a text that import from the modules beside it. -/
def superLines (text : String) : List String :=
  (split '\n' text.toList).filterMap fun line ↦
    if isSuperLine line then some (String.ofList line) else none

/-- What stands in front of a fixed text at the end. -/
def textBefore (ending : String) (cs : List Char) : Option (List Char) :=
  if ending.toList.isSuffixOf cs then some (cs.take (cs.length - ending.toList.length)) else none

theorem textBefore_append (cs : List Char) (ending : String) :
    textBefore ending (cs ++ ending.toList) = some cs := by
  rw [textBefore, if_pos (List.isSuffixOf_iff_suffix.2 (List.suffix_append cs _))]
  simp

/-- The type that a line declares. -/
def definedType? (line : List Char) : Option String := do
  let rest ← expect "pub struct " line <|> expect "pub enum " line
  let name ← textBefore " \x7b" rest
  return String.ofList name

/-- The types that a text declares, line by line. -/
def definedTypes (text : String) : List String :=
  (split '\n' text.toList).filterMap definedType?

/-! ### Import lines -/

/-- The line that imports another type. -/
def siblingLine (name : String) : String := "use super::" ++ moduleName name ++ "::" ++ name ++ ";"

theorem lines_siblingImport (name : String) : (siblingImport name).lines = [siblingLine name] := by
  refine congrArg (fun line ↦ [line]) (String.toList_injective ?_)
  simp [siblingImport, siblingLine]

/-- The lines of the imports that are not of other types. -/
def ownLines (config : Config) (type : TypeDefinition) : List String :=
  (jsonImport type).lines ++ (runtimeImport config (runtimeNames config type)).lines

theorem lines_typeImports (config : Config) (r : Registry) (name : String) (type : TypeDefinition) :
    (typeImports config r name type).flatMap Import.lines =
      ownLines config type ++ (siblings r name type).map siblingLine := by
  rw [flatMap_typeImports rfl, ownLines, List.map_eq_flatMap]
  exact congrArg _ (List.flatMap_congr fun other _ ↦ lines_siblingImport other)

theorem exists_toList_of_mem_lines {i : Import} {l : String} (h : l ∈ i.lines) :
    ∃ rest, l.toList = "use ".toList ++ (i.path.toList ++ ("::".toList ++ rest)) := by
  obtain ⟨path, names⟩ := i
  match names with
  | [] => exact nomatch h
  | [name] =>
    obtain rfl := List.mem_singleton.1 h
    exact ⟨name.toList ++ [';'], by simp⟩
  | first :: second :: more =>
    obtain rfl := List.mem_singleton.1 h
    refine ⟨'\x7b' :: (", ".intercalate (first :: second :: more)).toList ++ ['\x7d', ';'], ?_⟩
    dsimp only
    generalize ", ".intercalate _ = listed
    simp

/-- Whether a path leads to a module beside the one that imports it. -/
def Beside (path : String) : Prop := "super::".toList <+: path.toList ++ "::".toList

instance (path : String) : Decidable (Beside path) :=
  inferInstanceAs (Decidable ("super::".toList <+: path.toList ++ "::".toList))

/-- What is behind the path does not matter. -/
theorem prefix_append_iff_beside (path : String) (rest : List Char) :
    "super::".toList <+: path.toList ++ ("::".toList ++ rest) ↔ Beside path := by
  rw [Beside, ← List.append_assoc]
  refine ⟨fun h ↦ ?_, fun h ↦ h.trans (List.prefix_append _ rest)⟩
  obtain ⟨behind, hbehind⟩ := h
  rcases List.append_eq_append_iff.1 hbehind with ⟨more, hpath, -⟩ | ⟨more, hpath, -⟩
  · exact ⟨more, hpath.symm⟩
  · -- The path with its colons is a front of `super::`, and there are colons at the end only.
    cases more with
    | nil => exact ⟨[], by rw [hpath]; simp⟩
    | cons c cs =>
      exfalso
      have hlength := congrArg List.length hpath
      revert hpath hlength
      match path.toList with
      | [] | [_] | [_, _] | [_, _, _] | [_, _, _, _] => simp
      | _ :: _ :: _ :: _ :: _ :: _ =>
        intro _ hlength
        simp only [List.length_append, List.length_cons] at hlength
        have hcolons : "::".toList.length = 2 := rfl
        have hsuper : "super::".toList.length = 7 := rfl
        omega

theorem isSuperLine_of_mem_lines {i : Import} {l : String} (h : l ∈ i.lines) :
    isSuperLine l.toList = true ↔ Beside i.path := by
  obtain ⟨rest, hl⟩ := exists_toList_of_mem_lines h
  rw [← prefix_append_iff_beside i.path rest, isSuperLine, hl, List.isPrefixOf_iff_prefix]
  exact List.prefix_append_right_inj "use ".toList

theorem filter_lines (i : Import) :
    (i.lines.filter fun l ↦ isSuperLine l.toList) = if Beside i.path then i.lines else [] := by
  split_ifs with hbeside
  · exact List.filter_eq_self.2 fun l hl ↦ (isSuperLine_of_mem_lines hl).2 hbeside
  · exact List.filter_eq_nil_iff.2 fun l hl ↦ mt (isSuperLine_of_mem_lines hl).1 hbeside

/-- A line that goes over several lines is read in its pieces. -/
theorem mem_superLines {config : Config} {r : Registry} {d : Definition} {l : String}
    (hl : l ∈ moduleLines config r d) {piece : List Char} (hpiece : piece ∈ split '\n' l.toList)
    (hsuper : isSuperLine piece = true) : String.ofList piece ∈ superLines (moduleText config r d) := by
  rw [superLines, moduleText_eq, filterMap_split_unlines_pieces rfl]
  exact List.mem_flatMap.2 ⟨l, hl, List.mem_filterMap.2 ⟨piece, hpiece, if_pos hsuper⟩⟩

theorem superLines_eq {config : Config} (r : Registry) {d : Definition} (h : OneLine config d) :
    superLines (moduleText config r d) =
      (moduleHeads config r d).filter fun l ↦ isSuperLine l.toList := by
  have hread : ∀ line, isHead line = false →
      (if isSuperLine line then some (String.ofList line) else none) = none := by
    intro line hinner
    refine if_neg fun hsuper ↦ ?_
    obtain ⟨rest, rfl⟩ := List.isPrefixOf_iff_prefix.1 hsuper
    exact absurd hinner (by simp [isHead])
  rw [superLines, filterMap_split_moduleText r hread h]
  rw [← List.filterMap_eq_filter]
  refine List.filterMap_congr fun l _ ↦ ?_
  simp [Option.guard]

/-- The heads of a type are its declaration and implementations. -/
theorem exists_typeHeads (config : Config) (name : String) (type : TypeDefinition) :
    ∃ keyword implementations, (keyword = "pub struct " ∨ keyword = "pub enum ") ∧
      typeHeads config name type = (keyword ++ name ++ " \x7b") :: implementations ∧
        ∀ l ∈ implementations, ∃ rest, l.toList = "impl ".toList ++ rest := by
  unfold typeHeads
  cases type.shape with
  | struct shape =>
    refine ⟨_, _, .inl rfl, rfl, List.forall_mem_cons.2 ⟨?_, List.forall_mem_cons.2 ⟨?_,
      List.forall_mem_map.2 fun parent _ ↦ ?_⟩⟩⟩
    · exact ⟨(name ++ " \x7b").toList, by simp⟩
    · exact ⟨(config.bodyTrait ++ " for " ++ name ++ " \x7b").toList, by simp⟩
    · exact ⟨(parent ++ " for " ++ name ++ " \x7b\x7d").toList, by simp⟩
  | enum cases =>
    refine ⟨_, _, .inr rfl, rfl, List.forall_mem_cons.2 ⟨?_,
      List.forall_mem_map.2 fun parent _ ↦ ?_⟩⟩
    · exact ⟨(name ++ " \x7b").toList, by simp⟩
    · exact ⟨("From<" ++ name ++ "> for " ++ parent ++ " \x7b").toList, by simp⟩

theorem superLines_moduleText {config : Config} (r : Registry) {name : String} {type : TypeDefinition}
    (h : OneLine config ⟨name, .type type⟩) :
    superLines (moduleText config r ⟨name, .type type⟩) =
      (if Beside config.runtimePath then (runtimeImport config (runtimeNames config type)).lines
        else []) ++ (siblings r name type).map siblingLine := by
  have hjson : ((jsonImport type).lines.filter fun l ↦ isSuperLine l.toList) = [] := by
    rw [filter_lines]
    exact if_neg (show ¬ Beside "serde_json" by decide)
  have hsiblings : (((siblings r name type).map siblingLine).filter fun l ↦ isSuperLine l.toList) =
      (siblings r name type).map siblingLine := by
    refine List.filter_eq_self.2 (List.forall_mem_map.2 fun other _ ↦ ?_)
    simp [siblingLine, isSuperLine, List.isPrefixOf]
  have hheads : ((itemHeads config ⟨name, .type type⟩).filter fun l ↦ isSuperLine l.toList) = [] := by
    obtain ⟨keyword, implementations, hkeyword, heq, himpl⟩ := exists_typeHeads config name type
    rw [show itemHeads config ⟨name, .type type⟩ = _ from heq]
    refine List.filter_eq_nil_iff.2 (List.forall_mem_cons.2 ⟨?_, fun l hl ↦ ?_⟩)
    · rcases hkeyword with rfl | rfl <;> simp [isSuperLine, List.isPrefixOf]
    · obtain ⟨rest, hrest⟩ := himpl l hl
      simp [hrest, isSuperLine, List.isPrefixOf]
  rw [superLines_eq r h, moduleHeads, List.filter_append, hheads, List.append_nil, imports,
    lines_typeImports, ownLines, List.filter_append, List.filter_append, hjson, hsiblings, filter_lines]
  rfl

theorem definedType?_declaration {keyword : String}
    (h : keyword = "pub struct " ∨ keyword = "pub enum ")
    (name : String) : definedType? (keyword ++ name ++ " \x7b").toList = some name := by
  have hrest := textBefore_append name.toList " \x7b"
  have hline : (keyword ++ name ++ " \x7b").toList =
      keyword.toList ++ (name.toList ++ " \x7b".toList) := by simp
  have hexpect : (expect "pub struct " (keyword ++ name ++ " \x7b").toList <|>
      expect "pub enum " (keyword ++ name ++ " \x7b").toList) = some (name.toList ++ " \x7b".toList) := by
    rw [hline]
    rcases h with rfl | rfl
    · rw [expect_append]
      rfl
    · rw [expect_append]
      rfl
  rw [definedType?, hexpect, Option.bind_eq_bind, Option.bind_some, hrest]
  simp

theorem definedTypes_moduleText {config : Config} (r : Registry) {name : String} {type : TypeDefinition}
    (h : OneLine config ⟨name, .type type⟩) :
    definedTypes (moduleText config r ⟨name, .type type⟩) = [name] := by
  have hread : ∀ line, isHead line = false → definedType? line = none := by
    intro line hline
    have hstruct : expect "pub struct " line = none := expect_eq_none (by decide) hline
    have henum : expect "pub enum " line = none := expect_eq_none (by decide) hline
    simp [definedType?, hstruct, henum]
  have himports : ((typeImports config r name type).flatMap Import.lines).filterMap
      (fun l ↦ definedType? l.toList) = [] := by
    refine List.filterMap_eq_nil_iff.2 (List.forall_mem_flatMap.2 fun i _ l hl ↦ ?_)
    obtain ⟨rest, hl⟩ := exists_toList_of_mem_lines hl
    rw [hl]
    simp [definedType?, expect, List.isPrefixOf?]
  have hheads : (typeHeads config name type).filterMap (fun l ↦ definedType? l.toList) = [name] := by
    obtain ⟨keyword, implementations, hkeyword, heq, himpl⟩ := exists_typeHeads config name type
    have hnone : implementations.filterMap (fun l ↦ definedType? l.toList) = [] :=
      List.filterMap_eq_nil_iff.2 fun l hl ↦ by
        obtain ⟨rest, hrest⟩ := himpl l hl
        rw [hrest]
        rfl
    rw [heq, List.filterMap_cons, definedType?_declaration hkeyword, hnone]
  rw [definedTypes, filterMap_split_moduleText r hread h, moduleHeads, List.filterMap_append]
  rw [imports, himports, itemHeads, hheads]
  rfl

/-! ### Modules of a package -/

theorem type?_eq_some_iff_mem_definitions {r : Registry} {name : String} {type : TypeDefinition} :
    r.type? name = some type ↔ (⟨name, .type type⟩ : Definition) ∈ r.definitions := by
  have hmem : (⟨name, .type type⟩ : Definition) ∈ r.definitions ↔
      (name, DefinitionKind.type type) ∈ r.kinds.entries := by
    rw [Registry.definitions, List.mem_map]
    constructor
    · rintro ⟨⟨other, kind⟩, hentry, heq⟩
      obtain ⟨rfl, rfl⟩ := Definition.mk.inj heq
      exact hentry
    · exact fun hentry ↦ ⟨_, hentry, rfl⟩
  rw [hmem, NameMap.mem_entries_iff, Registry.type?]
  split
  · next definition hkind => rw [hkind, Option.some.injEq, Option.some.injEq, DefinitionKind.type.injEq]
  · next hnot =>
    exact ⟨fun heq ↦ absurd heq (Option.some_ne_none _).symm, fun hkind ↦ absurd hkind (hnot type)⟩

/-- **Every module of a package imports the other types that its fields refer to**, each of them once,
in the order of first reference, with a line that leads to the one file of the package that holds the
type. These lines end the import section, whatever the names are. If no text with a line feed is
written as it is, a reader of lines finds them and no other import from a module beside the type's,
apart from that of the runtime if this is beside it too. -/
theorem package_imports_siblings {config : Config} {r : Registry} {files : NameMap String}
    (h : package config r = .ok files) {name : String} {type : TypeDefinition}
    (htype : r.type? name = some type) :
    ∃ (text : String) (others : List String), files.get? (moduleName name ++ ".rs") = some text ∧
      (∀ other, other ∈ others ↔
        other ≠ name ∧ other ∈ references type ∧ (r.type? other).isSome) ∧
      (others.Pairwise fun a b ↦ (references type).idxOf a < (references type).idxOf b) ∧
      text = unlines (preamble config ⟨name, .type type⟩ ++
        (ownLines config type ++ others.map siblingLine) ++ itemLines config ⟨name, .type type⟩) ∧
      (OneLine config ⟨name, .type type⟩ →
        definedTypes text = [name] ∧
        superLines text =
          (if Beside config.runtimePath then
            (runtimeImport config (runtimeNames config type)).lines else []) ++
          others.map siblingLine) ∧
      ∀ other ∈ others, ∃ otherType, r.type? other = some otherType ∧
        files.get? (moduleName other ++ ".rs") =
          some (moduleText config r ⟨other, .type otherType⟩) ∧
        ∀ d ∈ r.definitions, moduleName d.name = moduleName other → d = ⟨other, .type otherType⟩ := by
  have hmem {other : String} {otherType : TypeDefinition} (hother : r.type? other = some otherType) :
      files.get? (moduleName other ++ ".rs") =
        some (moduleText config r ⟨other, .type otherType⟩) :=
    (get?_eq_some_iff_of_package h).2
      (.inl ⟨_, type?_eq_some_iff_mem_definitions.1 hother, rfl, rfl⟩)
  refine ⟨_, siblings r name type, hmem htype, fun other ↦ mem_siblings_iff,
    pairwise_siblings r name type, ?_, fun hlines ↦ ⟨definedTypes_moduleText r hlines,
      superLines_moduleText r hlines⟩, fun other hother ↦ ?_⟩
  · rw [moduleText_eq, moduleLines_eq, imports, lines_typeImports]
  · obtain ⟨otherType, hotherType⟩ := Option.isSome_iff_exists.1 (mem_siblings_iff.1 hother).2.2
    exact ⟨otherType, hotherType, hmem hotherType, fun d hd hmodule ↦
      eq_of_moduleName_eq h hd (type?_eq_some_iff_mem_definitions.1 hotherType) hmodule⟩

/-- A struct without fields. -/
def flagType : TypeDefinition := ⟨"flag", none, .struct ⟨[], .empty⟩⟩

/-- A registry of one struct without fields. -/
def loneStruct (name : String) : Registry := ⟨.ofList [(name, .type flagType)]⟩

theorem exists_package_loneStruct (config : Config) (hmod : config.modFile = false) (name : String) :
    ∃ files, package config (loneStruct name) = .ok files ∧ files.get? (fileName name) =
      some (moduleText config (loneStruct name) ⟨name, .type flagType⟩) := by
  have hnodup : ((loneStruct name).names.map moduleName).Nodup := List.nodup_singleton _
  have hpackage := package_eq_ok_iff.2 ⟨hnodup, fun h ↦ absurd (hmod.symm.trans h) nofun, rfl⟩
  exact ⟨_, hpackage, (get?_eq_some_iff_of_package hpackage).2
    (.inl ⟨_, List.mem_singleton.2 rfl, rfl, rfl⟩)⟩

/-- A struct without fields refers to nothing. But in a name that goes over two lines the second may
read as an import, and the runtime may be beside the modules that import from it. -/
theorem superLines_ne_nil_of_loneStruct :
    references flagType = [] ∧
    (∃ (files : NameMap String) (text : String),
      package .default (loneStruct "A\nuse super::b::B;") = .ok files ∧
      files.get? "a_use_super_b_b.rs" = some text ∧ superLines text ≠ []) ∧
    ∃ (files : NameMap String) (text : String),
      package { Config.default with runtimePath := "super::runtime" } (loneStruct "Flag") = .ok files ∧
      files.get? "flag.rs" = some text ∧ superLines text ≠ [] := by
  obtain ⟨brokenFiles, hbroken, hbrokenFile⟩ :=
    exists_package_loneStruct .default rfl "A\nuse super::b::B;"
  obtain ⟨files, hpackage, hfile⟩ :=
    exists_package_loneStruct { Config.default with runtimePath := "super::runtime" } rfl "Flag"
  rw [show fileName "A\nuse super::b::B;" = "a_use_super_b_b.rs" by decide +kernel] at hbrokenFile
  rw [show fileName "Flag" = "flag.rs" by decide +kernel] at hfile
  refine ⟨rfl, ⟨brokenFiles, _, hbroken, hbrokenFile, ?_⟩, files, _, hpackage, hfile, ?_⟩
  · have htitle : "//! A\nuse super::b::B; type definition" ∈
        moduleLines .default (loneStruct "A\nuse super::b::B;")
          ⟨"A\nuse super::b::B;", .type flagType⟩ := by
      rw [moduleLines_eq, List.append_assoc]
      exact List.mem_append_left _ (List.mem_cons_of_mem _ (List.mem_cons_of_mem _ List.mem_cons_self))
    have hpiece : "use super::b::B; type definition".toList ∈
        split '\n' "//! A\nuse super::b::B; type definition".toList := by decide +kernel
    exact List.ne_nil_of_mem (mem_superLines htitle hpiece (by decide +kernel))
  · rw [superLines_moduleText _ (by decide +kernel)]
    decide +kernel

/-- A required field that refers to a type. -/
def childField (ident name : String) : Field := ⟨ident, ident, .named name, false, .document, .child⟩

/-- A struct that refers to itself, to a type that is not there and, twice, to another one. -/
def queryType : TypeDefinition :=
  ⟨"query", none, .struct ⟨[childField "not" "Query", childField "term" "Term",
    childField "other" "Missing", childField "more" "Term"], .fields none⟩⟩

/-- Two structs that refer to each other. -/
def mutualTypes : Registry :=
  ⟨.ofList [("Query", .type queryType),
    ("Term", .type ⟨"term", none, .struct ⟨[childField "in" "Query"], .fields none⟩⟩)]⟩

theorem package_imports_siblings_of_mutualTypes :
    ∃ (files : NameMap String) (text : String) (others : List String),
      package .default mutualTypes = .ok files ∧ files.get? "query.rs" = some text ∧
      superLines text = others.map siblingLine ∧
      "Term" ∈ others ∧ "Query" ∉ others ∧ "Missing" ∉ others ∧ (files.get? "term.rs").isSome := by
  have hnodup : (mutualTypes.names.map moduleName).Nodup := by decide +kernel
  have hpackage : package .default mutualTypes = .ok _ := package_eq_ok_iff.2 ⟨hnodup, nofun, rfl⟩
  obtain ⟨text, others, hget, hmem, -, -, hlines, hothers⟩ := package_imports_siblings hpackage
    (show mutualTypes.type? "Query" = some queryType by decide +kernel)
  have hterm : "Term" ∈ others := (hmem "Term").2 (by decide +kernel)
  obtain ⟨otherType, -, hfile, -⟩ := hothers "Term" hterm
  refine ⟨_, text, others, hpackage, ?_, (hlines (by decide +kernel)).2, hterm,
    fun h ↦ ((hmem _).1 h).1 rfl, fun h ↦ absurd ((hmem _).1 h).2.2 (by decide +kernel), ?_⟩
  · rwa [show moduleName "Query" ++ ".rs" = "query.rs" by decide +kernel] at hget
  · rw [show moduleName "Term" ++ ".rs" = "term.rs" by decide +kernel] at hfile
    rw [hfile]
    rfl

end ClientSynthesis.Code
