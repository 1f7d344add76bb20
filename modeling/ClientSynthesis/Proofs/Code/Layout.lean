import ClientSynthesis.Code.Package
import ClientSynthesis.Proofs.Naming.NameCharacters
import ClientSynthesis.Proofs.Text.Lines
import ClientSynthesis.Proofs.Text.Reading
import Mathlib.Data.List.Nodup

/-!
# The layout of a package

A package has one file for each definition, and with it, if that is asked for, the file that declares
the modules. Files are collected in a map, in which a later file would take the place of an earlier
one of the same name. So whether anything is lost is a question of names alone, and a package exists
just if the names are distinct (`package_eq_ok_iff`).

The file that declares the modules is one statement on a line. What it declares is read off its
lines (`declaredModules`, `reexports`), without regard to how they were written. The path of a
re-export ends at the first character that no module name has, and what follows the colons is taken
for the type's name, whatever characters that has but line feeds.
-/

namespace ClientSynthesis.Code

open Assembly (NameMap Registry)
open Naming (isNameChar moduleName not_mem_moduleName)
open Text (Before expect expect_append filterMap_split_unlines readRun readRun_append split unlines
  unlines_append unlines_map)

/-! ### File names -/

theorem fileName_eq_iff {name other : String} :
    fileName name = fileName other ↔ moduleName name = moduleName other :=
  String.append_left_inj ".rs"

theorem fileName_eq_modFileName_iff {name : String} :
    fileName name = modFileName ↔ moduleName name = "mod" :=
  @String.append_left_inj (moduleName name) "mod" ".rs"

theorem nodup_fileNames_iff {names : List String} :
    (names.map fileName).Nodup ↔ (names.map moduleName).Nodup := by
  simp only [List.Nodup, List.pairwise_map, ne_eq, fileName_eq_iff]

/-- There is no shared file if the files are distinct, and none of them has an owner already. -/
theorem firstShared?_eq_none_iff {owners : List (String × String)} {names : List String} :
    firstShared? owners names = none ↔
      (names.map fileName).Nodup ∧ ∀ name ∈ names, owners.lookup (fileName name) = none := by
  induction names generalizing owners with
  | nil => simp [firstShared?]
  | cons name rest ih =>
    rw [firstShared?, List.map_cons, List.nodup_cons, List.forall_mem_cons]
    cases howner : owners.lookup (fileName name) with
    | some owner => simp
    | none =>
      dsimp only
      rw [ih]
      -- The file of this name has an owner from here on, so the names that follow need other files.
      have hlookup : ∀ other, List.lookup (fileName other) ((fileName name, name) :: owners) = none ↔
          fileName other ≠ fileName name ∧ owners.lookup (fileName other) = none := by
        intro other
        rw [NameMap.lookup_entry]
        by_cases heq : fileName other = fileName name <;> simp [heq]
      simp only [hlookup, List.mem_map, not_exists, not_and]
      constructor
      · rintro ⟨hnodup, hfree⟩
        exact ⟨⟨fun other hother ↦ (hfree other hother).1, hnodup⟩, trivial,
          fun other hother ↦ (hfree other hother).2⟩
      · rintro ⟨⟨hnew, hnodup⟩, -, hfree⟩
        exact ⟨hnodup, fun other hother ↦ ⟨hnew other hother, hfree other hother⟩⟩

/-! ### Packages -/

theorem names_eq_map_definitions (r : Registry) : r.names = r.definitions.map Definition.name := by
  rw [Registry.definitions, List.map_map]
  rfl

/-- The files of definitions hold their modules, if no two of them have the same file. -/
theorem get?_definitionFiles_eq_some_iff {config : Config} {r : Registry}
    (hnodup : (r.names.map moduleName).Nodup) {file text : String} :
    (definitionFiles config r).get? file = some text ↔
      ∃ d ∈ r.definitions, file = fileName d.name ∧ text = moduleText config r d := by
  have hfiles : ((r.definitions.map fun d ↦ (fileName d.name, moduleText config r d)).map
      Prod.fst).Nodup := by
    rw [List.map_map]
    have hnames := nodup_fileNames_iff.2 hnodup
    rw [names_eq_map_definitions, List.map_map] at hnames
    exact hnames
  rw [definitionFiles, NameMap.get?_ofList_eq_some_iff hfiles]
  simp only [List.mem_map, Prod.mk.injEq, eq_comm]

theorem contains_definitionFiles_iff (config : Config) {r : Registry}
    (hnodup : (r.names.map moduleName).Nodup) :
    (definitionFiles config r).contains modFileName = true ↔ "mod" ∈ r.names.map moduleName := by
  rw [NameMap.contains, Option.isSome_iff_exists, names_eq_map_definitions, List.map_map]
  simp only [get?_definitionFiles_eq_some_iff hnodup, List.mem_map, Function.comp_apply]
  constructor
  · rintro ⟨text, d, hd, hfile, -⟩
    exact ⟨d, hd, fileName_eq_modFileName_iff.1 hfile.symm⟩
  · rintro ⟨d, hd, hmod⟩
    exact ⟨_, d, hd, (fileName_eq_modFileName_iff.2 hmod).symm, rfl⟩

theorem package_of_some {config : Config} {r : Registry} {error : LayoutError}
    (h : firstShared? [] r.names = some error) : package config r = .error error := by
  rw [package, h]
  rfl

theorem package_of_none {config : Config} {r : Registry} (h : firstShared? [] r.names = none) :
    package config r =
      if config.modFile then
        if (definitionFiles config r).contains modFileName then .error .takenModFile
        else .ok ((definitionFiles config r).insert modFileName (modFileText r))
      else .ok (definitionFiles config r) := by
  rw [package, h]
  dsimp only
  cases config.modFile with
  | false => rfl
  | true => cases (definitionFiles config r).contains modFileName <;> rfl

/-- A registry has a package just if the modules are told apart by their names, and none of them takes
the name of the file that declares them. -/
theorem package_eq_ok_iff {config : Config} {r : Registry} {files : NameMap String} :
    package config r = .ok files ↔
      (r.names.map moduleName).Nodup ∧
        (config.modFile = true → "mod" ∉ r.names.map moduleName) ∧
          files = if config.modFile then
            (definitionFiles config r).insert modFileName (modFileText r)
          else definitionFiles config r := by
  have hshared : firstShared? [] r.names = none ↔ (r.names.map moduleName).Nodup := by
    rw [firstShared?_eq_none_iff, nodup_fileNames_iff]
    exact and_iff_left fun name _ ↦ rfl
  cases hfirst : firstShared? [] r.names with
  | some error =>
    rw [package_of_some hfirst]
    have hrepeats : ¬ (r.names.map moduleName).Nodup := by
      rw [← hshared, hfirst]
      exact nofun
    exact ⟨nofun, fun h ↦ absurd h.1 hrepeats⟩
  | none =>
    have hnodup := hshared.1 hfirst
    rw [package_of_none hfirst, ← contains_definitionFiles_iff config hnodup,
      and_iff_right hnodup]
    by_cases hmod : config.modFile = true
    · by_cases hcontains : (definitionFiles config r).contains modFileName = true
      · simp [hmod, hcontains]
      · rw [if_pos hmod, if_neg hcontains, if_pos hmod, Except.ok.injEq, eq_comm]
        exact (and_iff_right fun _ ↦ hcontains).symm
    · rw [if_neg hmod, if_neg hmod, Except.ok.injEq, eq_comm]
      exact (and_iff_right fun h ↦ absurd h hmod).symm

/-- The files of a package are those of the definitions, each with the definition's module, and the one
that declares the modules if that is asked for. -/
theorem get?_eq_some_iff_of_package {config : Config} {r : Registry} {files : NameMap String}
    (h : package config r = .ok files) {file text : String} :
    files.get? file = some text ↔
      (∃ d ∈ r.definitions, file = fileName d.name ∧ text = moduleText config r d) ∨
        config.modFile = true ∧ file = modFileName ∧ text = modFileText r := by
  obtain ⟨hnodup, hfree, rfl⟩ := package_eq_ok_iff.1 h
  rw [← get?_definitionFiles_eq_some_iff hnodup]
  by_cases hmod : config.modFile = true
  · rw [if_pos hmod, NameMap.get?_insert]
    by_cases hfile : file = modFileName
    · -- No definition has this file.
      have hnone : (definitionFiles config r).get? modFileName = none := by
        have hnot := mt (contains_definitionFiles_iff config hnodup).1 (hfree hmod)
        simpa [NameMap.contains] using hnot
      simp [hfile, hmod, hnone, eq_comm]
    · simp [hfile]
  · simp [hmod]

/-- The definitions of a package are told apart by their modules. -/
theorem eq_of_moduleName_eq {config : Config} {r : Registry} {files : NameMap String}
    (h : package config r = .ok files) {d e : Definition} (hd : d ∈ r.definitions)
    (he : e ∈ r.definitions) (hmodule : moduleName d.name = moduleName e.name) : d = e := by
  have hnodup := (package_eq_ok_iff.1 h).1
  rw [names_eq_map_definitions, List.map_map] at hnodup
  exact List.inj_on_of_nodup_map hnodup hd he hmodule

/-- No definition has the file that declares the modules. -/
theorem fileName_ne_of_package {config : Config} {r : Registry} {files : NameMap String}
    (h : package config r = .ok files) (hmod : config.modFile = true) {d : Definition}
    (hd : d ∈ r.definitions) : fileName d.name ≠ modFileName := by
  have hfree := (package_eq_ok_iff.1 h).2.1 hmod
  rw [names_eq_map_definitions, List.map_map] at hfree
  exact fun hfile ↦ hfree (List.mem_map.2 ⟨d, hd, fileName_eq_modFileName_iff.1 hfile⟩)

/-! ### The file that declares the modules -/

/-- Whether a definition is that of a type. -/
def definesType (d : Definition) : Bool :=
  match d.kind with
  | .type _ => true
  | .methodGroup _ => false

theorem typeNames_eq (r : Registry) :
    r.typeNames = (r.definitions.filter definesType).map Definition.name := by
  unfold Registry.typeNames Registry.definitions
  induction r.kinds.entries with
  | nil => rfl
  | cons entry rest ih =>
    obtain ⟨name, kind⟩ := entry
    cases kind with
    | type definition => exact congrArg (name :: ·) ih
    | methodGroup group => exact ih

/-- What stands between a keyword and the semicolon that ends a line. -/
def statement? (keyword : String) (line : List Char) : Option (List Char) :=
  (expect keyword line).bind fun rest ↦
    if rest.getLast? = some ';' then some rest.dropLast else none

/-- The modules that a file declares, line by line. -/
def declaredModules (text : String) : List String :=
  (split '\n' text.toList).filterMap fun line ↦ (statement? "pub mod " line).map String.ofList

/-- The module and the name that a line re-exports. -/
def reexport? (line : List Char) : Option (String × String) := do
  let path ← statement? "pub use " line
  let (module, rest) := readRun isNameChar path
  let name ← expect "::" rest
  return (module, String.ofList name)

/-- The modules and names that a file re-exports, line by line. -/
def reexports (text : String) : List (String × String) :=
  (split '\n' text.toList).filterMap reexport?

/-! ### Reading what was written -/

theorem statement?_append (keyword : String) (body : List Char) :
    statement? keyword (keyword.toList ++ (body ++ [';'])) = some body := by
  rw [statement?, expect_append, Option.bind_some, List.getLast?_concat, if_pos rfl,
    List.dropLast_concat]

/-- The line that declares the module of a definition. -/
def modLine (name : String) : String := "pub mod " ++ moduleName name ++ ";"

/-- The line that re-exports a type. -/
def useLine (name : String) : String := "pub use " ++ moduleName name ++ "::" ++ name ++ ";"

theorem toList_modLine (name : String) :
    (modLine name).toList = "pub mod ".toList ++ ((moduleName name).toList ++ [';']) := by
  simp [modLine]

theorem toList_useLine (name : String) :
    (useLine name).toList =
      "pub use ".toList ++ ((moduleName name).toList ++ "::".toList ++ name.toList ++ [';']) := by
  simp [useLine]

theorem not_mem_modLine (name : String) : '\n' ∉ (modLine name).toList := by
  have hmodule := not_mem_moduleName (c := '\n') (by decide) name
  simp [modLine, hmodule]

theorem not_mem_useLine {name : String} (h : '\n' ∉ name.toList) : '\n' ∉ (useLine name).toList := by
  have hmodule := not_mem_moduleName (c := '\n') (by decide) name
  simp [useLine, hmodule, h]

/-- A line that declares a module declares that, and re-exports nothing. -/
theorem read_modLine (name : String) :
    statement? "pub mod " (modLine name).toList = some (moduleName name).toList ∧
      reexport? (modLine name).toList = none := by
  rw [toList_modLine]
  refine ⟨statement?_append _ _, ?_⟩
  simp [reexport?, statement?, expect, List.isPrefixOf?]

/-- A line that re-exports a type re-exports that, and declares no module. -/
theorem read_useLine (name : String) :
    statement? "pub mod " (useLine name).toList = none ∧
      reexport? (useLine name).toList = some (moduleName name, name) := by
  rw [toList_useLine]
  constructor
  · simp [statement?, expect, List.isPrefixOf?]
  · have hrun := readRun_append (Naming.isNameChar_of_mem_moduleName name) (c := ':') (by decide)
      (':' :: name.toList)
    have hcolons := expect_append "::" name.toList
    unfold reexport?
    rw [statement?_append]
    simp at hrun hcolons ⊢
    simp [hrun, hcolons]

/-- The first line of a generated file. -/
def titleLine : String := "// @generated by apigen. Do not edit."

/-- The line over the re-exports. -/
def reexportLine : String := "// Re-export all types"

/-- Nothing is read from a line that is empty or a comment. -/
theorem read_fixedLine :
    ∀ line ∈ ["", titleLine, reexportLine],
      statement? "pub mod " line.toList = none ∧ reexport? line.toList = none := by
  decide

/-- The lines of the file that declares the modules. -/
theorem modFileText_eq_unlines (r : Registry) :
    modFileText r = unlines ([titleLine, ""] ++ r.names.map modLine ++ ["", reexportLine] ++
      r.typeNames.map useLine) := by
  have hmods : String.join (r.names.map fun name ↦ "pub mod " ++ moduleName name ++ ";\n") =
      unlines (r.names.map modLine) := by
    rw [unlines_map]
    refine congrArg String.join (List.map_congr_left fun name _ ↦ String.toList_injective ?_)
    simp [modLine]
  have huses : String.join (r.typeNames.map fun name ↦
      "pub use " ++ moduleName name ++ "::" ++ name ++ ";\n") = unlines (r.typeNames.map useLine) := by
    rw [unlines_map]
    refine congrArg String.join (List.map_congr_left fun name _ ↦ String.toList_injective ?_)
    simp [useLine]
  rw [modFileText, hmods, huses, unlines_append, unlines_append, unlines_append]
  rfl

/-- What a reader of lines finds in the file, if it finds nothing in the lines that never change. -/
theorem filterMap_lines_modFileText {α : Type} {read : List Char → Option α} {r : Registry}
    (h : ∀ name ∈ r.typeNames, '\n' ∉ name.toList)
    (hread : ∀ line ∈ ["", titleLine, reexportLine], read line.toList = none) :
    (split '\n' (modFileText r).toList).filterMap read =
      (r.names.filterMap fun name ↦ read (modLine name).toList) ++
        r.typeNames.filterMap fun name ↦ read (useLine name).toList := by
  have hempty : read "".toList = none := hread _ (by simp)
  have htitle : read titleLine.toList = none := hread _ (by simp)
  have hreexport : read reexportLine.toList = none := hread _ (by simp)
  have hwhole : ∀ l ∈ [titleLine, ""] ++ r.names.map modLine ++ ["", reexportLine] ++
      r.typeNames.map useLine, '\n' ∉ l.toList := by
    simp only [List.forall_mem_append, List.forall_mem_map]
    exact ⟨⟨⟨by decide, fun name _ ↦ not_mem_modLine name⟩, by decide⟩,
      fun name hname ↦ not_mem_useLine (h name hname)⟩
  rw [modFileText_eq_unlines, filterMap_split_unlines hempty hwhole]
  simp only [List.filterMap_append, List.filterMap_cons, List.filterMap_nil, List.filterMap_map,
    Function.comp_def, hempty, htitle, hreexport, List.nil_append, List.append_nil]

/-- The file declares one module for each definition, in the order of the definitions. -/
theorem declaredModules_modFileText {r : Registry} (h : ∀ name ∈ r.typeNames, '\n' ∉ name.toList) :
    declaredModules (modFileText r) = r.names.map moduleName := by
  rw [declaredModules, filterMap_lines_modFileText h]
  · simp [read_modLine, read_useLine]
  · intro line hline
    rw [(read_fixedLine line hline).1]
    rfl

/-- The file re-exports each type from the module of that, and nothing else. -/
theorem reexports_modFileText {r : Registry} (h : ∀ name ∈ r.typeNames, '\n' ∉ name.toList) :
    reexports (modFileText r) = r.typeNames.map fun name ↦ (moduleName name, name) := by
  rw [reexports, filterMap_lines_modFileText h fun line hline ↦ (read_fixedLine line hline).2]
  simp [read_modLine, read_useLine]

/-! ### One file for each definition -/

theorem modFileText_eq (r : Registry) :
    modFileText r = header ++
      String.join (r.definitions.map fun d ↦ "pub mod " ++ moduleName d.name ++ ";\n") ++
        "\n// Re-export all types\n" ++
          String.join ((r.definitions.filter definesType).map fun d ↦
            "pub use " ++ moduleName d.name ++ "::" ++ d.name ++ ";\n") := by
  rw [modFileText, names_eq_map_definitions, typeNames_eq, List.map_map, List.map_map]
  rfl

/-- An enum without cases and an endpoint without methods. -/
def flagAndGet : Registry :=
  ⟨.ofList [("indices.get", .methodGroup ⟨"indices.get", []⟩),
    ("Flag", .type ⟨"flag", none, .enum []⟩)]⟩

end ClientSynthesis.Code
