import ClientSynthesis.Code.Module

/-!
# Packages

All files generated from a registry. Each definition has a file of its own, named after its module;
two definitions with one module name are refused, since one file would replace the other.
-/

namespace ClientSynthesis.Code

open Assembly (NameMap Registry)

/-- Why a registry cannot be laid out in files. -/
inductive LayoutError where
  /-- Two definitions have the same file. -/
  | sharedFile (first second file : String)
  /-- A definition has the file that is to declare the modules. -/
  | takenModFile
  deriving DecidableEq, Repr

/-- A layout error in words. -/
def LayoutError.message : LayoutError → String
  | .sharedFile first second file =>
    "definitions '" ++ first ++ "' and '" ++ second ++ "' both map to " ++ file
  | .takenModFile => "a definition maps to mod.rs; disable mod.rs generation"

/-- The file of a definition. -/
def fileName (definition : String) : String := Naming.moduleName definition ++ ".rs"

/-- The file that declares the modules. -/
def modFileName : String := "mod.rs"

/-- The first definition whose file an earlier one has, by file. -/
def firstShared? (owners : List (String × String)) : List String → Option LayoutError
  | [] => none
  | name :: rest =>
    match owners.lookup (fileName name) with
    | some owner => some (.sharedFile owner name (fileName name))
    | none => firstShared? ((fileName name, name) :: owners) rest

/-- The text of the file that declares all modules and re-exports their types. -/
def modFileText (r : Registry) : String :=
  header ++
  String.join (r.names.map fun name => "pub mod " ++ Naming.moduleName name ++ ";\n") ++
  "\n// Re-export all types\n" ++
  String.join (r.typeNames.map fun name =>
    "pub use " ++ Naming.moduleName name ++ "::" ++ name ++ ";\n")

/-- The files of all definitions, by name. -/
def definitionFiles (config : Config) (r : Registry) : NameMap String :=
  .ofList (r.definitions.map fun d => (fileName d.name, moduleText config r d))

/-- The files generated from a registry, by name. -/
def package (config : Config) (r : Registry) : Except LayoutError (NameMap String) := do
  if let some error := firstShared? [] r.names then throw error
  let files := definitionFiles config r
  if !config.modFile then return files
  if files.contains modFileName then throw .takenModFile
  return files.insert modFileName (modFileText r)

end ClientSynthesis.Code
