import ClientSynthesis.CommandLine.Arguments
import ClientSynthesis.Config.File
import ClientSynthesis.Report.Setting

/-!
# The program

What a command line does to a file system, as one function. The outcome holds everything the outside
can see: the exit code, the text printed, the events logged, and the file system as it is left.
-/

namespace ClientSynthesis.CommandLine

open Assembly (NameMap)
open Files (FileSystem joinPath)
open Report (Event Filter)
open Run (Failure Mode)

/-! ### Settings -/

/-- Settings with the options of the command line put over them. -/
def Arguments.override (a : Arguments) (config : Config) : Config where
  docs := config.docs && !a.noDocs
  modFile := config.modFile || a.withModFile
  runtimePath := a.runtimePath.getD config.runtimePath
  receiverType := a.receiver.getD config.receiverType
  bodyTrait := config.bodyTrait
  skipList := if a.noSkipList then .none else config.skipList

/-- The settings of a run: the defaults, then the settings file, then the command line. -/
def Arguments.settings (a : Arguments) (fs : FileSystem) : Except Failure Config := do
  match a.configFile with
  | none => return a.override .default
  | some path =>
    let config ← (Config.load fs path).mapError (.during ("loading config " ++ path))
    return a.override config

/-! ### Texts -/

/-- What is printed instead of writing files: each under a line with its path. -/
def dryRunText (output : String) (files : NameMap String) : String :=
  String.join (files.entries.map fun (name, text) =>
    "// ===== " ++ joinPath output name ++ " =====\n" ++ text ++ "\n")

/-- The name and number of the program. -/
def versionText : String := "apigen 0.1.0\n"

/-- A short account of the command line. -/
def usageText : String :=
  "Generate Rust client code from REST API descriptors\n\n" ++
  "Usage: apigen [OPTIONS] <INPUT> <OUTPUT>\n\n" ++
  "Options:\n" ++
  "      --mode <MODE>          api (endpoints) or request (request bodies)\n" ++
  "      --config <FILE>        JSON file with generator settings\n" ++
  "      --runtime-path <PATH>  module path of the runtime types\n" ++
  "      --receiver <TYPE>      type the endpoint methods are attached to\n" ++
  "      --no-docs              do not emit documentation comments\n" ++
  "      --with-mod-rs          also emit a mod.rs\n" ++
  "      --no-skip-list         generate every URL template\n" ++
  "      --dry-run              print the files instead of writing them\n" ++
  "  -v, --verbose...           log more\n" ++
  "  -h, --help                 print help\n" ++
  "  -V, --version              print version\n"

/-- What is said about a refused command line. -/
def Refusal.message : Refusal → String
  | .missingArgument => "error: a required argument was not provided\n"
  | .unknownArgument => "error: unexpected argument\n"
  | .invalidValue => "error: invalid value\n"
  | .repeatedArgument => "error: an argument cannot be used multiple times\n"
  | .unexpectedValue => "error: unexpected value\n"
  | .helpWanted => usageText
  | .versionWanted => versionText

/-- What is said about a failed run. -/
def failureText (failure : Failure) : String :=
  "Error: " ++ failure.headline ++ "\n" ++
  if failure.context.isEmpty then ""
  else "\nCaused by:\n" ++
    String.join ((failure.context.tail ++ [failure.cause.message]).map fun text =>
      "    " ++ text ++ "\n")

/-! ### Running -/

/-- What the outside sees of a program that has ended. -/
structure Outcome where
  exitCode : Nat
  output : String
  log : List Event
  complaint : String
  files : FileSystem

/-- The outcome of a command line that leads to no run. -/
def refuse (fs : FileSystem) (refusal : Refusal) : Outcome :=
  match refusal with
  | .helpWanted | .versionWanted => ⟨0, refusal.message, [], "", fs⟩
  | _ => ⟨2, "", [], refusal.message, fs⟩

/-- The outcome of a failed run. -/
def fail (fs : FileSystem) (log : List Event) (failure : Failure) : Outcome :=
  ⟨1, "", log, failureText failure, fs⟩

/-- The outcome of a run, with every event. -/
def Arguments.run (a : Arguments) (fs : FileSystem) : Outcome :=
  match a.settings fs with
  | .error failure => fail fs [] failure
  | .ok config =>
    if a.dryRun then
      match (Run.renderDirectory fs a.mode a.input config).run with
      | (events, .error failure) => fail fs events failure
      | (events, .ok files) => ⟨0, dryRunText a.output files, events, "", fs⟩
    else
      let (fs, generated) := Run.generate fs a.mode a.input a.output config
      match generated.run with
      | (events, .error failure) => fail fs events failure
      | (events, .ok count) => ⟨0, "", events ++ [.runFinished count], "", fs⟩

/-- Which events are logged. A setting of the environment counts before the command line, and is
passed over if it is malformed. There is no answer if it is torn. -/
def logFilter (a : Arguments) (logSetting : Option String) : Option Filter :=
  match logSetting.map Filter.ofSetting with
  | some (.ok filter) => some filter
  | some (.error .torn) => none
  | some (.error .malformed) | none => some (.ofVerbosity a.verbosity)

/-- The outcome of a program that gives up before it has begun. -/
def giveUp (fs : FileSystem) : Outcome := ⟨101, "", [], "the log setting is torn\n", fs⟩

/-- What a command line does. -/
def run (logSetting : Option String) (arguments : List String) (fs : FileSystem) : Outcome :=
  match Arguments.parse arguments with
  | .error refusal => refuse fs refusal
  | .ok a =>
    match logFilter a logSetting with
    | none => giveUp fs
    | some filter =>
      let outcome := a.run fs
      { outcome with log := outcome.log.filter filter.admits }

end ClientSynthesis.CommandLine
