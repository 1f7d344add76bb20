import ClientSynthesis.Run.Generation

/-!
# Command line arguments

Arguments are read from left to right. An option waits for its value, and neither a value nor a
directory is looked at before the argument after it is understood: only when the next option, flag or
directory comes, or the arguments end, is the last value *settled*. Of two faults the one that is
noticed first therefore counts, and an argument nobody knows is noticed before the value in front of
it.

After `--` every argument is a directory.
-/

namespace ClientSynthesis.CommandLine

open Run (Mode)

/-- Why arguments lead to no run. Asking for help or for the version is among the reasons. -/
inductive Refusal where
  | missingArgument
  | unknownArgument
  | invalidValue
  | repeatedArgument
  | unexpectedValue
  | helpWanted
  | versionWanted
  deriving DecidableEq, Repr

/-- What the command line asks for. -/
structure Arguments where
  mode : Mode
  configFile : Option String
  runtimePath : Option String
  receiver : Option String
  noDocs : Bool
  withModFile : Bool
  noSkipList : Bool
  dryRun : Bool
  verbosity : Nat
  input : String
  output : String
  deriving DecidableEq, Repr

/-! ### What may be given -/

/-- The places a value can be given for: four options and two directories. -/
inductive Slot where
  | mode
  | configFile
  | runtimePath
  | receiver
  | input
  | output
  deriving DecidableEq, Repr

/-- The switches that may be given once. -/
inductive Switch where
  | noDocs
  | withModFile
  | noSkipList
  | dryRun
  deriving DecidableEq, Repr

/-- The meaning of an option's name. -/
inductive OptionName where
  | slot (slot : Slot)
  | switch (switch : Switch)
  | verbose
  | help
  | version
  deriving DecidableEq, Repr

/-- The option that a word after two dashes names. -/
def OptionName.ofWord? : String → Option OptionName
  | "mode" => some (.slot .mode)
  | "config" => some (.slot .configFile)
  | "runtime-path" => some (.slot .runtimePath)
  | "receiver" => some (.slot .receiver)
  | "no-docs" => some (.switch .noDocs)
  | "with-mod-rs" => some (.switch .withModFile)
  | "no-skip-list" => some (.switch .noSkipList)
  | "dry-run" => some (.switch .dryRun)
  | "verbose" => some .verbose
  | "help" => some .help
  | "version" => some .version
  | _ => none

/-- The option that a letter after one dash names. None of them takes a value. -/
def OptionName.ofLetter? : Char → Option OptionName
  | 'v' => some .verbose
  | 'h' => some .help
  | 'V' => some .version
  | _ => none

/-- The mode that a value names. -/
def modeNamed? : String → Option Mode
  | "api" => some .endpoints
  | "request" => some .bodies
  | _ => none

/-- Whether a slot takes a value. Files and directories have names that are not empty. -/
def Slot.admits : Slot → String → Bool
  | .mode, value => (modeNamed? value).isSome
  | .runtimePath, _ | .receiver, _ => true
  | .configFile, value | .input, value | .output, value => !value.isEmpty

/-! ### Reading from left to right -/

/-- How far the arguments have been read. -/
structure Progress where
  /-- The values that have been settled. -/
  values : List (Slot × String)
  switches : List Switch
  verbosity : Nat
  /-- The slot that is to be settled next, with its value if that has been given. -/
  pending : Option (Slot × Option String)
  /-- How many directories have been given. -/
  directories : Nat
  /-- Whether all further arguments are directories. -/
  onlyDirectories : Bool

namespace Progress

/-- Before the first argument. -/
def start : Progress := ⟨[], [], 0, none, 0, false⟩

/-- Store a value. -/
def store (p : Progress) (slot : Slot) (value : String) : Except Refusal Progress :=
  if (p.values.lookup slot).isSome then .error .repeatedArgument
  else if slot.admits value then .ok { p with values := (slot, value) :: p.values }
  else .error .invalidValue

/-- Settle what is pending. -/
def settle (p : Progress) : Except Refusal Progress :=
  match p.pending with
  | none => .ok p
  | some (_, none) => .error .invalidValue
  | some (slot, some value) => { p with pending := none }.store slot value

/-- Take an option that stands without a value of its own. -/
def takeOption (p : Progress) (option : OptionName) : Except Refusal Progress := do
  let p ← p.settle
  match option with
  | .slot slot => return { p with pending := some (slot, none) }
  | .switch switch =>
    if p.switches.contains switch then throw .repeatedArgument
    return { p with switches := switch :: p.switches }
  | .verbose => return { p with verbosity := min 255 (p.verbosity + 1) }
  | .help => throw .helpWanted
  | .version => throw .versionWanted

/-- Take an option with a value attached by an equals sign. -/
def takeAttached (p : Progress) (option : OptionName) (value : String) :
    Except Refusal Progress :=
  match option with
  | .slot slot => do (← p.settle).store slot value
  | _ => .error .unexpectedValue

/-- Take a word after two dashes. -/
def takeWord (p : Progress) (word : List Char) : Except Refusal Progress :=
  let (name, rest) := word.span (· != '=')
  match OptionName.ofWord? (String.ofList name), rest with
  | none, _ => .error .unknownArgument
  | some option, [] => p.takeOption option
  | some option, _ :: value => p.takeAttached option (String.ofList value)

/-- Take the letters after one dash. -/
def takeLetters (p : Progress) : List Char → Except Refusal Progress
  | [] => .ok p
  | letter :: rest => do
    match OptionName.ofLetter? letter with
    | none => throw .unknownArgument
    | some option => (← p.takeOption option).takeLetters rest

/-- Take a directory. -/
def takeDirectory (p : Progress) (directory : String) : Except Refusal Progress := do
  let slot ← match p.directories with
    | 0 => pure Slot.input
    | 1 => pure Slot.output
    | _ => throw .unknownArgument
  let p ← p.settle
  return { p with pending := some (slot, some directory), directories := p.directories + 1 }

/-- Take an argument. -/
def take (p : Progress) (argument : String) : Except Refusal Progress :=
  if p.onlyDirectories then p.takeDirectory argument
  else
    match argument.toList with
    | ['-', '-'] => .ok { p with onlyDirectories := true }
    | '-' :: '-' :: word => p.takeWord word
    | '-' :: letter :: letters => p.takeLetters (letter :: letters)
    | _ =>
      match p.pending with
      | some (slot, none) => .ok { p with pending := some (slot, some argument) }
      | _ => p.takeDirectory argument

/-- The arguments that have been given, once all are settled. -/
def arguments (p : Progress) : Except Refusal Arguments :=
  match p.values.lookup .input, p.values.lookup .output with
  | some input, some output =>
    .ok {
      mode := ((p.values.lookup .mode).bind modeNamed?).getD .endpoints
      configFile := p.values.lookup .configFile
      runtimePath := p.values.lookup .runtimePath
      receiver := p.values.lookup .receiver
      noDocs := p.switches.contains .noDocs
      withModFile := p.switches.contains .withModFile
      noSkipList := p.switches.contains .noSkipList
      dryRun := p.switches.contains .dryRun
      verbosity := p.verbosity
      input := input
      output := output }
  | _, _ => .error .missingArgument

end Progress

/-- The arguments of a command line, the program's own name aside. -/
def Arguments.parse (arguments : List String) : Except Refusal Arguments := do
  (← (← arguments.foldlM Progress.take .start).settle).arguments

end ClientSynthesis.CommandLine
