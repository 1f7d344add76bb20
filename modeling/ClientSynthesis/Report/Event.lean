/-!
# Events of a run

What a run reports while it works. An event carries its data; its severity and its wording are
functions of it, so that a run is decided before any of it is worded.
-/

namespace ClientSynthesis.Report

/-- Severities, the gravest first. -/
inductive Level where
  | error
  | warn
  | info
  | debug
  | trace
  deriving DecidableEq, Repr

/-- How far down a severity is. -/
def Level.rank : Level → Nat
  | .error => 1
  | .warn => 2
  | .info => 3
  | .debug => 4
  | .trace => 5

/-- The name of a severity in a log line. -/
def Level.label : Level → String
  | .error => "ERROR"
  | .warn => "WARN"
  | .info => "INFO"
  | .debug => "DEBUG"
  | .trace => "TRACE"

/-- Something that happened in a run. -/
inductive Event where
  /-- A descriptor file was read. -/
  | documentLoaded (file : String) (entries : Nat)
  /-- A file defines a top-level key again. -/
  | keyRedefined (key file : String)
  /-- A definition entered the registry. -/
  | definitionRegistered (name : String)
  /-- A definition was registered a second time with the same content. -/
  | definitionRepeated (name : String)
  /-- A parameter reference was replaced by its fragment. -/
  | parameterResolved (path parameter : String)
  /-- A one-of object carries a container key or value that has no effect. -/
  | containerIgnored (path : String)
  /-- A placeholder has no entry in the parts table and stays literal text. -/
  | placeholderLiteral (path placeholder : String)
  /-- A URL template is on the skip list. -/
  | templateSkipped (endpoint path : String)
  /-- A URL template would repeat a method of its endpoint. -/
  | signatureRepeated (endpoint path method : String)
  /-- No URL template of an endpoint is left. -/
  | endpointEmpty (endpoint : String)
  /-- The methods of an endpoint were generated. -/
  | methodsGenerated (endpoint : String) (methods : Nat)
  /-- All descriptors were interpreted. -/
  | descriptorsInterpreted (descriptors definitions : Nat)
  /-- The generated files were written. -/
  | filesWritten (files : Nat) (output : String)
  /-- The run is complete. -/
  | runFinished (files : Nat)
  deriving DecidableEq, Repr

end ClientSynthesis.Report
