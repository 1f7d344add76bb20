import ClientSynthesis.Report.Event
import ClientSynthesis.Text.Quoted

/-!
# Log lines

A line holds the severity, a fixed message and the event's data as `name=value`. Names taken from
descriptors inside a placeholder or a parameter reference are quoted; all other values stand as they
are.

An event is reported on a channel, which names the part of the program it comes from. The channel is
not written into the line; it serves to choose what is logged.
-/

namespace ClientSynthesis.Report

open Text (quoted)

namespace Event

/-- The severity of an event. -/
def level : Event → Level
  | .containerIgnored _ => .warn
  | .templateSkipped .. | .endpointEmpty _ | .descriptorsInterpreted .. | .filesWritten ..
  | .runFinished _ => .info
  | .documentLoaded .. | .keyRedefined .. | .definitionRegistered _ | .definitionRepeated _
  | .placeholderLiteral .. | .signatureRepeated .. | .methodsGenerated .. => .debug
  | .parameterResolved .. => .trace

/-- The channel an event is reported on. -/
def channel : Event → String
  | .documentLoaded .. | .keyRedefined .. => "apigen_codegen::utils"
  | .definitionRegistered _ | .definitionRepeated _ => "apigen_codegen::ir::registry"
  | .parameterResolved .. | .containerIgnored _ => "apigen_codegen::parser::body"
  | .placeholderLiteral .. | .templateSkipped .. | .signatureRepeated .. =>
    "apigen_codegen::parser::endpoint"
  | .endpointEmpty _ | .methodsGenerated .. => "apigen_codegen::parser"
  | .descriptorsInterpreted .. | .filesWritten .. => "apigen_codegen"
  | .runFinished _ => "apigen"

/-- The message of an event. -/
def message : Event → String
  | .documentLoaded .. => "loaded document"
  | .keyRedefined .. => "top-level key redefined, keeping the later one"
  | .definitionRegistered _ => "registered definition"
  | .definitionRepeated _ => "definition already registered"
  | .parameterResolved .. => "resolved parameter reference"
  | .containerIgnored _ =>
    "one_of object declares a child container key or value; ignoring them"
  | .placeholderLiteral .. => "placeholder has no part entry"
  | .templateSkipped .. => "skipping URL template"
  | .signatureRepeated .. => "URL template repeats an earlier signature"
  | .endpointEmpty _ => "no URL template left after skip-list, nothing generated"
  | .methodsGenerated .. => "generated methods"
  | .descriptorsInterpreted .. => "interpreted descriptors"
  | .filesWritten .. => "wrote generated files"
  | .runFinished _ => "code generation finished"

/-- The data of an event, by name. -/
def data : Event → List (String × String)
  | .documentLoaded file entries => [("file", file), ("entries", toString entries)]
  | .keyRedefined key file => [("key", key), ("file", file)]
  | .definitionRegistered name | .definitionRepeated name => [("name", name)]
  | .parameterResolved path parameter => [("path", path), ("parameter", quoted parameter)]
  | .containerIgnored path => [("path", path)]
  | .placeholderLiteral path placeholder => [("path", path), ("placeholder", quoted placeholder)]
  | .templateSkipped endpoint path => [("endpoint", endpoint), ("path", path)]
  | .signatureRepeated endpoint path method =>
    [("endpoint", endpoint), ("path", path), ("method", method)]
  | .endpointEmpty endpoint => [("endpoint", endpoint)]
  | .methodsGenerated endpoint methods =>
    [("endpoint", endpoint), ("methods", toString methods)]
  | .descriptorsInterpreted descriptors definitions =>
    [("descriptors", toString descriptors), ("definitions", toString definitions)]
  | .filesWritten files output => [("files", toString files), ("output", output)]
  | .runFinished files => [("files", toString files)]

/-- The names of what an event carries, its message included. -/
def carried (event : Event) : List String := "message" :: event.data.map Prod.fst

/-- The log line of an event. -/
def line (event : Event) : String :=
  " ".intercalate (event.level.label :: event.message ::
    event.data.map fun (name, value) => name ++ "=" ++ value)

end Event

end ClientSynthesis.Report
