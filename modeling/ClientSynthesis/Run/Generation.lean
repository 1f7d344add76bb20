import ClientSynthesis.Assembly.EndpointGroups
import ClientSynthesis.Assembly.Interpretation
import ClientSynthesis.Code.Package
import ClientSynthesis.Files.Documents
import ClientSynthesis.Files.Output

/-!
# Generating code

A run loads a directory of descriptors, interprets them and renders the definitions; nothing is
written before all of this has succeeded. `renderDirectory` is that part, which only reads, and
`generate` adds the writing.

A failure carries what the run was doing, so the same cause can be told apart by its stage.
-/

namespace ClientSynthesis.Run

open Assembly (NameMap Registry)
open Code (LayoutError)
open Descriptor (Error)
open Files (FileSystem)
open Report (Event Traced)

/-- What the descriptors of a directory describe. -/
inductive Mode where
  /-- Endpoints, which become methods. -/
  | endpoints
  /-- Request bodies, which become types. -/
  | bodies
  deriving DecidableEq, Repr

/-- What a failed run stumbled over. -/
inductive Cause where
  | input (error : Error)
  | layout (error : LayoutError)
  deriving DecidableEq, Repr

/-- A cause in words. -/
def Cause.message : Cause → String
  | .input error => error.message
  | .layout error => error.message

/-- A failed run: what it was doing, outermost first, and the cause. -/
structure Failure where
  context : List String
  cause : Cause
  deriving DecidableEq, Repr

/-- What a failed run says first. -/
def Failure.headline (failure : Failure) : String :=
  failure.context.headD failure.cause.message

/-- The failure by an error of the input while something was being done. -/
def Failure.during (activity : String) (error : Error) : Failure := ⟨[activity], .input error⟩

/-! ### Rendering -/

/-- The definitions of a namespace of documents. -/
def interpret (mode : Mode) (config : Config) (documents : Json.Fields) :
    Traced Event Error Registry :=
  match mode with
  | .endpoints => Registry.ofEndpoints config.skipList documents
  | .bodies => Registry.ofBodies documents

/-- The files for a namespace of documents. -/
def renderDocuments (mode : Mode) (config : Config) (documents : Json.Fields) :
    Traced Event Cause (NameMap String) := do
  let registry ← (interpret mode config documents).mapError Cause.input
  (Code.package config registry).mapError Cause.layout

/-- The files for a directory of descriptors. The file system is only read. -/
def renderDirectory (fs : FileSystem) (mode : Mode) (input : String) (config : Config) :
    Traced Event Failure (NameMap String) := do
  let documents ← (Files.loadDocuments fs input).mapError
    (.during ("loading descriptors from " ++ input))
  let registry ← (interpret mode config documents).mapError
    (.during "building definition registry")
  Traced.record (.descriptorsInterpreted documents.length registry.size)
  (Code.package config registry).mapError fun error =>
    (⟨["running Rust generator"], .layout error⟩ : Failure)

/-! ### Writing -/

/-- Generate the files for a directory of descriptors into another one. The file system afterwards
stands beside the number of files, or beside the failure. -/
def generate (fs : FileSystem) (mode : Mode) (input output : String) (config : Config) :
    FileSystem × Traced Event Failure Nat :=
  match (renderDirectory fs mode input config).run with
  | (events, .error failure) => (fs, .of events (.error failure))
  | (events, .ok files) =>
    match Files.writeFiles fs output files with
    | (fs, .error error) =>
      (fs, .of events (.error (.during ("writing generated files to " ++ output) error)))
    | (fs, .ok ()) => (fs, .of (events ++ [.filesWritten files.size output]) (.ok files.size))

end ClientSynthesis.Run
