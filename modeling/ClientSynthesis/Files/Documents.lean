import ClientSynthesis.Assembly.NameMap
import ClientSynthesis.Descriptor.Error
import ClientSynthesis.Files.FileSystem
import ClientSynthesis.Json.Document
import ClientSynthesis.Report.Event
import ClientSynthesis.Report.Traced

/-!
# Loading descriptor documents

All files with the extension `json` in a directory, subdirectories aside, are read in byte order of
their names and merged into one namespace. The order in which a directory lists its entries has no
influence. A key that several files define keeps the place of its first definition and takes the
value of the last. The first file that cannot be used ends the loading.
-/

namespace ClientSynthesis.Files

open Assembly (inNameOrder)
open Descriptor (Error)
open Json (Fields)
open Report (Event Traced)

/-- The paths of the descriptor files among the names listed in a directory. -/
def descriptorFiles (fs : FileSystem) (directory : String) (listing : List String) :
    List String :=
  (inNameOrder (listing.filter isJsonName)).map (joinPath directory) |>.filter fs.isFile

/-- The top-level entries of a descriptor file. -/
def readDocument (fs : FileSystem) (path : String) : Except Error Fields := do
  let text ← (fs.readText path).mapError (.file path)
  match ← (Json.parse text).mapError (.document path) with
  | .object entries => return entries
  | _ => throw (.invalid path .documentNotAnObject)

/-- The keys of a file that are defined already, as events. -/
def redefinitions (documents : Fields) (path : String) (entries : Fields) : List Event :=
  (entries.filter fun (key, _) => (documents.get? key).isSome).map fun (key, _) =>
    .keyRedefined key path

/-- Merge descriptor files into documents, one after the other. -/
def mergeFiles (fs : FileSystem) (documents : Fields) : List String → Traced Event Error Fields
  | [] => pure documents
  | path :: rest => do
    let entries ← readDocument fs path
    Traced.record (.documentLoaded path entries.length)
    Traced.recordAll (redefinitions documents path entries)
    mergeFiles fs (documents.merge entries) rest

/-- The namespace of a directory whose entries have been listed. -/
def loadListed (fs : FileSystem) (directory : String) (listing : List String) :
    Traced Event Error Fields :=
  mergeFiles fs [] (descriptorFiles fs directory listing)

/-- The namespace of all descriptor files in a directory. -/
def loadDocuments (fs : FileSystem) (directory : String) : Traced Event Error Fields := do
  let listing ← (fs.list directory).mapError (Error.file directory)
  loadListed fs directory listing

end ClientSynthesis.Files
