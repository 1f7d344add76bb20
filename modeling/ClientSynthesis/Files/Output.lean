import ClientSynthesis.Assembly.NameMap
import ClientSynthesis.Descriptor.Error
import ClientSynthesis.Files.FileSystem

/-!
# Writing generated files

The output directory is made if it does not exist, and the files are written into it in name order,
over whatever is there. If one cannot be written, those before it have been.
-/

namespace ClientSynthesis.Files

open Assembly (NameMap)
open Descriptor (Error)

/-- Write files into a directory, one after the other, until one fails. -/
def writeEach (fs : FileSystem) (directory : String) :
    List (String × String) → FileSystem × Except Error Unit
  | [] => (fs, .ok ())
  | (name, text) :: rest =>
    let path := joinPath directory name
    match fs.writeText path text with
    | .error kind => (fs, .error (.file path kind))
    | .ok fs => writeEach fs directory rest

/-- Write files into a directory. -/
def writeFiles (fs : FileSystem) (directory : String) (files : NameMap String) :
    FileSystem × Except Error Unit :=
  match fs.makeDirectories directory with
  | (fs, .error kind) => (fs, .error (.file directory kind))
  | (fs, .ok ()) => writeEach fs directory files.entries

end ClientSynthesis.Files
