import ClientSynthesis.Config.Reading
import ClientSynthesis.Descriptor.Error
import ClientSynthesis.Files.FileSystem

/-!
# Settings files
-/

namespace ClientSynthesis

open Descriptor (Error)

/-- The settings in a file. -/
def Config.load (fs : Files.FileSystem) (path : String) : Except Error Config := do
  let text ← (fs.readText path).mapError (Error.file path)
  (Config.parse text).mapError (Error.document path)

end ClientSynthesis
