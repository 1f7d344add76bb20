import ClientSynthesis.Text.Split

/-!
# Paths

A path is text, and is reported as it was given; only following it takes it apart. Its components are
the pieces between slashes, of which empty ones and `.` stand for the directory they are looked up
in.
-/

namespace ClientSynthesis.Files

/-- The path of a name inside a directory. An absolute name stands for itself. -/
def joinPath (directory name : String) : String :=
  if name.toList.head? = some '/' then name
  else
    match directory.toList.getLast? with
    | none | some '/' => directory ++ name
    | some _ => directory ++ "/" ++ name

/-- Whether a path starts at the root of the file system. -/
def isAbsolute (path : String) : Bool := path.toList.head? == some '/'

/-- The components of a path. -/
def components (path : String) : List String := (Text.split '/' path.toList).map String.ofList

/-- Whether a file name has the extension `json`. A name that is nothing but the extension, dot
included, has none. -/
def isJsonName (name : String) : Bool :=
  ".json".toList.isSuffixOf name.toList && decide (".json".length < name.length)

end ClientSynthesis.Files
