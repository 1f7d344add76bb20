import ClientSynthesis.Files.Kind
import ClientSynthesis.Files.Path

/-!
# File systems

A file system is a value: which locations hold a directory and which hold a file, with its bytes. An
operation that changes it returns the file system as it is afterwards, so what a run leaves behind
can be compared with what it found.

A location is the list of names from the root. Directories are listed in no particular order.
-/

namespace ClientSynthesis.Files

/-- A place in a file system: the names from the root on. -/
abbrev Location := List String

/-- What stands at a location. -/
inductive Entry where
  | directory
  | file (bytes : ByteArray)

/-- Entries are compared by kind and, where both are files, byte by byte. -/
instance : DecidableEq Entry
  | .directory, .directory => isTrue rfl
  | .directory, .file _ => isFalse nofun
  | .file _, .directory => isFalse nofun
  | .file a, .file b =>
    decidable_of_iff (a.data = b.data) ⟨fun h => congrArg _ (ByteArray.ext h), fun h => by
      cases h; rfl⟩

/-- A file system and the directory that relative paths start from. -/
structure FileSystem where
  workingDirectory : Location
  entries : List (Location × Entry)

namespace FileSystem

/-- What stands at a location. The root is a directory. -/
def occupant? (fs : FileSystem) (at_ : Location) : Option Entry :=
  if at_ = [] then some .directory else fs.entries.lookup at_

/-- Put an entry at a location, in place of the one there. -/
def put (fs : FileSystem) (at_ : Location) (entry : Entry) : FileSystem :=
  { fs with entries := (at_, entry) :: fs.entries.filter (·.1 != at_) }

/-- The names of the entries of the directory at a location. -/
def children (fs : FileSystem) (at_ : Location) : List String :=
  fs.entries.filterMap fun (place, _) =>
    if place.dropLast = at_ then place.getLast? else none

/-! ### Following a path -/

/-- The longest name a file system takes, in bytes. -/
def nameLimit : Nat := 255

/-- The longest path a file system takes, in bytes. -/
def pathLimit : Nat := 4095

/-- Whether a path can be followed at all, whatever the file system holds. -/
def checkPath (path : String) : Except Kind Unit :=
  if path = "" then .error .notFound
  else if path.toList.contains '\x00' then .error .invalidInput
  else if pathLimit < path.utf8ByteSize then .error .nameTooLong
  else .ok ()

/-- Follow components from a location. All but the last one have to be directories that exist; the
last one need not exist. -/
def follow (fs : FileSystem) : Location → List String → Except Kind Location
  | here, [] => .ok here
  | here, name :: rest =>
    match fs.occupant? here with
    | none => .error .notFound
    | some (.file _) => .error .notADirectory
    | some .directory =>
      if name = "" ∨ name = "." then fs.follow here rest
      else if name = ".." then fs.follow here.dropLast rest
      else if nameLimit < name.utf8ByteSize then .error .nameTooLong
      else fs.follow (here ++ [name]) rest

/-- Where a path starts from. -/
def origin (fs : FileSystem) (path : String) : Location :=
  if isAbsolute path then [] else fs.workingDirectory

/-- The location that a path leads to. -/
def locate (fs : FileSystem) (path : String) : Except Kind Location := do
  checkPath path
  fs.follow (fs.origin path) (components path)

/-- The location and the entry that a path leads to. -/
def find (fs : FileSystem) (path : String) : Except Kind (Location × Entry) := do
  let place ← fs.locate path
  match fs.occupant? place with
  | some entry => return (place, entry)
  | none => throw .notFound

/-! ### Reading -/

/-- Whether a path leads to a file. -/
def isFile (fs : FileSystem) (path : String) : Bool :=
  match fs.find path with
  | .ok (_, .file _) => true
  | _ => false

/-- Whether a path leads to a directory. -/
def isDirectory (fs : FileSystem) (path : String) : Bool :=
  match fs.find path with
  | .ok (_, .directory) => true
  | _ => false

/-- The names in a directory. -/
def list (fs : FileSystem) (path : String) : Except Kind (List String) := do
  match ← fs.find path with
  | (place, .directory) => return fs.children place
  | (_, .file _) => throw .notADirectory

/-- The text of a file. -/
def readText (fs : FileSystem) (path : String) : Except Kind String := do
  match ← fs.find path with
  | (_, .directory) => throw .isADirectory
  | (_, .file bytes) =>
    match String.fromUTF8? bytes with
    | some text => return text
    | none => throw .invalidData

/-! ### Writing -/

/-- The path without the slashes at its end. -/
def dropTrailingSlashes (path : String) : String :=
  match path.toList.reverse.dropWhile (· == '/') with
  | [] => path
  | cs => String.ofList cs.reverse

/-- Write a file, in place of the one there. A path with a slash at its end asks for a directory,
which no file can be; its last name is not even looked up. -/
def writeText (fs : FileSystem) (path text : String) : Except Kind FileSystem := do
  checkPath path
  if path.toList.getLast? = some '/' then
    let _ ← fs.follow (fs.origin path) ((components (dropTrailingSlashes path)).dropLast ++ ["."])
    throw .isADirectory
  let place ← fs.locate path
  match fs.occupant? place with
  | some .directory => throw .isADirectory
  | _ => return fs.put place (.file text.toUTF8)

/-- Make a directory. Slashes at the end of the path are of no account. -/
def makeDirectory (fs : FileSystem) (path : String) : Except Kind FileSystem := do
  checkPath path
  let place ← fs.locate (dropTrailingSlashes path)
  match fs.occupant? place with
  | some _ => throw .alreadyExists
  | none => return fs.put place .directory

/-- Settle for the directory that stands at a path already, if one does. -/
def acceptDirectory (fs : FileSystem) (path : String) (kind : Kind) :
    FileSystem × Except Kind Unit :=
  (fs, if fs.isDirectory path then .ok () else .error kind)

/-- Make a directory if there is none, making its parent first where that is missing. What has been
made stays there if it fails later on. -/
def ensureDirectory (fs : FileSystem) (path : String) (withParent : FileSystem × Except Kind Unit) :
    FileSystem × Except Kind Unit :=
  match fs.makeDirectory path with
  | .ok fs => (fs, .ok ())
  | .error .notFound =>
    match withParent with
    | (fs, .error kind) => (fs, .error kind)
    | (fs, .ok ()) =>
      match fs.makeDirectory path with
      | .ok fs => (fs, .ok ())
      | .error kind => fs.acceptDirectory path kind
  | .error kind => fs.acceptDirectory path kind

/-- Make the directory that components lead to, given last one first, and those it is in. -/
def makeTree (fs : FileSystem) (start : String) : List String → FileSystem × Except Kind Unit
  | [] => (fs, .ok ())
  | name :: outer =>
    fs.ensureDirectory (start ++ "/".intercalate (name :: outer).reverse) (fs.makeTree start outer)

/-- Make a directory and all directories it is in, as far as they do not exist. -/
def makeDirectories (fs : FileSystem) (path : String) : FileSystem × Except Kind Unit :=
  if path = "" then (fs, .ok ())
  else
    let names := (components path).filter fun name => name != "" && name != "."
    fs.ensureDirectory path
      (fs.makeTree (if isAbsolute path then "/" else "") names.reverse.tail)

/-! ### Interface -/

theorem lookup_filter_ne (entries : List (Location × Entry)) {place other : Location}
    (h : other ≠ place) :
    (entries.filter (·.1 != place)).lookup other = entries.lookup other := by
  induction entries with
  | nil => rfl
  | cons e rest ih =>
    obtain ⟨at_, entry⟩ := e
    by_cases hp : at_ = place
    · rw [List.filter_cons_of_neg (by simp [hp]), ih, List.lookup_cons,
        beq_eq_false_iff_ne.2 (hp ▸ h)]
    · rw [List.filter_cons_of_pos (by simp [hp]), List.lookup_cons, List.lookup_cons, ih]

theorem occupant?_put (fs : FileSystem) {place : Location} (entry : Entry) (other : Location)
    (h : place ≠ []) :
    (fs.put place entry).occupant? other = if other = place then some entry else fs.occupant? other := by
  unfold occupant? put
  by_cases hp : other = place
  · subst hp
    simp [h]
  · rw [if_neg hp]
    simp only [List.lookup_cons, beq_eq_false_iff_ne.2 hp]
    rw [lookup_filter_ne _ hp]

end FileSystem

end ClientSynthesis.Files
