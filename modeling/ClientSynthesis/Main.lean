import ClientSynthesis.CommandLine.Program

/-!
# The command

The outer layer: it takes a picture of the files a command line mentions, lets the program run on
the picture, prints what the program prints and carries out what it changed.
-/

namespace ClientSynthesis.Command

open CommandLine (Arguments)
open Files (Entry FileSystem Location)

/-- The path of a location. -/
def pathOf (place : Location) : String := "/" ++ "/".intercalate place

/-- Add what really stands at a location to a picture. -/
def look (fs : FileSystem) (place : Location) : IO FileSystem := do
  let path := (← IO.currentDir) / pathOf place
  if ← path.isDir then return fs.put place .directory
  else if ← path.pathExists then return fs.put place (.file (← IO.FS.readBinFile path))
  else return fs

/-- Add a path to a picture: the directories on the way, and what stands at its end. If that is a
directory, its entries are added too. -/
def lookAlong (fs : FileSystem) (path : String) : IO FileSystem := do
  let names := (Files.components path).filter (fun name => name != "" && name != ".")
  let mut fs := fs
  let mut here : Location := if Files.isAbsolute path then [] else fs.workingDirectory
  for name in names do
    here := if name == ".." then here.dropLast else here ++ [name]
    fs ← look fs here
  let target := (← IO.currentDir) / pathOf here
  if ← target.isDir then
    for entry in ← target.readDir do
      fs ← look fs (here ++ [entry.fileName])
  return fs

/-- A picture of the files that a command line mentions. -/
def picture (arguments : List String) : IO FileSystem := do
  let here := (← IO.currentDir).toString
  let names := (Files.components here).filter (· != "")
  let directories := (List.range names.length).map fun n => (names.take (n + 1), Entry.directory)
  let fs : FileSystem := ⟨names, directories⟩
  match Arguments.parse arguments with
  | .error _ => return fs
  | .ok a => (a.configFile.toList ++ [a.input, a.output]).foldlM lookAlong fs

/-- Carry out the changes from one picture to another. -/
def carryOut (before after : FileSystem) : IO Unit := do
  for (place, entry) in after.entries.reverse do
    if before.occupant? place != some entry then
      match entry with
      | .directory => IO.FS.createDirAll (pathOf place)
      | .file bytes => IO.FS.writeBinFile (pathOf place) bytes

end ClientSynthesis.Command

open ClientSynthesis in
/-- Run the program on the real file system. -/
def main (arguments : List String) : IO UInt32 := do
  let before ← Command.picture arguments
  let outcome := CommandLine.run (← IO.getEnv "RUST_LOG") arguments before
  for event in outcome.log do
    IO.eprintln event.line
  Command.carryOut before outcome.files
  IO.print outcome.output
  IO.eprint outcome.complaint
  return outcome.exitCode.toUInt32
