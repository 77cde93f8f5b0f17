import TexLog.Command

/-!
# The program

Shows the files that a command line speaks of to the command, carries out what the command did to
them, and prints what it printed.
-/

namespace TexLog.Program

/-- What stands at a path of the file system, if anything. -/
def look (path : Path) : IO (Option Entry) := do
  let name := String.ofList path.toStr.escaped
  try
    if ← (← IO.FS.realPath name).isDir then return some .directory
    return some (.file (← IO.FS.readBinFile name).toList)
  catch _ => return none

/-- Adds what stands on the way to a path, and at its end, to a tree. -/
def survey (tree : Tree) (path : Path) : IO Tree :=
  (List.range path.parts.length).foldlM (fun tree n => do
    let way := { path with parts := path.parts.take (n + 1) }
    match tree.resolve way, ← look way with
    | .ok place, some entry => return if place.isFixed then tree else tree.insert place entry
    | _, _ => return tree) tree

/-- Makes the file system have an entry. -/
def store : Place × Entry → IO Unit
  | (place, .directory) => IO.FS.createDirAll (String.ofList place.text)
  | (place, .file content) =>
    IO.FS.writeBinFile (String.ofList place.text) (ByteArray.mk content.toArray)

end TexLog.Program

open TexLog in
/-- Carries out a command line. -/
def main (arguments : List String) : IO UInt32 := do
  let _ := Runtime.standard
  let line := arguments.map String.toList
  let files ← (Command.paths line).foldlM Program.survey {}
  let (outcome, world) := Command.run line files
  (world.files.newSince files).reverse.forM Program.store
  IO.print (String.ofList world.printed)
  IO.eprint (String.ofList outcome.notice)
  return UInt32.ofNat outcome.code
