import MagicRules.CommandLine

/-!
# The program

Reads the files from disk, and prints the response to the arguments.
-/

namespace MagicRules.Disk

/-- The files below an entry, by the names that lead to them. Links are not followed. -/
partial def collect (entry : IO.FS.DirEntry) (names : List Text) :
    IO (List (List Text × Bytes)) := do
  match (← entry.path.symlinkMetadata).type with
  | .dir =>
    let below ← (← entry.path.readDir).toList.mapM fun inner =>
      collect inner (names ++ [inner.fileName.toList])
    return below.flatten
  | .file => return [(names, (← IO.FS.readBinFile entry.path).toList)]
  | _ => return []

def find? (path : Text) : IO (Option (List SourceFile)) := do
  let start : IO.FS.DirEntry := { root := ← IO.currentDir, fileName := String.ofList path }
  if ← start.path.pathExists then
    return some (FileTree.walk path (← collect start []))
  else return none

end MagicRules.Disk

open MagicRules in
def main (args : List String) : IO UInt32 := do
  let arguments := args.map String.toList
  let paths := match CommandLine.read arguments with
    | .dump options => options.files
    | _ => []
  let found ← paths.mapM fun path => return (path, ← Disk.find? path)
  let response := CommandLine.respond arguments fun path => (found.lookup path).join
  IO.print (String.ofList response.output)
  for event in response.events do
    IO.eprintln event.message
  return response.exit.toUInt32
