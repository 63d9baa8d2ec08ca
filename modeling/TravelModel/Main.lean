import Std.Time.DateTime.Timestamp
import TravelModel.CommandLine.Clock
import TravelModel.CommandLine.Run

/-!
# TravelModel — the program

Reads what the command can see into a file tree, runs the command on it and
writes what has changed.
-/

namespace TravelModel

/-- Puts what is found at a path into a tree. -/
def readPath (t : FileTree) (path : String) : IO FileTree := do
  let here ← IO.currentDir
  let paths ← (here / path).walkDir
  paths.foldlM
    (fun t p => do
      let place := Files.rawParts p.toString
      if ← p.isDir then return t.putAt place .directory
      else return t.putAt place (.file (← IO.FS.readBinFile p)))
    t

/-- Puts a path into a tree if it can be read, with the directories above it. -/
def readPathIfAny (t : FileTree) (path : String) : IO FileTree := do
  let here ← IO.currentDir
  let full := (here / path).toString
  let above := (t.createDirAll (Files.parent full)).toOption.getD t
  try
    if ← (here / path).isDir then readPath above full
    else return above.putAt (Files.rawParts full) (.file (← IO.FS.readBinFile full))
  catch _ => return t

/-- The tree of what a command can see: the working directory, the paths among
its arguments with what is beside them, and the settings of the user. -/
def visibleTree (args : List String) (home : String) : IO FileTree := do
  let here := (← IO.currentDir).toString
  let given := (args.filter Arguments.isWord).flatMap fun a => [Files.parent (Files.join here a), a]
  let settings := (Config.layerNames home).map (Files.join here)
  (here :: given ++ settings).foldlM readPathIfAny { workDir := Files.rawParts here }

/-- Writes the files of a tree that another does not have. -/
def writeChanges (before after : FileTree) : IO Unit :=
  after.nodes.forM fun (path, node) => do
    match node, before.nodes.find? path with
    | .directory, _ => IO.FS.createDirAll path
    | .file bytes, some (.file old) =>
      unless bytes.toList = old.toList do IO.FS.writeBinFile path bytes
    | .file bytes, _ => IO.FS.writeBinFile path bytes

/-- How the program is used. -/
def usage : String :=
  "Usage: otm-compile [-c CONFIG] <check|symbols|generate> [OPTIONS] <PATHS>...\n"

/-- Runs the program. -/
def runProgram (args : List String) : IO UInt32 := do
  let home := (← IO.getEnv "HOME").getD "/"
  let now := (← Std.Time.Timestamp.now).toNanosecondsSinceUnixEpoch.val.toNat
  match Command.parse args with
  | .error .help =>
    IO.print usage
    return 0
  | .error .wrong =>
    IO.eprint usage
    return 2
  | .ok command =>
    let tree ← visibleTree args home
    let result := command.run home (Clock.text now) tree
    writeChanges tree result.tree
    result.output.forM IO.println
    (result.errorText).forM IO.eprint
    return result.exit.toUInt32

end TravelModel

/-- The program. -/
def main (args : List String) : IO UInt32 :=
  TravelModel.runProgram args
