import HostBindings.CommandLine.Command
import HostBindings.CommandLine.Help
import HostBindings.CommandLine.Plain

/-!
# The command line

The outer layer of the command: it takes what is at the paths that the arguments name into a tree of
files, runs the command on the tree, writes what is new in it, and shows the rest. A directory is
taken without its files, so inputs are named one by one. There is no connection to the web.
-/

namespace HostBindings.CommandLine

variable [WorkingDirectory]

/-- The paths that arguments name. -/
def Arguments.paths (arguments : Arguments) : List Path :=
  let optional := [arguments.config, arguments.output, arguments.writeConfig, arguments.logFile]
  let given := (optional.map OptionValue.content).filter (· ≠ "")
  (arguments.inputs ++ given).map Path.ofString

/-- The paths that lead to a path, the shortest first. -/
def leadingPaths (path : Path) : List Path :=
  (List.range path.parts.length).map fun n => { path with parts := path.parts.take (n + 1) }

/-- The content of a file. Where it is no text, each octet beyond the first half of all octets is
kept as half of a surrogate pair. -/
def contentOf (octets : ByteArray) : String :=
  match String.fromUTF8? octets with
  | some text => text
  | none =>
    String.ofList (octets.toList.flatMap fun octet =>
      if octet < 0x80 then [Char.ofNat octet.toNat] else Text.half (0xDC00 + octet.toNat))

/-- What is at a path of the file system. -/
def nodeAt (path : Path) : IO (Option FileNode) := do
  try
    return some (.file (contentOf (← IO.FS.readBinFile path.text)))
  catch error =>
    match error with
    | .noFileOrDirectory .. => return none
    | .inappropriateType .. => return some .directory
    | _ => throw error

/-- A tree with what is on the way to a path, and at it. -/
def withPath (tree : FileTree) (path : Path) : IO FileTree :=
  (leadingPaths path).foldlM (fun tree path => do
    match tree.locate path, ← nodeAt path with
    | .ok place, some node => return tree.set place node
    | _, _ => return tree) tree

/-- Writes what is new in a tree. -/
def writeBeyond (before after : FileTree) : IO Unit :=
  (after.beyond before).forM fun (place, node) =>
    match node with
    | .directory => IO.FS.createDirAll place.text
    | .file content => IO.FS.writeFile place.text content

/-- Adds records to the file of the log. -/
def appendLog (path : Path) (log : Log) : IO Unit :=
  IO.FS.withFile path.text .append fun file =>
    log.forM fun entry => file.putStrLn (entry.level.name ++ " " ++ entry.message)

/-- Shows what is left when the command is done, and ends with its exit code. -/
def finish (arguments : Arguments) (ending : Ending) : IO UInt32 := do
  let session := ending.session
  session.log.forM fun entry => IO.eprintln (entry.level.name ++ " " ++ entry.message)
  let file := arguments.logFile.content
  if file ≠ "" then appendLog (logPath file) session.log
  session.screen.forM fun item => IO.println item.plain
  return ending.exit.toUInt32

/-- Runs the command on the file system. -/
def runOnFiles (arguments : Arguments) : IO UInt32 := do
  let tree ← arguments.paths.foldlM withPath {}
  match arguments.run .plain Web.offline tree with
  | .ok ending =>
    writeBeyond tree ending.session.tree
    finish arguments ending
  | .error crash =>
    IO.eprintln crash.message
    return 1

end HostBindings.CommandLine

/-- The command. -/
def main (arguments : List String) : IO UInt32 := do
  let directory ← IO.currentDir
  let _ := HostBindings.WorkingDirectory.ofPath (HostBindings.Path.ofString directory.toString)
  match HostBindings.CommandLine.Arguments.parse arguments with
  | .ok understood => HostBindings.CommandLine.runOnFiles understood
  | .error .help =>
    IO.println HostBindings.CommandLine.helpText
    return 0
  | .error .version =>
    IO.println HostBindings.CommandLine.versionLine
    return 0
  | .error (.usage error) =>
    IO.eprintln HostBindings.CommandLine.usageText
    IO.eprintln error.shown
    return 2
