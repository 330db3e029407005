import HostBindings.Destination
import HostBindings.Header

/-!
# Output files

A block that goes to a file of its own is written to a temporary file beside the destination. The
destination is replaced at the end, in one step; until then, and whenever something goes wrong, it
keeps what it has.

## Main definitions

* `OutputFile` — an opened destination; `OutputFile.create`, `OutputFile.commit`,
  `OutputFile.release`
* `FileSink` — a sink whose text goes to a file
* `OutputDirectory`, `Destination.toDirectory` — a file for each block, below a directory
-/

namespace HostBindings

open Api (Block)

variable [WorkingDirectory]

/-- A file that is being written. -/
structure OutputFile where
  /-- The destination. -/
  path : Path
  /-- The temporary file. -/
  temporary : Place
  deriving DecidableEq, Repr

namespace OutputFile

/-- Opens a destination: makes its directory and its temporary file. -/
def create (tree : FileTree) (path : Path) : Except OpenFault OutputFile × FileTree :=
  match tree.makeDirectories path.parent with
  | (.error fault, below) => (.error (refusal path fault), below)
  | (.ok (), below) =>
    match below.createTemporary path with
    | .error fault => (.error (refusal path fault), below)
    | .ok (temporary, after) => (.ok ⟨path, temporary⟩, after)
where
  refusal (path : Path) (fault : FileFault) : OpenFault :=
    if fault.isRefusal then .sink (.unopened path.text fault) else .path fault

/-- What is reported of an opening. -/
def opened (output : OutputFile) (blockName : String) : LogRecord :=
  ⟨.debug, s!"Opened {FileTree.temporaryLabel output.path} for {blockName}"⟩

/-- Drops the temporary file. -/
def release (output : OutputFile) (tree : FileTree) : FileTree :=
  tree.erase output.temporary

/-- The whole text of a file. -/
def content (header body : String) : String :=
  Generator.withoutFinalLineFeeds header ++ "\n\n" ++
    String.ofList (Text.trimNewlines body.toList) ++ "\n"

/-- The whole text of the file of a sink, if there is a header and the text can be encoded. -/
def wholeText (header : Except CommitFault String) (sink : Sink) : Except CommitFault String := do
  let text := content (← header) sink.text
  match Text.encodingFault? text with
  | some fault => .error (.file (.unencodable fault))
  | none => return text

/-- Writes the whole file and puts it in the place of the destination. If that cannot be done, the
temporary file is dropped. -/
def commit (output : OutputFile) (header : Except CommitFault String) (sink : Sink)
    (tree : FileTree) : Except SinkError Unit × FileTree :=
  let replaced : Except CommitFault FileTree := do
    let text ← wholeText header sink
    let written := tree.set output.temporary (.file text)
    (written.replaceFile output.temporary output.path).mapError CommitFault.file
  match replaced with
  | .ok after => (.ok (), after)
  | .error fault => (.error (.uncommitted sink.blockName fault), output.release tree)

end OutputFile

/-- A sink whose text goes to a file. -/
structure FileSink where
  /-- The sink. -/
  sink : Sink
  /-- The file. -/
  output : OutputFile
  deriving DecidableEq

namespace FileSink

/-- Opens a sink for a block. -/
def create (tree : FileTree) (path : Path) (blockName : String) :
    Except OpenFault FileSink × FileTree :=
  let (output, tree) := OutputFile.create tree path
  (output.map fun output => ⟨{ blockName }, output⟩, tree)

/-- The header that is made for the imports of a sink, in order. -/
def headerFor (sink : Sink) (header : List Json → Except CommitFault String) :
    Except CommitFault String :=
  match Json.sort sink.imports with
  | .ok imports => header imports
  | .error fault => .error (.header (.imports fault))

/-- Writes the file of an open sink, with a header made for its imports; the sink is closed whether
or not that can be done. Nothing happens to a closed sink. -/
def close (file : FileSink) (header : List Json → Except CommitFault String) (tree : FileTree) :
    Except SinkError Unit × FileSink × FileTree :=
  if file.sink.isOpen then
    let (taken, tree) := file.output.commit (headerFor file.sink header) file.sink tree
    (taken, { file with sink := file.sink.close }, tree)
  else (.ok (), file, tree)

/-- Drops the file of an open sink, and closes it. Nothing happens to a closed sink. -/
def discard (file : FileSink) (tree : FileTree) : FileSink × FileTree :=
  if file.sink.isOpen then
    ({ file with sink := file.sink.close }, file.output.release tree)
  else (file, tree)

end FileSink

/-- A directory of output files: the tree, and the paths that were opened, with their blocks. -/
structure OutputDirectory where
  /-- The tree. -/
  tree : FileTree
  /-- The paths that were opened, with the names of their blocks. -/
  claimed : List (Path × String) := []
  deriving Inhabited

/-- What is kept for a block while it is generated. -/
structure BlockFile where
  /-- The file. -/
  output : OutputFile
  /-- Its package. -/
  package : String
  /-- The block. -/
  block : Block

/-- The file of a block of a certain symbol. -/
def blockPath (directory : Path) (symbol : String) : Path :=
  let package := Naming.packageOfSymbol symbol
  (directory.child package).child (package ++ Generator.fileExtension)

/-- A file for each block, below a directory. A path that two blocks have belongs to the first. -/
def Destination.toDirectory (generator : Generator) (directory : Path) (source : Json) :
    Destination OutputDirectory BlockFile where
  openFor block symbol state :=
    let path := blockPath directory symbol
    match state.claimed.lookup path with
    | some first => (.error (.sink (.claimed path.text first)), state)
    | none =>
      -- the path is claimed once its file is open, so a block that is refused leaves it to others
      let (output, tree) := OutputFile.create state.tree path
      match output with
      | .error error => (.error error, { state with tree })
      | .ok output =>
        (.ok ⟨output, Naming.packageOfSymbol symbol, block⟩,
          { tree, claimed := state.claimed ++ [(path, block.name)] })
  opened file := [file.output.opened file.block.name]
  commit file sink state :=
    let header :=
      (generator.fileHeader (.string file.package) sink.imports source
        (some file.block.info)).mapError CommitFault.header
    let (taken, tree) := file.output.commit header sink state.tree
    (taken, { state with tree })
  release file state := { state with tree := file.output.release state.tree }

end HostBindings
