import HostBindings.Files.Output

/-!
# Sinks in use together

Any number of sinks may be open at once, over one unit and one tree of files; each has a name. What
is done with one sink leaves the others as they are.

## Main definitions

* `NamedSink` — a sink that goes to the unit or to a file
* `SinkTable` — the sinks, the unit and the tree
* `SinkAction`, `SinkTable.step` — what can be done with a sink, and what becomes of the table
* `SinkFault` — why an action is refused
* `SinkTable.discardAll` — all sinks dropped
-/

namespace HostBindings

variable [WorkingDirectory]

/-- A sink with the place its text goes to. -/
inductive NamedSink where
  /-- The text goes to the unit. -/
  | toUnit (sink : Sink)
  /-- The text goes to a file, behind a header made for the imports. -/
  | toFile (file : FileSink) (header : List Json → Except CommitFault String)

/-- The sink itself. -/
def NamedSink.sink : NamedSink → Sink
  | .toUnit sink => sink
  | .toFile file _ => file.sink

/-- The same place with another sink. -/
def NamedSink.withSink (named : NamedSink) (sink : Sink) : NamedSink :=
  match named with
  | .toUnit _ => .toUnit sink
  | .toFile file header => .toFile { file with sink } header

/-- Sinks in use together. -/
structure SinkTable where
  /-- The tree of files. -/
  tree : FileTree
  /-- The unit. -/
  unit : DeclarationUnit := {}
  /-- The sinks, by name. -/
  sinks : List (String × NamedSink) := []
  /-- The log. -/
  log : Log := []

/-- What can be done with a sink. -/
inductive SinkAction where
  /-- A sink over the unit is opened for a block. -/
  | openUnit (blockName : String)
  /-- A sink over a file is opened for a block. -/
  | openFile (blockName : String) (path : Json) (header : List Json → Except CommitFault String)
  /-- Text is written. -/
  | write (text : Json)
  /-- An import is recorded. -/
  | addImport (path : Json)
  /-- The text is handed over. -/
  | close
  /-- The text is dropped. -/
  | discard

/-- Why an action is refused. -/
inductive SinkFault where
  /-- There is no sink of the name. -/
  | unnamed
  /-- The sink is closed. -/
  | closed (blockName : String)
  /-- A path, a text or an import is a value that cannot be used. -/
  | value (fault : UseFault)
  /-- The sink is not opened. -/
  | unopened (fault : OpenFault)
  /-- The text is not taken. -/
  | uncommitted (error : SinkError)
  deriving DecidableEq, Repr

namespace SinkTable

/-- The table with a sink under a name. -/
def put (table : SinkTable) (name : String) (sink : NamedSink) : SinkTable :=
  { table with sinks := (name, sink) :: table.sinks.filter (·.1 ≠ name) }

/-- Opens a sink over a file. -/
def openFile (table : SinkTable) (name blockName : String) (path : String)
    (header : List Json → Except CommitFault String) : Except SinkFault Unit × SinkTable :=
  let (opened, tree) := FileSink.create table.tree (Path.ofString path) blockName
  match opened with
  | .error fault => (.error (.unopened fault), { table with tree })
  | .ok file =>
    let log := table.log ++ [file.output.opened blockName]
    (.ok (), { table with tree, log }.put name (.toFile file header))

/-- Hands the text of a sink over. -/
def close (table : SinkTable) (name : String) : NamedSink → Except SinkFault Unit × SinkTable
  | .toUnit sink =>
    let (sink, unit) := table.unit.take sink
    (.ok (), { table with unit }.put name (.toUnit sink))
  | .toFile file header =>
    let (taken, file, tree) := file.close header table.tree
    (taken.mapError SinkFault.uncommitted, { table with tree }.put name (.toFile file header))

/-- Drops the text of a sink. -/
def discard (table : SinkTable) (name : String) : NamedSink → SinkTable
  | .toUnit sink => table.put name (.toUnit sink.close)
  | .toFile file header =>
    let (file, tree) := file.discard table.tree
    { table with tree }.put name (.toFile file header)

/-- Does something with a sink that is there. -/
def useSink (table : SinkTable) (name : String) (named : NamedSink) :
    SinkAction → Except SinkFault Unit × SinkTable
  | .write text =>
    match named.sink.write? (text.string?.getD "") with
    -- a closed sink refuses every value, also one that is no text
    | none => (.error (.closed named.sink.blockName), table)
    | some sink =>
      if text.string?.isNone then (.error (.value (.asWritten text.kindName)), table)
      else (.ok (), table.put name (named.withSink sink))
  | .addImport path =>
    match path.hashed with
    | .error fault => (.error (.value fault), table)
    | .ok path => (.ok (), table.put name (named.withSink (named.sink.addImport path)))
  | .close => table.close name named
  | _ => (.ok (), table.discard name named)

/-- Does something with the sink of a name. -/
def step (table : SinkTable) (name : String) (action : SinkAction) :
    Except SinkFault Unit × SinkTable :=
  match action with
  | .openUnit blockName => (.ok (), table.put name (.toUnit { blockName }))
  | .openFile blockName path header =>
    match path.pathText with
    | .ok path => table.openFile name blockName path header
    | .error fault => (.error (.value fault), table)
  | action =>
    match table.sinks.lookup name with
    | some named => table.useSink name named action
    | none => (.error .unnamed, table)

/-- The table with all sinks dropped. -/
def discardAll (table : SinkTable) : SinkTable :=
  table.sinks.foldl (fun table (name, named) => table.discard name named) table

end SinkTable

end HostBindings
