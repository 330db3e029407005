import HostBindings.Files.Tree
import HostBindings.Json.Use
import HostBindings.Log
import HostBindings.Text.UpperCase

/-!
# Setting up the log

From which level on records are kept, where they go, and what loggers are called. A level is given
by its name, in any letter case, or by its number; anything else is a fault.

## Main definitions

* `LevelChoice`, `LevelChoice.rank` — a level as it is given, and its number
* `LogSetup`, `LogSetup.start` — the state of the log
* `loggerName` — the full name of a logger
-/

namespace HostBindings

variable [WorkingDirectory]

/-- A level as it is given. -/
inductive LevelChoice where
  | named (name : String)
  | numbered (rank : Int)
  /-- A value that is neither a name nor a number of a level. -/
  | unfit (kind : String)
  deriving DecidableEq, Repr

/-- The level that a value gives. -/
def LevelChoice.ofJson (value : Json) : LevelChoice :=
  match value with
  | .string name => .named name
  | other =>
    match other.integer? with
    | some rank => .numbered rank
    | none => .unfit other.kindName

/-- Why the log cannot be set up. -/
inductive LogFault where
  /-- A name that names no level. -/
  | unknownLevel (name : String)
  /-- A level or a file given by a value that cannot be used. -/
  | value (fault : UseFault)
  /-- The file that takes the records cannot be opened. -/
  | file (fault : FileFault)
  deriving DecidableEq, Repr

/-- The wording of a fault. -/
def LogFault.message : LogFault → String
  | .unknownLevel name => s!"Unknown log level: {name}"
  | .value fault => fault.message
  | .file fault => fault.message

/-- The numbers of the levels that have names. -/
def levelRanks : List (String × Nat) :=
  [("CRITICAL", 50), ("FATAL", 50), ("ERROR", 40), ("WARN", 30), ("WARNING", 30), ("INFO", 20),
    ("DEBUG", 10), ("NOTSET", 0)]

/-- The number of a level. -/
def LevelChoice.rank : LevelChoice → Except LogFault Int
  | .numbered rank => .ok rank
  | .unfit kind => .error (.value (.asLevel kind))
  | .named name =>
    match levelRanks.lookup (Text.upperCase name) with
    | some rank => .ok rank
    | none => .error (.unknownLevel name)

/-- Where records go. -/
inductive LogTarget where
  | terminal
  | file (path : Path)
  deriving DecidableEq, Repr

/-- The state of the log. -/
structure LogSetup where
  /-- The number of the level from which on records are kept. -/
  rank : Int
  /-- Where they go. -/
  targets : List LogTarget
  deriving DecidableEq, Repr

/-- The file that takes the records. Its path is taken as it is spelt. -/
def logPath (file : String) : Path := (Path.ofString file).straight

/-- Sets up the log. A file is opened at once, so that it is there even without records; a file that
is switched off is none. -/
def LogSetup.start (tree : FileTree) (level : LevelChoice) (file : Json) :
    Except LogFault (LogSetup × FileTree) := do
  let rank ← level.rank
  if !file.truthy then return (⟨rank, [.terminal]⟩, tree)
  else
    let path := logPath (← file.pathText.mapError LogFault.value)
    let tree ← (tree.touch path).mapError LogFault.file
    return (⟨rank, [.terminal, .file path]⟩, tree)

/-- The name above all loggers. -/
def rootLogger : String := "api_bindgen"

/-- The full name of a logger: below the name above all loggers, unless it is there already. -/
def loggerName (name : String) : String :=
  if name = rootLogger ∨ (rootLogger ++ ".").toList.isPrefixOf name.toList then name
  else rootLogger ++ "." ++ name

end HostBindings
