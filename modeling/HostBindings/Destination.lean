import HostBindings.Api.Basic
import HostBindings.Files.Tree
import HostBindings.Log
import HostBindings.Sink
import HostBindings.Template.Library

/-!
# Destinations

Where the text of blocks goes. A destination is opened for a block before the block is generated;
then the text is committed as a whole, or the destination is released and nothing is kept.

## Main definitions

* `HeaderFault` — why a file has no header
* `SinkError` — why a destination cannot be opened or does not take a text
* `OpenFault` — a destination that is not opened, or that ends the run
* `Destination` — a destination with a state of its own
* `Destination.toUnit` — one unit for all blocks
-/

namespace HostBindings

open Api (Block)

/-- Why a file has no header. -/
inductive HeaderFault where
  /-- Its imports cannot be sorted. -/
  | imports (fault : UseFault)
  /-- It cannot be rendered. -/
  | template (error : Template.RenderError)
  deriving DecidableEq, Repr

/-- The wording of a fault. -/
def HeaderFault.message : HeaderFault → String
  | .imports fault => fault.message
  | .template error => error.message

/-- Why a text is not taken. -/
inductive CommitFault where
  /-- A file operation is refused. -/
  | file (fault : FileFault)
  /-- The file has no header. -/
  | header (fault : HeaderFault)
  /-- The destination gives a reason of its own. -/
  | refused (reason : String)
  deriving DecidableEq, Repr

/-- The wording of a fault. -/
def CommitFault.message : CommitFault → String
  | .file fault => fault.message
  | .header fault => fault.message
  | .refused reason => reason

/-- Why a destination cannot be opened, or does not take the text of a block. -/
inductive SinkError where
  /-- The file was written for another block before. -/
  | claimed (path blockName : String)
  /-- The file cannot be opened. -/
  | unopened (path : String) (fault : FileFault)
  /-- The text is not taken. -/
  | uncommitted (blockName : String) (fault : CommitFault)
  /-- The destination gives a reason of its own. -/
  | refused (reason : String)
  deriving DecidableEq, Repr

/-- The wording of an error. -/
def SinkError.message : SinkError → String
  | .claimed path blockName => s!"{path} is already written by block {blockName}"
  | .unopened path fault => s!"Cannot open {path}: {fault.message}"
  | .uncommitted blockName fault => s!"Failed to write output for {blockName}: {fault.message}"
  | .refused reason => reason

/-- Why a destination is not opened. -/
inductive OpenFault where
  /-- The destination refuses the block. -/
  | sink (error : SinkError)
  /-- The path is like none that a file can have. Nothing is expected to go well after that. -/
  | path (fault : FileFault)
  deriving DecidableEq, Repr

/-- The wording of a fault. -/
def OpenFault.message : OpenFault → String
  | .sink error => error.message
  | .path fault => fault.message

/-- A destination for blocks: `σ` is its state, and `η` what it keeps for a block while that is
generated. -/
structure Destination (σ η : Type) where
  /-- Opens the destination for a block of a certain symbol. -/
  openFor : Block → String → σ → Except OpenFault η × σ
  /-- What is reported of an opening. -/
  opened : η → Log := fun _ => []
  /-- Commits the text of a sink. -/
  commit : η → Sink → σ → Except SinkError Unit × σ
  /-- Releases the destination, keeping nothing of the block. -/
  release : η → σ → σ := fun _ state => state

/-- One unit that takes the text of every block. -/
def Destination.toUnit : Destination DeclarationUnit Unit where
  openFor _ _ unit := (.ok (), unit)
  commit _ sink unit := (.ok (), unit.commit sink)

end HostBindings
