import HostBindings.Files.Tree
import HostBindings.Log
import HostBindings.Text.Order

/-!
# Inputs of a batch

The documents of a batch are named by paths: a file stands for itself, a directory for the JSON
files directly in it. No document is taken twice, however its path is spelt.

## Main definitions

* `InputFault` — why inputs cannot be told
* `Inputs.candidates` — the files that one path stands for
* `Inputs.distinct` — paths of which no two lead to one place
* `Inputs.discover` — the documents that paths stand for
-/

namespace HostBindings

variable [WorkingDirectory]

/-- Why the inputs of a batch cannot be told. -/
inductive InputFault where
  /-- Nothing is at a path. -/
  | missing (path : String)
  /-- It cannot be found out what is at a path. -/
  | unreachable (fault : FileFault)
  deriving DecidableEq, Repr

/-- The wording of a fault. -/
def InputFault.message : InputFault → String
  | .missing path => s!"Input not found: {path}"
  | .unreachable fault => fault.message

namespace Inputs

/-- Whether a name is one of a JSON file. -/
def isJsonName (name : String) : Bool := ".json".toList.isSuffixOf name.toList

/-- The JSON files directly in a directory, in the order of their names. What has the name of one is
looked at, whether it is a file or not. -/
def jsonFiles (tree : FileTree) (directory : Path) : Except FileFault (List Path) :=
  match tree.locate directory with
  | .error _ => .ok []
  | .ok place => do
    let names := sortTexts ((tree.childrenOf place).filter isJsonName)
    let files := names.map directory.child
    files.forM fun path => (tree.probe path).map fun _ => ()
    return files.filter tree.isFile

/-- The files that one path stands for. -/
def candidates (tree : FileTree) (text : String) : Attempt InputFault (List Path) := do
  let path := Path.ofString text
  match tree.probe path with
  | .error fault => throw (.unreachable fault)
  | .ok none =>
    let fault := InputFault.missing path.text
    report .error fault.message
    throw fault
  | .ok (some (.file _)) => return [path]
  | .ok (some .directory) =>
    let files ← Attempt.ofExcept ((jsonFiles tree path).mapError .unreachable)
    if files.isEmpty then report .warning s!"No schema files in directory: {path.text}"
    return files

/-- The place a path leads to, if it leads anywhere. -/
def placeOf? (tree : FileTree) (path : Path) : Option Place := (tree.locate path).toOption

/-- The paths that lead to none of the places in `seen` and to no place of a path before. -/
def distinctFrom (tree : FileTree) (seen : List (Option Place)) : List Path → List Path
  | [] => []
  | path :: rest =>
    let place := placeOf? tree path
    if place ∈ seen then distinctFrom tree seen rest
    else path :: distinctFrom tree (place :: seen) rest

/-- The paths of which none leads to the place of one before. -/
def distinct (tree : FileTree) (paths : List Path) : List Path := distinctFrom tree [] paths

/-- The documents that paths stand for, in order of first occurrence. -/
def discover (tree : FileTree) (paths : List String) : Attempt InputFault (List Path) := do
  let found ← paths.mapM (candidates tree)
  return distinct tree found.flatten

end Inputs

end HostBindings
