import HostBindings.Text.Lines

/-!
# Paths

A path names a place by its components, from a root or from the current directory. Repeated
separators and components that stay in place do not count; a component that leads upwards is kept.

## Main definitions

* `Path`, `Path.ofString`, `Path.text`
* `Path.name`, `Path.stem`, `Path.extension`, `Path.parent`, `Path.child`
* `Path.straight` — without components that lead back upwards
-/

namespace HostBindings

/-- A path. -/
structure Path where
  /-- Whether it starts at the root. -/
  absolute : Bool := false
  /-- The components, none of them empty or a single dot. -/
  parts : List String := []
  deriving DecidableEq, Repr, Inhabited

namespace Path

/-- The path that a text names. -/
def ofString (text : String) : Path :=
  let chars := text.toList
  let parts := (Text.splitOn '/' chars).filter fun part => part ≠ [] && part ≠ ['.']
  { absolute := chars.head? == some '/', parts := parts.map String.ofList }

/-- The text of a path; the current directory is a single dot. -/
def text (path : Path) : String :=
  match path.absolute, path.parts with
  | true, parts => "/" ++ "/".intercalate parts
  | false, [] => "."
  | false, parts => "/".intercalate parts

/-- The last component; empty for the current directory and the root. -/
def name (path : Path) : String := path.parts.getLast?.getD ""

/-- The path without its last component. -/
def parent (path : Path) : Path := { path with parts := path.parts.dropLast }

/-- A path below another. -/
def child (path : Path) (component : String) : Path :=
  { path with parts := path.parts ++ [component] }

/-- A path with another path appended. An absolute path stands for itself. -/
def append (path other : Path) : Path :=
  if other.absolute then other else { path with parts := path.parts ++ other.parts }

/-- Components, from left to right, with one more. A component that leads upwards takes back the one
before it; where there is none to take back, a path from the root stays at the root and any other
path goes above the directory it starts in. -/
def takeBack (absolute : Bool) (parts : List String) (part : String) : List String :=
  if part ≠ ".." then parts ++ [part]
  else match parts.getLast? with
    | none => if absolute then [] else [part]
    | some last => if last = ".." then parts ++ [part] else parts.dropLast

/-- A path as it is spelt: a component that leads upwards takes back the one before it, whether that
exists or not. -/
def straight (path : Path) : Path :=
  { path with parts := path.parts.foldl (takeBack path.absolute) [] }

/-- A name split at its last dot. A dot at either end does not count. -/
def splitName (name : String) : String × String :=
  let reversed := name.toList.reverse
  let tail := reversed.takeWhile (· != '.')
  let rest := reversed.drop tail.length
  match tail, rest with
  | [], _ => (name, "")
  | _, [] => (name, "")
  | _, [_] => (name, "")
  | _, _ :: stem => (String.ofList stem.reverse, String.ofList ('.' :: tail.reverse))

/-- The last component without its extension. -/
def stem (path : Path) : String := (splitName path.name).1

/-- The extension of the last component, with its dot; empty if there is none. -/
def extension (path : Path) : String := (splitName path.name).2

end Path

end HostBindings
