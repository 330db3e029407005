import HostBindings.Files.Path
import HostBindings.Text.Quoted

/-!
# File trees

The files and directories of a file system, as a value. Paths that do not begin at the root begin in
the working directory, so a file can be named by paths of several kinds, which all lead to its one
place. There are no links. Operations that a file system would refuse are refused with the cause and
the path they were asked for.

A file keeps octets, and its content is the text that they encode; octets that encode no text are
kept in it as halves of surrogate pairs. Such a file cannot be read, and what is written has to be a
text that can be encoded.

## Main definitions

* `WorkingDirectory` — where paths that do not begin at the root begin
* `FileTree`, `FileNode` — the tree: places, given by their components, and what is there
* `FileFault` — why an operation is refused; `FileFault.message` its wording
* `FileTree.read`, `FileTree.write` — the text of a file; `FileTree.putFile` its content
* `FileTree.makeDirectories` — a directory with all directories above it
* `FileTree.createTemporary`, `FileTree.replaceFile` — writing a file as a whole
* `FileTree.childrenOf` — the names in a directory
* `FileTree.ofFiles`, `FileTree.beyond` — trees made of files, and what is new in a tree
-/

namespace HostBindings

/-- What can be at a place. The content of a file may have octets in it that encode no text. -/
inductive FileNode where
  | directory
  | file (content : String)
  deriving DecidableEq, Repr

/-- The components of a place, from the root on; the root has none. -/
abbrev Place := List String

/-- The greatest length of a component, in bytes. -/
def nameLimit : Nat := 255

/-- The length that paths stay below, in bytes. -/
def pathLimit : Nat := 4096

/-- A name that something in a directory can have. -/
structure IsFileName (name : String) : Prop where
  /-- It does not lead upwards. -/
  forwards : name ≠ ".."
  /-- It has no slash in it. -/
  single : '/' ∉ name.toList
  /-- It has no null character. -/
  plain : '\x00' ∉ name.toList
  /-- It is not too long. -/
  short : ¬ nameLimit < name.utf8ByteSize

instance (name : String) : Decidable (IsFileName name) :=
  decidable_of_iff (name ≠ ".." ∧ '/' ∉ name.toList ∧ '\x00' ∉ name.toList ∧
      ¬ nameLimit < name.utf8ByteSize)
    ⟨fun ⟨forwards, single, plain, short⟩ => ⟨forwards, single, plain, short⟩,
      fun ⟨forwards, single, plain, short⟩ => ⟨forwards, single, plain, short⟩⟩

/-- The directory in which paths that do not begin at the root begin. It is the same for all that is
done in a run. -/
class WorkingDirectory where
  /-- Its components. -/
  place : Place
  /-- Each is a name. -/
  names : ∀ name ∈ place, IsFileName name

/-- The root as the working directory. -/
abbrev WorkingDirectory.root : WorkingDirectory := ⟨[], fun _ member => nomatch member⟩

/-- The directory that a path from the root names, as the working directory. -/
abbrev WorkingDirectory.ofPath (path : Path) : WorkingDirectory where
  place := path.parts.filter fun name => decide (IsFileName name)
  names _ member := of_decide_eq_true (List.mem_filter.mp member).2

namespace Place

/-- The place below a directory. -/
def below (place : Place) (name : String) : Place := place ++ [name]

/-- The directory that a place is in. There is none above the root. -/
def above (place : Place) : Place := place.dropLast

/-- Whether a place is a directory in every tree: the working directory, or one above it. -/
def isGround [here : WorkingDirectory] (place : Place) : Bool := place.isPrefixOf here.place

/-- A component as it is shown. Only the names of temporary files have slashes in them, which tell
them apart from all others. -/
def shownName (name : String) : String := String.ofList (name.toList.filter (· ≠ '/'))

/-- The text of a place, from the working directory on if it is in it. -/
def text [here : WorkingDirectory] (place : Place) : String :=
  let shown := fun (names : List String) => "/".intercalate (names.map shownName)
  if here.place.isPrefixOf place then shown (place.drop here.place.length) else "/" ++ shown place

end Place

/-- Places and what is there. Each place is listed at most once. -/
structure FileTree where
  /-- The entries, in order of creation. -/
  entries : List (Place × FileNode) := []
  deriving Inhabited

/-- Why an operation is refused, with the path as it was given. -/
inductive FileFault where
  | missing (path : String)
  | exists (path : String)
  | notDirectory (path : String)
  | isDirectory (path : String)
  | ontoDirectory (source target : String)
  | ontoGround (source target : String)
  | longName (path : String)
  /-- A path with a character that no path may have. -/
  | nullCharacter
  /-- A file whose octets encode no text. -/
  | undecodable (fault : Text.EncodingFault)
  /-- A text that cannot be encoded. -/
  | unencodable (fault : Text.EncodingFault)
  deriving DecidableEq, Repr

/-- The wording of a refusal. -/
def FileFault.message : FileFault → String
  | .missing path => s!"[Errno 2] No such file or directory: {Text.display path}"
  | .exists path => s!"[Errno 17] File exists: {Text.display path}"
  | .notDirectory path => s!"[Errno 20] Not a directory: {Text.display path}"
  | .isDirectory path => s!"[Errno 21] Is a directory: {Text.display path}"
  | .ontoDirectory source target =>
    s!"[Errno 21] Is a directory: {Text.display source} -> {Text.display target}"
  | .ontoGround source target =>
    s!"[Errno 16] Device or resource busy: {Text.display source} -> {Text.display target}"
  | .longName path => s!"[Errno 36] File name too long: {Text.display path}"
  | .nullCharacter => "embedded null byte"
  | .undecodable fault => s!"'utf-8' codec can't decode the octets at character {fault.position}"
  | .unencodable fault => fault.message

/-- Whether an operation is refused by the file system, and not because no path is like the one
given, or because there is no text to read or to write. -/
def FileFault.isRefusal : FileFault → Bool
  | .nullCharacter | .undecodable _ | .unencodable _ => false
  | _ => true

namespace FileTree

variable [WorkingDirectory]

/-- What is at a place. -/
def at? (tree : FileTree) (place : Place) : Option FileNode :=
  if place.isGround then some .directory else tree.entries.lookup place

/-- The tree with a place set. -/
def set (tree : FileTree) (place : Place) (node : FileNode) : FileTree :=
  if (tree.entries.lookup place).isSome then
    ⟨tree.entries.map fun entry => if entry.1 == place then (place, node) else entry⟩
  else ⟨tree.entries ++ [(place, node)]⟩

/-- The tree without a place. -/
def erase (tree : FileTree) (place : Place) : FileTree :=
  ⟨tree.entries.filter fun entry => entry.1 != place⟩

/-- Where a walk along components leads, starting from a place. Every component but the last has to
be a directory; a component that leads upwards gives the place above. -/
def walk (tree : FileTree) (path : String) : Place → List String → Except FileFault Place
  | place, [] => .ok place
  | place, part :: rest =>
    match tree.at? place with
    | none => .error (.missing path)
    | some (.file _) => .error (.notDirectory path)
    | some .directory =>
      if nameLimit < part.utf8ByteSize then .error (.longName path)
      else if part = ".." then walk tree path place.above rest
      else walk tree path (place.below part) rest

/-- The place that a path names. -/
def locate (tree : FileTree) (path : Path) : Except FileFault Place :=
  let text := path.text
  if text.toList.contains '\x00' then .error .nullCharacter
  else if pathLimit ≤ text.utf8ByteSize then .error (.longName text)
  else walk tree text (if path.absolute then [] else WorkingDirectory.place) path.parts

/-- What is at a path, if it leads anywhere. -/
def find? (tree : FileTree) (path : Path) : Option FileNode :=
  match tree.locate path with
  | .ok place => tree.at? place
  | .error _ => none

/-- What is at a path, if anything. Only a name that is too long keeps this from being found out. -/
def probe (tree : FileTree) (path : Path) : Except FileFault (Option FileNode) :=
  match tree.locate path with
  | .ok place => .ok (tree.at? place)
  | .error (.longName shown) => .error (.longName shown)
  | .error _ => .ok none

/-- Whether there is something at a path. -/
def has (tree : FileTree) (path : Path) : Bool := (tree.find? path).isSome

/-- Whether there is a directory at a path. -/
def isDirectory (tree : FileTree) (path : Path) : Bool := tree.find? path == some .directory

/-- Whether there is a file at a path. -/
def isFile (tree : FileTree) (path : Path) : Bool :=
  match tree.find? path with
  | some (.file _) => true
  | _ => false

/-- The text of a file. -/
def read (tree : FileTree) (path : Path) : Except FileFault String := do
  match tree.at? (← tree.locate path) with
  | none => .error (.missing path.text)
  | some .directory => .error (.isDirectory path.text)
  | some (.file content) =>
    match Text.encodingFault? content with
    | some fault => .error (.undecodable fault)
    | none => return content

/-- The tree with a file of a certain content, whether it was there or not. -/
def putFile (tree : FileTree) (path : Path) (content : String) : Except FileFault FileTree := do
  let place ← tree.locate path
  if tree.at? place = some .directory then .error (.isDirectory path.text)
  else return tree.set place (.file content)

/-- The tree with a text written to a file, whether it was there or not. The file is opened
first. -/
def write (tree : FileTree) (path : Path) (text : String) : Except FileFault FileTree := do
  let written ← tree.putFile path text
  match Text.encodingFault? text with
  | some fault => .error (.unencodable fault)
  | none => return written

/-- The tree with a file opened for appending: it is created if it is not there. -/
def touch (tree : FileTree) (path : Path) : Except FileFault FileTree := do
  let place ← tree.locate path
  match tree.at? place with
  | some .directory => .error (.isDirectory path.text)
  | some (.file _) => return tree
  | none => return tree.set place (.file "")

/-- The tree with one directory more. -/
def makeDirectory (tree : FileTree) (path : Path) : Except FileFault FileTree := do
  let place ← tree.locate path
  if (tree.at? place).isSome then .error (.exists path.text)
  else return tree.set place .directory

/-- Makes a directory and all directories above it, for a path given by its components in reverse. A
path that is a directory already is left as it is. What was made before a refusal stays. -/
def makeDirectoriesUp (tree : FileTree) (absolute : Bool) :
    List String → Except FileFault Unit × FileTree
  | [] => (.ok (), tree)
  | part :: above =>
    let path : Path := { absolute, parts := (part :: above).reverse }
    match tree.makeDirectory path with
    | .ok made => (.ok (), made)
    | .error (.missing _) =>
      match makeDirectoriesUp tree absolute above with
      | (.error fault, below) => (.error fault, below)
      | (.ok (), below) =>
        match below.makeDirectory path with
        | .ok made => (.ok (), made)
        -- the path may lead to a directory that was made on the way
        | .error fault => (if below.isDirectory path then .ok () else .error fault, below)
    | .error fault => (if tree.isDirectory path then .ok () else .error fault, tree)

/-- Makes a directory and all directories above it. The answer has the tree also where that is
refused, since some of the directories may have been made. -/
def makeDirectories (tree : FileTree) (path : Path) : Except FileFault Unit × FileTree :=
  tree.makeDirectoriesUp path.absolute path.parts.reverse

/-- The name of a temporary file, told apart from others by a number. In a file system random
characters make it unlike every other name; here slashes do, which no component of a path has. -/
def temporaryName (name : String) (number : Nat) : String :=
  s!".{name}.TMP" ++ String.ofList (List.replicate (number + 1) '/') ++ ".tmp"

/-- A number by which a temporary file is not yet there: the least one, which is at most the number
of entries. -/
def freeNumber (tree : FileTree) (directory : Place) (name : String) : Nat :=
  let taken := fun number => (tree.at? (directory.below (temporaryName name number))).isSome
  ((List.range (tree.entries.length + 1)).find? fun number => !taken number).getD 0

/-- How messages name a temporary file: without what tells it apart from others, in its directory as
that is spelt. -/
def temporaryLabel (path : Path) : String :=
  (path.parent.straight.child (Place.shownName (temporaryName path.name 0))).text

/-- The tree with a new empty temporary file beside a path, and its place. -/
def createTemporary (tree : FileTree) (path : Path) : Except FileFault (Place × FileTree) := do
  if path.name.toList.contains '\x00' then throw .nullCharacter
  let directory ← tree.locate path.parent
  match tree.at? directory with
  | none => .error (.missing (temporaryLabel path))
  | some (.file _) => .error (.notDirectory (temporaryLabel path))
  | some .directory =>
    -- eight more characters make the name of a temporary file unlike all others
    if nameLimit < path.name.utf8ByteSize + 14 then .error (.longName (temporaryLabel path))
    else
      let place := directory.below (temporaryName path.name (tree.freeNumber directory path.name))
      return (place, tree.set place (.file ""))

/-- The tree with a temporary file moved onto a path, replacing what file is there. -/
def replaceFile (tree : FileTree) (temporary : Place) (path : Path) :
    Except FileFault FileTree := do
  let place ← tree.locate path
  match tree.at? temporary with
  | some (.file content) =>
    if path.name = "" ∨ path.name = ".." then
      .error (.ontoGround (temporaryLabel path) path.text)
    else if tree.at? place = some .directory then
      .error (.ontoDirectory (temporaryLabel path) path.text)
    else return (tree.set place (.file content)).erase temporary
  | _ => .error (.missing (temporaryLabel path))

/-- The names in a directory; that on the way to the working directory is one of them. -/
def childrenOf (tree : FileTree) (place : Place) : List String :=
  (if place.isGround then WorkingDirectory.place[place.length]? else none).toList ++
    tree.entries.filterMap fun entry =>
      if entry.1.dropLast = place ∧ entry.1 ≠ [] then entry.1.getLast? else none

/-- The tree with a file, and with all directories above it. Where that cannot be, the tree is left
as it is. -/
def withFile (tree : FileTree) (path : Path) (content : String) : FileTree :=
  match tree.makeDirectories path.parent with
  | (.ok (), below) => (below.putFile path content).toOption.getD tree
  | (.error _, _) => tree

/-- The tree with a directory and all directories above it, where that can be. -/
def withDirectory (tree : FileTree) (path : Path) : FileTree :=
  match tree.makeDirectories path with
  | (.ok (), made) => made
  | (.error _, _) => tree

/-- The tree of files, given by their paths, and of directories. -/
def ofFiles (files : List (Path × String)) (directories : List Path) : FileTree :=
  directories.foldl withDirectory
    (files.foldl (fun tree file => tree.withFile file.1 file.2) {})

/-- What is in a tree and not in another. -/
def beyond (tree before : FileTree) : List (Place × FileNode) :=
  tree.entries.filter fun entry => before.at? entry.1 != some entry.2

/-- The files in a tree that are not in another with the same content. -/
def filesBeyond (tree before : FileTree) : List (Place × String) :=
  (tree.beyond before).filterMap fun (place, node) =>
    match node with
    | .file content => some (place, content)
    | .directory => none

end FileTree

end HostBindings
