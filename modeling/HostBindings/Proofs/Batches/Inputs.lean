import HostBindings.Inputs
import HostBindings.Proofs.Attempts
import HostBindings.Proofs.Files.Obstacles

/-!
# What an input stands for

A file stands for itself, and a directory for the JSON files directly in it, in the order of their
names. A file in a directory is spelt below the directory as that was given. Where this is too long
for a path, nothing can be found out about the file, and the directory stands for nothing at all.

In a file system no name is too long or has a slash in it. For the names of JSON files in a tree
this is asked here; it holds of all trees that are made of files.

## Main definitions

* `Inputs.Named` — trees in which what has the name of a JSON file can be a component of a path
* `Inputs.Gives`, `Inputs.StandsFor` — what an input stands for
* `Inputs.WithinLimit` — no path of what has the name of a JSON file is too long
* `Inputs.expand` — the files that an input stands for, apart from the log

## Main results

* `Inputs.named_ofFiles` — trees made of files are named
* `Inputs.locate_member` — where the path of what is in a directory leads
* `Inputs.exists_standsFor`, `Inputs.withinLimit_of_expand`, `Inputs.longName_of_expand` — what an
  input stands for is found exactly within the limit
-/

namespace HostBindings

namespace FileTree

variable {tree : FileTree} {path : Path} {place : Place} {name : String}

variable [WorkingDirectory]

/-- Below a directory on the way to the working directory there is one more, unless that is it. -/
theorem isGround_below : (place.below name).isGround = true ↔
    place.isGround = true ∧ WorkingDirectory.place[place.length]? = some name := by
  simp only [Place.isGround, List.isPrefixOf_iff_prefix, Place.below]
  constructor
  · rintro ⟨rest, whole⟩
    rw [List.append_assoc, List.singleton_append] at whole
    exact ⟨⟨name :: rest, whole⟩, by simp [← whole]⟩
  · rintro ⟨⟨rest, whole⟩, next⟩
    rw [← whole, List.getElem?_append_right le_rfl, Nat.sub_self] at next
    cases rest with
    | nil => cases next
    | cons first rest =>
      cases next
      exact ⟨rest, by simpa using whole⟩

/-- The names in a directory are those of the entries directly below it, and that on the way to the
working directory. -/
theorem mem_childrenOf : name ∈ tree.childrenOf place ↔
    (place.below name).isGround = true ∨ ∃ node, (place.below name, node) ∈ tree.entries := by
  unfold childrenOf
  rw [List.mem_append, isGround_below, List.mem_filterMap]
  refine or_congr ?_ ?_
  · split <;> simp [*]
  · constructor
    · rintro ⟨⟨whole, node⟩, member, last⟩
      split at last
      next inside =>
        obtain ⟨upper, rfl⟩ := List.getLast?_eq_some_iff.mp last
        rw [List.dropLast_concat] at inside
        exact ⟨node, inside.1 ▸ member⟩
      next => cases last
    · rintro ⟨node, member⟩
      exact ⟨_, member, by simp [Place.below]⟩

theorem isFile_iff : tree.isFile path = true ↔
    ∃ place content, tree.locate path = .ok place ∧ tree.at? place = some (.file content) := by
  unfold isFile find?
  cases tree.locate path with
  | error fault => simp
  | ok place => rcases there : tree.at? place with _ | _ | _ <;> simp [there]

theorem has_iff : tree.has path = true ↔
    ∃ place node, tree.locate path = .ok place ∧ tree.at? place = some node := by
  unfold has find?
  cases tree.locate path with
  | error fault => simp
  | ok place => simp [Option.isSome_iff_exists]

/-- Only what is too long keeps a path from being looked at. -/
theorem longName_of_probe {fault : FileFault} (refused : tree.probe path = .error fault) :
    ∃ shown, fault = .longName shown := by
  unfold probe at refused
  split at refused
  · cases refused
  · cases refused
    exact ⟨_, rfl⟩
  · cases refused

/-- No component of a path that leads anywhere is too long. -/
theorem short_of_locate (led : tree.locate path = .ok place) (member : name ∈ path.parts) :
    ¬ nameLimit < name.utf8ByteSize := by
  rw [locate_of_sound _ (isSound_of_locate led)] at led
  obtain ⟨before, after, split⟩ := List.append_of_mem member
  rw [split] at led
  obtain ⟨base, -, led⟩ := walk_append led
  exact (walk_cons_eq_ok.mp led).2.1

end FileTree

namespace Inputs

variable {tree after : FileTree} {texts : List String} {text name : String} {path : Path}
  {place : Place} {files : List Path}

/-! ### Names -/

/-- What has the name of a JSON file in a tree can be a component of a path. -/
def Named (tree : FileTree) : Prop :=
  ∀ entry ∈ tree.entries, ∀ name ∈ entry.1.getLast?, isJsonName name = true → IsFileName name

/-- A name is not one of a JSON file if it is too short. -/
theorem length_of_isJsonName (json : isJsonName name = true) : 5 ≤ name.toList.length := by
  have ends : ".json".toList <:+ name.toList := List.isSuffixOf_iff_suffix.mp json
  exact ends.length_le

theorem ne_of_isJsonName {other : String} (json : isJsonName name = true)
    (few : other.toList.length < 5) : name ≠ other := by
  rintro rfl
  exact absurd (length_of_isJsonName json) (Nat.not_le.mpr few)

variable [WorkingDirectory]

theorem Named.isFileName (named : Named tree) (inside : name ∈ tree.childrenOf place)
    (json : isJsonName name = true) : IsFileName name := by
  rcases FileTree.mem_childrenOf.mp inside with ground | ⟨node, member⟩
  · exact WorkingDirectory.names name
      (List.mem_of_getElem? (FileTree.isGround_below.mp ground).2)
  · exact named _ member name (by simp [Place.below]) json

/-- The components of a place that a path leads to can be components of a path. -/
theorem isFileName_of_locate (proper : path.IsProper) (led : tree.locate path = .ok place)
    (member : name ∈ place) : IsFileName name := by
  rw [FileTree.locate_eq_place led] at member
  rcases Path.mem_place member with start | ⟨part, forwards⟩
  · exact Path.isFileName_of_mem_origin start
  · refine ⟨forwards, (proper name part).single, fun null => ?_,
      FileTree.short_of_locate led part⟩
    exact (FileTree.isSound_of_locate led).plain (Path.mem_text part null)

/-- What is put where a path leads has a name. -/
theorem Named.set (named : Named tree) (proper : path.IsProper)
    (led : tree.locate path = .ok place) (node : FileNode) : Named (tree.set place node) := by
  have new (name : String) (last : name ∈ place.getLast?) (json : isJsonName name = true) :
      IsFileName name :=
    isFileName_of_locate proper led (List.mem_of_getLast? last)
  intro entry member
  unfold FileTree.set at member
  split at member
  · obtain ⟨old, oldMember, rfl⟩ := List.mem_map.mp member
    split
    · exact new
    · exact named old oldMember
  · rcases List.mem_append.mp member with old | last
    · exact named entry old
    · rw [List.mem_singleton.mp last]
      exact new

theorem Named.makeDirectory (named : Named tree) (proper : path.IsProper)
    (made : tree.makeDirectory path = .ok after) : Named after := by
  obtain ⟨place, led, -, rfl⟩ := FileTree.makeDirectory_eq_ok.mp made
  exact named.set proper led .directory

theorem Named.putFile {content : String} (named : Named tree) (proper : path.IsProper)
    (put : tree.putFile path content = .ok after) : Named after := by
  obtain ⟨place, led, -, rfl⟩ := FileTree.putFile_eq_ok.mp put
  exact named.set proper led (.file content)

theorem Named.makeDirectories (named : Named tree) (proper : path.IsProper) :
    Named (tree.makeDirectories path).2 := by
  obtain ⟨absolute, parts⟩ := path
  -- the components are gone through from the last one, as the directories above are made first
  induction parts using List.reverseRecOn with
  | nil => exact named
  | append_singleton upper part ih =>
    have whole := FileTree.makeDirectories_child tree ⟨absolute, upper⟩ part
    have above : Named (tree.makeDirectories ⟨absolute, upper⟩).2 :=
      ih fun name member => proper name (List.mem_append_left _ member)
    change Named (tree.makeDirectories (Path.child ⟨absolute, upper⟩ part)).2
    rw [whole]
    split
    next made => exact named.makeDirectory proper made
    next =>
      split
      next refused => rwa [refused] at above
      next below made =>
        rw [made] at above
        split
        next last => exact above.makeDirectory proper last
        next => exact above
    next => exact named

/-- Trees made of files and directories are named. -/
theorem named_ofFiles {given : List (Path × String)} {directories : List Path}
    (files : ∀ file ∈ given, file.1.IsProper) (upper : ∀ path ∈ directories, path.IsProper) :
    Named (FileTree.ofFiles given directories) := by
  -- a step that fails leaves the tree, and one that succeeds only adds the parts of its path
  have withFile {tree : FileTree} (named : Named tree) (file : Path × String)
      (proper : file.1.IsProper) : Named (tree.withFile file.1 file.2) := by
    have above : Named (tree.makeDirectories file.1.parent).2 :=
      named.makeDirectories fun part member => proper part (List.mem_of_mem_dropLast member)
    unfold FileTree.withFile
    split
    next below made =>
      rw [made] at above
      cases put : below.putFile file.1 file.2 with
      | error fault => exact named
      | ok after => exact above.putFile proper put
    next => exact named
  have withDirectory {tree : FileTree} (named : Named tree) (path : Path)
      (proper : path.IsProper) : Named (tree.withDirectory path) := by
    have made := named.makeDirectories proper
    unfold FileTree.withDirectory
    split
    next whole => rwa [whole] at made
    next => exact named
  unfold FileTree.ofFiles
  refine List.foldlRecOn directories _ ?_ fun tree named path member =>
    withDirectory named path (upper path member)
  exact List.foldlRecOn given _ (fun entry member => by cases member) fun tree named file member =>
    withFile named file (files file member)

/-! ### What inputs stand for -/

/-- What an input stands for: a file as it is spelt, or a file directly in a directory, with the
name of a JSON file. The place is where the file is. -/
inductive Gives (tree : FileTree) (text : String) : Path → Place → Prop where
  /-- A file. -/
  | file {place : Place} {content : String} : tree.locate (.ofString text) = .ok place →
      tree.at? place = some (.file content) → Gives tree text (.ofString text) place
  /-- A file in a directory. -/
  | member {place : Place} {name content : String} : tree.locate (.ofString text) = .ok place →
      tree.at? place = some .directory → isJsonName name = true →
      tree.at? (place.below name) = some (.file content) →
      Gives tree text ((Path.ofString text).child name) (place.below name)

/-- The files that one input stands for: all of them, sorted by their names. -/
structure StandsFor (tree : FileTree) (text : String) (files : List Path) : Prop where
  /-- They are what the input stands for. -/
  mem_iff {path : Path} : path ∈ files ↔ ∃ place, Gives tree text path place
  /-- They are in the order of their names. -/
  sorted : files.Pairwise fun first second => first.name ≤ second.name

/-- The paths of what has the name of a JSON file in a directory that is given are not too long. -/
def WithinLimit (tree : FileTree) (text : String) : Prop :=
  ∀ place, tree.locate (.ofString text) = .ok place → tree.at? place = some .directory →
    ∀ name ∈ tree.childrenOf place, isJsonName name = true →
      ((Path.ofString text).child name).text.utf8ByteSize < pathLimit

/-- In a directory, what has the name of a JSON file has a path that leads there, if it is not too
long. -/
theorem locate_member (named : Named tree) (led : tree.locate path = .ok place)
    (directory : tree.at? place = some .directory) (json : isJsonName name = true)
    (inside : name ∈ tree.childrenOf place) :
    ((path.child name).text.utf8ByteSize < pathLimit →
      tree.locate (path.child name) = .ok (place.below name)) ∧
    (pathLimit ≤ (path.child name).text.utf8ByteSize →
      tree.locate (path.child name) = .error (.longName (path.child name).text)) := by
  have fits := named.isFileName inside json
  -- neither the directory nor the name has a character for which a path is refused
  have plain : '\x00' ∉ (path.child name).text.toList := fun null =>
    (Path.mem_text_child (by decide) null).elim (FileTree.isSound_of_locate led).plain fits.plain
  have place_eq := FileTree.locate_eq_place led
  constructor
  · intro short
    have there : tree.isDirectory path = true :=
      FileTree.isDirectory_iff.mpr (place_eq ▸ ⟨led, directory⟩)
    rw [FileTree.locate_child there ⟨plain, short⟩ fits.short, Path.place_child, ← place_eq,
      Place.step, if_neg fits.forwards]
  · intro long
    unfold FileTree.locate
    dsimp only
    rw [if_neg (by simpa using plain), if_pos long]

/-- A file in a directory is among what is listed there. -/
theorem mem_childrenOf_of_at? {content : String}
    (there : tree.at? (place.below name) = some (.file content)) :
    name ∈ tree.childrenOf place := by
  have other : tree.at? (place.below name) ≠ some .directory := by simp [there]
  have ground := FileTree.isGround_eq_false other
  unfold FileTree.at? at there
  rw [ground, if_neg Bool.false_ne_true] at there
  exact FileTree.mem_childrenOf.mpr (.inr ⟨_, mem_of_lookup_eq_some there⟩)

/-- What an input stands for is led to by its path. -/
theorem Gives.located (gives : Gives tree text path place) (named : Named tree)
    (within : WithinLimit tree text) : tree.locate path = .ok place := by
  cases gives with
  | file led there => exact led
  | member led directory json there =>
    have inside := mem_childrenOf_of_at? there
    exact (locate_member named led directory json inside).1 (within _ led directory _ inside json)

theorem Gives.at? (gives : Gives tree text path place) :
    ∃ content, tree.at? place = some (.file content) := by
  cases gives with
  | file led there => exact ⟨_, there⟩
  | member led directory json there => exact ⟨_, there⟩

/-- The path of what an input stands for can be read back from its text. -/
theorem Gives.isProper (gives : Gives tree text path place) (named : Named tree) :
    path.IsProper := by
  cases gives with
  | file led there => exact Path.isProper_ofString text
  | @member place name content led directory json there =>
    have fits := named.isFileName (mem_childrenOf_of_at? there) json
    refine Path.isProper_beneath (Path.isProper_ofString text) fun other here => ?_
    rw [List.mem_singleton.mp here]
    exact ⟨ne_of_isJsonName json (by decide), ne_of_isJsonName json (by decide), fits.single⟩

/-! ### One input -/

/-- The files that one path stands for. -/
def expand (tree : FileTree) (text : String) : Except InputFault (List Path) :=
  let path := Path.ofString text
  match tree.probe path with
  | .error fault => .error (.unreachable fault)
  | .ok none => .error (.missing path.text)
  | .ok (some (.file _)) => .ok [path]
  | .ok (some .directory) => (jsonFiles tree path).mapError .unreachable

/-- The files that one path stands for do not depend on the log. -/
theorem ends_candidates (tree : FileTree) (text : String) :
    (candidates tree text).Ends (expand tree text) := by
  unfold candidates expand
  dsimp only
  rcases tree.probe (Path.ofString text) with fault | _ | _ | content
  · exact Attempt.ends_throw _
  · exact Attempt.ends_bind (Attempt.ends_report _ _) fun _ => Attempt.ends_throw _
  -- whether there are files to warn of is not asked for the result
  · conv_rhs => rw [← bind_pure ((jsonFiles tree _).mapError InputFault.unreachable)]
    refine Attempt.ends_bind (Attempt.ends_ofExcept _) fun files => ?_
    split
    · exact Attempt.ends_bind (Attempt.ends_report _ _) fun _ => Attempt.ends_pure files
    · exact Attempt.ends_pure files
  · exact Attempt.ends_pure _

/-- The paths of what has the name of a JSON file in a directory, in the order of the names. -/
def listed (tree : FileTree) (path : Path) (place : Place) : List Path :=
  (sortTexts ((tree.childrenOf place).filter isJsonName)).map path.child

theorem mem_listed {path file : Path} : file ∈ listed tree path place ↔
    ∃ name ∈ tree.childrenOf place, isJsonName name = true ∧ path.child name = file := by
  simp [listed, and_assoc]

theorem sorted_listed (tree : FileTree) (path : Path) (place : Place) :
    (listed tree path place).Pairwise fun first second => first.name ≤ second.name :=
  List.pairwise_map.mpr <|
    (pairwise_sortTexts _).imp fun ordered => by simpa [Path.name, Path.child] using ordered

theorem jsonFiles_eq (led : tree.locate path = .ok place) : jsonFiles tree path = (do
    (listed tree path place).forM fun file => (tree.probe file).map fun _ => ()
    return (listed tree path place).filter tree.isFile) := by
  unfold jsonFiles
  rw [led]
  rfl

/-- Within the limit, all that has the name of a JSON file is looked at. -/
theorem forM_listed (named : Named tree) (led : tree.locate (.ofString text) = .ok place)
    (directory : tree.at? place = some .directory) (within : WithinLimit tree text) :
    (listed tree (.ofString text) place).forM (fun file => (tree.probe file).map fun _ => ()) =
      .ok () := by
  refine forM_eq_ok_iff.mpr fun file member => ?_
  obtain ⟨name, inside, json, rfl⟩ := mem_listed.mp member
  have short := within place led directory name inside json
  rw [FileTree.probe_eq ((locate_member named led directory json inside).1 short)]
  rfl

theorem standsFor_file {content : String} (led : tree.locate (.ofString text) = .ok place)
    (file : tree.at? place = some (.file content)) : StandsFor tree text [.ofString text] := by
  refine ⟨fun {path} => ?_, List.pairwise_singleton _ _⟩
  rw [List.mem_singleton]
  constructor
  · rintro rfl
    exact ⟨place, .file led file⟩
  · rintro ⟨_, gives⟩
    cases gives with
    | file => rfl
    | member other directory =>
      cases led.symm.trans other
      cases file.symm.trans directory

theorem standsFor_directory (named : Named tree) (led : tree.locate (.ofString text) = .ok place)
    (directory : tree.at? place = some .directory) (within : WithinLimit tree text) :
    StandsFor tree text ((listed tree (.ofString text) place).filter tree.isFile) := by
  have leads {name : String} (inside : name ∈ tree.childrenOf place)
      (json : isJsonName name = true) :
      tree.locate ((Path.ofString text).child name) = .ok (place.below name) :=
    (locate_member named led directory json inside).1 (within place led directory name inside json)
  refine ⟨fun {path} => ?_, (sorted_listed _ _ _).filter _⟩
  rw [List.mem_filter, mem_listed, FileTree.isFile_iff]
  -- what is listed is taken if it is a file, and that is what a directory gives
  constructor
  · rintro ⟨⟨name, inside, json, rfl⟩, other, content, led', file⟩
    cases (leads inside json).symm.trans led'
    exact ⟨_, .member led directory json file⟩
  · rintro ⟨_, gives⟩
    cases gives with
    | file other file =>
      cases led.symm.trans other
      cases directory.symm.trans file
    | @member _ name content other _ json file =>
      cases led.symm.trans other
      have inside := mem_childrenOf_of_at? file
      exact ⟨⟨name, inside, json, rfl⟩, _, content, leads inside json, file⟩

theorem expand_of_file {content : String} (led : tree.locate (.ofString text) = .ok place)
    (found : tree.at? place = some (.file content)) : expand tree text = .ok [.ofString text] := by
  simp only [expand, FileTree.probe_eq led, found]

theorem expand_of_directory (led : tree.locate (.ofString text) = .ok place)
    (found : tree.at? place = some .directory) :
    expand tree text = (jsonFiles tree (.ofString text)).mapError .unreachable := by
  simp only [expand, FileTree.probe_eq led, found]

/-- Within the limit, what an input stands for is found. -/
theorem exists_standsFor (named : Named tree) (there : tree.has (.ofString text) = true)
    (within : WithinLimit tree text) :
    ∃ files, expand tree text = .ok files ∧ StandsFor tree text files := by
  obtain ⟨place, node, led, found⟩ := FileTree.has_iff.mp there
  cases node with
  | file content => exact ⟨_, expand_of_file led found, standsFor_file led found⟩
  | directory =>
    refine ⟨_, ?_, standsFor_directory named led found within⟩
    rw [expand_of_directory led found, jsonFiles_eq led, forM_listed named led found within]
    rfl

/-- Beyond the limit, nothing is found. -/
theorem withinLimit_of_expand (named : Named tree) (found : expand tree text = .ok files) :
    WithinLimit tree text := by
  intro place led directory name inside json
  by_contra long
  have refused := (locate_member named led directory json inside).2 (Nat.not_lt.mp long)
  rw [expand_of_directory led directory] at found
  have taken := mapError_eq_ok_iff.mp found
  rw [jsonFiles_eq led] at taken
  obtain ⟨_, looked, -⟩ := bind_eq_ok_iff.mp taken
  have each := forM_eq_ok_iff.mp looked _ (mem_listed.mpr ⟨name, inside, json, rfl⟩)
  obtain ⟨_, probed, -⟩ := map_eq_ok_iff.mp each
  rw [FileTree.probe, refused] at probed
  cases probed

/-- Where something is, it is only a path that is too long that keeps it from being found. -/
theorem longName_of_expand {fault : InputFault} (there : tree.has (.ofString text) = true)
    (refused : expand tree text = .error fault) :
    ∃ shown, fault = .unreachable (.longName shown) := by
  obtain ⟨place, node, led, found⟩ := FileTree.has_iff.mp there
  cases node with
  -- a file is taken as it is, and of a directory only the paths below it can be refused
  | file content =>
    rw [expand_of_file led found] at refused
    cases refused
  | directory =>
    rw [expand_of_directory led found] at refused
    cases taken : jsonFiles tree (.ofString text) with
    | ok files =>
      rw [taken] at refused
      cases refused
    | error inner =>
      rw [taken] at refused
      cases refused
      rw [jsonFiles_eq led] at taken
      rcases bind_eq_error_iff.mp taken with looked | ⟨_, -, none⟩
      · obtain ⟨file, -, probed⟩ := exists_of_forM_eq_error looked
        cases looks : tree.probe file with
        | ok node =>
          rw [looks] at probed
          cases probed
        | error cause =>
          rw [looks] at probed
          cases probed
          obtain ⟨shown, rfl⟩ := FileTree.longName_of_probe looks
          exact ⟨shown, rfl⟩
      · cases none

end Inputs

end HostBindings
