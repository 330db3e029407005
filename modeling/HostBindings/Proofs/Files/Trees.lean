import HostBindings.Files.Tree
import HostBindings.Proofs.Files.Places
import HostBindings.Proofs.Names.Fresh
import HostBindings.Proofs.Results
import Mathlib.Data.List.Infix

/-!
# File trees that change

Operations on a tree keep its directories, and keep all files but those at the places they touch.
Where a path leads to is settled by directories alone, so a path that led to a place once leads to
it ever after, and a file that is not touched can still be read there.

## Main definitions

* `FileTree.Keeps` — the directories, and the files that are not touched, are kept
* `FileTree.Makes` — directories that a path leads through were made
* `FileTree.Holds` — a file is found some names below a path

## Main results

* `FileTree.at?_set`, `FileTree.at?_erase` — what is where after a change
* `FileTree.Keeps.locate` — paths lead where they led
* `FileTree.makes_makeDirectories` — what making directories changes
* `FileTree.keeps_makeDirectories`, `FileTree.holds_write` — what operations keep
* `FileTree.Holds.read`, `FileTree.Holds.keeps` — what is held is read, and is kept
-/

namespace HostBindings

namespace FileTree

variable {tree before middle after : FileTree} {place other : Place} {node : FileNode}

/-! ### What is where -/

theorem lookup_cons_ite (entry : Place × FileNode) (rest : List (Place × FileNode)) :
    (entry :: rest).lookup other = if other = entry.1 then some entry.2 else rest.lookup other := by
  obtain ⟨key, value⟩ := entry
  by_cases same : other = key
  · simp [same]
  · simp [List.lookup_cons, same, beq_false_of_ne same]

/-- Where the entries of a place are replaced, the others stay. -/
theorem lookup_map_replace (entries : List (Place × FileNode)) :
    (entries.map fun entry => if entry.1 == place then (place, node) else entry).lookup other =
      if other = place then (entries.lookup place).map fun _ => node
      else entries.lookup other := by
  induction entries with
  | nil => simp
  | cons entry rest ih =>
    rw [List.map_cons, lookup_cons_ite, lookup_cons_ite, lookup_cons_ite, ih]
    by_cases here : entry.1 = place
    · by_cases asked : other = place <;> simp [here, asked]
    · have elsewhere : place ≠ entry.1 := fun same => here same.symm
      by_cases asked : other = place <;> simp [here, asked, elsewhere]

theorem lookup_entries_set :
    (tree.set place node).entries.lookup other =
      if other = place then some node else tree.entries.lookup other := by
  unfold set
  cases found : tree.entries.lookup place with
  | some old => simp only [Option.isSome_some, if_true, lookup_map_replace, found, Option.map_some]
  | none =>
    simp only [Option.isSome_none, Bool.false_eq_true, if_false, List.lookup_append]
    by_cases same : other = place
    · simp [same, found]
    · simp [same, lookup_cons_ite]

theorem lookup_entries_erase :
    (tree.erase place).entries.lookup other =
      if other = place then none else tree.entries.lookup other := by
  unfold erase
  induction tree.entries with
  | nil => simp
  | cons entry rest ih =>
    by_cases here : entry.1 = place
    · rw [List.filter_cons_of_neg (by simp [here]), ih, lookup_cons_ite]
      by_cases same : other = place <;> simp [here, same]
    · rw [List.filter_cons_of_pos (by simp [here]), lookup_cons_ite, lookup_cons_ite, ih]
      have elsewhere : place ≠ entry.1 := fun same => here same.symm
      by_cases same : other = place <;> simp [same, elsewhere]

variable [WorkingDirectory]

/-- After a place is set, that is there; everywhere else is what was there before. -/
theorem at?_set (ground : place.isGround = false) :
    (tree.set place node).at? other = if other = place then some node else tree.at? other := by
  unfold at?
  by_cases same : other = place
  · simp [same, ground, lookup_entries_set]
  · simp [same, lookup_entries_set]

/-- After a place is erased, nothing is there. -/
theorem at?_erase (ground : place.isGround = false) :
    (tree.erase place).at? other = if other = place then none else tree.at? other := by
  unfold at?
  by_cases same : other = place
  · simp [same, ground, lookup_entries_erase]
  · simp [same, lookup_entries_erase]

/-- Where no directory is, a place can be set and erased. -/
theorem isGround_eq_false (other : tree.at? place ≠ some .directory) : place.isGround = false := by
  cases ground : place.isGround with
  | false => rfl
  | true => exact absurd (by simp [at?, ground]) other

theorem isGround_eq_false_of_free (free : tree.at? place = none) : place.isGround = false := by
  have other : tree.at? place ≠ some .directory := by simp [free]
  exact isGround_eq_false other

/-- Where a walk starts is a directory in every tree. -/
theorem at?_origin (tree : FileTree) (path : Path) : tree.at? path.origin = some .directory := by
  have ground : path.origin.isGround = true := by
    rw [Place.isGround, List.isPrefixOf_iff_prefix, Path.origin]
    split
    · exact List.nil_prefix
    · exact List.prefix_refl _
  rw [at?, if_pos ground]

/-! ### What is kept -/

/-- The directories of a tree are kept, and the files at places that are not touched. -/
structure Keeps (touched : Place → Prop) (before after : FileTree) : Prop where
  /-- The directories are kept. -/
  directory {place : Place} : before.at? place = some .directory →
    after.at? place = some .directory
  /-- The files are kept. -/
  file {place : Place} {content : String} : ¬ touched place →
    before.at? place = some (.file content) → after.at? place = some (.file content)

namespace Keeps

variable {touched more : Place → Prop}

@[refl] theorem refl (touched : Place → Prop) (tree : FileTree) : Keeps touched tree tree :=
  ⟨fun here => here, fun _ here => here⟩

theorem trans (first : Keeps touched before middle) (second : Keeps touched middle after) :
    Keeps touched before after :=
  ⟨fun here => second.directory (first.directory here),
    fun untouched here => second.file untouched (first.file untouched here)⟩

theorem mono (subset : ∀ place, touched place → more place) (keeps : Keeps touched before after) :
    Keeps more before after :=
  ⟨keeps.directory, fun untouched => keeps.file fun here => untouched (subset _ here)⟩

/-- Where no place is touched, none of others is. -/
theorem of_false (keeps : Keeps (fun _ => False) before after) : Keeps touched before after :=
  keeps.mono fun _ => False.elim

end Keeps

/-- Where no directory is, something may be put: other places are not touched. -/
theorem keeps_set (other : tree.at? place ≠ some .directory) :
    Keeps (· = place) tree (tree.set place node) := by
  have ground := isGround_eq_false other
  constructor
  · intro here found
    have elsewhere : here ≠ place := fun same => other (same ▸ found)
    rw [at?_set ground, if_neg elsewhere, found]
  · intro here content elsewhere found
    rw [at?_set ground, if_neg elsewhere, found]

/-- Where nothing is, something may be put: no file is touched. -/
theorem keeps_set_of_free (free : tree.at? place = none) :
    Keeps (fun _ => False) tree (tree.set place node) := by
  have keeps : Keeps (· = place) tree (tree.set place node) := keeps_set (by simp [free])
  refine ⟨keeps.directory, fun _ found => keeps.file (fun same => ?_) found⟩
  rw [same, free] at found
  cases found

theorem keeps_erase (other : tree.at? place ≠ some .directory) :
    Keeps (· = place) tree (tree.erase place) := by
  have ground := isGround_eq_false other
  constructor
  · intro here found
    have elsewhere : here ≠ place := fun same => other (same ▸ found)
    rw [at?_erase ground, if_neg elsewhere, found]
  · intro here content elsewhere found
    rw [at?_erase ground, if_neg elsewhere, found]

/-! ### Where paths lead -/

/-- One step of a walk: out of a directory, up or down. -/
theorem walk_cons_eq_ok {text part : String} {rest : List String} {start : Place} :
    tree.walk text start (part :: rest) = .ok place ↔
      tree.at? start = some .directory ∧ ¬ nameLimit < part.utf8ByteSize ∧
        tree.walk text (if part = ".." then start.above else start.below part) rest =
          .ok place := by
  rw [walk]
  split
  next missing => simp [missing]
  next file => simp [file]
  next directory => split <;> split <;> simp_all

/-- Along the same components a walk leads to the same place while directories are kept, whatever
path is named in the faults. -/
theorem Keeps.walk {touched : Place → Prop} (keeps : Keeps touched before after) {text : String}
    (text' : String) {parts : List String} {start place : Place}
    (led : before.walk text start parts = .ok place) :
    after.walk text' start parts = .ok place := by
  induction parts generalizing start with
  | nil => exact led
  | cons part rest ih =>
    obtain ⟨directory, short, led⟩ := walk_cons_eq_ok.mp led
    exact walk_cons_eq_ok.mpr ⟨keeps.directory directory, short, ih led⟩

/-- A path that leads to a place leads there while directories are kept. -/
theorem Keeps.locate {touched : Place → Prop} (keeps : Keeps touched before after) {path : Path}
    (led : before.locate path = .ok place) : after.locate path = .ok place := by
  unfold FileTree.locate at led ⊢
  dsimp only at led ⊢
  -- the text of the path is looked at first, whatever the tree is
  split at led
  · cases led
  next plain =>
    rw [if_neg plain]
    split at led
    · cases led
    next short =>
      rw [if_neg short]
      exact keeps.walk _ led

/-- A walk that does not lead upwards ends with the components it goes along. -/
theorem suffix_of_walk {text : String} {names : List String} {start : Place}
    (straight : ".." ∉ names) (led : tree.walk text start names = .ok place) :
    place = start ++ names := by
  induction names generalizing start with
  | nil =>
    cases led
    exact (List.append_nil _).symm
  | cons name rest ih =>
    obtain ⟨forwards, straight⟩ := not_or.mp (List.mem_cons.not.mp straight)
    obtain ⟨-, -, led⟩ := walk_cons_eq_ok.mp led
    rw [if_neg (Ne.symm forwards)] at led
    rw [ih straight led, Place.below, List.append_assoc, List.singleton_append]

/-- A walk along more components goes on from where the first ones lead. -/
theorem walk_append {text : String} {parts more : List String} {start : Place}
    (led : tree.walk text start (parts ++ more) = .ok place) :
    ∃ base, tree.walk text start parts = .ok base ∧ tree.walk text base more = .ok place := by
  -- the induction follows the walk, so the start moves along
  induction parts generalizing start with
  | nil => exact ⟨start, rfl, led⟩
  | cons part rest ih =>
    obtain ⟨directory, short, led⟩ := walk_cons_eq_ok.mp led
    obtain ⟨base, first, second⟩ := ih led
    exact ⟨base, walk_cons_eq_ok.mpr ⟨directory, short, first⟩, second⟩

variable {path : Path} {names more : List String} {content : String}

/-- A path that ends with names leads to a place that does, unless they lead upwards. -/
theorem suffix_of_locate (straight : ".." ∉ names)
    (led : tree.locate (path.beneath names) = .ok place) : names <:+ place := by
  unfold locate at led
  dsimp only at led
  split at led
  · cases led
  split at led
  · cases led
  obtain ⟨base, -, along⟩ := walk_append led
  exact ⟨base, (suffix_of_walk straight along).symm⟩

/-! ### What a path leads to -/

theorem find?_eq (led : tree.locate path = .ok place) : tree.find? path = tree.at? place := by
  rw [find?, led]

/-- Where a path leads, it can be looked at. -/
theorem probe_eq (led : tree.locate path = .ok place) : tree.probe path = .ok (tree.at? place) := by
  rw [probe, led]

/-- Only what is too long keeps a path from being looked at. -/
theorem probe_eq_none {fault : FileFault} (lost : tree.locate path = .error fault)
    (short : ∀ shown, fault ≠ .longName shown) : tree.probe path = .ok none := by
  rw [probe, lost]
  cases fault with
  | longName shown => exact absurd rfl (short shown)
  | _ => rfl

theorem read_of_directory (led : tree.locate path = .ok place)
    (found : tree.at? place = some .directory) :
    tree.read path = .error (.isDirectory path.text) := by
  simp only [read, led, bind, Except.bind, found]

/-- A file that is found is read, if its content is a text. -/
theorem read_of_at? (led : tree.locate path = .ok place)
    (found : tree.at? place = some (.file content)) (encodable : Text.IsEncodable content) :
    tree.read path = .ok content := by
  have plain : Text.encodingFault? content = none := encodable
  simp only [read, led, bind, Except.bind, found, plain]
  rfl

/-! ### Files below a path -/

/-- A file with a certain text is found where names lead to from a path. -/
structure Holds (tree : FileTree) (path : Path) (names : List String) (content : String) :
    Prop where
  /-- The names do not lead upwards. -/
  straight : ".." ∉ names
  /-- The text can be encoded. -/
  encodable : Text.IsEncodable content
  /-- The path leads to the file. -/
  found : ∃ place, tree.locate (path.beneath names) = .ok place ∧
    tree.at? place = some (.file content)

/-- A file that is found can be read. -/
theorem Holds.read (holds : tree.Holds path names content) :
    tree.read (path.beneath names) = .ok content := by
  obtain ⟨place, led, found⟩ := holds.found
  exact read_of_at? led found holds.encodable

/-- A file is kept by changes at places that do not end with its names. -/
theorem Holds.keeps {touched : Place → Prop} (holds : before.Holds path names content)
    (keeps : Keeps touched before after) (apart : ∀ place, names <:+ place → ¬ touched place) :
    after.Holds path names content := by
  obtain ⟨place, led, found⟩ := holds.found
  exact ⟨holds.straight, holds.encodable, place, keeps.locate led,
    keeps.file (apart place (suffix_of_locate holds.straight led)) found⟩

omit [WorkingDirectory] in
/-- A place ends with one list of names of a length only. -/
theorem eq_of_suffix_place (first : names <:+ place) (second : more <:+ place)
    (length : names.length = more.length) : names = more :=
  (List.suffix_of_suffix_length_le first second length.le).eq_of_length length

/-! ### Operations -/

/-- A directory is made where a path leads, if nothing is there. -/
theorem makeDirectory_eq_ok :
    tree.makeDirectory path = .ok after ↔ ∃ place, tree.locate path = .ok place ∧
      tree.at? place = none ∧ after = tree.set place .directory := by
  unfold makeDirectory
  rw [bind_eq_ok_iff]
  refine exists_congr fun place => and_congr_right fun _ => ?_
  split
  next there => simp [Option.isSome_iff_ne_none.mp there]
  next free => simp [Option.not_isSome_iff_eq_none.mp free, pure, Except.pure, eq_comm]

/-- Directories that a path leads through were made, and nothing else has changed. -/
def Makes (path : Path) (before after : FileTree) : Prop :=
  ∀ place, after.at? place = before.at? place ∨
    before.at? place = none ∧ after.at? place = some .directory ∧ path.Crosses place

@[refl] theorem Makes.refl (path : Path) (tree : FileTree) : Makes path tree tree :=
  fun _ => .inl rfl

theorem Makes.trans (first : Makes path before middle) (second : Makes path middle after) :
    Makes path before after := by
  intro place
  rcases first place with same | ⟨free, made, crosses⟩
  · rcases second place with again | ⟨free, made, crosses⟩
    · exact .inl (again.trans same)
    · exact .inr ⟨same ▸ free, made, crosses⟩
  · rcases second place with again | ⟨there, -, -⟩
    · exact .inr ⟨free, again.trans made, crosses⟩
    · rw [made] at there
      cases there

theorem Makes.child (makes : Makes path before after) (part : String) :
    Makes (path.child part) before after := fun place =>
  (makes place).imp_right fun ⟨free, made, crosses⟩ => ⟨free, made, crosses.child part⟩

/-- No file is touched where directories are made. -/
theorem Makes.keeps (makes : Makes path before after) : Keeps (fun _ => False) before after := by
  have same {place : Place} {node : FileNode} (there : before.at? place = some node) :
      after.at? place = some node := by
    rcases makes place with same | ⟨free, -, -⟩
    · rw [same, there]
    · rw [there] at free
      cases free
  exact ⟨same, fun _ => same⟩

theorem makes_makeDirectory (some : path.parts ≠ [])
    (made : tree.makeDirectory path = .ok after) : Makes path tree after := by
  obtain ⟨place, led, free, rfl⟩ := makeDirectory_eq_ok.mp made
  have ground := isGround_eq_false_of_free free
  intro other
  rw [at?_set ground]
  by_cases same : other = place
  · rw [if_pos same]
    exact .inr ⟨same ▸ free, rfl, same ▸ locate_eq_place led ▸ path.crosses_place some⟩
  · rw [if_neg same]
    exact .inl rfl

/-- Whether or not it is refused, only directories that the path leads through are made. -/
theorem makes_makeDirectoriesUp (tree : FileTree) (absolute : Bool) (parts : List String) :
    Makes ⟨absolute, parts.reverse⟩ tree (tree.makeDirectoriesUp absolute parts).2 := by
  -- the components are gone through from the last one, as the directories above are made first
  induction parts with
  | nil => exact .refl _ _
  | cons part above ih =>
    have whole : (⟨absolute, (part :: above).reverse⟩ : Path) =
        Path.child ⟨absolute, above.reverse⟩ part := by
      rw [Path.child, List.reverse_cons]
    have some : (part :: above).reverse ≠ [] := by simp
    unfold makeDirectoriesUp
    dsimp only
    split
    next direct => exact makes_makeDirectory some direct
    next =>
      rcases leading : tree.makeDirectoriesUp absolute above with ⟨fault | _, below⟩
      all_goals
        rw [leading] at ih
        have upper : Makes ⟨absolute, (part :: above).reverse⟩ tree below :=
          whole ▸ Makes.child ih part
      · exact upper
      · dsimp only
        split
        next last => exact upper.trans (makes_makeDirectory some last)
        next => exact upper
    next => exact .refl _ _

theorem makes_makeDirectories (tree : FileTree) (path : Path) :
    Makes path tree (tree.makeDirectories path).2 := by
  have makes := makes_makeDirectoriesUp tree path.absolute path.parts.reverse
  rwa [List.reverse_reverse] at makes

/-- Nothing but directories is made. -/
theorem keeps_makeDirectories {result : Except FileFault Unit}
    (made : tree.makeDirectories path = (result, after)) : Keeps (fun _ => False) tree after := by
  have makes := makes_makeDirectories tree path
  rw [made] at makes
  exact makes.keeps

/-- A content is put where a path leads, unless a directory is there. -/
theorem putFile_eq_ok :
    tree.putFile path content = .ok after ↔ ∃ place, tree.locate path = .ok place ∧
      tree.at? place ≠ some .directory ∧ after = tree.set place (.file content) := by
  unfold putFile
  rw [bind_eq_ok_iff]
  refine exists_congr fun place => and_congr_right fun _ => ?_
  split
  next directory => simp [directory]
  next other => simp [other, pure, Except.pure, eq_comm]

/-- A text is written where it can be put, if it can be encoded. -/
theorem write_eq_ok_iff_putFile :
    tree.write path content = .ok after ↔
      tree.putFile path content = .ok after ∧ Text.IsEncodable content := by
  unfold write Text.IsEncodable
  rw [bind_eq_ok_iff]
  cases Text.encodingFault? content <;> simp [pure, Except.pure]

/-- A text that can be encoded is written where a path leads, unless a directory is there. -/
theorem write_eq_ok :
    tree.write path content = .ok after ↔
      (∃ place, tree.locate path = .ok place ∧ tree.at? place ≠ some .directory ∧
        after = tree.set place (.file content)) ∧ Text.IsEncodable content := by
  rw [write_eq_ok_iff_putFile, putFile_eq_ok]

/-- Where the file system refuses a text, it refuses every content. -/
theorem putFile_of_write_refused {fault : FileFault}
    (refused : tree.write path content = .error fault) (refusal : fault.isRefusal = true)
    (other : String) : (tree.putFile path other).toOption = none := by
  rcases bind_eq_error_iff.mp refused with put | ⟨_, -, encoded⟩
  · cases again : tree.putFile path other with
    | error => rfl
    | ok after =>
      obtain ⟨place, led, there, -⟩ := putFile_eq_ok.mp again
      rw [putFile_eq_ok.mpr ⟨place, led, there, rfl⟩] at put
      cases put
  · split at encoded
    · cases encoded
      cases refusal
    · cases encoded

/-- A file that is written is found, and nothing else has changed. -/
theorem holds_write (straight : ".." ∉ names)
    (written : tree.write (path.beneath names) content = .ok after) :
    after.Holds path names content ∧ Keeps (fun place => names <:+ place) tree after := by
  obtain ⟨⟨place, led, other, rfl⟩, encodable⟩ := write_eq_ok.mp written
  have keeps : Keeps (· = place) tree (tree.set place (.file content)) := keeps_set other
  have ends := suffix_of_locate straight led
  refine ⟨⟨straight, encodable, place, keeps.locate led, ?_⟩, keeps.mono ?_⟩
  · rw [at?_set (isGround_eq_false other), if_pos rfl]
  · rintro _ rfl
    exact ends

end FileTree

end HostBindings
