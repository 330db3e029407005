import HostBindings.Proofs.Files.Again

/-!
# Which directories can be made

A directory can be made, with all directories above it, exactly if its path is one that a file
system takes and no file is at any of the places that the path crosses. So two trees that have
files at the same ones of these places make it both or neither; and what is found in the way of it
is the same in both.

## Main definitions

* `Path.IsNameable` — paths that a file system takes
* `FileTree.FileAlong` — a file at a place that a path crosses

## Main results

* `FileTree.makeDirectories_eq_ok_iff` — which directories can be made
* `FileTree.Bars.eq_of_files` — what is in the way of a directory in two trees
* `OutputFile.create_ok_of_files`, `OutputFile.create_error_of_files` — files that are opened in two
  trees
-/

namespace HostBindings

variable [WorkingDirectory]

/-- A path that a file system takes: it is not refused for its text, nor for one of its names. -/
structure Path.IsNameable (path : Path) : Prop where
  /-- Its text is not refused. -/
  sound : path.IsSound
  /-- None of its names is too long. -/
  short : ∀ part ∈ path.parts, ¬ nameLimit < part.utf8ByteSize

namespace Path

variable {path : Path} {part : String} {place : Place}

/-- A path crosses the places that the path above it crosses, and its own place. -/
theorem crosses_child :
    (path.child part).Crosses place ↔ path.Crosses place ∨ place = (path.child part).place := by
  constructor
  · rintro ⟨upper, more, some, whole, same⟩
    rcases List.eq_nil_or_concat more with rfl | ⟨front, last, rfl⟩
    · right
      rw [List.append_nil] at whole
      rw [← same, ← whole]
    · rw [List.concat_eq_append, ← List.append_assoc] at whole
      exact .inl ⟨upper, front, some, (List.append_inj_left' whole rfl), same⟩
  · rintro (crosses | rfl)
    · exact crosses.child part
    · exact crosses_place (by simp [child])

end Path

namespace FileTree

variable {tree other before after : FileTree} {place : Place} {path : Path} {part : String}
  {fault cause : FileFault}

/-- A file is at a place that a path crosses. -/
def FileAlong (tree : FileTree) (path : Path) : Prop :=
  ∃ place, path.Crosses place ∧ ∃ content, tree.at? place = some (.file content)

/-- The path of a directory is one that a file system takes, and crosses directories alone. -/
theorem crosses_of_isDirectory (there : tree.isDirectory path = true) :
    path.IsNameable ∧ ∀ place, path.Crosses place → tree.at? place = some .directory := by
  obtain ⟨absolute, parts⟩ := path
  -- from the right, since what a directory is in is known to be a directory too
  induction parts using List.reverseRecOn with
  | nil =>
    refine ⟨⟨isSound_of_locate (isDirectory_iff.mp there).1, by simp⟩, ?_⟩
    rintro _ ⟨upper, more, some, none, -⟩
    exact absurd (List.append_eq_nil_iff.mp none.symm).1 some
  | append_singleton above part ih =>
    change tree.isDirectory (Path.child ⟨absolute, above⟩ part) = true at there
    obtain ⟨nameable, crosses⟩ := ih (isDirectory_of_child there)
    obtain ⟨led, directory⟩ := isDirectory_iff.mp there
    have sound := isSound_of_locate led
    refine ⟨⟨sound, ?_⟩, fun place crossed => ?_⟩
    · rw [locate_of_sound _ sound] at led
      obtain ⟨base, -, last⟩ := walk_append led
      intro name member
      rcases List.mem_append.mp member with upper | own
      · exact nameable.short name upper
      · rw [List.mem_singleton.mp own]
        exact (walk_cons_eq_ok.mp last).2.1
    · change (Path.child ⟨absolute, above⟩ part).Crosses place at crossed
      rcases Path.crosses_child.mp crossed with upper | rfl
      · exact crosses place upper
      · exact directory

/-- A walk that is refused although nothing is missing and no name is too long has come to a
file. -/
theorem exists_file_of_walk {text : String} {parts : List String} {start : Place}
    (refused : tree.walk text start parts = .error fault)
    (found : ∀ shown, fault ≠ .missing shown)
    (short : ∀ part ∈ parts, ¬ nameLimit < part.utf8ByteSize) :
    ∃ upper more, parts = upper ++ more ∧
      ∃ content, tree.at? (upper.foldl Place.step start) = some (.file content) := by
  induction parts generalizing start with
  | nil => cases refused
  | cons part rest ih =>
    cases here : tree.at? start with
    | none =>
      rw [walk, here] at refused
      cases refused
      exact absurd rfl (found text)
    | some node =>
      cases node with
      | file content => exact ⟨[], part :: rest, rfl, content, here⟩
      | directory =>
        rw [walk_eq_step here (short part List.mem_cons_self)] at refused
        obtain ⟨upper, more, rfl, file⟩ :=
          ih refused fun name member => short name (List.mem_cons_of_mem _ member)
        exact ⟨part :: upper, more, rfl, file⟩

/-- What is in the way of a directory whose path a file system takes is a file. -/
theorem Bars.fileAlong (bars : tree.Bars path fault) (nameable : path.IsNameable) :
    tree.FileAlong path := by
  have origin : ∀ content, tree.at? path.origin ≠ some (.file content) := by
    simp [at?_origin]
  cases bars with
  | refused refused found =>
    rw [locate_of_sound _ nameable.sound] at refused
    obtain ⟨upper, more, whole, content, file⟩ :=
      exists_file_of_walk refused found nameable.short
    refine ⟨_, ⟨upper, more, ?_, whole, rfl⟩, content, file⟩
    rintro rfl
    exact origin content file
  | @file content _ file =>
    refine ⟨_, Path.crosses_place fun none => ?_, content, file⟩
    rw [Path.place, none] at file
    exact origin content file

/-- Making directories brings no files, and takes none away. -/
theorem Makes.file_iff (makes : Makes path before after) (content : String) :
    after.at? place = some (.file content) ↔ before.at? place = some (.file content) :=
  (makes.changes fun _ => False).file_iff not_false content

/-- A directory can be made exactly if its path is one that a file system takes and crosses no
file. -/
theorem makeDirectories_eq_ok_iff :
    (∃ after, tree.makeDirectories path = (.ok (), after)) ↔
      path.IsNameable ∧ ¬ tree.FileAlong path := by
  have makes := makes_makeDirectories tree path
  constructor
  · rintro ⟨after, made⟩
    rw [made] at makes
    obtain ⟨nameable, crosses⟩ := crosses_of_isDirectory (isDirectory_of_makeDirectories made)
    refine ⟨nameable, ?_⟩
    rintro ⟨place, crossed, content, file⟩
    have there := crosses place crossed
    rw [(makes.file_iff content).mpr file] at there
    cases there
  · rintro ⟨nameable, free⟩
    rcases ended : tree.makeDirectories path with ⟨fault | _, after⟩
    · rw [ended] at makes
      obtain ⟨cause, bars, -⟩ := bars_of_makeDirectories ended
      obtain ⟨place, crossed, content, file⟩ := bars.fileAlong nameable
      exact absurd ⟨place, crossed, content, (makes.file_iff content).mp file⟩ free
    · exact ⟨after, rfl⟩

/-! ### Two trees -/

/-- A walk that comes to a stop: it is refused although nothing is missing, or it ends at a file. -/
def Stops (tree : FileTree) : Except FileFault Place → Prop
  | .error fault => ∀ shown, fault ≠ .missing shown
  | .ok place => ∃ content, tree.at? place = some (.file content)

/-- Two walks that come to a stop come to the same one, if files are at the same places on the
way. -/
theorem walk_eq_of_files {text : String} {parts : List String} {start : Place}
    (files : ∀ upper more, parts = upper ++ more →
      ((∃ content, tree.at? (upper.foldl Place.step start) = some (.file content)) ↔
        ∃ content, other.at? (upper.foldl Place.step start) = some (.file content)))
    (first : tree.Stops (tree.walk text start parts))
    (second : other.Stops (other.walk text start parts)) :
    tree.walk text start parts = other.walk text start parts := by
  induction parts generalizing start with
  | nil => rfl
  | cons part rest ih =>
    have here := files [] (part :: rest) rfl
    rw [List.foldl_nil] at here
    -- neither walk finds nothing, so where one finds a file or a directory, the other does too
    cases found : tree.at? start with
    | none =>
      rw [walk, found] at first
      exact absurd rfl (first text)
    | some node =>
      cases node with
      | file content =>
        obtain ⟨content', found'⟩ := here.mp ⟨content, found⟩
        rw [walk, walk, found, found']
      | directory =>
        have found' : other.at? start = some .directory := by
          cases there : other.at? start with
          | none =>
            rw [walk, there] at second
            exact absurd rfl (second text)
          | some node =>
            cases node with
            | directory => rfl
            | file content =>
              obtain ⟨content', file⟩ := here.mpr ⟨content, there⟩
              rw [found] at file
              cases file
        by_cases long : nameLimit < part.utf8ByteSize
        · rw [walk, walk, found, found']
          dsimp only
          rw [if_pos long, if_pos long]
        · rw [walk_eq_step found long] at first ⊢
          rw [walk_eq_step found' long] at second ⊢
          exact ih (fun upper more whole => files (part :: upper) more (by rw [whole]; rfl))
            first second

/-- What is in the way of a directory stops the walk along its path. -/
theorem Bars.stops (bars : tree.Bars path fault) (sound : path.IsSound) :
    tree.Stops (tree.walk path.text path.origin path.parts) := by
  rw [← locate_of_sound _ sound]
  cases bars with
  | refused refused found =>
    rw [refused]
    exact found
  | file led file =>
    rw [led]
    exact ⟨_, file⟩

/-- What is in the way of a directory in two trees is the same, if both have files at the same ones
of the places that the path crosses. -/
theorem Bars.eq_of_files (first : tree.Bars path fault) (second : other.Bars path cause)
    (files : ∀ place, path.Crosses place →
      ((∃ content, tree.at? place = some (.file content)) ↔
        ∃ content, other.at? place = some (.file content))) :
    fault = cause := by
  -- what bars a directory is where the walk to it stops, or the file that it leads to
  have located : tree.locate path = other.locate path := by
    by_cases sound : path.IsSound
    · rw [locate_of_sound _ sound, locate_of_sound _ sound]
      refine walk_eq_of_files (fun upper more whole => ?_) (first.stops sound) (second.stops sound)
      by_cases none : upper = []
      · rw [none, List.foldl_nil, at?_origin, at?_origin]
      · exact files _ ⟨upper, more, none, whole, rfl⟩
    · obtain ⟨_, -, always⟩ := locate_of_not_sound sound
      rw [always tree, always other]
  cases first with
  | refused refused found =>
    cases second with
    | refused refused' found' =>
      rw [refused, refused'] at located
      exact Except.error.inj located
    | file led => rw [refused, led] at located; cases located
  | file led =>
    cases second with
    | refused refused' found' => rw [led, refused'] at located; cases located
    | file => rfl

end FileTree

namespace OutputFile

variable {before before' middle middle' : FileTree} {path : Path}

/-- A file is opened in both of two trees, or in none, if these have files at the same ones of the
places that the path of its directory crosses. -/
theorem create_ok_of_files {output : OutputFile}
    (files : ∀ place, path.parent.Crosses place →
      ((∃ content, before.at? place = some (.file content)) ↔
        ∃ content, before'.at? place = some (.file content)))
    (created : create before path = (.ok output, middle)) :
    ∃ output' middle', create before' path = (.ok output', middle') := by
  obtain ⟨below, opens⟩ := opens_create created
  obtain ⟨nameable, free⟩ := FileTree.makeDirectories_eq_ok_iff.mp ⟨below, opens.made⟩
  have free' : ¬ before'.FileAlong path.parent := by
    rintro ⟨place, crossed, file⟩
    exact free ⟨place, crossed, (files place crossed).mpr file⟩
  obtain ⟨below', made'⟩ := FileTree.makeDirectories_eq_ok_iff.mpr ⟨nameable, free'⟩
  unfold create at created ⊢
  rw [opens.made] at created
  rw [made']
  dsimp only at created ⊢
  rcases FileTree.createTemporary_in_directory path with ⟨fault, always⟩ | always
  · rw [always below opens.isDirectory_below] at created
    cases created
  · obtain ⟨⟨temporary, after⟩, opened⟩ :=
      always below' (FileTree.isDirectory_of_makeDirectories made')
    rw [opened]
    exact ⟨_, _, rfl⟩

/-- Where a file is opened in none of two trees, the reason is the same, if these have files at the
same ones of the places that the path of its directory crosses, and what is reported of the
directory is in its way. -/
theorem create_error_of_files {fault fault' : OpenFault}
    (files : ∀ place, path.parent.Crosses place →
      ((∃ content, before.at? place = some (.file content)) ↔
        ∃ content, before'.at? place = some (.file content)))
    (bars : ∀ {cause after}, before.makeDirectories path.parent = (.error cause, after) →
      after.Bars path.parent cause)
    (bars' : ∀ {cause after}, before'.makeDirectories path.parent = (.error cause, after) →
      after.Bars path.parent cause)
    (failed : create before path = (.error fault, middle))
    (failed' : create before' path = (.error fault', middle')) :
    fault = fault' := by
  have along : before.FileAlong path.parent ↔ before'.FileAlong path.parent :=
    exists_congr fun place => and_congr_right fun crossed => files place crossed
  have makes := FileTree.makes_makeDirectories before path.parent
  have makes' := FileTree.makes_makeDirectories before' path.parent
  have ok : (∃ after, before.makeDirectories path.parent = (.ok (), after)) ↔
      ∃ after, before'.makeDirectories path.parent = (.ok (), after) := by
    rw [FileTree.makeDirectories_eq_ok_iff, FileTree.makeDirectories_eq_ok_iff, along]
  unfold create at failed failed'
  -- the directories are made in both trees or in none
  rcases made : before.makeDirectories path.parent with ⟨cause | _, after⟩
  all_goals
    rcases made' : before'.makeDirectories path.parent with ⟨cause' | _, after'⟩
    all_goals
      rw [made] at failed makes ok
      rw [made'] at failed' makes' ok
      dsimp only at failed failed' makes makes'
  · cases failed
    cases failed'
    congr 1
    refine (bars made).eq_of_files (bars' made') fun place crossed => ?_
    simp only [makes.file_iff, makes'.file_iff]
    exact files place crossed
  · obtain ⟨_, same⟩ := ok.mpr ⟨_, rfl⟩
    cases same
  · obtain ⟨_, same⟩ := ok.mp ⟨_, rfl⟩
    cases same
  · rcases FileTree.createTemporary_in_directory path with ⟨refused, always⟩ | always
    · rw [always _ (FileTree.isDirectory_of_makeDirectories made)] at failed
      rw [always _ (FileTree.isDirectory_of_makeDirectories made')] at failed'
      cases failed
      cases failed'
      rfl
    · obtain ⟨_, opened⟩ := always _ (FileTree.isDirectory_of_makeDirectories made)
      rw [opened] at failed
      cases failed

end OutputFile

end HostBindings
