import HostBindings.Proofs.Files.Trees

/-!
# Trees in which files are written

As a tree is worked on, directories are made and files are written, but a directory stays one, and
so does a file. What is more, a file can only come or get another content where it is written. So a
path that leads to a directory always will, and one that cannot lead anywhere never will.

## Main definitions

* `FileTree.Changes` — files of some places are written, and directories are made

## Main results

* `FileTree.Changes.file_iff` — files that are not written
* `FileTree.Changes.isDirectory`, `FileTree.Changes.locate_error` — where paths lead, and where not
* `FileTree.locate_child`, `FileTree.locate_child_of_directory` — paths to what is in a directory
-/

namespace HostBindings

variable [WorkingDirectory]

namespace FileTree

variable {tree before middle after : FileTree} {place : Place} {path : Path} {part : String}
  {fault : FileFault}

/-! ### Changes -/

/-- Files are written at the places that are touched, and directories are made. -/
structure Changes (touched : Place → Prop) (before after : FileTree) : Prop where
  /-- The directories are kept. -/
  directory {place : Place} : before.at? place = some .directory →
    after.at? place = some .directory
  /-- The files are kept, with what is in them unless they are touched. -/
  file {place : Place} {content : String} : before.at? place = some (.file content) →
    ∃ new, after.at? place = some (.file new) ∧ (¬ touched place → new = content)
  /-- No other files come. -/
  comes {place : Place} {content : String} : ¬ touched place →
    after.at? place = some (.file content) → before.at? place = some (.file content)

namespace Changes

variable {touched more : Place → Prop}

@[refl] theorem refl (touched : Place → Prop) (tree : FileTree) : Changes touched tree tree :=
  ⟨fun here => here, fun here => ⟨_, here, fun _ => rfl⟩, fun _ here => here⟩

theorem trans (first : Changes touched before middle) (second : Changes touched middle after) :
    Changes touched before after := by
  refine ⟨fun here => second.directory (first.directory here), fun here => ?_,
    fun untouched here => first.comes untouched (second.comes untouched here)⟩
  obtain ⟨middle, between, kept⟩ := first.file here
  obtain ⟨new, there, again⟩ := second.file between
  exact ⟨new, there, fun untouched => (again untouched).trans (kept untouched)⟩

theorem mono (subset : ∀ place, touched place → more place)
    (changes : Changes touched before after) : Changes more before after := by
  refine ⟨changes.directory, fun here => ?_,
    fun untouched => changes.comes fun here => untouched (subset _ here)⟩
  obtain ⟨new, there, kept⟩ := changes.file here
  exact ⟨new, there, fun untouched => kept fun here => untouched (subset _ here)⟩

/-- Where everything is as it was, nothing has changed. -/
theorem of_same (same : ∀ place, after.at? place = before.at? place) :
    Changes touched before after :=
  ⟨fun here => (same _).trans here, fun here => ⟨_, (same _).trans here, fun _ => rfl⟩,
    fun _ here => (same _).symm.trans here⟩

theorem keeps (changes : Changes touched before after) : Keeps touched before after := by
  refine ⟨changes.directory, fun untouched here => ?_⟩
  obtain ⟨new, there, kept⟩ := changes.file here
  rw [there, kept untouched]

/-- At a place that is not touched, a file is there afterwards if it was there before. -/
theorem file_iff (changes : Changes touched before after) (untouched : ¬ touched place)
    (content : String) :
    after.at? place = some (.file content) ↔ before.at? place = some (.file content) :=
  ⟨changes.comes untouched, changes.keeps.file untouched⟩

end Changes

theorem Makes.changes (makes : Makes path before after) (touched : Place → Prop) :
    Changes touched before after := by
  refine ⟨makes.keeps.directory, fun here => ⟨_, makes.keeps.file not_false here, fun _ => rfl⟩,
    fun {place content} _ here => ?_⟩
  rcases makes place with same | ⟨-, made, -⟩
  · rw [← same, here]
  · rw [made] at here
    cases here

/-! ### Walks that are refused -/

/-- A walk that is refused for another reason than that nothing is there is refused again, also
along more components and for another path. -/
theorem Changes.walk_error {touched : Place → Prop} (changes : Changes touched before after)
    {text : String} {parts : List String} {start : Place}
    (refused : before.walk text start parts = .error fault)
    (other : ∀ shown, fault ≠ .missing shown) (text' : String) (more : List String) :
    ∃ again, (∀ shown, again ≠ .missing shown) ∧ (text' = text → again = fault) ∧
      after.walk text' start (parts ++ more) = .error again := by
  -- files stay files and directories stay directories, so both walks stop at one component
  induction parts generalizing start with
  | nil => cases refused
  | cons part rest ih =>
    rw [walk] at refused
    rw [List.cons_append, walk]
    split at refused
    · cases refused
      exact absurd rfl (other text)
    next file =>
      cases refused
      obtain ⟨new, there, -⟩ := changes.file file
      exact ⟨.notDirectory text', by simp, fun same => by rw [same], by rw [there]⟩
    next directory =>
      rw [changes.directory directory]
      dsimp only
      split at refused
      next long =>
        cases refused
        exact ⟨.longName text', by simp, fun same => by rw [same], by rw [if_pos long]⟩
      next short =>
        rw [if_neg short]
        split at refused
        next up =>
          rw [if_pos up]
          exact ih refused
        next down =>
          rw [if_neg down]
          exact ih refused

/-- Along more components a walk goes on from where the first ones lead, whatever path is named in
the faults. -/
theorem walk_append_of_ok {text : String} {parts : List String} {start base : Place}
    (led : tree.walk text start parts = .ok base) (text' : String) (more : List String) :
    tree.walk text' start (parts ++ more) = tree.walk text' base more := by
  induction parts generalizing start with
  | nil =>
    cases led
    rfl
  | cons part rest ih =>
    obtain ⟨directory, short, led⟩ := walk_cons_eq_ok.mp led
    rw [List.cons_append, walk, directory]
    dsimp only
    rw [if_neg short]
    split at led
    next up => rw [if_pos up, ih led]
    next down => rw [if_neg down, ih led]

/-- A path that is refused for another reason than that nothing is there is refused again. -/
theorem Changes.locate_error {touched : Place → Prop} (changes : Changes touched before after)
    (refused : before.locate path = .error fault) (other : ∀ shown, fault ≠ .missing shown) :
    after.locate path = .error fault := by
  by_cases sound : path.IsSound
  · rw [locate_of_sound _ sound] at refused ⊢
    obtain ⟨again, -, same, refused⟩ := changes.walk_error refused other path.text []
    rwa [List.append_nil, same rfl] at refused
  · obtain ⟨same, -, always⟩ := locate_of_not_sound sound
    rw [always, ← always before, refused]

/-! ### Directories -/

theorem isDirectory_iff : tree.isDirectory path = true ↔
    tree.locate path = .ok path.place ∧ tree.at? path.place = some .directory := by
  unfold isDirectory find?
  cases led : tree.locate path with
  | error fault => simp
  | ok place => simp [← locate_eq_place led]

theorem Changes.isDirectory {touched : Place → Prop} (changes : Changes touched before after)
    (there : before.isDirectory path = true) : after.isDirectory path = true := by
  obtain ⟨led, directory⟩ := isDirectory_iff.mp there
  exact isDirectory_iff.mpr ⟨changes.keeps.locate led, changes.directory directory⟩

/-- From a directory, a sound path leads to what is in it by a name that is not too long. -/
theorem locate_child (there : tree.isDirectory path = true) (sound : (path.child part).IsSound)
    (short : ¬ nameLimit < part.utf8ByteSize) :
    tree.locate (path.child part) = .ok (path.child part).place := by
  obtain ⟨led, directory⟩ := isDirectory_iff.mp there
  rw [locate_of_sound _ sound.of_child] at led
  rw [locate_of_sound _ sound]
  refine (walk_append_of_ok led _ [part]).trans ?_
  rw [walk_eq_step directory short, walk, Path.place_child]

/-- From a directory, a path leads to what is in it, or its name is too long. -/
theorem locate_child_of_directory (there : tree.isDirectory path = true) (part : String) :
    tree.locate (path.child part) = .ok (path.child part).place ∨
      ∃ fault, (∀ shown, fault ≠ .missing shown) ∧ ∀ other : FileTree,
        other.isDirectory path = true → other.locate (path.child part) = .error fault := by
  by_cases sound : (path.child part).IsSound
  · by_cases long : nameLimit < part.utf8ByteSize
    · refine .inr ⟨.longName (path.child part).text, by simp, fun other there => ?_⟩
      obtain ⟨led, directory⟩ := isDirectory_iff.mp there
      rw [locate_of_sound _ sound.of_child] at led
      rw [locate_of_sound _ sound]
      refine (walk_append_of_ok led _ [part]).trans ?_
      rw [walk, directory]
      exact if_pos long
    · exact .inl (locate_child there sound long)
  · obtain ⟨fault, other, always⟩ := locate_of_not_sound sound
    exact .inr ⟨fault, other, fun tree _ => always tree⟩

end FileTree

end HostBindings
