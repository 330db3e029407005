import HostBindings.Proofs.Files.Changes
import HostBindings.Proofs.Files.Outputs

/-!
# What output files change

An output file that is opened and released, or that does not take its text, leaves behind only
directories that were made for it. One that takes its text changes its destination besides. Whatever
is at other places stays; the temporary file is gone in any case.

## Main definitions

* `Place.IsPlain` — places that no temporary file takes
* `OutputFile.Opens` — all that an opening changes

## Main results

* `OutputFile.opens_create`, `OutputFile.makes_create` — what is where after an opening
* `OutputFile.at?_release`, `OutputFile.at?_commit_of_error`, `OutputFile.at?_commit_of_ok`
* `OutputFile.Opens.at?_dropped`, `OutputFile.Opens.changes_committed` — what has changed since the
  directories were made
-/

namespace HostBindings

variable [WorkingDirectory]

/-- No component of a place has a slash in it. -/
def Place.IsPlain (place : Place) : Prop := ∀ name ∈ place, '/' ∉ name.toList

theorem Path.isPlain_place {path : Path} (proper : path.IsProper) : path.place.IsPlain :=
  fun _ => path.slash_not_mem_place proper

namespace OutputFile

open FileTree (Changes Makes temporaryName)

variable {tree before after below : FileTree} {path : Path} {place : Place} {output : OutputFile}

/-! ### Temporary files -/

theorem IsBeside.isGround (beside : output.IsBeside) : output.temporary.isGround = false := by
  obtain ⟨directory, number, same⟩ := beside
  rw [same]
  exact FileTree.isGround_temporary directory output.path.name number

omit [WorkingDirectory] in
/-- No plain place is that of a temporary file. -/
theorem IsBeside.ne_of_isPlain (beside : output.IsBeside) (plain : place.IsPlain) :
    place ≠ output.temporary := by
  obtain ⟨directory, number, same⟩ := beside
  rintro rfl
  have last : temporaryName output.path.name number ∈ output.temporary := by
    rw [same]
    exact List.mem_append_right directory (List.mem_singleton_self _)
  exact plain _ last (FileTree.slash_mem_temporaryName _ number)

/-! ### Openings -/

/-- All that an opening changes: directories above the destination are made, and the temporary
file. -/
structure Opens (path : Path) (before : FileTree) (output : OutputFile) (below after : FileTree) :
    Prop where
  /-- The destination. -/
  destination : output.path = path
  /-- The temporary file is beside it. -/
  beside : output.IsBeside
  /-- The directories are made first. -/
  made : before.makeDirectories path.parent = (.ok (), below)
  /-- Then nothing is where the temporary file goes. -/
  free : below.at? output.temporary = none
  /-- That is all. -/
  result : after = below.set output.temporary (.file "")

theorem opens_create (created : create before path = (.ok output, after)) :
    ∃ below, output.Opens path before below after := by
  unfold create at created
  split at created
  · cases created
  next below made =>
    split at created
    · cases created
    next temporary tree opened =>
      cases created
      obtain ⟨directory, number, same, free, rfl⟩ := FileTree.createTemporary_eq_ok opened
      exact ⟨below, rfl, ⟨directory, number, same⟩, made, free, rfl⟩

/-- What cannot be opened leaves what making the directories above it does. -/
theorem snd_create_of_error {fault : OpenFault}
    (created : create before path = (.error fault, after)) :
    after = (before.makeDirectories path.parent).2 := by
  unfold create at created
  split at created
  next made =>
    cases created
    rw [made]
  next below made =>
    split at created
    · cases created
      rw [made]
    · cases created

theorem makes_create {fault : OpenFault} (created : create before path = (.error fault, after)) :
    Makes path.parent before after :=
  snd_create_of_error created ▸ FileTree.makes_makeDirectories before path.parent

theorem Opens.makes (opens : output.Opens path before below after) :
    Makes path.parent before below := by
  have makes := FileTree.makes_makeDirectories before path.parent
  rwa [opens.made] at makes

/-- What is where once an output file is open. -/
theorem Opens.at? (opens : output.Opens path before below after) :
    after.at? place = if place = output.temporary then some (.file "") else below.at? place := by
  rw [opens.result, FileTree.at?_set opens.beside.isGround]

/-! ### Ends -/

/-- A release drops the temporary file, and nothing else. -/
theorem at?_release (beside : output.IsBeside) (tree : FileTree) :
    (output.release tree).at? place =
      if place = output.temporary then none else tree.at? place :=
  FileTree.at?_erase beside.isGround

variable {header : Except CommitFault String} {sink : Sink}

/-- A commit that is refused drops the temporary file, and nothing else. -/
theorem at?_commit_of_error {error : SinkError} (beside : output.IsBeside)
    (refused : output.commit header sink tree = (.error error, after)) :
    after.at? place = if place = output.temporary then none else tree.at? place := by
  unfold commit at refused
  dsimp only at refused
  split at refused
  · cases refused
  · cases refused
    exact at?_release beside tree

/-- A commit puts the whole text in the place of the destination, where no directory was, and drops
the temporary file. -/
theorem at?_commit_of_ok (beside : output.IsBeside)
    (committed : output.commit header sink tree = (.ok (), after)) :
    ∃ text, wholeText header sink = .ok text ∧ after.at? output.temporary = none ∧
      (output.path.place ≠ output.temporary →
        tree.at? output.path.place ≠ some .directory) ∧
      ∀ place ≠ output.temporary, after.at? place =
        if place = output.path.place then some (.file text) else tree.at? place := by
  obtain ⟨text, whole, replaced⟩ := commit_eq_ok_iff.mp committed
  obtain ⟨place, _, led, found, free, rfl⟩ := FileTree.replaceFile_eq_ok replaced
  rw [FileTree.at?_set beside.isGround, if_pos rfl] at found
  cases found
  cases FileTree.locate_eq_place led
  have ground := FileTree.isGround_eq_false free
  refine ⟨text, whole, ?_, fun elsewhere => ?_, fun place elsewhere => ?_⟩
  · rw [FileTree.at?_erase beside.isGround, if_pos rfl]
  · rwa [FileTree.at?_set beside.isGround, if_neg elsewhere] at free
  · rw [FileTree.at?_erase beside.isGround, if_neg elsewhere, FileTree.at?_set ground,
      FileTree.at?_set beside.isGround, if_neg elsewhere]

/-- Where an opening is taken back, only the directories that were made are left of it. -/
theorem Opens.at?_dropped (opens : output.Opens path before below tree)
    (dropped : ∀ place, after.at? place =
      if place = output.temporary then none else tree.at? place) (place : Place) :
    after.at? place = below.at? place := by
  rw [dropped, opens.at?]
  by_cases temporary : place = output.temporary
  · rw [if_pos temporary, temporary, opens.free]
  · rw [if_neg temporary, if_neg temporary]

/-- Where a text is taken, it is in the place of the destination; besides, only directories were
made. -/
theorem Opens.at?_committed (opens : output.Opens path before below tree)
    (elsewhere : path.place ≠ output.temporary)
    (committed : output.commit header sink tree = (.ok (), after)) :
    ∃ text, wholeText header sink = .ok text ∧ below.at? path.place ≠ some .directory ∧
      ∀ place, after.at? place =
        if place = path.place then some (.file text) else below.at? place := by
  obtain ⟨text, whole, gone, free, there⟩ := at?_commit_of_ok opens.beside committed
  rw [opens.destination] at free there
  refine ⟨text, whole, ?_, fun place => ?_⟩
  · have free := free elsewhere
    rwa [opens.at?, if_neg elsewhere] at free
  · by_cases temporary : place = output.temporary
    · rw [temporary, gone, if_neg (Ne.symm elsewhere), opens.free]
    · rw [there place temporary, opens.at?, if_neg temporary]

/-- Where a text is taken, the destination is written, and nothing else has changed since the
directories were made. -/
theorem Opens.changes_committed (opens : output.Opens path before below tree)
    (elsewhere : path.place ≠ output.temporary)
    (committed : output.commit header sink tree = (.ok (), after)) :
    Changes (· = path.place) below after := by
  obtain ⟨text, -, free, there⟩ := opens.at?_committed elsewhere committed
  refine ⟨fun {place} here => ?_, fun {place content} here => ?_,
    fun {place content} other here => ?_⟩
  · have elsewhere : place ≠ path.place := fun same => free (same ▸ here)
    rw [there, if_neg elsewhere, here]
  · by_cases same : place = path.place
    · exact ⟨_, by rw [there, if_pos same], fun other => absurd same other⟩
    · exact ⟨content, by rw [there, if_neg same, here], fun _ => rfl⟩
  · rwa [there, if_neg other] at here

end OutputFile

end HostBindings
