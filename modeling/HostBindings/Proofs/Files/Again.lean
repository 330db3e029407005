import HostBindings.Proofs.Files.Effects
import HostBindings.Proofs.Files.Obstacles

/-!
# Output files written again

An output file that was to be opened in a tree is opened in the same way when the tree has gone on:
what was in the way still is, and the directories that were made are there. Then its text is taken
or refused as it was before.

## Main results

* `OutputFile.create_again_of_error`, `OutputFile.create_again_of_ok` — openings
* `OutputFile.Opens.refused_again`, `OutputFile.Opens.taken_again` — commits
-/

namespace HostBindings

namespace Path

@[simp] theorem parent_child (path : Path) (part : String) : (path.child part).parent = path := by
  simp [parent, child]

end Path

variable [WorkingDirectory]

namespace FileTree

variable {tree before after : FileTree} {path : Path} {part : String} {fault : FileFault}

/-- Whether a temporary file can be made in a directory does not depend on the tree. -/
theorem createTemporary_in_directory (path : Path) :
    (∃ fault, ∀ tree : FileTree, tree.isDirectory path.parent = true →
      tree.createTemporary path = .error fault) ∨
      ∀ tree : FileTree, tree.isDirectory path.parent = true →
        ∃ made, tree.createTemporary path = .ok made := by
  by_cases null : path.name.toList.contains '\x00' = true
  · refine .inl ⟨.nullCharacter, fun tree _ => ?_⟩
    simp only [createTemporary, if_pos null, bind, Except.bind]
    rfl
  · have from_directory {tree : FileTree} (there : tree.isDirectory path.parent = true) :
        tree.createTemporary path =
          if nameLimit < path.name.utf8ByteSize + 14 then .error (.longName (temporaryLabel path))
          else
            let place := path.parent.place.below
              (temporaryName path.name (tree.freeNumber path.parent.place path.name))
            .ok (place, tree.set place (.file "")) := by
      obtain ⟨led, directory⟩ := isDirectory_iff.mp there
      simp only [createTemporary, if_neg null, led, directory, bind, Except.bind]
      rfl
    by_cases long : nameLimit < path.name.utf8ByteSize + 14
    · exact .inl ⟨_, fun tree there => by rw [from_directory there, if_pos long]⟩
    · exact .inr fun tree there => ⟨_, by rw [from_directory there, if_neg long]⟩

/-- Whether a path in a directory leads anywhere does not depend on the tree. -/
theorem locate_of_isDirectory_parent (path : Path) :
    (∃ fault, ∀ tree : FileTree, tree.isDirectory path.parent = true →
      tree.locate path = .error fault) ∨
      ∀ tree : FileTree, tree.isDirectory path.parent = true →
        tree.locate path = .ok path.place := by
  obtain ⟨absolute, parts⟩ := path
  cases parts using List.reverseRecOn with
  | nil => exact .inr fun tree there => (isDirectory_iff.mp there).1
  | append_singleton above part =>
    have parent : Path.parent ⟨absolute, above ++ [part]⟩ = ⟨absolute, above⟩ :=
      Path.parent_child ⟨absolute, above⟩ part
    rw [parent]
    by_cases led : ∀ tree : FileTree, tree.isDirectory ⟨absolute, above⟩ = true →
        tree.locate (Path.child ⟨absolute, above⟩ part) =
          .ok (Path.child ⟨absolute, above⟩ part).place
    · exact .inr led
    · obtain ⟨tree, there, not⟩ : ∃ tree : FileTree, tree.isDirectory ⟨absolute, above⟩ = true ∧
          tree.locate (Path.child ⟨absolute, above⟩ part) ≠
            .ok (Path.child ⟨absolute, above⟩ part).place := by
        simpa only [not_forall, exists_prop] using led
      rcases locate_child_of_directory there part with led | ⟨fault, -, always⟩
      · exact absurd led not
      · exact .inl ⟨fault, always⟩

/-- Why a file is not replaced, if it is not: for its path, or since a directory is there. -/
def obstacle? (tree : FileTree) (path : Path) : Option FileFault :=
  match tree.locate path with
  | .error fault => some fault
  | .ok place =>
    if path.name = "" ∨ path.name = ".." then
      some (.ontoGround (temporaryLabel path) path.text)
    else if tree.at? place = some .directory then
      some (.ontoDirectory (temporaryLabel path) path.text)
    else none

/-- Whether a file in a directory is replaced depends on the path, and on whether a directory is
there. -/
theorem obstacle?_of_isDirectory_parent (path : Path) :
    (∃ fault, ∀ tree : FileTree, tree.isDirectory path.parent = true →
      tree.obstacle? path = some fault) ∨
      ∀ tree : FileTree, tree.isDirectory path.parent = true →
        tree.obstacle? path =
          if tree.at? path.place = some .directory then
            some (.ontoDirectory (temporaryLabel path) path.text)
          else none := by
  rcases locate_of_isDirectory_parent path with ⟨fault, always⟩ | always
  · exact .inl ⟨fault, fun tree there => by rw [obstacle?, always tree there]⟩
  · by_cases ground : path.name = "" ∨ path.name = ".."
    · exact .inl ⟨_, fun tree there => by rw [obstacle?, always tree there]; exact if_pos ground⟩
    · exact .inr fun tree there => by rw [obstacle?, always tree there]; exact if_neg ground

/-- A file is replaced by a temporary one that is there, unless something is in the way. -/
theorem replaceFile_eq {temporary : Place} {content : String}
    (there : tree.at? temporary = some (.file content)) :
    tree.replaceFile temporary path =
      match tree.obstacle? path with
      | some fault => .error fault
      | none => .ok ((tree.set path.place (.file content)).erase temporary) := by
  unfold replaceFile obstacle?
  cases led : tree.locate path with
  | error fault => rfl
  | ok place =>
    cases locate_eq_place led
    simp only [bind, Except.bind, there]
    by_cases ground : path.name = "" ∨ path.name = ".."
    · rw [if_pos ground, if_pos ground]
    · rw [if_neg ground, if_neg ground]
      by_cases directory : tree.at? path.place = some .directory
      · rw [if_pos directory, if_pos directory]
      · rw [if_neg directory, if_neg directory]
        rfl

end FileTree

namespace OutputFile

open FileTree (Changes)

variable {tree before below middle after : FileTree} {path : Path} {output second : OutputFile}

/-! ### Openings -/

/-- What could not be opened is not opened later. The reason is the same unless it was found while
making the directory above. -/
theorem create_again_of_error {fault : OpenFault}
    (failed : create before path = (.error fault, middle)) :
    ∃ cause again, fault = create.refusal path cause ∧
      (again = cause ∨ FileFault.isRefusal again = true ∧ cause.isRefusal = true) ∧
      (∀ above part, path.parent = above.child part → before.Founds above → again = cause) ∧
      ∀ {touched : Place → Prop} {after : FileTree}, Changes touched middle after →
        create after path = (.error (create.refusal path again), after) := by
  unfold create at failed
  split at failed
  next cause below refused =>
    cases failed
    -- where the directory above is made in part, the second attempt may stop at another place
    by_cases founded : ∃ above part, path.parent = above.child part ∧ before.Founds above
    · obtain ⟨above, part, is, founds⟩ := founded
      rw [is] at refused
      have bars := founds.bars refused
      refine ⟨cause, cause, rfl, .inl rfl, fun _ _ _ _ => rfl, fun changes => ?_⟩
      rw [create, is, (bars.of_changes changes).makeDirectories]
    · obtain ⟨again, bars, same⟩ := FileTree.bars_of_makeDirectories refused
      refine ⟨cause, again, rfl, same,
        fun above part is founds => absurd ⟨above, part, is, founds⟩ founded, fun changes => ?_⟩
      rw [create, (bars.of_changes changes).makeDirectories]
  next below made =>
    have there := FileTree.isDirectory_of_makeDirectories made
    split at failed
    next cause refused =>
      cases failed
      refine ⟨cause, cause, rfl, .inl rfl, fun _ _ _ _ => rfl, fun {_ after} changes => ?_⟩
      have still := changes.isDirectory there
      rw [create, FileTree.makeDirectories_of_isDirectory still]
      rcases FileTree.createTemporary_in_directory path with ⟨fault, always⟩ | always
      · cases refused.symm.trans (always _ there)
        dsimp only
        rw [always after still]
      · obtain ⟨made, opened⟩ := always _ there
        cases refused.symm.trans opened
    next => cases failed

/-- What could be opened is opened again where its directory is, and only its temporary file is
made. -/
theorem create_again_of_ok (created : create before path = (.ok output, middle))
    (there : after.isDirectory path.parent = true) :
    ∃ again last, create after path = (.ok again, last) ∧ again.Opens path after after last := by
  have opened : ∃ again last, create after path = (.ok again, last) := by
    unfold create at created
    split at created
    · cases created
    next below made =>
      have first := FileTree.isDirectory_of_makeDirectories made
      rw [create, FileTree.makeDirectories_of_isDirectory there]
      rcases FileTree.createTemporary_in_directory path with ⟨fault, always⟩ | always
      · simp [always _ first] at created
      · obtain ⟨⟨temporary, last⟩, made⟩ := always _ there
        dsimp only
        rw [made]
        exact ⟨_, _, rfl⟩
  obtain ⟨again, last, opened⟩ := opened
  obtain ⟨below, opens⟩ := opens_create opened
  have same := opens.made.symm.trans (FileTree.makeDirectories_of_isDirectory there)
  cases same
  exact ⟨again, last, opened, opens⟩

theorem Opens.isDirectory_below (opens : output.Opens path before below middle) :
    below.isDirectory path.parent = true :=
  FileTree.isDirectory_of_makeDirectories opens.made

theorem Opens.isDirectory (opens : output.Opens path before below middle) :
    middle.isDirectory path.parent = true := by
  have keeps : FileTree.Keeps (fun _ => False) below middle :=
    opens.result ▸ FileTree.keeps_set_of_free opens.free
  obtain ⟨led, there⟩ := FileTree.isDirectory_iff.mp opens.isDirectory_below
  exact FileTree.isDirectory_iff.mpr ⟨keeps.locate led, keeps.directory there⟩

/-! ### Commits -/

variable {header : Except CommitFault String} {sink : Sink}

/-- An open file takes a text unless there is no whole text or something is in the way. -/
theorem Opens.fst_commit (opens : output.Opens path before below tree)
    (elsewhere : path.place ≠ output.temporary) :
    (output.commit header sink tree).1 =
      match wholeText header sink, tree.obstacle? path with
      | .error fault, _ => .error (.uncommitted sink.blockName fault)
      | .ok _, some fault => .error (.uncommitted sink.blockName (.file fault))
      | .ok _, none => .ok () := by
  unfold commit
  cases wholeText header sink with
  | error fault => rfl
  | ok text =>
    let written := tree.set output.temporary (.file text)
    have ground := opens.beside.isGround
    have keeps : FileTree.Keeps (· = output.temporary) tree written :=
      FileTree.keeps_set (by rw [opens.at?, if_pos rfl]; simp)
    have directory : written.isDirectory path.parent = true := by
      obtain ⟨led, above⟩ := FileTree.isDirectory_iff.mp opens.isDirectory
      exact FileTree.isDirectory_iff.mpr ⟨keeps.locate led, keeps.directory above⟩
    -- the temporary file is no obstacle, since the path of the file is another one
    have same : tree.obstacle? path = written.obstacle? path := by
      rcases FileTree.obstacle?_of_isDirectory_parent path with ⟨fault, always⟩ | always
      · rw [always tree opens.isDirectory, always written directory]
      · rw [always tree opens.isDirectory, always written directory, FileTree.at?_set ground,
          if_neg elsewhere]
    have found : written.at? output.temporary = some (.file text) := by
      rw [FileTree.at?_set ground, if_pos rfl]
    rw [same]
    simp only [opens.destination, bind, Except.bind]
    rw [show (tree.set output.temporary (.file text)).replaceFile
      output.temporary path = _ from FileTree.replaceFile_eq found]
    cases written.obstacle? path <;> rfl

variable {last : FileTree}

/-- A text that was refused is refused by a file that is opened again, where directories are
kept. -/
theorem Opens.commit_again_of_error {error : SinkError}
    (opens : output.Opens path before below tree) (again : second.Opens path middle after last)
    (elsewhere : path.place ≠ output.temporary) (apart : path.place ≠ second.temporary)
    (kept : tree.at? path.place = some .directory → last.at? path.place = some .directory)
    (refused : (output.commit header sink tree).1 = .error error) :
    (second.commit header sink last).1 = .error error := by
  rw [opens.fst_commit elsewhere] at refused
  rw [again.fst_commit apart]
  rcases FileTree.obstacle?_of_isDirectory_parent path with ⟨fault, always⟩ | always
  · rw [always tree opens.isDirectory] at refused
    rw [always last again.isDirectory]
    exact refused
  · rw [always tree opens.isDirectory] at refused
    rw [always last again.isDirectory]
    by_cases directory : tree.at? path.place = some .directory
    · rw [if_pos directory] at refused
      rw [if_pos (kept directory)]
      exact refused
    · rw [if_neg directory] at refused
      cases whole : wholeText header sink with
      | error fault =>
        rw [whole] at refused
        exact refused
      | ok =>
        rw [whole] at refused
        cases refused

/-- A text that was taken is taken by a file that is opened again, unless a directory is there. -/
theorem Opens.commit_again_of_ok (opens : output.Opens path before below tree)
    (again : second.Opens path middle after last) (elsewhere : path.place ≠ output.temporary)
    (apart : path.place ≠ second.temporary) (free : last.at? path.place ≠ some .directory)
    (taken : (output.commit header sink tree).1 = .ok ()) :
    (second.commit header sink last).1 = .ok () := by
  rw [opens.fst_commit elsewhere] at taken
  rw [again.fst_commit apart]
  cases whole : wholeText header sink with
  | error fault =>
    rw [whole] at taken
    cases taken
  | ok =>
    rw [whole] at taken
    rcases FileTree.obstacle?_of_isDirectory_parent path with ⟨fault, always⟩ | always
    · rw [always tree opens.isDirectory] at taken
      cases taken
    · rw [always last again.isDirectory, if_neg free]

variable {left : FileTree}

/-- When a text was refused, a file that is opened again later refuses it too, and leaves the files
as they are. -/
theorem Opens.refused_again {touched : Place → Prop} {error : SinkError}
    (opens : output.Opens path before below tree) (again : second.Opens path after after last)
    (elsewhere : path.place ≠ output.temporary) (apart : path.place ≠ second.temporary)
    (refused : output.commit header sink tree = (.error error, left))
    (changes : Changes touched left after) :
    ∃ final, second.commit header sink last = (.error error, final) ∧
      ∀ place, final.at? place = after.at? place := by
  have same : Changes touched below left :=
    .of_same (opens.at?_dropped fun place => at?_commit_of_error opens.beside refused)
  -- a directory in the place of the file is there still
  have kept (directory : tree.at? path.place = some .directory) :
      last.at? path.place = some .directory := by
    rw [opens.at?, if_neg elsewhere] at directory
    rw [again.at?, if_neg apart]
    exact changes.directory (same.directory directory)
  have committed : second.commit header sink last = (.error error, _) :=
    Prod.ext (opens.commit_again_of_error again elsewhere apart kept (by rw [refused])) rfl
  exact ⟨_, committed, again.at?_dropped fun place => at?_commit_of_error again.beside committed⟩

/-- When a text was taken and is there still, a file that is opened again later takes it too, and
leaves the files as they are. -/
theorem Opens.taken_again (opens : output.Opens path before below tree)
    (again : second.Opens path after after last) (elsewhere : path.place ≠ output.temporary)
    (apart : path.place ≠ second.temporary)
    (taken : output.commit header sink tree = (.ok (), left))
    (kept : ∀ content, left.at? path.place = some (.file content) →
      after.at? path.place = some (.file content)) :
    ∃ final, second.commit header sink last = (.ok (), final) ∧
      ∀ place, final.at? place = after.at? place := by
  obtain ⟨text, whole, -, there⟩ := opens.at?_committed elsewhere taken
  have found : after.at? path.place = some (.file text) :=
    kept _ (by rw [there, if_pos rfl])
  have free : last.at? path.place ≠ some .directory := by
    rw [again.at?, if_neg apart, found]
    simp
  have committed : second.commit header sink last = (.ok (), _) :=
    Prod.ext (opens.commit_again_of_ok again elsewhere apart free (by rw [taken])) rfl
  obtain ⟨text', again, -, rewritten⟩ := again.at?_committed apart committed
  cases whole.symm.trans again
  refine ⟨_, committed, fun place => ?_⟩
  rw [rewritten]
  split
  next here => rw [here, found]
  next => rfl

end OutputFile

end HostBindings
