import HostBindings.Files.Output
import HostBindings.Proofs.Files.Trees

/-!
# Output files in a tree

An output file is opened beside its destination: the temporary file takes a place where nothing is.
A commit changes the destination and drops the temporary file; a commit that is refused, and a
release, only drop the temporary file. So from before the opening on, nothing but the destination
ever changes.

## Main definitions

* `OutputFile.Opened` — what is known of an opened file

## Main results

* `FileTree.at?_freeNumber` — the place of a temporary file is free
* `OutputFile.opened_create`, `OutputFile.keeps_create`
* `OutputFile.Opened.commit_eq_ok`, `OutputFile.keeps_commit`, `OutputFile.keeps_release`
* `OutputFile.Opened.keeps_from` — what is kept from before the opening on
-/

namespace HostBindings

namespace FileTree

variable {tree before after : FileTree} {path : Path} {place temporary : Place}

/-! ### Temporary files -/

theorem toList_temporaryName (name : String) (number : Nat) :
    (temporaryName name number).toList =
      ".".toList ++ name.toList ++ ".TMP".toList ++ List.replicate (number + 1) '/' ++
        ".tmp".toList := by
  change (("." ++ name ++ ".TMP") ++ String.ofList (List.replicate (number + 1) '/') ++
    ".tmp").toList = _
  simp only [String.toList_append, String.toList_ofList]

/-- The names of temporary files are longer than the names they are for. -/
theorem length_temporaryName (name : String) (number : Nat) :
    (temporaryName name number).toList.length = name.toList.length + number + 10 := by
  have mark : ".".toList.length = 1 ∧ ".TMP".toList.length = 4 ∧ ".tmp".toList.length = 4 := by
    decide
  rw [toList_temporaryName]
  simp only [List.length_append, mark.1, mark.2.1, mark.2.2, List.length_replicate]
  omega

theorem temporaryName_ne {name other : String} (number : Nat)
    (short : other.toList.length < name.toList.length + 10) :
    temporaryName name number ≠ other := by
  intro same
  have longer := length_temporaryName name number
  rw [same] at longer
  omega

/-- Different numbers give different temporary files. -/
theorem temporaryName_injective (name : String) {m n : Nat}
    (same : temporaryName name m = temporaryName name n) : m = n := by
  have lengths := congrArg (·.toList.length) same
  simp only [length_temporaryName] at lengths
  omega

/-- The names of temporary files have slashes in them. -/
theorem slash_mem_temporaryName (name : String) (number : Nat) :
    '/' ∈ (temporaryName name number).toList := by
  simp [toList_temporaryName]

variable [WorkingDirectory]

/-- A temporary file is at a place that is no directory by itself. -/
theorem isGround_temporary (directory : Place) (name : String) (number : Nat) :
    (directory.below (temporaryName name number)).isGround = false := by
  rw [Place.isGround, ← Bool.not_eq_true, List.isPrefixOf_iff_prefix]
  intro upwards
  have own := upwards.subset (List.mem_append_right directory (List.mem_singleton_self _))
  exact (WorkingDirectory.names _ own).single (slash_mem_temporaryName name number)

/-- The place of a temporary file is free. -/
theorem at?_freeNumber (tree : FileTree) (directory : Place) (name : String) :
    tree.at? (directory.below (temporaryName name (tree.freeNumber directory name))) = none := by
  let place := fun number => directory.below (temporaryName name number)
  have injective {m n : Nat} (same : place m = place n) : m = n :=
    temporaryName_injective name (List.singleton_inj.mp (List.append_cancel_left same))
  -- the entries cannot take all names with numbers up to their own number
  obtain ⟨number, bound, free⟩ := exists_index_not_mem injective (tree.entries.map (·.1))
  have none {number : Nat} (free : place number ∉ tree.entries.map (·.1)) :
      tree.at? (place number) = none := by
    rw [at?, isGround_temporary, if_neg Bool.false_ne_true, List.lookup_eq_none_iff]
    intro entry member
    exact bne_iff_ne.mpr fun same => free (List.mem_map.mpr ⟨entry, member, same.symm⟩)
  rw [List.length_map] at bound
  change tree.at? (place (((List.range (tree.entries.length + 1)).find? fun number =>
    !(tree.at? (place number)).isSome).getD 0)) = .none
  cases found : (List.range (tree.entries.length + 1)).find? fun number =>
      !(tree.at? (place number)).isSome with
  | some number => simpa using List.find?_some found
  | none =>
    have used := List.find?_eq_none.mp found number (List.mem_range.mpr bound)
    simp [none free] at used

/-- A temporary file is made at a free place beside a path. -/
theorem createTemporary_eq_ok
    (created : tree.createTemporary path = .ok (temporary, after)) :
    ∃ directory number, temporary = Place.below directory (temporaryName path.name number) ∧
      tree.at? temporary = none ∧ after = tree.set temporary (.file "") := by
  unfold createTemporary at created
  dsimp only at created
  split at created
  · cases created
  obtain ⟨directory, -, created⟩ := bind_eq_ok_iff.mp created
  split at created
  · cases created
  · cases created
  · split at created
    · cases created
    · cases created
      exact ⟨directory, _, rfl, tree.at?_freeNumber directory path.name, rfl⟩

/-- A temporary file is moved onto a path: its content is where the path leads, and the temporary
file is gone. -/
theorem replaceFile_eq_ok (replaced : tree.replaceFile temporary path = .ok after) :
    ∃ place content, tree.locate path = .ok place ∧ tree.at? temporary = some (.file content) ∧
      tree.at? place ≠ some .directory ∧
      after = (tree.set place (.file content)).erase temporary := by
  obtain ⟨place, led, replaced⟩ := bind_eq_ok_iff.mp replaced
  split at replaced
  next content found =>
    split at replaced
    · cases replaced
    · split at replaced
      · cases replaced
      next other =>
        cases replaced
        exact ⟨place, content, led, found, other, rfl⟩
  next => cases replaced

/-- A text that is written to a temporary file and moved onto a path is found there, and nothing but
the two places is touched. -/
theorem holds_of_replaceFile {old text name : String} {number : Nat} {parent : Place}
    {names : List String} (last : names.getLast? = some name)
    (there : tree.at? temporary = some (.file old))
    (beside : temporary = parent.below (temporaryName name number)) (straight : ".." ∉ names)
    (encodable : Text.IsEncodable text)
    (replaced : (tree.set temporary (.file text)).replaceFile temporary
      (path.beneath names) = .ok after) :
    after.Holds path names text ∧
      Keeps (fun place => place = temporary ∨ names <:+ place) tree after := by
  have notThere : tree.at? temporary ≠ some .directory := by simp [there]
  have ground := isGround_eq_false notThere
  obtain ⟨place, _, led, found, other, rfl⟩ := replaceFile_eq_ok replaced
  rw [at?_set ground, if_pos rfl] at found
  cases found
  have ends := suffix_of_locate straight led
  -- the names of the temporary file and of the destination differ
  have apart : place ≠ temporary := by
    obtain ⟨start, whole⟩ := ends
    intro same
    rw [same, beside, Place.below] at whole
    have lasts := congrArg List.getLast? whole
    rw [List.getLast?_append, last, List.getLast?_concat, Option.some_or, Option.some_inj] at lasts
    exact temporaryName_ne number (by omega) lasts.symm
  have atPlace := isGround_eq_false other
  -- the text is written, moved onto the destination, and dropped from where it was
  let written := tree.set temporary (.file text)
  have writing : Keeps (· = temporary) tree written := keeps_set notThere
  have moving : Keeps (· = place) written (written.set place (.file text)) := keeps_set other
  have dropping : Keeps (· = temporary) (written.set place (.file text))
      ((written.set place (.file text)).erase temporary) := by
    refine keeps_erase ?_
    rw [at?_set atPlace, if_neg apart.symm, at?_set ground, if_pos rfl]
    simp
  constructor
  · refine ⟨straight, encodable, place, dropping.locate (moving.locate led), ?_⟩
    rw [at?_erase ground, if_neg apart, at?_set atPlace, if_pos rfl]
  · have atTemporary : ∀ other, other = temporary →
        other = temporary ∨ names <:+ other := fun _ here => .inl here
    have atDestination : ∀ other, other = place →
        other = temporary ∨ names <:+ other := fun _ here => .inr (here ▸ ends)
    exact ((writing.mono atTemporary).trans (moving.mono atDestination)).trans
      (dropping.mono atTemporary)

end FileTree

namespace OutputFile

open FileTree (Keeps temporaryName)

variable [WorkingDirectory] {tree before after last : FileTree} {path : Path} {output : OutputFile}

section

variable {header : Except CommitFault String} {sink : Sink} {text : String}

omit [WorkingDirectory] in
/-- The whole text is made of a header, and can be encoded. -/
theorem wholeText_eq_ok_iff :
    wholeText header sink = .ok text ↔
      ∃ head, header = .ok head ∧ content head sink.text = text ∧ Text.IsEncodable text := by
  unfold wholeText Text.IsEncodable
  rw [bind_eq_ok_iff]
  refine exists_congr fun head => and_congr_right fun _ => ?_
  dsimp only
  split
  next fault encoded =>
    constructor
    · rintro ⟨⟩
    · rintro ⟨rfl, plain⟩
      rw [plain] at encoded
      cases encoded
  next encoded =>
    constructor
    · rintro ⟨⟩
      exact ⟨rfl, encoded⟩
    · rintro ⟨rfl, -⟩
      rfl

/-- A commit succeeds if there is a whole text and its file can be put in the place of the
destination. -/
theorem commit_eq_ok_iff :
    output.commit header sink tree = (.ok (), after) ↔
      ∃ text, wholeText header sink = .ok text ∧
        (tree.set output.temporary (.file text)).replaceFile output.temporary output.path =
          .ok after := by
  have replaced : ((do
      let text ← wholeText header sink
      ((tree.set output.temporary (.file text)).replaceFile output.temporary
        output.path).mapError CommitFault.file) = .ok after) ↔
      ∃ text, wholeText header sink = .ok text ∧
        (tree.set output.temporary (.file text)).replaceFile output.temporary output.path =
          .ok after := by
    simp only [bind_eq_ok_iff, mapError_eq_ok_iff]
  rw [← replaced]
  unfold commit
  dsimp only
  split
  next done => simp [done]
  next failed => simp [failed]

end

/-- The temporary file of an output file is beside its destination. -/
def IsBeside (output : OutputFile) : Prop :=
  ∃ directory number, output.temporary = Place.below directory
    (temporaryName output.path.name number)

/-- An output file was opened: its temporary file is there, at a place where nothing was. -/
structure Opened (path : Path) (before : FileTree) (output : OutputFile) (after : FileTree) :
    Prop where
  /-- The destination. -/
  destination : output.path = path
  /-- The temporary file is beside it. -/
  name : ∃ directory number,
    output.temporary = Place.below directory (temporaryName path.name number)
  /-- Nothing was where the temporary file is. -/
  free : before.at? output.temporary = none
  /-- The temporary file is there. -/
  there : after.at? output.temporary = some (.file "")
  /-- Besides, only directories were made. -/
  keeps : Keeps (fun _ => False) before after

theorem Opened.isBeside (opened : Opened path before output after) : output.IsBeside := by
  rw [IsBeside, opened.destination]
  exact opened.name

/-- What is opened has its temporary file. -/
theorem opened_create (created : create before path = (.ok output, after)) :
    Opened path before output after := by
  unfold create at created
  split at created
  · cases created
  next below made =>
    have directories := FileTree.keeps_makeDirectories made
    split at created
    · cases created
    next temporary tree opened =>
      cases created
      obtain ⟨directory, number, rfl, free, rfl⟩ := FileTree.createTemporary_eq_ok opened
      have ground := FileTree.isGround_temporary directory path.name number
      refine ⟨rfl, ⟨directory, number, rfl⟩, ?_, ?_, ?_⟩
      · -- what was there before would be there still
        cases found : before.at? (directory.below (temporaryName path.name number)) with
        | none => rfl
        | some node =>
          cases node with
          | directory =>
            rw [directories.directory found] at free
            cases free
          | file content =>
            rw [directories.file not_false found] at free
            cases free
      · rw [FileTree.at?_set ground, if_pos rfl]
      · exact directories.trans (FileTree.keeps_set_of_free free)

/-- What cannot be opened leaves at most directories. -/
theorem keeps_create {fault : OpenFault} (created : create before path = (.error fault, after)) :
    Keeps (fun _ => False) before after := by
  unfold create at created
  split at created
  next made =>
    cases created
    exact FileTree.keeps_makeDirectories made
  next below made =>
    split at created
    · cases created
      exact FileTree.keeps_makeDirectories made
    · cases created

/-- From before the opening on, the place of the temporary file does not count. -/
theorem Opened.keeps_from {touched : Place → Prop} (opened : Opened path before output after)
    (later : Keeps (fun place => place = output.temporary ∨ touched place) after last) :
    Keeps touched before last := by
  refine ⟨fun here => later.directory (opened.keeps.directory here), fun untouched here => ?_⟩
  -- a file that was there before the opening is not at the place of the temporary file
  refine later.file (not_or.mpr ⟨fun same => ?_, untouched⟩) (opened.keeps.file not_false here)
  rw [same, opened.free] at here
  cases here

/-- A release only drops the temporary file. -/
theorem keeps_release {content : String}
    (there : tree.at? output.temporary = some (.file content)) :
    Keeps (· = output.temporary) tree (output.release tree) :=
  FileTree.keeps_erase (by simp [there])

/-- A commit that is refused only drops the temporary file. -/
theorem keeps_commit {header : Except CommitFault String} {sink : Sink} {error : SinkError}
    {content : String} (there : tree.at? output.temporary = some (.file content))
    (refused : output.commit header sink tree = (.error error, after)) :
    Keeps (· = output.temporary) tree after := by
  unfold commit at refused
  dsimp only at refused
  split at refused
  · cases refused
  · cases refused
    exact keeps_release there

/-- A commit that succeeds leaves the whole text where the destination is, and touches nothing but
that and the temporary file. -/
theorem Opened.commit_eq_ok {header : Except CommitFault String} {sink : Sink} {directory : Path}
    {names : List String} (opened : Opened (directory.beneath names) before output tree)
    (some : names ≠ []) (straight : ".." ∉ names)
    (committed : output.commit header sink tree = (.ok (), after)) :
    ∃ head, header = .ok head ∧
      after.Holds directory names (content head sink.text) ∧
      Keeps (fun place => place = output.temporary ∨ names <:+ place) tree after := by
  obtain ⟨_, whole, replaced⟩ := commit_eq_ok_iff.mp committed
  obtain ⟨head, rfl, rfl, encodable⟩ := wholeText_eq_ok_iff.mp whole
  obtain ⟨parent, number, temporary⟩ := opened.name
  have last : names.getLast? = .some (directory.beneath names).name := by
    rw [Path.name, Path.beneath, List.getLast?_append, List.getLast?_eq_some_getLast some]
    rfl
  rw [opened.destination] at replaced
  exact ⟨head, rfl,
    FileTree.holds_of_replaceFile last opened.there temporary straight encodable replaced⟩

end OutputFile

end HostBindings
