import HostBindings.Proofs.Files.Changes

/-!
# What is in the way of a directory

A directory can be made unless something is in the way: a file where a directory is needed, or a
name that is too long. That stays in the way, and is what is found when the directory is to be made
again. A directory that was made is there, and making it again changes nothing.

The reason that is given may be another one the second time, as the first time some directories may
be made before the obstacle is found. In a tree whose files are in directories, that takes a path
that leads upwards or has a name that is too long.

## Main definitions

* `FileTree.Bars` — something is in the way of a directory
* `FileTree.IsClosed` — trees whose files are in directories
* `FileTree.Founds` — trees in which a directory can be made wherever it is missing

## Main results

* `FileTree.Bars.of_changes`, `FileTree.Bars.makeDirectories` — an obstacle stays
* `FileTree.isDirectory_of_makeDirectories`, `FileTree.bars_of_makeDirectories` — how making
  directories ends
* `FileTree.IsClosed.founds`
-/

namespace HostBindings

variable [WorkingDirectory]

namespace FileTree

variable {tree before middle after : FileTree} {place : Place} {path : Path} {part : String}
  {fault : FileFault}

/-! ### Obstacles -/

/-- Something is in the way of a directory: no directory is made where a path does not lead for
another reason than that nothing is there, or where a file is. -/
inductive Bars (tree : FileTree) (path : Path) : FileFault → Prop where
  /-- The path does not lead anywhere. -/
  | refused {fault : FileFault} : tree.locate path = .error fault →
      (∀ shown, fault ≠ .missing shown) → Bars tree path fault
  /-- A file is there. -/
  | file {content : String} : tree.locate path = .ok path.place →
      tree.at? path.place = some (.file content) → Bars tree path (.exists path.text)

/-- An obstacle stays where it is. -/
theorem Bars.of_changes {touched : Place → Prop} (bars : before.Bars path fault)
    (changes : Changes touched before after) : after.Bars path fault := by
  cases bars with
  | refused refused other => exact .refused (changes.locate_error refused other) other
  | file led there =>
    obtain ⟨new, there, -⟩ := changes.file there
    exact .file (changes.keeps.locate led) there

/-- What is in the way of a directory is in the way of all directories in it. -/
theorem Bars.child (bars : tree.Bars path fault) (part : String) :
    ∃ fault, tree.Bars (path.child part) fault := by
  by_cases sound : (path.child part).IsSound
  · have whole := locate_of_sound tree sound
    have above := locate_of_sound tree sound.of_child
    cases bars with
    | refused refused other =>
      rw [above] at refused
      obtain ⟨again, other, -, refused⟩ :=
        (Changes.refl (fun _ => False) tree).walk_error refused other (path.child part).text [part]
      exact ⟨again, .refused (whole.trans refused) other⟩
    | file led there =>
      rw [above] at led
      refine ⟨.notDirectory (path.child part).text, .refused (whole.trans ?_) (by simp)⟩
      refine (walk_append_of_ok led _ [part]).trans ?_
      rw [walk, there]
  · obtain ⟨fault, other, always⟩ := locate_of_not_sound sound
    exact ⟨fault, .refused (always tree) other⟩

/-- Where something is in the way, a directory is not made, and is not there. -/
theorem Bars.makeDirectory (bars : tree.Bars path fault) :
    tree.makeDirectory path = .error fault ∧ tree.isDirectory path = false := by
  cases bars with
  | refused refused other =>
    simp [FileTree.makeDirectory, FileTree.isDirectory, find?, refused, bind, Except.bind]
  | file led there =>
    simp [FileTree.makeDirectory, FileTree.isDirectory, find?, led, there, bind, Except.bind]

theorem Bars.not_missing (bars : tree.Bars path fault) (shown : String) :
    fault ≠ .missing shown := by
  cases bars with
  | refused _ other => exact other shown
  | file => simp

/-- A walk is only ever refused by the file system. -/
theorem isRefusal_of_walk {text : String} {parts : List String} {start : Place}
    (refused : tree.walk text start parts = .error fault) : fault.isRefusal = true := by
  induction parts generalizing start with
  | nil => cases refused
  | cons part rest ih =>
    rw [walk] at refused
    split at refused
    · cases refused
      rfl
    · cases refused
      rfl
    · split at refused
      · cases refused
        rfl
      · split at refused <;> exact ih refused

/-- A path without a null character is only ever refused by the file system. -/
theorem isRefusal_of_locate (plain : '\x00' ∉ path.text.toList)
    (refused : tree.locate path = .error fault) : fault.isRefusal = true := by
  by_cases short : path.text.utf8ByteSize < pathLimit
  · exact isRefusal_of_walk (locate_of_sound _ ⟨plain, short⟩ ▸ refused)
  · unfold locate at refused
    dsimp only at refused
    rw [if_neg (by simpa using plain), if_pos (Nat.not_lt.mp short)] at refused
    cases refused
    rfl

theorem Bars.isRefusal (bars : tree.Bars path fault) (plain : '\x00' ∉ path.text.toList) :
    fault.isRefusal = true := by
  cases bars with
  | refused refused => exact isRefusal_of_locate plain refused
  | file => rfl

/-- A path that leads to nothing is sound. -/
theorem isSound_of_missing {shown : String}
    (missing : tree.locate path = .error (.missing shown)) : path.IsSound := by
  by_contra unsound
  obtain ⟨fault, other, always⟩ := locate_of_not_sound unsound
  cases (always tree).symm.trans missing
  exact other shown rfl

/-- Where a directory is missing, it is because the path leads to nothing. -/
theorem locate_of_missing {shown : String}
    (missing : tree.makeDirectory path = .error (.missing shown)) :
    tree.locate path = .error (.missing shown) := by
  unfold makeDirectory at missing
  cases led : tree.locate path with
  | error fault =>
    rw [led] at missing
    cases missing
    rfl
  | ok place =>
    simp only [led, bind, Except.bind] at missing
    split at missing <;> cases missing

/-- A directory that is neither made nor there has something in its way, unless nothing is there
that it could be in. -/
theorem bars_of_makeDirectory (refused : tree.makeDirectory path = .error fault)
    (other : ∀ shown, fault ≠ .missing shown) (absent : tree.isDirectory path = false) :
    tree.Bars path fault := by
  unfold makeDirectory at refused
  cases led : tree.locate path with
  | error cause =>
    rw [led] at refused
    cases refused
    exact .refused led other
  | ok place =>
    cases locate_eq_place led
    simp only [led, bind, Except.bind] at refused
    split at refused
    next there =>
      cases refused
      obtain ⟨node, found⟩ := Option.isSome_iff_exists.mp there
      cases node with
      | directory => simp [isDirectory_iff.mpr ⟨led, found⟩] at absent
      | file content => exact .file led found
    next => cases refused

/-! ### Making directories -/

/-- A directory is made; if nothing is there that it could be in, that is made first. -/
theorem makeDirectories_child (tree : FileTree) (path : Path) (part : String) :
    tree.makeDirectories (path.child part) =
      match tree.makeDirectory (path.child part) with
      | .ok made => (.ok (), made)
      | .error (.missing _) =>
        match tree.makeDirectories path with
        | (.error fault, below) => (.error fault, below)
        | (.ok (), below) =>
          match below.makeDirectory (path.child part) with
          | .ok made => (.ok (), made)
          | .error fault =>
            (if below.isDirectory (path.child part) then .ok () else .error fault, below)
      | .error fault =>
        (if tree.isDirectory (path.child part) then .ok () else .error fault, tree) := by
  obtain ⟨absolute, parts⟩ := path
  simp only [makeDirectories, Path.child, List.reverse_append, List.reverse_cons, List.reverse_nil,
    List.nil_append, List.singleton_append, makeDirectoriesUp, List.reverse_reverse]
  rfl

/-- The current directory and the root are there. -/
theorem isDirectory_nil (tree : FileTree) (absolute : Bool) :
    tree.isDirectory ⟨absolute, []⟩ = true := by
  have sound : Path.IsSound ⟨absolute, []⟩ := by cases absolute <;> exact ⟨by decide, by decide⟩
  refine isDirectory_iff.mpr ⟨?_, ?_⟩
  · rw [locate_of_sound _ sound]
    rfl
  · exact at?_origin tree ⟨absolute, []⟩

/-- A directory that is there is not made again. -/
theorem makeDirectories_of_isDirectory (there : tree.isDirectory path = true) :
    tree.makeDirectories path = (.ok (), tree) := by
  obtain ⟨led, directory⟩ := isDirectory_iff.mp there
  have again : tree.makeDirectory path = .error (.exists path.text) := by
    simp [makeDirectory, led, directory, bind, Except.bind]
  obtain ⟨absolute, parts⟩ := path
  cases parts using List.reverseRecOn with
  | nil => rfl
  | append_singleton above part =>
    have whole := makeDirectories_child tree ⟨absolute, above⟩ part
    simpa only [Path.child, again, there, if_true] using whole

/-- Where something is in the way, no directory is made. -/
theorem Bars.makeDirectories (bars : tree.Bars path fault) :
    tree.makeDirectories path = (.error fault, tree) := by
  obtain ⟨refused, absent⟩ := bars.makeDirectory
  obtain ⟨absolute, parts⟩ := path
  cases parts using List.reverseRecOn with
  | nil =>
    rw [isDirectory_nil] at absent
    cases absent
  | append_singleton above part =>
    have whole := makeDirectories_child tree ⟨absolute, above⟩ part
    simp only [Path.child, refused, absent] at whole
    rw [whole]
    cases fault with
    | missing shown => exact absurd rfl (bars.not_missing shown)
    | _ => rfl

theorem isDirectory_of_makeDirectory (made : tree.makeDirectory path = .ok after) :
    after.isDirectory path = true := by
  obtain ⟨place, led, free, rfl⟩ := makeDirectory_eq_ok.mp made
  cases locate_eq_place led
  have ground := isGround_eq_false_of_free free
  refine isDirectory_iff.mpr ⟨(keeps_set_of_free free).locate led, ?_⟩
  rw [at?_set ground, if_pos rfl]

/-- How making a directory in a directory ends: it is there, or something is in its way, or that in
which it is to be is not made. -/
theorem makeDirectories_child_cases (part : String)
    (above : ∀ below, tree.makeDirectories path = (.ok (), below) →
      below.isDirectory path = true) :
    (∃ after, tree.makeDirectories (path.child part) = (.ok (), after) ∧
        after.isDirectory (path.child part) = true) ∨
      (∃ fault after, tree.makeDirectories (path.child part) = (.error fault, after) ∧
        after.Bars (path.child part) fault ∧ (after = tree ∨ after.isDirectory path = true)) ∨
      ∃ shown fault after, tree.makeDirectory (path.child part) = .error (.missing shown) ∧
        tree.makeDirectories path = (.error fault, after) ∧
        tree.makeDirectories (path.child part) = (.error fault, after) := by
  rw [makeDirectories_child]
  cases direct : tree.makeDirectory (path.child part) with
  | ok made => exact .inl ⟨made, rfl, isDirectory_of_makeDirectory direct⟩
  | error cause =>
    by_cases missing : ∃ shown, cause = .missing shown
    · obtain ⟨shown, rfl⟩ := missing
      rcases leading : tree.makeDirectories path with ⟨fault | _, below⟩
      · exact .inr (.inr ⟨shown, fault, below, rfl, rfl, rfl⟩)
      have there := above below leading
      dsimp only
      cases last : below.makeDirectory (path.child part) with
      | ok made => exact .inl ⟨made, rfl, isDirectory_of_makeDirectory last⟩
      | error fault =>
        cases already : below.isDirectory (path.child part) with
        | true => exact .inl ⟨below, rfl, already⟩
        | false =>
          refine .inr (.inl ⟨fault, below, rfl, bars_of_makeDirectory last ?_ already, .inr there⟩)
          -- in a directory that is there, nothing that it could be in is missing
          rintro shown rfl
          rcases locate_child_of_directory there part with led | ⟨fault, other, always⟩
          · simp only [makeDirectory, led, bind, Except.bind] at last
            split at last <;> cases last
          · simp only [makeDirectory, always below there, bind, Except.bind] at last
            cases last
            exact other shown rfl
    · have other : ∀ shown, cause ≠ .missing shown := fun shown same => missing ⟨shown, same⟩
      cases already : tree.isDirectory (path.child part) with
      | true =>
        refine .inl ⟨tree, ?_, already⟩
        cases cause <;> first | rfl | exact absurd rfl (other _)
      | false =>
        refine .inr (.inl ⟨cause, tree, ?_, bars_of_makeDirectory direct other already, .inl rfl⟩)
        cases cause <;> first | rfl | exact absurd rfl (other _)

/-- Directories that are made are there. -/
theorem isDirectory_of_makeDirectories (made : tree.makeDirectories path = (.ok (), after)) :
    after.isDirectory path = true := by
  obtain ⟨absolute, parts⟩ := path
  induction parts using List.reverseRecOn generalizing after with
  | nil => exact isDirectory_nil after absolute
  | append_singleton above part ih =>
    change tree.makeDirectories (Path.child ⟨absolute, above⟩ part) = _ at made
    rcases makeDirectories_child_cases part fun _ => ih with
      ⟨_, ends, there⟩ | ⟨_, _, ends, -⟩ | ⟨_, _, _, -, -, ends⟩
    all_goals
      rw [made] at ends
      cases ends
    exact there

/-- Where directories are not made, something is in the way. It may be found in a directory above,
but then it is refused by the file system, as what is reported is. -/
theorem bars_of_makeDirectories (failed : tree.makeDirectories path = (.error fault, after)) :
    ∃ cause, after.Bars path cause ∧
      (cause = fault ∨ cause.isRefusal = true ∧ fault.isRefusal = true) := by
  obtain ⟨absolute, parts⟩ := path
  induction parts using List.reverseRecOn generalizing after with
  | nil => cases failed
  | append_singleton above part ih =>
    change tree.makeDirectories (Path.child ⟨absolute, above⟩ part) = _ at failed
    rcases makeDirectories_child_cases part fun _ => isDirectory_of_makeDirectories with
      ⟨_, ends, -⟩ | ⟨cause, _, ends, bars, -⟩ | ⟨_, _, _, missing, higher, ends⟩
    all_goals
      rw [failed] at ends
      cases ends
    · exact ⟨_, bars, .inl rfl⟩
    · have sound := isSound_of_missing (locate_of_missing missing)
      obtain ⟨cause, bars, same⟩ := ih higher
      obtain ⟨inner, below⟩ := bars.child part
      have refusal : cause.isRefusal = true := bars.isRefusal sound.of_child.plain
      refine ⟨inner, below, .inr ⟨below.isRefusal sound.plain, ?_⟩⟩
      rcases same with rfl | ⟨-, reported⟩
      · exact refusal
      · exact reported

/-! ### Directories that are missing -/

/-- A directory can be made wherever it is missing. -/
def Founds (tree : FileTree) (path : Path) : Prop :=
  ∀ part shown, tree.makeDirectory (path.child part) = .error (.missing shown) →
    (tree.makeDirectories path).1 = .ok ()

theorem founds_of_isDirectory (there : tree.isDirectory path = true) : tree.Founds path := by
  intro part shown _
  rw [makeDirectories_of_isDirectory there]

/-- What is in the way of a directory in one that can be made is what is reported. -/
theorem Founds.bars (founds : tree.Founds path)
    (failed : tree.makeDirectories (path.child part) = (.error fault, after)) :
    after.Bars (path.child part) fault := by
  rcases makeDirectories_child_cases part fun _ => isDirectory_of_makeDirectories with
    ⟨_, ends, -⟩ | ⟨cause, _, ends, bars, -⟩ | ⟨_, _, _, missing, higher, ends⟩
  all_goals
    rw [failed] at ends
    cases ends
  · exact bars
  · have made := founds part _ missing
    rw [higher] at made
    cases made

/-- A directory that is in a directory has that above it. -/
theorem isDirectory_of_child (there : tree.isDirectory (path.child part) = true) :
    tree.isDirectory path = true := by
  obtain ⟨led, -⟩ := isDirectory_iff.mp there
  have sound := isSound_of_locate led
  rw [locate_of_sound _ sound] at led
  obtain ⟨base, along, last⟩ := walk_append led
  have above : tree.locate path = .ok base := by
    rw [locate_of_sound _ sound.of_child]
    have again := walk_append_of_ok along path.text []
    rwa [List.append_nil, walk] at again
  cases locate_eq_place above
  exact isDirectory_iff.mpr ⟨above, (walk_cons_eq_ok.mp last).1⟩

/-- A directory can still be made wherever it is missing after one in it was to be made. -/
theorem Founds.makeDirectories (founds : tree.Founds path) (part : String) :
    (tree.makeDirectories (path.child part)).2 = tree ∨
      (tree.makeDirectories (path.child part)).2.isDirectory path = true := by
  rcases makeDirectories_child_cases part fun _ => isDirectory_of_makeDirectories with
    ⟨_, ends, there⟩ | ⟨_, _, ends, -, same⟩ | ⟨_, _, _, missing, higher, -⟩
  · rw [ends]
    exact .inr (isDirectory_of_child there)
  · rw [ends]
    exact same
  · have made := founds part _ missing
    rw [higher] at made
    cases made

/-! ### Closed trees -/

/-- Everything in a tree is in a directory. -/
def IsClosed (tree : FileTree) : Prop :=
  ∀ entry ∈ tree.entries, tree.at? entry.1.dropLast = some .directory

instance (tree : FileTree) : Decidable tree.IsClosed :=
  inferInstanceAs (Decidable (∀ entry ∈ tree.entries, _))

/-- What a place in a tree is in is a directory in every tree if the place is. -/
theorem isGround_of_concat {name : String} (ground : Place.isGround (place ++ [name]) = true) :
    place.isGround = true := by
  rw [Place.isGround, List.isPrefixOf_iff_prefix] at ground ⊢
  exact (List.prefix_append place [name]).trans ground

/-- Where nothing is, nothing is below. -/
theorem IsClosed.at?_append (closed : tree.IsClosed) (free : tree.at? place = none)
    (names : List String) : tree.at? (place ++ names) = none := by
  have above {place : Place} {name : String} {node : FileNode}
      (found : tree.at? (place ++ [name]) = some node) : tree.at? place = some .directory := by
    unfold at? at found
    split at found
    next ground => exact if_pos (isGround_of_concat ground)
    next => simpa using closed _ (mem_of_lookup_eq_some found)
  induction names generalizing place with
  | nil => rwa [List.append_nil]
  | cons name rest ih =>
    rw [List.append_cons]
    refine ih ?_
    cases found : tree.at? (place ++ [name]) with
    | none => rfl
    | some node =>
      rw [above found] at free
      cases free

/-- A path that leads to nothing leads through a place where nothing is. -/
theorem exists_free_of_walk {text shown : String} {parts : List String} {start : Place}
    (missing : tree.walk text start parts = .error (.missing shown)) :
    ∃ upper more, parts = upper ++ more ∧ tree.at? (upper.foldl Place.step start) = none := by
  induction parts generalizing start with
  | nil => cases missing
  | cons part rest ih =>
    cases found : tree.at? start with
    | none => exact ⟨[], part :: rest, rfl, found⟩
    | some node =>
      cases node with
      | file => simp [walk, found] at missing
      | directory =>
        by_cases long : nameLimit < part.utf8ByteSize
        · simp [walk, found, long] at missing
        · rw [walk_eq_step found long] at missing
          obtain ⟨upper, more, rfl, free⟩ := ih missing
          exact ⟨part :: upper, more, rfl, free⟩

/-- A path leads to no directory, and nothing is in the way of one. -/
def Lacks (tree : FileTree) (path : Path) : Prop :=
  tree.locate path = .ok path.place ∧ tree.at? path.place = none ∨
    ∃ shown, tree.locate path = .error (.missing shown)

/-- What a path that leads to nothing is in is no directory, and nothing is in the way of one. -/
theorem lacks_of_child {shown : String}
    (missing : tree.locate (path.child part) = .error (.missing shown)) : tree.Lacks path := by
  have sound := isSound_of_missing missing
  have above := locate_of_sound tree sound.of_child
  rw [locate_of_sound _ sound] at missing
  -- the last component is missing in a place that was reached, or the walk has stopped before
  cases led : tree.locate path with
  | ok place =>
    cases locate_eq_place led
    rw [above] at led
    have last : tree.walk (path.child part).text path.place [part] = .error (.missing shown) :=
      (walk_append_of_ok led _ [part]).symm.trans missing
    refine .inl ⟨above.trans led, ?_⟩
    unfold walk at last
    split at last
    next free => exact free
    next => cases last
    next =>
      split at last
      · cases last
      · split at last <;> cases last
  | error fault =>
    by_cases other : ∃ shown, fault = .missing shown
    · obtain ⟨shown, rfl⟩ := other
      exact .inr ⟨shown, led⟩
    · rw [above] at led
      obtain ⟨again, different, -, refused⟩ :=
        (Changes.refl (fun _ => False) tree).walk_error led
          (fun shown same => other ⟨shown, same⟩) (path.child part).text [part]
      cases missing.symm.trans refused
      exact absurd rfl (different shown)

/-- Nothing is where a path leads that leads to nothing. -/
theorem IsClosed.at?_of_lacks (closed : tree.IsClosed) (straight : ".." ∉ path.parts)
    (lacks : tree.Lacks path) : tree.at? path.place = none := by
  rcases lacks with ⟨-, free⟩ | ⟨shown, missing⟩
  · exact free
  · have walked := locate_of_sound tree (isSound_of_missing missing)
    obtain ⟨upper, more, whole, free⟩ := exists_free_of_walk (walked.symm.trans missing)
    rw [whole, List.mem_append, not_or] at straight
    have split : path.place = Path.place { path with parts := upper } ++ more := by
      rw [← Path.place_beneath straight.2, Path.beneath, ← whole]
    rw [split]
    exact closed.at?_append free more

/-- No path that does not lead upwards leads through a place that is in its own. -/
theorem not_crosses_child (straight : ".." ∉ (path.child part).parts) :
    ¬ path.Crosses (path.child part).place := by
  rintro ⟨upper, more, -, whole, same⟩
  have names : (path.child part).parts = upper ++ (more ++ [part]) := by
    rw [Path.child, whole, List.append_assoc]
  rw [names, List.mem_append, not_or] at straight
  have split : (path.child part).place =
      Path.place { path with parts := upper } ++ (more ++ [part]) := by
    rw [← Path.place_beneath straight.2, Path.beneath, ← names]
    rfl
  rw [split] at same
  simp at same

/-- In a closed tree, a directory can be made in one that can be made. -/
theorem IsClosed.makeDirectories_child (closed : tree.IsClosed)
    (straight : ".." ∉ (path.child part).parts) (short : part.utf8ByteSize ≤ nameLimit)
    (lacks : tree.Lacks (path.child part))
    (above : tree.Lacks path → (tree.makeDirectories path).1 = .ok ()) :
    (tree.makeDirectories (path.child part)).1 = .ok () := by
  have free := closed.at?_of_lacks straight lacks
  rw [FileTree.makeDirectories_child]
  rcases lacks with ⟨led, -⟩ | ⟨shown, missing⟩
  · rw [makeDirectory_eq_ok.mpr ⟨_, led, free, rfl⟩]
  · have refused : tree.makeDirectory (path.child part) = .error (.missing shown) := by
      rw [makeDirectory, missing]
      rfl
    rcases leading : tree.makeDirectories path with ⟨cause | _, below⟩
    · have made := above (lacks_of_child missing)
      rw [leading] at made
      cases made
    -- making the directories above puts nothing where this one goes
    have makes := makes_makeDirectories tree path
    rw [leading] at makes
    have still : below.at? (path.child part).place = none :=
      ((makes _).resolve_right fun crossed => not_crosses_child straight crossed.2.2).trans free
    have led := locate_child (isDirectory_of_makeDirectories leading)
      (isSound_of_missing missing) (Nat.not_lt.mpr short)
    rw [refused]
    dsimp only
    rw [makeDirectory_eq_ok.mpr ⟨_, led, still, rfl⟩]

/-- In a closed tree, directories can be made where nothing is in the way. -/
theorem IsClosed.makeDirectories (closed : tree.IsClosed) (straight : ".." ∉ path.parts)
    (short : ∀ part ∈ path.parts, part.utf8ByteSize ≤ nameLimit) (lacks : tree.Lacks path) :
    (tree.makeDirectories path).1 = .ok () := by
  obtain ⟨absolute, parts⟩ := path
  induction parts using List.reverseRecOn with
  | nil => rfl
  | append_singleton above part ih =>
    change (tree.makeDirectories (Path.child ⟨absolute, above⟩ part)).1 = _
    exact closed.makeDirectories_child straight (short part (by simp)) lacks
      (ih (fun up => straight (List.mem_append_left _ up))
        fun part member => short part (List.mem_append_left _ member))

/-- In a closed tree, a directory can be made wherever it is missing, unless its path leads upwards
or has a name that is too long. -/
theorem IsClosed.founds (closed : tree.IsClosed) (straight : ".." ∉ path.parts)
    (short : ∀ part ∈ path.parts, part.utf8ByteSize ≤ nameLimit) : tree.Founds path := by
  intro part shown missing
  exact closed.makeDirectories straight short (lacks_of_child (locate_of_missing missing))

end FileTree

end HostBindings
