import HostBindings.Files.Tree
import HostBindings.Proofs.Files.Paths
import Mathlib.Data.List.Infix

/-!
# The places of paths

Which place a path leads to does not depend on the tree, only whether it leads there does. A path is
refused for its text alone where that has a character that no path may have, or is too long; then
every path below it is refused as well.

## Main definitions

* `Place.step`, `Path.place` — where components lead
* `Path.Crosses` — the places that a path leads through, its own included
* `Path.IsSound` — paths that are not refused for their text alone

## Main results

* `FileTree.locate_eq_place` — a path leads to its place, if anywhere
* `Path.IsSound.of_child` — a path above a sound one is sound
* `Path.mem_place`, `Path.slash_not_mem_place` — the components of a place
-/

namespace HostBindings

/-- Where a component leads from a directory. -/
def Place.step (place : Place) (part : String) : Place :=
  if part = ".." then place.above else place.below part

/-- A step adds no other component than its own, and none where it leads upwards. -/
theorem Place.mem_step {place : Place} {part name : String} (member : name ∈ place.step part) :
    name ∈ place ∨ name = part ∧ part ≠ ".." := by
  unfold step above below at member
  split at member
  next => exact .inl (List.mem_of_mem_dropLast member)
  next forwards =>
    exact (List.mem_append.mp member).imp_right fun last => ⟨List.mem_singleton.mp last, forwards⟩

namespace Path

variable {path : Path} {part : String}

/-! ### Texts -/

/-- A path is not refused for its text alone. -/
structure IsSound (path : Path) : Prop where
  /-- It has no null character. -/
  plain : '\x00' ∉ path.text.toList
  /-- It is not too long. -/
  short : path.text.utf8ByteSize < pathLimit

/-- The text of a path below another one with components has the text of that in front. -/
theorem text_child (some : path.parts ≠ []) (part : String) :
    (path.child part).text = path.text ++ ("/" ++ part) := by
  obtain ⟨absolute, parts⟩ := path
  have longer : "/".intercalate (parts ++ [part]) = "/".intercalate parts ++ ("/" ++ part) := by
    rw [String.intercalate_append_of_ne_nil some (List.cons_ne_nil part []),
      String.intercalate_singleton, String.append_assoc]
  obtain ⟨first, rest, rfl⟩ := List.exists_cons_of_ne_nil some
  cases absolute with
  | true => simp only [child, text, longer, String.append_assoc]
  | false => exact longer

/-- Where no null character is in the text of a path, none is in that of the path above it. -/
theorem plain_of_child (plain : '\x00' ∉ (path.child part).text.toList) :
    '\x00' ∉ path.text.toList := by
  obtain ⟨absolute, parts⟩ := path
  cases parts with
  | nil => cases absolute <;> decide
  | cons first rest =>
    rw [text_child (List.cons_ne_nil first rest), String.toList_append, List.mem_append,
      not_or] at plain
    exact plain.1

/-- A path above a sound one is sound. -/
theorem IsSound.of_child (sound : (path.child part).IsSound) : path.IsSound := by
  refine ⟨plain_of_child sound.plain, ?_⟩
  obtain ⟨absolute, parts⟩ := path
  cases parts with
  | nil => cases absolute <;> decide
  | cons first rest =>
    have short := sound.short
    rw [text_child (List.cons_ne_nil first rest), String.utf8ByteSize_append] at short
    omega

/-- Another character than a slash is in the text of a path below another one only if it is in that
or in the name. -/
theorem mem_text_child {c : Char} (other : c ≠ '/') (inside : c ∈ (path.child part).text.toList) :
    c ∈ path.text.toList ∨ c ∈ part.toList := by
  by_cases some : path.parts = []
  · obtain ⟨absolute, parts⟩ := path
    cases some
    cases absolute with
    | true => exact .inr (by simpa [child, text, other] using inside)
    | false => exact .inr (by simpa [child, text] using inside)
  · rw [text_child some, String.toList_append, List.mem_append, String.toList_append,
      List.mem_append] at inside
    rcases inside with inside | slash | inside
    · exact .inl inside
    · exact absurd (List.mem_singleton.mp slash) other
    · exact .inr inside

/-- What is in a component of a path is in the text of the path. -/
theorem mem_text {c : Char} (member : part ∈ path.parts) (inside : c ∈ part.toList) :
    c ∈ path.text.toList := by
  obtain ⟨absolute, parts⟩ := path
  have joined : c ∈ ("/".intercalate parts).toList := by
    induction parts with
    | nil => cases member
    | cons first rest ih =>
      by_cases single : rest = []
      · subst single
        rwa [String.intercalate_singleton, ← List.mem_singleton.mp member]
      · rw [String.intercalate_cons_of_ne_nil single, String.toList_append, List.mem_append]
        rcases List.mem_cons.mp member with rfl | member
        · exact .inl (by simp [inside])
        · exact .inr (ih member)
  -- the empty path is shown as a point, but a path with components is not
  cases absolute with
  | true =>
    rw [text, String.toList_append, List.mem_append]
    exact .inr joined
  | false =>
    obtain ⟨first, rest, rfl⟩ := List.exists_cons_of_ne_nil (List.ne_nil_of_mem member)
    exact joined

/-! ### Places -/

variable [WorkingDirectory]

/-- Where the walk along a path starts. -/
def origin (path : Path) : Place := if path.absolute then [] else WorkingDirectory.place

/-- The place that a path leads to. -/
def place (path : Path) : Place := path.parts.foldl Place.step path.origin

/-- Whether some first components of a path, or all of them, lead to a place. -/
def Crosses (path : Path) (place : Place) : Prop :=
  ∃ upper more, upper ≠ [] ∧ path.parts = upper ++ more ∧
    Path.place { path with parts := upper } = place

@[simp] theorem origin_with (path : Path) (parts : List String) :
    origin { path with parts } = path.origin := rfl

theorem place_child (path : Path) (part : String) :
    (path.child part).place = path.place.step part := by
  simp only [place, child, List.foldl_append, List.foldl_cons, List.foldl_nil]
  rfl

/-- Below a path, names that do not lead upwards lead to the place with them behind. -/
theorem place_beneath {names : List String} (straight : ".." ∉ names) :
    (path.beneath names).place = path.place ++ names := by
  have steps (start : Place) : names.foldl Place.step start = start ++ names := by
    induction names generalizing start with
    | nil => exact (List.append_nil _).symm
    | cons name rest ih =>
      obtain ⟨forwards, straight⟩ := not_or.mp (List.mem_cons.not.mp straight)
      rw [List.foldl_cons, ih straight, Place.step, if_neg (Ne.symm forwards), Place.below,
        List.append_assoc, List.singleton_append]
  rw [place, beneath, List.foldl_append, steps]
  rfl

instance (path : Path) (place : Place) : Decidable (path.Crosses place) :=
  decidable_of_iff (∃ upper ∈ path.parts.inits,
      upper ≠ [] ∧ Path.place { path with parts := upper } = place) <| by
    constructor
    · rintro ⟨upper, start, some, leads⟩
      obtain ⟨more, whole⟩ := (List.mem_inits upper path.parts).mp start
      exact ⟨upper, more, some, whole.symm, leads⟩
    · rintro ⟨upper, more, some, whole, leads⟩
      exact ⟨upper, (List.mem_inits upper path.parts).mpr ⟨more, whole.symm⟩, some, leads⟩

/-- What a path leads through, every path below it leads through. -/
theorem Crosses.child {place : Place} (crosses : path.Crosses place) (part : String) :
    (path.child part).Crosses place := by
  obtain ⟨upper, more, some, whole, leads⟩ := crosses
  exact ⟨upper, more ++ [part], some, by rw [Path.child, whole, List.append_assoc], leads⟩

/-- A path with components leads through its own place. -/
theorem crosses_place (some : path.parts ≠ []) : path.Crosses path.place :=
  ⟨path.parts, [], some, (List.append_nil _).symm, rfl⟩

/-! ### Components of places -/

/-- The place that a path leads to has components of the path, and those of where it starts. -/
theorem mem_place {name : String} (member : name ∈ path.place) :
    name ∈ path.origin ∨ name ∈ path.parts ∧ name ≠ ".." := by
  have steps (parts : List String) (start : Place) (member : name ∈ parts.foldl Place.step start) :
      name ∈ start ∨ name ∈ parts ∧ name ≠ ".." := by
    induction parts generalizing start with
    | nil => exact .inl member
    | cons part rest ih =>
      rcases ih (start.step part) member with new | ⟨later, forwards⟩
      · rcases Place.mem_step new with old | ⟨rfl, forwards⟩
        · exact .inl old
        · exact .inr ⟨List.mem_cons_self, forwards⟩
      · exact .inr ⟨List.mem_cons_of_mem part later, forwards⟩
  exact steps path.parts path.origin member

/-- What is on the way to where a path starts is a name. -/
theorem isFileName_of_mem_origin {name : String} (member : name ∈ path.origin) :
    IsFileName name := by
  unfold origin at member
  split at member
  · cases member
  · exact WorkingDirectory.names name member

/-- A component of the place of a path that a text names has no slash in it. -/
theorem slash_not_mem_place (proper : path.IsProper) {name : String} (member : name ∈ path.place) :
    '/' ∉ name.toList := by
  rcases mem_place member with root | ⟨part, -⟩
  · exact (isFileName_of_mem_origin root).single
  · exact (proper name part).single

end Path

namespace FileTree

variable [WorkingDirectory] {tree : FileTree} {path : Path} {place : Place}

theorem walk_eq_step {text part : String} {rest : List String} {start : Place}
    (directory : tree.at? start = some .directory) (short : ¬ nameLimit < part.utf8ByteSize) :
    tree.walk text start (part :: rest) = tree.walk text (start.step part) rest := by
  unfold Place.step
  rw [walk, directory]
  dsimp only
  rw [if_neg short]
  split <;> rfl

/-- A walk that leads anywhere leads where its components do. -/
theorem place_of_walk {text : String} {parts : List String} {start : Place}
    (led : tree.walk text start parts = .ok place) : place = parts.foldl Place.step start := by
  -- each step of a walk that is not refused moves as the step of a place does
  induction parts generalizing start with
  | nil =>
    cases led
    rfl
  | cons part rest ih =>
    rw [walk] at led
    split at led
    · cases led
    · cases led
    · split at led
      · cases led
      · rw [List.foldl_cons, Place.step]
        split at led
        next up =>
          rw [if_pos up]
          exact ih led
        next down =>
          rw [if_neg down]
          exact ih led

/-- A sound path is walked along. -/
theorem locate_of_sound (tree : FileTree) (sound : path.IsSound) :
    tree.locate path = tree.walk path.text path.origin path.parts := by
  have plain : path.text.toList.contains '\x00' = false := by
    simpa using sound.plain
  unfold locate
  dsimp only
  rw [plain, if_neg Bool.false_ne_true, if_neg (Nat.not_le.mpr sound.short)]
  rfl

/-- A path that is not sound is refused in every tree in the same way. -/
theorem locate_of_not_sound (unsound : ¬ path.IsSound) :
    ∃ fault, (∀ shown, fault ≠ .missing shown) ∧ ∀ tree : FileTree,
      tree.locate path = .error fault := by
  by_cases plain : '\x00' ∈ path.text.toList
  · refine ⟨.nullCharacter, by simp, fun tree => ?_⟩
    unfold locate
    dsimp only
    rw [if_pos (by simpa using plain)]
  · have long : pathLimit ≤ path.text.utf8ByteSize :=
      Nat.not_lt.mp fun short => unsound ⟨plain, short⟩
    refine ⟨.longName path.text, by simp, fun tree => ?_⟩
    unfold locate
    dsimp only
    rw [if_neg (by simpa using plain), if_pos long]

theorem isSound_of_locate (led : tree.locate path = .ok place) : path.IsSound := by
  by_contra unsound
  obtain ⟨fault, -, refused⟩ := locate_of_not_sound unsound
  rw [refused tree] at led
  cases led

/-- A path leads to its place, if anywhere. -/
theorem locate_eq_place (led : tree.locate path = .ok place) : place = path.place := by
  rw [locate_of_sound _ (isSound_of_locate led)] at led
  exact place_of_walk led

end FileTree

end HostBindings
