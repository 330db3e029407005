import HostBindings.Files.Path
import HostBindings.Proofs.Text.Lines

/-!
# Paths and their texts

A path is named by its text where its components are the parts of a text: none of them is empty, a
single dot, or has a slash in it. All paths that a text names are such paths, and so are those below
them along components of this kind.

## Main definitions

* `Path.beneath` — a path some names below another
* `Path.IsPart`, `Path.IsProper` — components and paths that texts name

## Main results

* `Path.isProper_ofString` — what a text names
* `Path.ofString_text` — a path is named by its text
* `Path.not_mem_stem` — no stem has a slash in it
-/

namespace HostBindings

namespace Path

/-- A component of a path that a text names. -/
structure IsPart (part : String) : Prop where
  /-- It is not empty. -/
  filled : part ≠ ""
  /-- It is not a single dot. -/
  other : part ≠ "."
  /-- It has no slash in it. -/
  single : '/' ∉ part.toList

/-- The path that names lead to from a path. -/
def beneath (path : Path) (names : List String) : Path :=
  { path with parts := path.parts ++ names }

theorem child_child_eq (path : Path) (first second : String) :
    (path.child first).child second = path.beneath [first, second] := by
  simp [child, beneath]

/-- A path that a text names. -/
def IsProper (path : Path) : Prop := ∀ part ∈ path.parts, IsPart part

theorem isProper_ofString (text : String) : (ofString text).IsProper := by
  intro part member
  obtain ⟨chars, kept, rfl⟩ := List.mem_map.mp member
  obtain ⟨found, names⟩ := List.mem_filter.mp kept
  obtain ⟨filled, other⟩ : chars ≠ [] ∧ chars ≠ ['.'] := by simpa using names
  have same {text : String} (is : String.ofList chars = text) : chars = text.toList := by
    rw [← is, String.toList_ofList]
  exact ⟨fun is => filled (same is), fun is => other (same is),
    String.toList_ofList ▸ Text.not_mem_of_mem_splitOn found⟩

theorem isProper_beneath {path : Path} {names : List String} (proper : path.IsProper)
    (parts : ∀ name ∈ names, IsPart name) : (path.beneath names).IsProper :=
  List.forall_mem_append.mpr ⟨proper, parts⟩

/-! ### Texts of paths -/

/-- Components are found again in the text made of them. -/
theorem splitOn_intercalate {parts : List String} (some : parts ≠ [])
    (proper : ∀ part ∈ parts, IsPart part) :
    Text.splitOn '/' ("/".intercalate parts).toList = parts.map String.toList := by
  have slash : "/".toList = ['/'] := rfl
  rw [Text.splitOn_eq, String.toList_intercalate, slash, List.splitOn_intercalate]
  · intro chars member
    obtain ⟨part, inside, rfl⟩ := List.mem_map.mp member
    exact (proper part inside).single
  · simpa using some

/-- The components of a text that is made of components, with what is not one in front. -/
theorem parts_eq (front : List (List Char)) {parts : List String}
    (none : front.filter (fun part => part ≠ [] && part ≠ ['.']) = [])
    (proper : ∀ part ∈ parts, IsPart part) :
    ((front ++ parts.map String.toList).filter fun part => part ≠ [] && part ≠ ['.']).map
      String.ofList = parts := by
  have all : (parts.map String.toList).filter (fun part => part ≠ [] && part ≠ ['.']) =
      parts.map String.toList := by
    refine List.filter_eq_self.mpr fun chars member => ?_
    obtain ⟨part, inside, rfl⟩ := List.mem_map.mp member
    have filled : part.toList ≠ [] := fun empty =>
      (proper part inside).filled (String.toList_injective empty)
    have other : part.toList ≠ ['.'] := fun dot =>
      (proper part inside).other (String.toList_injective dot)
    simp [filled, other]
  rw [List.filter_append, none, all, List.nil_append, List.map_map]
  simp [Function.comp_def]

/-- A text made of components starts with the first one. -/
theorem exists_intercalate_eq (first : String) (rest : List String) :
    ∃ tail, ("/".intercalate (first :: rest)).toList = first.toList ++ tail := by
  cases rest with
  | nil => exact ⟨[], by simp⟩
  | cons next others =>
    rw [String.intercalate_cons_of_ne_nil (List.cons_ne_nil next others), String.toList_append,
      String.toList_append, List.append_assoc]
    exact ⟨_, rfl⟩

/-- A path is named by its text. -/
theorem ofString_text {path : Path} (proper : path.IsProper) : ofString path.text = path := by
  obtain ⟨absolute, parts⟩ := path
  cases parts with
  | nil => cases absolute <;> decide
  | cons first rest =>
    have found := splitOn_intercalate (List.cons_ne_nil first rest) proper
    cases absolute with
    | true =>
      have text : (text ⟨true, first :: rest⟩).toList =
          '/' :: ("/".intercalate (first :: rest)).toList := by
        simp [Path.text]
      have split : Text.splitOn '/' (Path.text ⟨true, first :: rest⟩).toList =
          [[]] ++ (first :: rest).map String.toList := by
        rw [text, Text.splitOn, if_pos rfl, found]
        rfl
      rw [ofString, split, parts_eq [[]] (by decide) proper, text]
      rfl
    | false =>
      have text : Path.text ⟨false, first :: rest⟩ = "/".intercalate (first :: rest) := rfl
      -- the first component is not empty, and does not start with a slash
      have head : (("/".intercalate (first :: rest)).toList.head? == some '/') = false := by
        obtain ⟨filled, -, single⟩ := proper first List.mem_cons_self
        obtain ⟨c, chars, spelt⟩ := List.exists_cons_of_ne_nil fun empty =>
          filled (String.toList_injective empty)
        obtain ⟨tail, starts⟩ := exists_intercalate_eq first rest
        rw [starts, spelt]
        have other : c ≠ '/' := fun same => single (by simp [spelt, same])
        simpa using other
      rw [ofString, text, head, found]
      exact congrArg _ (parts_eq [] rfl proper)

/-! ### Stems -/

/-- A stem is part of its name. -/
theorem mem_of_mem_splitName {name : String} {c : Char} (member : c ∈ (splitName name).1.toList) :
    c ∈ name.toList := by
  unfold splitName at member
  dsimp only at member
  split at member
  · exact member
  · exact member
  · exact member
  next dot stem _ rest _ =>
    rw [String.toList_ofList, List.mem_reverse] at member
    have dropped : c ∈ name.toList.reverse :=
      List.mem_of_mem_drop (rest ▸ List.mem_cons_of_mem dot member)
    exact List.mem_reverse.mp dropped

/-- The stem of a path that a text names has no slash in it. -/
theorem not_mem_stem (text : String) : '/' ∉ (ofString text).stem.toList := by
  intro slash
  have inside := mem_of_mem_splitName slash
  unfold name at inside
  cases last : (ofString text).parts.getLast? with
  | none => simp [last] at inside
  | some part =>
    rw [last] at inside
    exact (isProper_ofString text part (List.mem_of_getLast? last)).single inside

end Path

end HostBindings
