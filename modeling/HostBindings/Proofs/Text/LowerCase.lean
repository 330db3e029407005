import HostBindings.Text.LowerCase
import Mathlib.Tactic.Common

/-!
# Lower case, twice

A text in lower case is its own lower case: what a character is mapped to is a character that the
mapping keeps, wherever it stands. For the characters that are shifted this is read off the bounds
of the runs, since the images of a run lie outside all runs.

## Main definitions

* `Text.Shift.avoids` — a run whose images are no members of another
* `Text.Kept` — a character that is its own lower case

## Main results

* `Text.kept_of_mem_toLowerAfter` — the characters of a text in lower case
* `Text.lowerCase_lowerCase`
-/

namespace HostBindings.Text

/-! ### Runs and their images -/

namespace Shift

/-- The image of a code point that a run displaces. -/
def image (run : Shift) (code : Nat) : Nat := (Int.ofNat code + run.offset).toNat

/-- Whether all images of a run lie below another run or above it, or between its members: every
second code point belongs to one, and the others to the other. -/
def avoids (run other : Shift) : Bool :=
  let low := run.image run.first
  let high := run.image run.last
  high.blt other.first || other.last.blt low ||
    (run.step == 2 || run.first == run.last) && other.step == 2 && (low + other.first) % 2 == 1

theorem covers_eq_false_of_avoids {run other : Shift} {code : Nat}
    (positive : 0 ≤ Int.ofNat run.first + run.offset) (avoids : run.avoids other = true)
    (covered : run.covers code = true) : other.covers (run.image code) = false := by
  simp only [covers, Bool.and_eq_true, decide_eq_true_eq, beq_iff_eq] at covered
  obtain ⟨⟨first, last⟩, member⟩ := covered
  -- the displacement does not change the order
  have low : run.image run.first ≤ run.image code := by
    simp only [image, Int.ofNat_eq_natCast]
    omega
  have high : run.image code ≤ run.image run.last := by
    simp only [image, Int.ofNat_eq_natCast]
    omega
  have distance : run.image code - run.image run.first = code - run.first := by
    simp only [image, Int.ofNat_eq_natCast] at positive ⊢
    omega
  simp only [Shift.avoids, Bool.or_eq_true, Bool.and_eq_true, Nat.blt_eq, beq_iff_eq] at avoids
  by_contra hit
  simp only [covers, Bool.not_eq_false, Bool.and_eq_true, decide_eq_true_eq, beq_iff_eq] at hit
  rcases avoids with (below | above) | ⟨⟨spaced, two⟩, odd⟩
  · omega
  · omega
  · rw [two] at hit
    rcases spaced with step | single
    · rw [step] at member
      omega
    · omega

theorem find?_eq_none_iff {runs : List Shift} {code : Nat} :
    find? runs code = none ↔ ∀ run ∈ runs, run.covers code = false := by
  simp [find?]

end Shift

/-- The images of a run are members of no run, and none is the capital I with a dot. -/
private theorem avoids_of_mem_lowerShifts :
    lowerShifts.all (fun run => decide (0 ≤ Int.ofNat run.first + run.offset) &&
      (⟨304, 304, 1, 0⟩ :: lowerShifts).all run.avoids) = true := by
  decide +kernel

private theorem image_of_find? {code image : Nat}
    (found : Shift.find? lowerShifts code = some image) :
    Shift.find? lowerShifts image = none ∧ image ≠ 304 := by
  obtain ⟨run, hit, rfl⟩ := Option.map_eq_some_iff.mp found
  have table := List.all_eq_true.mp avoids_of_mem_lowerShifts run (List.mem_of_find?_eq_some hit)
  rw [Bool.and_eq_true, decide_eq_true_eq, List.all_cons, Bool.and_eq_true,
    List.all_eq_true] at table
  obtain ⟨positive, marked, others⟩ := table
  have covered := List.find?_some hit
  constructor
  · exact Shift.find?_eq_none_iff.mpr fun other member =>
      Shift.covers_eq_false_of_avoids positive (others other member) covered
  · intro same
    have misses := Shift.covers_eq_false_of_avoids positive marked covered
    rw [Shift.image, same] at misses
    cases misses

/-! ### Kept characters -/

/-- A character that the mapping to lower case keeps in every text. -/
structure Kept (c : Char) : Prop where
  /-- It is not the letter whose lower case depends on its place. -/
  placeless : c ≠ 'Σ'
  /-- It is not the letter whose lower case is two characters. -/
  undotted : c ≠ 'İ'
  /-- It is not shifted. -/
  unshifted : Shift.find? lowerShifts c.toNat = none

theorem Kept.lower_eq {c : Char} (kept : Kept c) : lower c = [c] := by
  simp [lower, kept.undotted, kept.unshifted]

/-- A text of such characters is its own lower case. -/
theorem toLowerAfter_eq {text : List Char} (kept : ∀ c ∈ text, Kept c) (before : List Char) :
    toLowerAfter before text = text := by
  induction text generalizing before with
  | nil => rfl
  | cons c rest ih =>
    have first := kept c List.mem_cons_self
    rw [toLowerAfter, if_neg first.placeless, first.lower_eq,
      ih fun d member => kept d (List.mem_cons_of_mem _ member)]
    rfl

/-- The capital sigma is shifted where its place does not matter. -/
private theorem kept_of_toNat {c : Char} (unshifted : Shift.find? lowerShifts c.toNat = none)
    (undotted : c.toNat ≠ 304) : Kept c := by
  refine ⟨?_, ?_, unshifted⟩
  · rintro rfl
    revert unshifted
    decide +kernel
  · rintro rfl
    exact undotted rfl

private theorem kept_of_find? {code image : Nat}
    (found : Shift.find? lowerShifts code = some image) : Kept (Char.ofNat image) := by
  obtain ⟨unshifted, undotted⟩ := image_of_find? found
  by_cases valid : image.isValidChar
  · have same : (Char.ofNat image).toNat = image := by
      rw [Char.ofNat, dif_pos valid]
      rfl
    exact kept_of_toNat (by rwa [same]) (by rwa [same])
  · -- a number that is no character stands for the null character
    have same : (Char.ofNat image).toNat = 0 := by
      rw [Char.ofNat, dif_neg valid]
      rfl
    exact kept_of_toNat (by rw [same]; decide +kernel) (by rw [same]; decide)

/-- The capital sigma apart, the lower case of a character consists of kept ones. -/
theorem kept_of_mem_lower {c d : Char} (placeless : c ≠ 'Σ') (member : d ∈ lower c) : Kept d := by
  unfold lower at member
  split at member
  · have either : d = 'i' ∨ d = Char.ofNat 0x307 := by simpa using member
    rcases either with rfl | rfl <;> exact ⟨by decide, by decide, by decide +kernel⟩
  next undotted =>
    cases shifted : Shift.find? lowerShifts c.toNat with
    | none =>
      have same : d = c := by simpa [shifted] using member
      exact same ▸ ⟨placeless, undotted, shifted⟩
    | some image =>
      have same : d = Char.ofNat image := by simpa [shifted] using member
      exact same ▸ kept_of_find? shifted

/-- So does the lower case of a text. -/
theorem kept_of_mem_toLowerAfter {text before : List Char} {d : Char}
    (member : d ∈ toLowerAfter before text) : Kept d := by
  induction text generalizing before with
  | nil => cases member
  | cons c rest ih =>
    rcases List.mem_append.mp member with now | later
    · split at now
      · have either : d = 'ς' ∨ d = 'σ' := by
          rw [List.mem_singleton.mp now]
          split <;> simp
        rcases either with rfl | rfl <;> exact ⟨by decide, by decide, by decide +kernel⟩
      next placeless => exact kept_of_mem_lower placeless now
    · exact ih later

/-- Lower case is reached at once. -/
@[simp] theorem lowerCase_lowerCase (text : String) :
    lowerCase (lowerCase text) = lowerCase text := by
  simp only [lowerCase, toLower, String.toList_ofList]
  rw [toLowerAfter_eq fun _ member => kept_of_mem_toLowerAfter member]

end HostBindings.Text
