/-!
# Sets and maps of code points

A character class is given by its code points, as ranges in increasing order; a case mapping is
given by runs of code points that are shifted alike. The tables of the single classes stand in the
modules named for them.

## Main definitions

* `Text.Ranges` — a set of code points, `Ranges.contains` its membership test
* `Text.Shift` — a run of code points with a common displacement, `Shift.find?` the look-up
-/

namespace HostBindings.Text

/-- A set of code points: inclusive ranges, in increasing order. -/
abbrev Ranges := List (Nat × Nat)

namespace Ranges

/-- Whether a code point lies in one of the ranges. The search ends at the first range that begins
above it. -/
def contains : Ranges → Nat → Bool
  | [], _ => false
  | (low, high) :: rest, code =>
    if code < low then false else if code ≤ high then true else contains rest code

/-- A code point that the search finds lies in a listed range. -/
theorem exists_of_contains {ranges : Ranges} {code : Nat} (h : ranges.contains code = true) :
    ∃ range ∈ ranges, range.1 ≤ code ∧ code ≤ range.2 := by
  induction ranges with
  | nil => simp [contains] at h
  | cons range rest ih =>
    obtain ⟨low, high⟩ := range
    simp only [contains] at h
    split at h
    · simp at h
    · split at h
      · exact ⟨(low, high), by simp, by simp; omega⟩
      · obtain ⟨range, hmem, hrange⟩ := ih h
        exact ⟨range, by simp [hmem], hrange⟩

end Ranges

/-- Every `step`-th code point from `first` to `last`, each displaced by `offset`. -/
structure Shift where
  /-- The first code point of the run. -/
  first : Nat
  /-- The last code point of the run. -/
  last : Nat
  /-- The distance between two members of the run. -/
  step : Nat
  /-- What is added to a member. -/
  offset : Int
  deriving DecidableEq, Repr

namespace Shift

/-- Whether a code point is a member of the run. -/
def covers (run : Shift) (code : Nat) : Bool :=
  run.first ≤ code && code ≤ run.last && (code - run.first) % run.step == 0

/-- The image of a code point under the first run that has it as a member. -/
def find? (runs : List Shift) (code : Nat) : Option Nat :=
  (runs.find? (·.covers code)).map fun run => (Int.ofNat code + run.offset).toNat

end Shift

end HostBindings.Text
