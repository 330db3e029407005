/-!
# The order of texts

Lists of texts in the order of their characters, by code point.

## Main definitions

* `sortTexts` — a list of texts in order

## Main results

* `pairwise_sortTexts` — no text comes after a greater one
-/

namespace HostBindings

/-- Texts in the order of their characters. -/
def sortTexts (texts : List String) : List String :=
  texts.mergeSort fun a b => !decide (b < a)

theorem sortTexts_perm (texts : List String) : (sortTexts texts).Perm texts :=
  texts.mergeSort_perm _

@[simp] theorem mem_sortTexts {text : String} {texts : List String} :
    text ∈ sortTexts texts ↔ text ∈ texts :=
  (sortTexts_perm texts).mem_iff

theorem pairwise_sortTexts (texts : List String) : (sortTexts texts).Pairwise (· ≤ ·) := by
  have le_iff (a b : String) : (!decide (b < a)) = true ↔ a ≤ b := by
    simp only [Bool.not_eq_true', decide_eq_false_iff_not, String.not_lt]
  refine (List.pairwise_mergeSort ?_ ?_ texts).imp fun ordered => (le_iff _ _).mp ordered
  · intro a b c first second
    exact (le_iff a c).mpr (String.le_trans ((le_iff a b).mp first) ((le_iff b c).mp second))
  · intro a b
    simp only [Bool.or_eq_true, le_iff]
    exact String.le_total a b

end HostBindings
