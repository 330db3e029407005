import HostBindings.Text.Blank
import Mathlib.Data.List.DropRight
import Mathlib.Data.List.TakeWhile

/-!
# Trimming

What trimming leaves of a text: the text without a tail of one class of characters.

## Main results

* `Text.dropTail_eq_rdropWhile` — a dropped tail in terms of the library
* `Text.trimNewlines_ne_nil`, `Text.trimNewlines_eq_self` — line feeds around a text
-/

namespace HostBindings.Text

variable {α : Type} {p : α → Bool}

theorem dropTail_eq_rdropWhile (p : α → Bool) (items : List α) :
    dropTail p items = items.rdropWhile p := by
  -- the first item stays unless nothing stays behind it
  have step (a : α) (rest : List α) : (a :: rest).rdropWhile p =
      if (rest.rdropWhile p).isEmpty && p a then [] else a :: rest.rdropWhile p := by
    induction rest using List.reverseRecOn with
    | nil => simp [List.rdropWhile_singleton]
    | append_singleton rest last ih =>
      rw [← List.cons_append, List.rdropWhile_concat, List.rdropWhile_concat]
      by_cases member : p last
      · simpa [member] using ih
      · simp [member]
  induction items with
  | nil => rfl
  | cons a rest ih =>
    rw [step, dropTail, ← ih]
    cases dropTail p rest with
    | nil => by_cases member : p a <;> simp [member]
    | cons b kept => rfl

/-- A text that neither begins nor ends with a line feed stays. -/
theorem trimNewlines_eq_self {first : Char} {text : List Char} (begins : first ≠ '\n')
    (ends : (first :: text).getLast (List.cons_ne_nil _ _) ≠ '\n') :
    trimNewlines (first :: text) = first :: text := by
  have start : (first :: text).dropWhile (· == '\n') = first :: text :=
    List.dropWhile_cons_of_neg (by simpa using begins)
  rw [trimNewlines, start, dropTail_eq_rdropWhile, List.rdropWhile_eq_self_iff]
  intro _
  simpa using ends

/-- Something is left of a text with a character other than a line feed. -/
theorem trimNewlines_ne_nil {text : List Char} {c : Char} (member : c ∈ text)
    (other : c ≠ '\n') : trimNewlines text ≠ [] := by
  intro none
  rw [trimNewlines, dropTail_eq_rdropWhile, List.rdropWhile_eq_nil_iff] at none
  rw [← List.takeWhile_append_dropWhile (p := (· == '\n')) (l := text), List.mem_append] at member
  have same : (c == '\n') = true := by
    rcases member with early | late
    · exact List.mem_takeWhile_imp (p := (· == '\n')) early
    · exact none c late
  exact other (by simpa using same)

end HostBindings.Text
