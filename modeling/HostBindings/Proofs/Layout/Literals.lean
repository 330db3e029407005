import HostBindings.Proofs.Layout.Grammar
import HostBindings.Proofs.Text.Characters
import HostBindings.Text.Quoted

/-!
# Reading literals

A text between double quotes is an interpreted string literal whatever it is, since what would end
the literal or the line is escaped. A literal of any kind is left as it is by trimming.

## Main results

* `Layout.isQuoted_quote`, `Layout.le_of_mem_quote`, `Layout.lineFeed_not_mem_quote` — texts
  between double quotes
* `Layout.isLine_of_isLiteral` — literals are lines
-/

namespace HostBindings.Layout

open Text (IsLine)

/-! ### Texts between double quotes -/

theorem closesQuote_cons {c : Char} {rest : Line} (mark : c ≠ '"') (escape : c ≠ '\\') :
    closesQuote (c :: rest) = closesQuote rest := by
  cases rest <;> simp [closesQuote, mark, escape]

private theorem hexDigit_ne :
    ∀ n < 16, Text.hexDigit n ≠ '"' ∧ Text.hexDigit n ≠ '\\' ∧ 32 ≤ (Text.hexDigit n).toNat := by
  decide

/-- The first of several digits is the digit of a number below the base. -/
private theorem exists_hexDigit (width n : Nat) :
    ∃ digit < 16, Text.hexDigits (width + 1) n = Text.hexDigit digit :: Text.hexDigits width n :=
  ⟨_, Nat.mod_lt _ (by decide), rfl⟩

theorem closesQuote_hexDigits (width n : Nat) (rest : Line) :
    closesQuote (Text.hexDigits width n ++ rest) = closesQuote rest := by
  induction width with
  | zero => rfl
  | succ width ih =>
    obtain ⟨digit, small, same⟩ := exists_hexDigit width n
    obtain ⟨mark, escape, -⟩ := hexDigit_ne digit small
    rw [same, List.cons_append, closesQuote_cons mark escape, ih]

theorem le_of_mem_hexDigits {width n : Nat} {c : Char} (member : c ∈ Text.hexDigits width n) :
    32 ≤ c.toNat := by
  induction width with
  | zero => cases member
  | succ width ih =>
    obtain ⟨digit, small, same⟩ := exists_hexDigit width n
    rw [same, List.mem_cons] at member
    rcases member with rfl | later
    · exact (hexDigit_ne digit small).2.2
    · exact ih later

/-- An escaped character does not end a literal. -/
theorem closesQuote_escape (c : Char) (rest : Line) :
    closesQuote (Text.escape c ++ rest) = closesQuote rest := by
  unfold Text.escape
  split
  all_goals try rfl
  next mark escape _ _ _ _ _ =>
    split
    · exact closesQuote_hexDigits 4 c.toNat rest
    · exact closesQuote_cons mark escape

/-- An escaped character is made of characters that are no controls below the space. -/
theorem le_of_mem_escape {c d : Char} (member : d ∈ Text.escape c) : 32 ≤ d.toNat := by
  have all : (Text.escape c).all (fun d => decide (32 ≤ d.toNat)) = true := by
    unfold Text.escape
    split
    all_goals try rfl
    split
    · refine List.all_eq_true.mpr fun d inside => decide_eq_true ?_
      rcases List.mem_cons.mp inside with rfl | inside
      · decide
      · rcases List.mem_cons.mp inside with rfl | digits
        · decide
        · exact le_of_mem_hexDigits digits
    next plain => simpa using plain
  exact of_decide_eq_true (List.all_eq_true.mp all d member)

/-- A text between double quotes is an interpreted string literal. -/
theorem isQuoted_quote (text : String) : isQuoted (Text.quote text).toList = true := by
  rw [Text.quote, String.toList_ofList, isQuoted]
  induction text.toList with
  | nil => rfl
  | cons c rest ih => rw [List.flatMap_cons, List.append_assoc, closesQuote_escape, ih]

/-- No control character below the space stands in it. -/
theorem le_of_mem_quote {text : String} {c : Char} (member : c ∈ (Text.quote text).toList) :
    32 ≤ c.toNat := by
  rw [Text.quote, String.toList_ofList] at member
  simp only [List.mem_cons, List.mem_append, List.mem_flatMap, List.not_mem_nil, or_false] at member
  rcases member with rfl | ⟨c, -, escaped⟩ | rfl
  · decide
  · exact le_of_mem_escape escaped
  · decide

/-- So it is a single line. -/
theorem lineFeed_not_mem_quote (text : String) : '\n' ∉ (Text.quote text).toList :=
  fun member => absurd (le_of_mem_quote member) (by decide)

/-! ### Literals as lines -/

private theorem getLast?_of_closesQuote {text : Line} (closes : closesQuote text = true) :
    text.getLast? = some '"' := by
  fun_induction closesQuote text with
  | case1 => cases closes
  | case2 => rfl
  | case3 escaped rest ih =>
    have last := ih closes
    simp [List.getLast?_cons, last]
  | case4 c rest _ _ ih =>
    rw [Bool.and_eq_true] at closes
    have last := ih closes.2
    simp [List.getLast?_cons, last]

theorem isLine_of_isLiteral {text : String} (literal : isLiteral text.toList = true)
    (single : '\n' ∉ text.toList) : IsLine text.toList := by
  simp only [isLiteral, String.ofList_toList, Bool.or_eq_true, or_assoc] at literal
  rcases literal with quoted | integer | number | truth
  · unfold isQuoted at quoted
    split at quoted
    next rest found =>
      rw [found] at single ⊢
      exact ⟨single, '"', by simp [List.getLast?_cons, getLast?_of_closesQuote quoted], by decide⟩
    · cases quoted
  · exact Literal.isLine_of_isInteger single integer
  · exact Literal.isLine_of_isFloat single number
  · exact Literal.isLine_of_isBoolean truth

end HostBindings.Layout
