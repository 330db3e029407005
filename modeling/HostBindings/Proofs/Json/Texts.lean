import HostBindings.Json.Reader
import HostBindings.Json.Writer

/-!
# Texts that are written and read

A text between quotation marks is read as the text: characters that stand for themselves, escapes
of one letter, and numeric escapes of control characters.

## Main definitions

* `Json.Reads` — what a part of the reader comes to

## Main results

* `Json.reads_text` — the text between the quotation marks is read as it was
-/

namespace HostBindings.Json

variable {α : Type} {c e : Char} {opened text after chars rest : List Char}

/-- A part of the reader comes to a result and leaves a text. -/
def Reads (result : Except Refusal (α × Rest text)) (value : α) (rest : List Char) : Prop :=
  ∃ left, result = .ok (value, left) ∧ left.1 = rest

/-! ### One character -/

theorem reads_text_end (opened rest : List Char) :
    Reads (readText opened ('"' :: rest)) [] rest := by
  rw [readText.eq_def]
  exact ⟨_, if_pos rfl, rfl⟩

/-- A character that stands for itself. -/
theorem reads_text_plain (mark : c ≠ '"') (slash : c ≠ '\\') (printable : ¬ c.toNat < 32)
    (more : Reads (readText opened text) chars rest) :
    Reads (readText opened (c :: text)) (c :: chars) rest := by
  obtain ⟨left, read, same⟩ := more
  rw [readText.eq_def]
  simp only [if_neg mark, if_neg slash, if_neg printable, read]
  exact ⟨_, rfl, same⟩

/-- An escape of one letter. -/
theorem reads_text_short (short : shortEscape? e = some c)
    (more : Reads (readText opened text) chars rest) :
    Reads (readText opened ('\\' :: e :: text)) (c :: chars) rest := by
  obtain ⟨left, read, same⟩ := more
  have letter : e ≠ 'u' := by
    rintro rfl
    cases short
  rw [readText]
  simp only [if_neg letter, short, read]
  exact ⟨_, rfl, same⟩

/-- A numeric escape. -/
theorem reads_text_numeric {decoded : List Char} {taken : Nat}
    (escape : unicodeEscape after = .ok (decoded, taken))
    (more : Reads (readText opened (after.drop taken)) chars rest) :
    Reads (readText opened ('\\' :: 'u' :: after)) (decoded ++ chars) rest := by
  obtain ⟨left, read, same⟩ := more
  refine ⟨left.ofLonger (Nat.le_of_lt (length_drop_lt taken '\\' 'u' after)), ?_, same⟩
  rw [readText]
  simp only [escape, bind, Except.bind]
  rw [read]
  rfl

/-! ### Escapes -/

/-- The digits of the escape of a control character give its number. -/
theorem hexUnit?_hexDigits {n : Nat} (small : n < 32) (text : List Char) :
    hexUnit? (Text.hexDigits 4 n ++ text) = some n := by
  have alone : ∀ n < 32, hexUnit? (Text.hexDigits 4 n) = some n := by decide
  exact alone n small

/-- The escape of a control character is read as it, if a text follows. -/
theorem unicodeEscape_hexDigits (control : c.toNat < 32) (some : text ≠ []) :
    unicodeEscape (Text.hexDigits 4 c.toNat ++ text) = .ok ([c], 4) := by
  have four : (Text.hexDigits 4 c.toNat ++ text).drop 4 = text := rfl
  have high : isHighSurrogate c.toNat = false := by
    simp only [isHighSurrogate, Bool.and_eq_false_iff, decide_eq_false_iff_not]
    omega
  have char : unitChars c.toNat = [c] := by
    rw [unitChars, if_neg (by simp [Text.isHalf]; omega), Char.ofNat_toNat]
  unfold unicodeEscape
  rw [four, hexUnit?_hexDigits control, if_neg (by simpa using some)]
  simp only [high, Bool.false_and, Bool.false_eq_true, if_false, char]
  split <;> rfl

/-- How a character stands between quotation marks: as an escape of one letter, as a numeric escape,
or as itself. -/
theorem escape_cases (c : Char) :
    (∃ e, shortEscape? e = some c ∧ Text.escape c = ['\\', e]) ∨
      (c.toNat < 32 ∧ Text.escape c = '\\' :: 'u' :: Text.hexDigits 4 c.toNat) ∨
      (c ≠ '"' ∧ c ≠ '\\' ∧ ¬ c.toNat < 32 ∧ Text.escape c = [c]) := by
  unfold Text.escape
  split
  · exact .inl ⟨'"', rfl, rfl⟩
  · exact .inl ⟨'\\', rfl, rfl⟩
  · exact .inl ⟨'n', rfl, rfl⟩
  · exact .inl ⟨'r', rfl, rfl⟩
  · exact .inl ⟨'t', rfl, rfl⟩
  · exact .inl ⟨'b', rfl, rfl⟩
  · exact .inl ⟨'f', rfl, rfl⟩
  next mark slash _ _ _ _ _ =>
    right
    by_cases control : c.toNat < 32
    · exact .inl ⟨control, if_pos control⟩
    · exact .inr ⟨mark, slash, control, if_neg control⟩

/-- A character as it stands between quotation marks. -/
theorem reads_text_escape (c : Char) (some : text ≠ [])
    (more : Reads (readText opened text) chars rest) :
    Reads (readText opened (Text.escape c ++ text)) (c :: chars) rest := by
  rcases escape_cases c with ⟨e, short, same⟩ | ⟨control, same⟩ | ⟨mark, slash, printable, same⟩
  all_goals rw [same]
  · exact reads_text_short short more
  · exact reads_text_numeric (unicodeEscape_hexDigits control some) more
  · exact reads_text_plain mark slash printable more

/-- The characters of a text as they stand between quotation marks, with the last mark. -/
theorem reads_text (opened chars rest : List Char) :
    Reads (readText opened (chars.flatMap Text.escape ++ '"' :: rest)) chars rest := by
  induction chars with
  | nil => exact reads_text_end opened rest
  | cons c more ih =>
    rw [List.flatMap_cons, List.append_assoc]
    exact reads_text_escape c (by simp) ih

end HostBindings.Json
