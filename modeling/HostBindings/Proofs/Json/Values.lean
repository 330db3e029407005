import HostBindings.Proofs.Json.Numbers
import HostBindings.Proofs.Json.Texts

/-!
# How the reader goes on

What the reader comes to at a value, at the items of an array, and at the members of an object, by
what it comes to at their parts.

## Main results

* `Json.reads_number`, `Json.reads_word` — scalars
* `Json.reads_array`, `Json.reads_items_more`, `Json.reads_items_last` — arrays
* `Json.reads_object`, `Json.reads_members_more`, `Json.reads_members_last` — objects
-/

namespace HostBindings.Json

variable {room : Nat} {c d : Char} {text after left rest last : List Char} {value item : Json}
  {items : List Json} {members all : Members}

/-! ### Scalars -/

/-- The integer part of a number starts with a digit. -/
theorem exists_digit_of_integerPart? {parts : List Char × List Char}
    (part : integerPart? text = some parts) :
    ∃ d more, isAsciiDigit d = true ∧ text = d :: more := by
  cases text with
  | nil => cases part
  | cons d more =>
    refine ⟨d, more, ?_, rfl⟩
    by_contra other
    have nonzero : d ≠ '0' := by
      rintro rfl
      exact other rfl
    rw [integerPart?, if_neg nonzero, if_neg other] at part
    cases part

/-- A number starts with a digit, or with a sign and a digit. -/
theorem exists_digit_of_number? {result : Except Refusal Json × List Char}
    (number : number? text = some result) :
    ∃ d more, isAsciiDigit d = true ∧ (text = d :: more ∨ text = '-' :: d :: more) := by
  by_cases signed : ∃ more, text = '-' :: more
  · obtain ⟨unsigned, rfl⟩ := signed
    cases part : integerPart? unsigned with
    | none => simp [number?, part] at number
    | some parts =>
      obtain ⟨d, more, digit, rfl⟩ := exists_digit_of_integerPart? part
      exact ⟨d, more, digit, .inr rfl⟩
  · have unsigned : ∀ more, text ≠ '-' :: more := fun more same => signed ⟨more, same⟩
    cases part : integerPart? text with
    | none => simp [number?, part] at number
    | some parts =>
      obtain ⟨d, more, digit, same⟩ := exists_digit_of_integerPart? part
      exact ⟨d, more, digit, .inl same⟩

/-- Characters that are no digits. -/
theorem ne_of_isAsciiDigit (digit : isAsciiDigit d = true) (other : isAsciiDigit c = false) :
    c ≠ d := by
  rintro rfl
  rw [digit] at other
  cases other

/-- The reader at a character that opens nothing. -/
theorem readValue_eq_readScalar (mark : c ≠ '"') (bracket : c ≠ '[') (brace : c ≠ '{') :
    readValue room (c :: text) = readScalar (c :: text) := by
  rw [readValue.eq_def]
  simp only [if_neg mark, if_neg bracket, if_neg brace]

/-- No word stands where a number starts. -/
theorem noWord_of_number? {result : Except Refusal Json × List Char}
    (number : number? text = some result) :
    (constants.findSome? fun (word, value) => (afterWord? word text).map (value, ·)) = none := by
  obtain ⟨d, more, digit, same⟩ := exists_digit_of_number? number
  have differs (c : Char) (other : isAsciiDigit c = false) : c ≠ d :=
    ne_of_isAsciiDigit digit other
  rcases same with rfl | rfl
  · simp [constants, afterWord?, differs 'n' rfl, differs 't' rfl, differs 'f' rfl, differs 'N' rfl,
      differs 'I' rfl, differs '-' rfl]
  · simp [constants, afterWord?, differs 'I' rfl]

/-- Where a number starts, the reader opens nothing. -/
theorem readValue_of_number? {result : Except Refusal Json × List Char}
    (number : number? text = some result) : readValue room text = readScalar text := by
  obtain ⟨d, more, digit, same⟩ := exists_digit_of_number? number
  have differs (c : Char) (other : isAsciiDigit c = false) : d ≠ c :=
    (ne_of_isAsciiDigit digit other).symm
  rcases same with rfl | rfl
  · exact readValue_eq_readScalar (differs _ rfl) (differs _ rfl) (differs _ rfl)
  · exact readValue_eq_readScalar (by decide) (by decide) (by decide)

/-- A text that is read as a number wherever it stands is not empty. -/
theorem ne_nil_of_number? (number : ∀ rest, EndsNumber rest →
    number? (text ++ rest) = some (.ok value, rest)) : text ≠ [] := by
  rintro rfl
  obtain ⟨d, more, -, same | same⟩ := exists_digit_of_number? (number [] (by simp [EndsNumber]))
  all_goals cases same

theorem reads_number (room : Nat)
    (number : ∀ rest, EndsNumber rest → number? (text ++ rest) = some (.ok value, rest))
    (ends : EndsNumber rest) : Reads (readValue room (text ++ rest)) value rest := by
  have shorter : rest.length < (text ++ rest).length := by
    rw [List.length_append]
    exact Nat.lt_add_of_pos_left (List.length_pos_of_ne_nil (ne_nil_of_number? number))
  have found := number rest ends
  refine ⟨⟨rest, shorter⟩, ?_, rfl⟩
  rw [readValue_of_number? found, readScalar, noWord_of_number? found]
  simp only [found, dif_pos shorter]

theorem reads_word (room : Nat) {word : List Char} (listed : (word, value) ∈ constants)
    (rest : List Char) : Reads (readValue room (word ++ rest)) value rest := by
  have found : (constants.findSome? fun (known, value) =>
      (afterWord? known (word ++ rest)).map (value, ·)) = some (value, rest) := by
    simp only [constants, List.mem_cons, List.not_mem_nil, or_false, Prod.mk.injEq] at listed
    rcases listed with ⟨rfl, rfl⟩ | ⟨rfl, rfl⟩ | ⟨rfl, rfl⟩ | ⟨rfl, rfl⟩ | ⟨rfl, rfl⟩ | ⟨rfl, rfl⟩
    all_goals rfl
  obtain ⟨c, more, same, letter⟩ : ∃ c more, word = c :: more ∧ c ≠ '"' ∧ c ≠ '[' ∧ c ≠ '\x7b' := by
    simp only [constants, List.mem_cons, List.not_mem_nil, or_false, Prod.mk.injEq] at listed
    rcases listed with ⟨rfl, -⟩ | ⟨rfl, -⟩ | ⟨rfl, -⟩ | ⟨rfl, -⟩ | ⟨rfl, -⟩ | ⟨rfl, -⟩
    all_goals exact ⟨_, _, rfl, by decide⟩
  subst same
  rw [List.cons_append] at found ⊢
  have shorter : rest.length < (c :: (more ++ rest)).length := by
    rw [List.length_cons, List.length_append]
    omega
  refine ⟨⟨rest, shorter⟩, ?_, rfl⟩
  rw [readValue_eq_readScalar letter.1 letter.2.1 letter.2.2, readScalar]
  simp only [found, dif_pos shorter]

/-! ### Texts -/

theorem toList_quote (text : String) :
    (Text.quote text).toList = '"' :: (text.toList.flatMap Text.escape ++ ['"']) := by
  rw [Text.quote, String.toList_ofList]

/-- A text between quotation marks is read as the text. -/
theorem reads_quote (room : Nat) (text : String) (rest : List Char) :
    Reads (readValue room ((Text.quote text).toList ++ rest)) (.string text) rest := by
  rw [toList_quote, List.cons_append, List.append_assoc, List.singleton_append]
  have read := reads_text ('"' :: (text.toList.flatMap Text.escape ++ '"' :: rest)) text.toList rest
  generalize text.toList.flatMap Text.escape ++ '"' :: rest = after at read
  obtain ⟨left, read, same⟩ := read
  rw [readValue.eq_def]
  simp only [if_true, read, bind, Except.bind, String.ofList_toList]
  exact ⟨_, rfl, same⟩

/-! ### Arrays -/

theorem reads_array_empty (opens : room ≠ 0) (closed : skipGap text = ']' :: rest) :
    Reads (readValue room ('[' :: text)) (.array []) rest := by
  rw [readValue.eq_def]
  simp only [if_neg opens, if_true]
  rw [if_neg (by decide)]
  split
  next none => cases closed.symm.trans none
  next same =>
    cases closed.symm.trans same
    exact ⟨_, if_pos rfl, rfl⟩

theorem reads_array (opens : room ≠ 0) (first : skipGap text = d :: after) (other : d ≠ ']')
    (inside : Reads (readItems (room - 1) (d :: after)) items rest) :
    Reads (readValue room ('[' :: text)) (.array items) rest := by
  obtain ⟨left, read, same⟩ := inside
  rw [readValue.eq_def]
  simp only [if_neg opens, if_true]
  rw [if_neg (by decide)]
  split
  next none => cases first.symm.trans none
  next again =>
    cases first.symm.trans again
    simp only [if_neg other, read, bind, Except.bind]
    exact ⟨_, rfl, same⟩

theorem reads_items_last (read : Reads (readValue room text) item left)
    (closed : skipGap left = ']' :: rest) : Reads (readItems room text) [item] rest := by
  obtain ⟨left, read, rfl⟩ := read
  rw [readItems.eq_def]
  simp only [read, bind, Except.bind]
  split
  next none => cases closed.symm.trans none
  next same =>
    cases closed.symm.trans same
    exact ⟨_, if_pos rfl, rfl⟩

theorem reads_items_more (read : Reads (readValue room text) item left)
    (comma : skipGap left = ',' :: after)
    (others : Reads (readItems room (skipGap after)) items rest) :
    Reads (readItems room text) (item :: items) rest := by
  obtain ⟨left, read, rfl⟩ := read
  obtain ⟨last, readOthers, same⟩ := others
  rw [readItems.eq_def]
  simp only [read, bind, Except.bind]
  split
  next none => cases comma.symm.trans none
  next again =>
    cases comma.symm.trans again
    rw [if_neg (by decide), if_pos rfl]
    simp only [readOthers]
    exact ⟨_, rfl, same⟩

/-! ### Objects -/

theorem reads_object_empty (opens : room ≠ 0) (closed : skipGap text = '\x7d' :: rest) :
    Reads (readValue room ('\x7b' :: text)) (.object []) rest := by
  rw [readValue.eq_def]
  simp only [if_neg opens, if_true]
  rw [if_neg (by decide), if_neg (by decide)]
  split
  next none => cases closed.symm.trans none
  next same =>
    cases closed.symm.trans same
    exact ⟨_, if_pos rfl, rfl⟩

theorem reads_object (opens : room ≠ 0) (first : skipGap text = d :: after) (other : d ≠ '\x7d')
    (inside : Reads (readMembers (room - 1) [] (d :: after)) members rest) :
    Reads (readValue room ('\x7b' :: text)) (.object members) rest := by
  obtain ⟨left, read, same⟩ := inside
  rw [readValue.eq_def]
  simp only [if_neg opens, if_true]
  rw [if_neg (by decide), if_neg (by decide)]
  split
  next none => cases first.symm.trans none
  next again =>
    cases first.symm.trans again
    simp only [if_neg other, read, bind, Except.bind]
    exact ⟨_, rfl, same⟩

section Members

variable {key afterKey afterColon : List Char}

theorem reads_members_last (name : Reads (readText ('"' :: text) text) key afterKey)
    (colon : skipGap afterKey = ':' :: afterColon)
    (read : Reads (readValue room (skipGap afterColon)) value left)
    (closed : skipGap left = '\x7d' :: rest) :
    Reads (readMembers room members ('"' :: text)) (members.put (String.ofList key) value)
      rest := by
  obtain ⟨afterKey, readName, rfl⟩ := name
  obtain ⟨left, read, rfl⟩ := read
  rw [readMembers.eq_def]
  simp only [if_true, readName, bind, Except.bind]
  split
  next none => cases colon.symm.trans none
  next again =>
    cases colon.symm.trans again
    simp only [if_true, read]
    split
    next none => cases closed.symm.trans none
    next same =>
      cases closed.symm.trans same
      exact ⟨_, if_pos rfl, rfl⟩

theorem reads_members_more (name : Reads (readText ('"' :: text) text) key afterKey)
    (colon : skipGap afterKey = ':' :: afterColon)
    (read : Reads (readValue room (skipGap afterColon)) value left)
    (comma : skipGap left = ',' :: after)
    (others : Reads (readMembers room (members.put (String.ofList key) value) (skipGap after)) all
      rest) :
    Reads (readMembers room members ('"' :: text)) all rest := by
  obtain ⟨afterKey, readName, rfl⟩ := name
  obtain ⟨left, read, rfl⟩ := read
  obtain ⟨last, readOthers, same⟩ := others
  rw [readMembers.eq_def]
  simp only [if_true, readName, bind, Except.bind]
  split
  next none => cases colon.symm.trans none
  next again =>
    cases colon.symm.trans again
    simp only [if_true, read]
    split
    next none => cases comma.symm.trans none
    next again =>
      cases comma.symm.trans again
      rw [if_neg (by decide), if_pos rfl]
      simp only [readOthers]
      exact ⟨_, rfl, same⟩

end Members

end HostBindings.Json
