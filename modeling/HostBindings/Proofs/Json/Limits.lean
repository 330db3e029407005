import HostBindings.Proofs.Json.Documents

/-!
# Texts within the limits of the reader

The reader has two limits: the digits of an integer, and the arrays and objects that are open at
once. Whether a text keeps within them can be seen without reading it: from its longest run of
digits, and from its brackets outside of strings. Such a text is a document or is malformed.

## Main definitions

* `Json.IsDecodable` — texts that are not refused for a limit
* `Json.Lexical`, `Json.Lexical.step` — what is kept in mind while a text is gone through
* `Json.Modest` — texts that keep within the limits, as far as they look

## Main results

* `Json.settles_readValue` — the reader refuses no modest text for a limit
* `Json.decodable_of_modest` — a modest text is decodable
-/

namespace HostBindings.Json

/-- A number of arrays and objects within each other that is far from what the reader takes, and
from what can be gone through after it. -/
def nestingInUse : Nat := 100

/-- A text that is within the limits of the reader: it is malformed, or it has no integer of too
many digits and is not nested deeply. A text that looks modest is (`decodable_of_modest`). -/
def IsDecodable (text : String) : Prop :=
  (∃ data, read text = .ok data ∧ data.depth ≤ nestingInUse) ∨
    ∃ complaint line column position, read text = .error (.malformed complaint line column position)

/-! ### Going through a text -/

/-- Where in a text a character stands. -/
inductive Lexical where
  /-- Outside of all strings; so many more arrays and objects may be opened. -/
  | outside (room : Nat)
  /-- In a string. -/
  | inside (room : Nat)
  /-- In a string, behind a backslash. -/
  | escaped (room : Nat)

/-- Whether a character opens an array or an object. -/
def opens (c : Char) : Bool := c == '[' || c == '\x7b'

/-- Whether a character closes an array or an object. -/
def closes (c : Char) : Bool := c == ']' || c == '\x7d'

/-- Where the text goes on behind a character; nothing if too much is opened. -/
def Lexical.step : Lexical → Char → Option Lexical
  | .escaped room, _ => some (.inside room)
  | .inside room, c =>
    some (if c = '\\' then .escaped room else if c = '"' then .outside room else .inside room)
  | .outside room, c =>
    if c = '"' then some (.inside room)
    else if opens c then if room = 0 then none else some (.outside (room - 1))
    else if closes c then some (.outside (room + 1))
    else some (.outside room)

/-- A text that keeps within the limits of the reader, as far as it looks. -/
structure Modest (state : Lexical) (text : List Char) : Prop where
  /-- It never opens too much. -/
  fits : (text.foldlM Lexical.step state).isSome = true
  /-- No run of digits in it is too long for an integer. -/
  short : ∀ run, run <:+: text → IsDigits run → run.length ≤ digitLimit

variable {α β : Type} {room more : Nat} {state : Lexical} {c e : Char}
  {text rest lead after : List Char}

namespace Modest

theorem tail (modest : Modest state (c :: rest)) :
    ∃ next, state.step c = some next ∧ Modest next rest := by
  have fits := modest.fits
  rw [List.foldlM_cons] at fits
  cases stepped : state.step c with
  | none =>
    rw [stepped] at fits
    cases fits
  | some next =>
    rw [stepped] at fits
    exact ⟨next, rfl, fits, fun run within =>
      modest.short run (within.trans (List.infix_cons (List.infix_refl rest)))⟩

/-- A character outside of strings that is no mark and no bracket changes nothing. -/
theorem skip (modest : Modest (.outside room) (c :: rest)) (mark : c ≠ '"')
    (opening : opens c = false) (closing : closes c = false) : Modest (.outside room) rest := by
  obtain ⟨next, stepped, modest⟩ := modest.tail
  simp only [Lexical.step, mark, opening, closing, Bool.false_eq_true, if_false] at stepped
  cases stepped
  exact modest

theorem opened (modest : Modest (.outside room) (c :: rest)) (opening : opens c = true) :
    ∃ inner, room = inner + 1 ∧ Modest (.outside inner) rest := by
  obtain ⟨next, stepped, modest⟩ := modest.tail
  have mark : c ≠ '"' := by
    rintro rfl
    cases opening
  simp only [Lexical.step, mark, opening, if_false, if_true] at stepped
  split at stepped
  · cases stepped
  next some =>
    cases stepped
    exact ⟨room - 1, (Nat.succ_pred some).symm, modest⟩

theorem closed (modest : Modest (.outside room) (c :: rest)) (closing : closes c = true) :
    Modest (.outside (room + 1)) rest := by
  obtain ⟨next, stepped, modest⟩ := modest.tail
  have other : c ≠ '"' ∧ opens c = false := by
    simp only [closes, Bool.or_eq_true, beq_iff_eq] at closing
    rcases closing with rfl | rfl <;> decide
  simp only [Lexical.step, other.1, other.2, closing, Bool.false_eq_true, if_false, if_true]
    at stepped
  cases stepped
  exact modest

theorem quoted (modest : Modest (.outside room) ('"' :: rest)) : Modest (.inside room) rest := by
  obtain ⟨_, ⟨⟩, modest⟩ := modest.tail
  exact modest

theorem unquoted (modest : Modest (.inside room) ('"' :: rest)) : Modest (.outside room) rest := by
  obtain ⟨_, ⟨⟩, modest⟩ := modest.tail
  exact modest

theorem escape (modest : Modest (.inside room) ('\\' :: e :: rest)) :
    Modest (.inside room) rest := by
  obtain ⟨_, ⟨⟩, modest⟩ := modest.tail
  obtain ⟨_, ⟨⟩, modest⟩ := modest.tail
  exact modest

theorem within (modest : Modest (.inside room) (c :: rest)) (mark : c ≠ '"') (slash : c ≠ '\\') :
    Modest (.inside room) rest := by
  obtain ⟨next, stepped, modest⟩ := modest.tail
  simp only [Lexical.step, mark, slash, if_false] at stepped
  cases stepped
  exact modest

end Modest

/-- A character that changes nothing outside of strings. -/
def IsPlain (c : Char) : Prop := c ≠ '"' ∧ opens c = false ∧ closes c = false

instance : DecidablePred IsPlain := fun _ => inferInstanceAs (Decidable (_ ∧ _))

/-- Only plain characters are taken from a text until another is left. -/
def Skips (text left : List Char) : Prop := ∃ lead, text = lead ++ left ∧ ∀ c ∈ lead, IsPlain c

theorem Skips.refl (text : List Char) : Skips text text := ⟨[], rfl, by simp⟩

theorem Skips.trans (first : Skips text rest) (second : Skips rest after) : Skips text after := by
  obtain ⟨lead, rfl, plain⟩ := first
  obtain ⟨more, rfl, others⟩ := second
  exact ⟨lead ++ more, (List.append_assoc ..).symm, List.forall_mem_append.mpr ⟨plain, others⟩⟩

theorem Skips.cons (plain : IsPlain c) (others : Skips text rest) : Skips (c :: text) rest := by
  obtain ⟨lead, rfl, more⟩ := others
  exact ⟨c :: lead, rfl, List.forall_mem_cons.mpr ⟨plain, more⟩⟩

/-- A text that is modest stays so behind plain characters. -/
theorem Modest.skips (modest : Modest (.outside room) text) (taken : Skips text rest) :
    Modest (.outside room) rest := by
  obtain ⟨lead, rfl, plain⟩ := taken
  induction lead with
  | nil => exact modest
  | cons c lead ih =>
    obtain ⟨⟨mark, opening, closing⟩, others⟩ := List.forall_mem_cons.mp plain
    exact ih others (modest.skip mark opening closing)

/-- Characters with a property are taken that only plain ones have. -/
theorem skips_dropWhile {p : Char → Bool} (plain : ∀ c, p c = true → IsPlain c)
    (text : List Char) : Skips text (text.dropWhile p) :=
  ⟨text.takeWhile p, List.takeWhile_append_dropWhile.symm, fun c member =>
    plain c (List.all_eq_true.mp List.all_takeWhile c member)⟩

theorem Modest.skipGap (modest : Modest (.outside room) text) :
    Modest (.outside room) (skipGap text) := by
  refine modest.skips (skips_dropWhile (fun c gap => ?_) text)
  simp only [isGap, Bool.or_eq_true, beq_iff_eq, or_assoc] at gap
  rcases gap with rfl | rfl | rfl | rfl
  all_goals decide

/-! ### Parts of the reader -/

/-- A part of the reader gives a result with a property, or finds a fault at a place. -/
def Settles (result : Except Refusal α) (good : α → Prop) : Prop :=
  (∀ value, result = .ok value → good value) ∧
    ∀ refusal, result = .error refusal → ∃ complaint remaining, refusal = .at complaint remaining

variable {good : α → Prop} {fine : β → Prop}

theorem settles_ok {value : α} (met : good value) : Settles (.ok value) good := by
  constructor
  · rintro _ ⟨⟩
    exact met
  · rintro _ ⟨⟩

theorem settles_at (complaint : Complaint) (remaining : Nat) :
    Settles (.error (.at complaint remaining)) good := by
  constructor
  · rintro _ ⟨⟩
  · rintro _ ⟨⟩
    exact ⟨complaint, remaining, rfl⟩

theorem Settles.bind {result : Except Refusal α} {next : α → Except Refusal β}
    (first : Settles result good) (others : ∀ value, good value → Settles (next value) fine) :
    Settles (result >>= next) fine := by
  cases result with
  | error refusal =>
    obtain ⟨complaint, remaining, rfl⟩ := first.2 refusal rfl
    exact settles_at complaint remaining
  | ok value => exact others value (first.1 value rfl)

/-- What is left behind a character and the gaps around it is shorter. -/
theorem length_skipGap_lt (same : skipGap text = c :: rest) :
    (skipGap rest).length < text.length :=
  calc (skipGap rest).length
    _ ≤ rest.length := length_skipGap_le rest
    _ < (c :: rest).length := Nat.lt_succ_self _
    _ = (skipGap text).length := by rw [same]
    _ ≤ text.length := length_skipGap_le text

/-- A text that is modest stays so behind a plain character and the gaps around it. -/
theorem Modest.past (modest : Modest (.outside room) text) (same : Json.skipGap text = c :: rest)
    (plain : IsPlain c) : Modest (.outside room) (Json.skipGap rest) :=
  ((same ▸ modest.skipGap).skips (.cons plain (.refl _))).skipGap

/-! ### Strings -/

theorem hexValue?_plain {n : Nat} (digit : hexValue? c = some n) : c ≠ '"' ∧ c ≠ '\\' := by
  have none : hexValue? '"' = none ∧ hexValue? '\\' = none := by decide
  constructor
  all_goals
    rintro rfl
    simp [none] at digit

/-- The digits of a numeric escape are neither marks nor backslashes. -/
theorem Modest.drop_hexUnit? {unit : Nat} (modest : Modest (.inside room) text)
    (digits : hexUnit? text = some unit) : Modest (.inside room) (text.drop 4) := by
  unfold hexUnit? at digits
  split at digits
  next a b c d rest =>
    obtain ⟨_, first, digits⟩ := Option.bind_eq_some_iff.mp digits
    obtain ⟨_, second, digits⟩ := Option.bind_eq_some_iff.mp digits
    obtain ⟨_, third, digits⟩ := Option.bind_eq_some_iff.mp digits
    obtain ⟨_, fourth, _⟩ := Option.bind_eq_some_iff.mp digits
    have one := hexValue?_plain first
    have two := hexValue?_plain second
    have three := hexValue?_plain third
    have four := hexValue?_plain fourth
    exact (((modest.within one.1 one.2).within two.1 two.2).within three.1 three.2).within
      four.1 four.2
  next => cases digits

/-- A numeric escape stays within its string. -/
theorem settles_unicodeEscape (modest : Modest (.inside room) text) :
    Settles (unicodeEscape text) fun result => Modest (.inside room) (text.drop result.2) := by
  unfold unicodeEscape
  split
  next => exact settles_at _ _
  next =>
    split
    next => exact settles_at _ _
    next unit digits =>
      have behind := modest.drop_hexUnit? digits
      dsimp only
      split
      next second tail =>
        split
        next =>
          split
          next => exact settles_at _ _
          next low other =>
            split
            next =>
              refine settles_ok ?_
              -- the second half of a pair is an escape of its own
              have whole : text.drop 10 = second.drop 4 := by
                rw [show (10 : Nat) = 4 + 6 from rfl, ← List.drop_drop, tail]
                rfl
              rw [whole]
              rw [tail] at behind
              exact behind.escape.drop_hexUnit? other
            next => exact settles_ok behind
        next => exact settles_ok behind
      next => exact settles_ok behind

theorem settles_readText (opened : List Char) (modest : Modest (.inside room) text) :
    Settles (readText opened text) fun result => Modest (.outside room) result.2.1 := by
  fun_induction readText opened text with
  | case1 | case3 | case5 | case7 => exact settles_at _ _
  | case2 => exact settles_ok modest.unquoted
  | case4 after _ ih =>
    refine (settles_unicodeEscape modest.escape).bind fun escape behind => ?_
    exact (ih escape.2 behind).bind fun _ modest => settles_ok modest
  | case6 _ _ _ _ _ _ ih => exact (ih modest.escape).bind fun _ modest => settles_ok modest
  | case8 _ _ mark slash _ ih =>
    exact (ih (modest.within mark slash)).bind fun _ modest => settles_ok modest

/-! ### Numbers and words -/

theorem isPlain_of_isAsciiDigit (digit : isAsciiDigit c = true) : IsPlain c := by
  refine ⟨(ne_of_isAsciiDigit digit rfl).symm, ?_, ?_⟩
  · simp [opens, (ne_of_isAsciiDigit digit (c := '[') rfl).symm,
      (ne_of_isAsciiDigit digit (c := '\x7b') rfl).symm]
  · simp [closes, (ne_of_isAsciiDigit digit (c := ']') rfl).symm,
      (ne_of_isAsciiDigit digit (c := '\x7d') rfl).symm]

theorem skips_spanDigits (text : List Char) : Skips text (spanDigits text).2 :=
  skips_dropWhile (fun _ => isPlain_of_isAsciiDigit) text

/-- The integer part of a number stands in front of the rest. -/
theorem eq_of_integerPart? (part : integerPart? text = some (lead, rest)) :
    text = lead ++ rest := by
  cases text with
  | nil => cases part
  | cons c more =>
    rw [integerPart?] at part
    split at part
    next zero =>
      cases part
      rw [zero]
      rfl
    next =>
      split at part
      next =>
        cases part
        exact congrArg (c :: ·) List.takeWhile_append_dropWhile.symm
      next => cases part

theorem skips_fractionPart (text : List Char) : Skips text (fractionPart text).2 := by
  unfold fractionPart
  split
  next more =>
    dsimp only
    split
    · exact .refl _
    · exact .cons (by decide) (skips_spanDigits more)
  next => exact .refl _

theorem skips_exponentPart (text : List Char) : Skips text (exponentPart text).2 := by
  unfold exponentPart
  split
  next c more =>
    split
    next letter =>
      have plain : IsPlain c := by
        rcases letter with rfl | rfl
        all_goals decide
      dsimp only
      split
      all_goals
        split
        · exact .refl _
      · exact .cons plain (.cons (by decide) (skips_spanDigits _))
      · exact .cons plain (.cons (by decide) (skips_spanDigits _))
      · exact .cons plain (skips_spanDigits _)
    next => exact .refl _
  next => exact .refl _

/-- A number takes plain characters, and is refused for a run of digits that it takes. -/
theorem skips_number? {result : Except Refusal Json} (number : number? text = some (result, rest)) :
    Skips text rest ∧ ∀ refusal, result = .error refusal →
      ∃ whole, whole <:+: text ∧ IsDigits whole ∧ digitLimit < whole.length := by
  unfold number? at number
  dsimp only at number
  split at number
  next => cases number
  next whole behind part =>
    obtain ⟨-, digits⟩ := isDigits_of_integerPart? part
    have signed : Skips text (whole ++ behind) := by
      rw [← eq_of_integerPart? part]
      split
      · exact .cons (by decide) (.refl _)
      · exact .refl _
    have taken : Skips (whole ++ behind) behind :=
      ⟨whole, rfl, fun c member => isPlain_of_isAsciiDigit (digits c member)⟩
    obtain ⟨made, rfl⟩ := Prod.mk.inj (Option.some.inj number)
    refine ⟨(signed.trans taken).trans ((skips_fractionPart _).trans (skips_exponentPart _)), ?_⟩
    intro refusal refused
    rw [refused] at made
    split at made
    next =>
      split at made
      next long =>
        obtain ⟨sign, rfl, -⟩ := signed
        exact ⟨whole, ⟨sign, behind, List.append_assoc ..⟩, digits, long⟩
      next => cases made
    next => cases made

/-- A word takes plain characters. -/
theorem skips_afterWord? {word : List Char} {value : Json} (listed : (word, value) ∈ constants)
    (taken : afterWord? word text = some rest) : Skips text rest := by
  have plain : ∀ entry ∈ constants, ∀ c ∈ entry.1, IsPlain c := by
    simp [constants, IsPlain, opens, closes]
  unfold afterWord? at taken
  split at taken
  next leads =>
    cases taken
    obtain ⟨behind, rfl⟩ := List.isPrefixOf_iff_prefix.mp leads
    rw [List.drop_left]
    exact ⟨word, rfl, plain _ listed⟩
  next => cases taken

theorem settles_readScalar (modest : Modest (.outside room) text) :
    Settles (readScalar text) fun result =>
      result.1.depth ≤ room ∧ Modest (.outside room) result.2.1 := by
  have flat {value : Json} {left : Rest text} (read : readScalar text = .ok (value, left)) :
      value.depth ≤ room := by
    refine (readScalar_eq_ok read).elim ?_ ?_
    · exact fun ⟨_, listed⟩ => (readable_of_mem_constants listed).depth
    · exact fun ⟨_, number⟩ => (readable_of_number? number).depth
  suffices goesOn : Settles (readScalar text) fun result => Modest (.outside room) result.2.1 from
    ⟨fun result read => ⟨flat read, goesOn.1 result read⟩, goesOn.2⟩
  unfold readScalar
  dsimp only
  split
  next => exact settles_at _ _
  next result rest found =>
    have known : Skips text rest ∧ ∀ refusal, result ≠ .error refusal := by
      split at found
      next word =>
        cases found
        obtain ⟨⟨known, value⟩, listed, same⟩ := List.exists_of_findSome?_eq_some word
        obtain ⟨_, taken, made⟩ := Option.map_eq_some_iff.mp same
        cases made
        exact ⟨skips_afterWord? listed taken, by simp⟩
      next =>
        obtain ⟨taken, long⟩ := skips_number? found
        refine ⟨taken, fun refusal refused => ?_⟩
        obtain ⟨whole, within, digits, long⟩ := long refusal refused
        exact long.not_ge (modest.short whole within digits)
    obtain ⟨taken, refused⟩ := known
    split
    next =>
      cases result with
      | ok value => exact settles_ok (modest.skips taken)
      | error refusal => exact absurd rfl (refused refusal)
    next => exact settles_at _ _

/-! ### Values -/

/-- The readers refuse no modest text of a length for a limit, and leave a modest text. The items of
an array and the members of an object end with the bracket that makes room again. -/
structure ReadersSettle (length : Nat) : Prop where
  /-- A value is settled. -/
  value {limit room : Nat} {text : List Char} : text.length = length → room ≤ limit →
    Modest (.outside room) text → Settles (readValue limit text) fun result =>
      result.1.depth ≤ room ∧ Modest (.outside room) result.2.1
  /-- Items are settled. -/
  items {limit room : Nat} {text : List Char} : text.length = length → room ≤ limit →
    Modest (.outside room) text → Settles (readItems limit text) fun result =>
      (∀ item ∈ result.1, item.depth ≤ room) ∧ Modest (.outside (room + 1)) result.2.1
  /-- Members are settled. -/
  members {limit room : Nat} {text : List Char} {before : Members} : text.length = length →
    room ≤ limit → Modest (.outside room) text → (∀ member ∈ before, member.2.depth ≤ room) →
    Settles (readMembers limit before text) fun result =>
      (∀ member ∈ result.1, member.2.depth ≤ room) ∧ Modest (.outside (room + 1)) result.2.1

section Step

variable {limit : Nat} {before : Members}
  (below : ∀ length < text.length, ReadersSettle length) (le : room ≤ limit)
  (modest : Modest (.outside room) text)

include below le modest

theorem settles_value : Settles (readValue limit text) fun result =>
    result.1.depth ≤ room ∧ Modest (.outside room) result.2.1 := by
  rw [readValue.eq_def]
  split
  next => exact settles_at _ _
  next c rest =>
    split
    next mark =>
      subst mark
      exact (settles_readText _ modest.quoted).bind fun _ modest =>
        settles_ok ⟨Nat.zero_le _, modest⟩
    next =>
      split
      next bracket =>
        subst bracket
        -- what is inside has one less room, which the closing bracket gives back
        obtain ⟨inner, rfl, inside⟩ := modest.opened rfl
        split
        next zero => omega
        next =>
          split
          next => exact settles_at _ _
          next same =>
            have shorter := length_lt_of_skipGap (c := '[') same
            have inside := same ▸ inside.skipGap
            split
            next closed =>
              subst closed
              exact settles_ok ⟨depth_array_le (by simp), inside.closed rfl⟩
            next =>
              exact ((below _ shorter).items rfl (Nat.le_sub_one_of_lt le) inside).bind
                fun _ met => settles_ok ⟨depth_array_le met.1, met.2⟩
      next =>
        split
        next brace =>
          subst brace
          obtain ⟨inner, rfl, inside⟩ := modest.opened rfl
          split
          next zero => omega
          next =>
            split
            next => exact settles_at _ _
            next same =>
              have shorter := length_lt_of_skipGap (c := '\x7b') same
              have inside := same ▸ inside.skipGap
              split
              next closed =>
                subst closed
                exact settles_ok ⟨depth_object_le (by simp), inside.closed rfl⟩
              next =>
                exact ((below _ shorter).members rfl (Nat.le_sub_one_of_lt le) inside
                  (by simp)).bind fun _ met => settles_ok ⟨depth_object_le met.1, met.2⟩
        next => exact settles_readScalar modest

omit modest in
/-- Items are settled, if the first of them is. -/
theorem settles_items (first : Settles (readValue limit text) fun result =>
      result.1.depth ≤ room ∧ Modest (.outside room) result.2.1) :
    Settles (readItems limit text) fun result =>
      (∀ item ∈ result.1, item.depth ≤ room) ∧ Modest (.outside (room + 1)) result.2.1 := by
  rw [readItems.eq_def]
  refine first.bind ?_
  rintro ⟨item, left⟩ ⟨flat, modest⟩
  dsimp only
  split
  next => exact settles_at _ _
  next c after same =>
    split
    next closed =>
      subst closed
      exact settles_ok ⟨by simpa using flat, (same ▸ modest.skipGap).closed rfl⟩
    next =>
      split
      next comma =>
        subst comma
        have shorter := (length_skipGap_lt same).trans left.2
        refine ((below _ shorter).items rfl le (modest.past same (by decide))).bind ?_
        rintro ⟨items, last⟩ ⟨others, modest⟩
        exact settles_ok ⟨List.forall_mem_cons.mpr ⟨flat, others⟩, modest⟩
      next => exact settles_at _ _

theorem settles_members (parts : ∀ member ∈ before, member.2.depth ≤ room) :
    Settles (readMembers limit before text) fun result =>
      (∀ member ∈ result.1, member.2.depth ≤ room) ∧ Modest (.outside (room + 1)) result.2.1 := by
  rw [readMembers.eq_def]
  split
  next => exact settles_at _ _
  next c rest =>
    split
    next mark =>
      subst mark
      refine (settles_readText _ modest.quoted).bind ?_
      rintro ⟨key, afterKey⟩ modest
      dsimp only
      split
      next => exact settles_at _ _
      next d afterColon colon =>
        split
        next same =>
          subst same
          have shorter := ((length_skipGap_lt colon).trans afterKey.2).trans (Nat.lt_succ_self _)
          refine ((below _ shorter).value rfl le (modest.past colon (by decide))).bind ?_
          rintro ⟨value, left⟩ ⟨flat, modest⟩
          have extended : ∀ member ∈ before.put (String.ofList key) value,
              member.2.depth ≤ room := fun member listed =>
            (Members.mem_put listed).elim (parts member) fun same => same ▸ flat
          dsimp only
          split
          next => exact settles_at _ _
          next e after same =>
            split
            next closed =>
              subst closed
              exact settles_ok ⟨extended, (same ▸ modest.skipGap).closed rfl⟩
            next =>
              split
              next comma =>
                subst comma
                have shorter := ((length_skipGap_lt same).trans left.2).trans shorter
                exact ((below _ shorter).members rfl le (modest.past same (by decide))
                  extended).bind fun _ met => settles_ok met
              next => exact settles_at _ _
        next => exact settles_at _ _
    next => exact settles_at _ _

end Step

/-- The readers call each other on shorter texts. -/
theorem readersSettle (length : Nat) : ReadersSettle length := by
  induction length using Nat.strongRecOn with
  | _ length below =>
    constructor
    · rintro limit room text rfl le modest
      exact settles_value below le modest
    · rintro limit room text rfl le modest
      exact settles_items below le (settles_value below le modest)
    · rintro limit room text before rfl le modest parts
      exact settles_members below le modest parts

/-- The reader refuses no modest text for a limit, and gives no more depth than the text has room
for. -/
theorem settles_readValue {limit : Nat} (le : room ≤ limit)
    (modest : Modest (.outside room) text) : Settles (readValue limit text) fun result =>
      result.1.depth ≤ room ∧ Modest (.outside room) result.2.1 :=
  (readersSettle text.length).value rfl le modest

/-! ### Documents -/

/-- Whether a text is decodable can be seen without reading it. -/
theorem decodable_of_modest {text : String}
    (modest : Modest (.outside nestingInUse) text.toList) : IsDecodable text := by
  obtain ⟨given, refused⟩ := settles_readValue (by decide : nestingInUse ≤ nestingLimit)
    modest.skipGap
  unfold IsDecodable read
  dsimp only
  split
  next => exact .inr ⟨_, _, _, _, rfl⟩
  next =>
    split
    next refusal failed =>
      obtain ⟨complaint, remaining, rfl⟩ := refused refusal failed
      exact .inr ⟨_, _, _, _, rfl⟩
    next value rest found =>
      split
      · exact .inl ⟨value, rfl, (given _ found).1⟩
      · exact .inr ⟨_, _, _, _, rfl⟩

end HostBindings.Json
