/-!
# Encoded text

A file keeps octets, and every character has octets of its own. A text may also hold halves of
surrogate pairs: an escape in a document gives one without the other. A half is no character and has
no octets, so a text with a half can be used like any other but cannot be written.

In a text a half stands as two characters: a mark, which is a code point that never becomes a
character, and one for private use that tells which half it is. An octet of a file that is part of
no character is kept in the same way, as the half that stands for it.

## Main definitions

* `Text.half` — a half of a surrogate pair in a text
* `Text.codePoints` — the code points of a text, where a half counts as one
* `Text.EncodingFault`, `Text.encodingFault?` — why a text cannot be encoded
* `Text.IsEncodable` — texts that can be encoded
-/

namespace HostBindings.Text

/-! ### Numbers in hexadecimal digits -/

/-- The lower-case hexadecimal digit of a number below sixteen. -/
def hexDigit (n : Nat) : Char :=
  if n < 10 then Char.ofNat (48 + n) else Char.ofNat (87 + n)

/-- A number as exactly `width` hexadecimal digits. -/
def hexDigits : (width : Nat) → Nat → List Char
  | 0, _ => []
  | width + 1, n => hexDigit (n / 16 ^ width % 16) :: hexDigits width n

/-! ### Halves of surrogate pairs -/

/-- What stands before a half. -/
def halfMark : Char := Char.ofNat 0x10FFFF

/-- The half of a surrogate pair with a certain number, as it stands in a text. -/
def half (unit : Nat) : List Char := [halfMark, Char.ofNat (unit + 0x101800)]

/-- The number of the half that a character tells behind a mark. -/
def halfUnit? (c : Char) : Option Nat :=
  if 0x10F000 ≤ c.toNat ∧ c.toNat ≤ 0x10F7FF then some (c.toNat - 0x101800) else none

/-- Whether a code point is half of a surrogate pair. -/
def isHalf (point : Nat) : Bool := 0xD800 ≤ point && point ≤ 0xDFFF

/-- The code points of a text. -/
def codePoints : List Char → List Nat
  | [] => []
  | [c] => [c.toNat]
  | c :: d :: rest =>
    match if c = halfMark then halfUnit? d else none with
    | some unit => unit :: codePoints rest
    | none => c.toNat :: codePoints (d :: rest)

/-! ### Encoding -/

/-- Why a text cannot be encoded: the first halves in it. -/
structure EncodingFault where
  /-- The number of code points before them. -/
  position : Nat
  /-- The first of them. -/
  first : Nat
  /-- The number of halves that follow it at once. -/
  more : Nat
  deriving DecidableEq, Repr

/-- The wording of a fault. -/
def EncodingFault.message (fault : EncodingFault) : String :=
  let place :=
    if fault.more = 0 then
      "character '\\u" ++ String.ofList (hexDigits 4 fault.first) ++
        s!"' in position {fault.position}"
    else s!"characters in position {fault.position}-{fault.position + fault.more}"
  s!"'utf-8' codec can't encode {place}: surrogates not allowed"

/-- What is wrong with code points that cannot be encoded. -/
def pointsFault? (points : List Nat) : Option EncodingFault :=
  match points.dropWhile (!isHalf ·) with
  | [] => none
  | first :: rest =>
    some ⟨(points.takeWhile (!isHalf ·)).length, first, (rest.takeWhile isHalf).length⟩

/-- Whether there may be a half in a text. A mark begins with an octet that few characters have, so
most texts need not be looked into. -/
def mayHaveHalf (text : String) : Bool := text.toByteArray.data.toList.contains 0xF4

/-- What is wrong with a text that cannot be encoded. -/
def encodingFault? (text : String) : Option EncodingFault :=
  if mayHaveHalf text then pointsFault? (codePoints text.toList) else none

/-- A text that can be encoded. -/
def IsEncodable (text : String) : Prop := encodingFault? text = none

instance (text : String) : Decidable (IsEncodable text) :=
  inferInstanceAs (Decidable (encodingFault? text = none))

theorem pointsFault?_eq_none {points : List Nat} :
    pointsFault? points = none ↔ ∀ point ∈ points, isHalf point = false := by
  unfold pointsFault?
  induction points with
  | nil => simp
  | cons point rest ih =>
    rw [List.forall_mem_cons]
    cases half : isHalf point with
    | true => simp [half]
    | false =>
      rw [List.dropWhile_cons_of_pos (by simp [half]), ← ih]
      split <;> simp_all

theorem isHalf_toNat (c : Char) : isHalf c.toNat = false := by
  have valid : c.toNat < 0xD800 ∨ 0xDFFF < c.toNat ∧ c.toNat < 0x110000 := c.valid
  simp only [isHalf, Bool.and_eq_false_iff, decide_eq_false_iff_not]
  omega

/-- Where no mark stands there is no half. -/
theorem isHalf_of_mem_codePoints {chars : List Char} (plain : halfMark ∉ chars) :
    ∀ point ∈ codePoints chars, isHalf point = false := by
  fun_induction codePoints chars with
  | case1 => simp
  | case2 c => simp [isHalf_toNat]
  | case3 c d rest unit told ih =>
    have other : c ≠ halfMark := by
      rintro rfl
      exact plain List.mem_cons_self
    rw [if_neg other] at told
    cases told
  | case4 c d rest none ih =>
    exact List.forall_mem_cons.mpr
      ⟨isHalf_toNat c, ih fun member => plain (List.mem_cons_of_mem c member)⟩

/-- A text with a mark has the octet that a mark begins with. -/
theorem mayHaveHalf_of_mem {text : String} (member : halfMark ∈ text.toList) :
    mayHaveHalf text = true := by
  have octets : text.toByteArray.data.toList = text.toList.flatMap String.utf8EncodeChar := by
    have spelt : text.toByteArray = (String.ofList text.toList).toByteArray := by
      rw [String.ofList_toList]
    rw [spelt]
    exact List.toList_data_toByteArray
  rw [mayHaveHalf, octets, List.contains_iff_mem, List.mem_flatMap]
  exact ⟨halfMark, member, by decide⟩

/-- What is wrong with a text is what is wrong with its code points. -/
theorem encodingFault?_eq (text : String) :
    encodingFault? text = pointsFault? (codePoints text.toList) := by
  unfold encodingFault?
  split
  · rfl
  next plain =>
    refine (pointsFault?_eq_none.mpr (isHalf_of_mem_codePoints fun member => ?_)).symm
    exact plain (mayHaveHalf_of_mem member)

/-- A text can be encoded exactly if none of its code points is a half. -/
theorem isEncodable_iff {text : String} :
    IsEncodable text ↔ ∀ point ∈ codePoints text.toList, isHalf point = false := by
  rw [IsEncodable, encodingFault?_eq, pointsFault?_eq_none]

/-- A text without a mark can be encoded. -/
theorem isEncodable_of_not_mem {text : String} (plain : halfMark ∉ text.toList) :
    IsEncodable text :=
  isEncodable_iff.mpr (isHalf_of_mem_codePoints plain)

end HostBindings.Text
