import HostBindings.Text.Quoted

/-!
# What interpreted string literals denote

A string literal between double quotes denotes bytes. A character that stands for itself denotes its
encoding; a backslash begins an escape, which is a single letter, a byte in octal or hexadecimal
digits, or the number of a character in hexadecimal digits. A line feed, or a quotation mark that is
not escaped, cannot stand inside. What the library puts between double quotes denotes the text it
was made of.

## Main definitions

* `Literal.bytesOf` — the bytes of a text
* `Literal.Reading`, `Literal.Reading.step` — a literal read character by character
* `Literal.unquote?` — the bytes that a literal denotes

## Main results

* `Literal.bytesOf_injective`
* `Literal.unquote?_quote` — a quoted text denotes the text
-/

namespace HostBindings.Literal

/-! ### Bytes -/

/-- The bytes of a text. -/
def bytesOf (text : String) : List UInt8 :=
  text.toList.flatMap String.utf8EncodeChar

theorem bytesOf_eq (text : String) : bytesOf text = text.toUTF8.data.toList := by
  have encoded : text.toUTF8 = text.toList.utf8Encode := by
    conv => lhs; rw [← String.ofList_toList (s := text)]
    rfl
  rw [encoded, List.utf8Encode, List.data_toByteArray, bytesOf]

/-- Texts are told apart by their bytes. -/
theorem bytesOf_injective {text other : String} (same : bytesOf text = bytesOf other) :
    text = other := by
  rw [bytesOf_eq, bytesOf_eq, Array.toList_inj] at same
  exact String.toByteArray_inj.mp (ByteArray.ext same)

/-! ### Reading a literal -/

/-- What a numeric escape stands for. -/
inductive NumberKind where
  /-- A byte. -/
  | byte
  /-- A character. -/
  | char
  deriving DecidableEq

/-- What has been read of the escape at hand. -/
inductive Reading where
  /-- Nothing: there is no escape. -/
  | plain
  /-- The backslash. -/
  | begun
  /-- Some digits of a number, which come to a value so far. Behind the next one there are `left`
  more. -/
  | numeric (kind : NumberKind) (base left value : Nat)
  deriving DecidableEq

/-- The byte of an escape of one letter. -/
def letterByte? : Char → Option UInt8
  | 'a' => some 7
  | 'b' => some 8
  | 't' => some 9
  | 'n' => some 10
  | 'v' => some 11
  | 'f' => some 12
  | 'r' => some 13
  | '"' => some 34
  | '\\' => some 92
  | _ => none

/-- The value of a character as a digit. -/
def digitValue? (base : Nat) (c : Char) : Option Nat :=
  let value :=
    if c.isDigit then c.toNat - '0'.toNat
    else if 'a' ≤ c ∧ c ≤ 'f' then c.toNat - 'a'.toNat + 10
    else if 'A' ≤ c ∧ c ≤ 'F' then c.toNat - 'A'.toNat + 10
    else base
  if value < base then some value else none

/-- The bytes that a number stands for. -/
def NumberKind.bytes? (kind : NumberKind) (value : Nat) : Option (List UInt8) :=
  match kind with
  | byte => if value < 256 then some [value.toUInt8] else none
  | char => if value.isValidChar then some (String.utf8EncodeChar (.ofNat value)) else none

namespace Reading

/-- Reads one more character. The answer has the bytes that are known by it. -/
def step : Reading → Char → Option (Reading × List UInt8)
  | plain, c =>
    if c = '\\' then some (begun, [])
    else if c = '"' ∨ c = '\n' then none
    else some (plain, String.utf8EncodeChar c)
  | begun, c =>
    if c = 'x' then some (numeric .byte 16 1 0, [])
    else if c = 'u' then some (numeric .char 16 3 0, [])
    else if c = 'U' then some (numeric .char 16 7 0, [])
    else
      match letterByte? c with
      | some byte => some (plain, [byte])
      | none => (digitValue? 8 c).map fun digit => (numeric .byte 8 1 digit, [])
  | numeric kind base left value, c =>
    (digitValue? base c).bind fun digit =>
      match left with
      | 0 => (kind.bytes? (value * base + digit)).map fun bytes => (plain, bytes)
      | left + 1 => some (numeric kind base left (value * base + digit), [])

/-- Reads what stands between the quotation marks to its end. -/
def bytes? (reading : Reading) : List Char → Option (List UInt8)
  | [] => if reading = plain then some [] else none
  | c :: rest =>
    (reading.step c).bind fun (next, bytes) => (bytes? next rest).map (bytes ++ ·)

end Reading

/-- The bytes that an interpreted string literal denotes; none for a text that is not one. -/
def unquote? : List Char → Option (List UInt8)
  | '"' :: rest => if rest.getLast? = some '"' then Reading.plain.bytes? rest.dropLast else none
  | _ => none

/-! ### Quoted texts -/

variable {c : Char} {rest text : List Char}

theorem bytes?_plain (slash : c ≠ '\\') (mark : c ≠ '"') (feed : c ≠ '\n') :
    Reading.plain.bytes? (c :: rest) =
      (Reading.plain.bytes? rest).map (String.utf8EncodeChar c ++ ·) := by
  simp [Reading.bytes?, Reading.step, slash, mark, feed]

/-- An escape of one letter denotes the character whose encoding is its byte. -/
theorem bytes?_letter {e : Char} {byte : UInt8} (letter : letterByte? e = some byte)
    (encoded : String.utf8EncodeChar c = [byte]) (numeric : e ≠ 'x' ∧ e ≠ 'u' ∧ e ≠ 'U') :
    Reading.plain.bytes? ('\\' :: e :: rest) =
      (Reading.plain.bytes? rest).map (String.utf8EncodeChar c ++ ·) := by
  obtain ⟨x, u, big⟩ := numeric
  simp only [Reading.bytes?, Reading.step, if_pos, if_neg x, if_neg u, if_neg big, letter, encoded,
    Option.bind_some, List.nil_append, Option.map_id']

theorem digitValue?_hexDigit {digit : Nat} (small : digit < 16) :
    digitValue? 16 (Text.hexDigit digit) = some digit := by
  have all : ∀ digit < 16, digitValue? 16 (Text.hexDigit digit) = some digit := by decide
  exact all digit small

section Digits

variable {kind : NumberKind} {value digit : Nat} (small : digit < 16)

include small

/-- A digit that is not the last is put behind those that were read before. -/
theorem bytes?_digit (left : Nat) :
    (Reading.numeric kind 16 (left + 1) value).bytes? (Text.hexDigit digit :: rest) =
      (Reading.numeric kind 16 left (value * 16 + digit)).bytes? rest := by
  simp only [Reading.bytes?, Reading.step, digitValue?_hexDigit small, Option.bind_some,
    List.nil_append, Option.map_id']

/-- The last digit completes the number. -/
theorem bytes?_lastDigit :
    (Reading.numeric kind 16 0 value).bytes? (Text.hexDigit digit :: rest) =
      (kind.bytes? (value * 16 + digit)).bind fun bytes =>
        (Reading.plain.bytes? rest).map (bytes ++ ·) := by
  simp only [Reading.bytes?, Reading.step, digitValue?_hexDigit small, Option.bind_some]
  cases kind.bytes? (value * 16 + digit) <;> rfl

end Digits

/-- Four digits are read as the number that they were made of. -/
theorem bytes?_hexDigits {n : Nat} (small : n < 65536) :
    (Reading.numeric .char 16 3 0).bytes? (Text.hexDigits 4 n ++ rest) =
      (NumberKind.char.bytes? n).bind fun bytes =>
        (Reading.plain.bytes? rest).map (bytes ++ ·) := by
  have digits : Text.hexDigits 4 n =
      [Text.hexDigit (n / 4096 % 16), Text.hexDigit (n / 256 % 16), Text.hexDigit (n / 16 % 16),
        Text.hexDigit (n / 1 % 16)] := rfl
  have number : (((0 * 16 + n / 4096 % 16) * 16 + n / 256 % 16) * 16 + n / 16 % 16) * 16 +
      n / 1 % 16 = n := by omega
  have below (m : Nat) : m % 16 < 16 := Nat.mod_lt m (by decide)
  rw [digits, List.cons_append, bytes?_digit (below _), List.cons_append, bytes?_digit (below _),
    List.cons_append, bytes?_digit (below _), List.cons_append, bytes?_lastDigit (below _), number,
    List.nil_append]

/-- A character as it stands between double quotes denotes itself. -/
theorem bytes?_escape (c : Char) (rest : List Char) :
    Reading.plain.bytes? (Text.escape c ++ rest) =
      (Reading.plain.bytes? rest).map (String.utf8EncodeChar c ++ ·) := by
  unfold Text.escape
  split
  · exact bytes?_letter rfl rfl (by decide)
  · exact bytes?_letter rfl rfl (by decide)
  · exact bytes?_letter rfl rfl (by decide)
  · exact bytes?_letter rfl rfl (by decide)
  · exact bytes?_letter rfl rfl (by decide)
  · exact bytes?_letter rfl rfl (by decide)
  · exact bytes?_letter rfl rfl (by decide)
  next mark slash feed _ _ _ _ =>
    split
    next control =>
      -- other control characters are written with four hexadecimal digits
      have digits : (Reading.numeric .char 16 3 0).bytes? (Text.hexDigits 4 c.toNat ++ rest) = _ :=
        bytes?_hexDigits (by omega)
      rw [NumberKind.bytes?, if_pos (.inl (by omega)), Char.ofNat_toNat, Option.bind_some] at digits
      simp only [List.cons_append, Reading.bytes?, Reading.step, if_pos, Option.bind_some,
        List.nil_append, Option.map_id', Char.reduceEq, if_false]
      exact digits
    next => exact bytes?_plain slash mark feed

/-- A text between double quotes denotes the text. -/
theorem unquote?_quote (text : String) :
    unquote? (Text.quote text).toList = some (bytesOf text) := by
  have body : ∀ chars : List Char, Reading.plain.bytes? (chars.flatMap Text.escape) =
      some (chars.flatMap String.utf8EncodeChar) := by
    intro chars
    induction chars with
    | nil => rfl
    | cons c more ih =>
      rw [List.flatMap_cons, bytes?_escape, ih, List.flatMap_cons, Option.map_some]
  rw [Text.quote, String.toList_ofList, unquote?, if_pos (by simp)]
  simpa [bytesOf] using body text.toList

end HostBindings.Literal
