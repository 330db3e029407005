import HostBindings.Json.Basic
import HostBindings.Text.Encoding

/-!
# Reading JSON documents

The reader is lenient in two points: `NaN` and the infinities are numbers, and of several members
with one key the last gives the value. A document it refuses is reported with the place of the
fault, counted in characters, and with the line and column of that place. Documents beyond the
limits of the reader are refused without a place.

## Main definitions

* `Json.Complaint` — what can be wrong at a place
* `Json.ReadError` — a refused document; `ReadError.message` its wording
* `Json.read` — the reader
-/

namespace HostBindings.Json

/-- What can be wrong at a place of a document. -/
inductive Complaint where
  | value
  | comma
  | colon
  | key
  | unterminated
  | controlCharacter
  | escape
  | unicodeEscape
  | extraData
  | byteOrderMark
  deriving DecidableEq, Repr

/-- The wording of a complaint. -/
def Complaint.message : Complaint → String
  | .value => "Expecting value"
  | .comma => "Expecting ',' delimiter"
  | .colon => "Expecting ':' delimiter"
  | .key => "Expecting property name enclosed in double quotes"
  | .unterminated => "Unterminated string starting at"
  | .controlCharacter => "Invalid control character at"
  | .escape => "Invalid \\escape"
  | .unicodeEscape => "Invalid \\uXXXX escape"
  | .extraData => "Extra data"
  | .byteOrderMark => "Unexpected UTF-8 BOM (decode using utf-8-sig)"

/-- A document that is refused. -/
inductive ReadError where
  /-- A fault at a place: its distance from the start, and its line and column counted from one. -/
  | malformed (complaint : Complaint) (line column position : Nat)
  /-- An integer with more digits than the reader takes. -/
  | longInteger (digits : Nat)
  /-- An array or object within more others than the reader takes. -/
  | tooDeep (container : String)
  deriving DecidableEq, Repr

/-- The greatest number of arrays and objects that are open at once. -/
def nestingLimit : Nat := 988

/-- The wording of a refusal. -/
def ReadError.message : ReadError → String
  | .malformed complaint line column position =>
    s!"{complaint.message}: line {line} column {column} (char {position})"
  | .longInteger digits =>
    s!"Exceeds the limit ({digitLimit} digits) for integer string conversion: " ++
      s!"value has {digits} digits; use sys.set_int_max_str_digits() to increase the limit"
  | .tooDeep container =>
    s!"maximum recursion depth exceeded while decoding a JSON {container} from a unicode string"

/-- Whether a document is refused for a limit of the reader, and not because it is malformed. -/
def ReadError.isLimit : ReadError → Bool
  | .malformed .. => false
  | _ => true

/-- A fault within the reader; its place is given by the number of characters that remain there. -/
inductive Refusal where
  | at (complaint : Complaint) (remaining : Nat)
  | longInteger (digits : Nat)
  | tooDeep (container : String)

/-- What is left of a text after at least one character has been read. -/
abbrev Rest (text : List Char) := { rest : List Char // rest.length < text.length }

/-- What is left of a text is left of a longer one too. -/
def Rest.ofLonger {text longer : List Char} (rest : Rest text)
    (le : text.length ≤ longer.length) : Rest longer :=
  ⟨rest.1, Nat.lt_of_lt_of_le rest.2 le⟩

/-- The characters that may stand between the tokens of a document. -/
def isGap (c : Char) : Bool :=
  c == ' ' || c == '\t' || c == '\n' || c == '\r'

/-- A text without the gap at its start. -/
def skipGap (text : List Char) : List Char :=
  text.dropWhile isGap

theorem length_skipGap_le (text : List Char) : (skipGap text).length ≤ text.length := by
  induction text with
  | nil => simp [skipGap]
  | cons c rest ih =>
    simp only [skipGap, List.dropWhile] at ih ⊢
    split
    · exact Nat.le_succ_of_le ih
    · exact Nat.le_refl _

/-! ### Strings -/

/-- The value of a hexadecimal digit. -/
def hexValue? (c : Char) : Option Nat :=
  if '0' ≤ c ∧ c ≤ '9' then some (c.toNat - 48)
  else if 'a' ≤ c ∧ c ≤ 'f' then some (c.toNat - 87)
  else if 'A' ≤ c ∧ c ≤ 'F' then some (c.toNat - 55)
  else none

/-- The number that four hexadecimal digits at the start of a text denote. -/
def hexUnit? : List Char → Option Nat
  | a :: b :: c :: d :: _ => do
    let a ← hexValue? a
    let b ← hexValue? b
    let c ← hexValue? c
    let d ← hexValue? d
    some (((a * 16 + b) * 16 + c) * 16 + d)
  | _ => none

/-- The character of an escape of one letter. -/
def shortEscape? : Char → Option Char
  | '"' => some '"'
  | '\\' => some '\\'
  | '/' => some '/'
  | 'b' => some '\x08'
  | 'f' => some '\x0c'
  | 'n' => some '\n'
  | 'r' => some '\r'
  | 't' => some '\t'
  | _ => none

/-- Whether a number is the first unit of a surrogate pair. -/
def isHighSurrogate (unit : Nat) : Bool := 0xD800 ≤ unit && unit ≤ 0xDBFF

/-- Whether a number is the second unit of a surrogate pair. -/
def isLowSurrogate (unit : Nat) : Bool := 0xDC00 ≤ unit && unit ≤ 0xDFFF

/-- What a number stands for: a character, or half of a surrogate pair. -/
def unitChars (unit : Nat) : List Char :=
  if Text.isHalf unit then Text.half unit else [Char.ofNat unit]

/-- What a numeric escape denotes, given the text after its `u`, with the number of characters it
takes. A pair of escapes may denote one character together. -/
def unicodeEscape (text : List Char) : Except Refusal (List Char × Nat) :=
  if (text.drop 4).isEmpty then .error (.at .unicodeEscape (text.length + 1))
  else
    match hexUnit? text with
    | none => .error (.at .unicodeEscape (text.length + 1))
    | some unit =>
      let tail := text.drop 4
      match tail with
      | '\\' :: 'u' :: second =>
        -- only the first half of a pair looks ahead; an escape that is no second half is left
        if isHighSurrogate unit && !(tail.drop 6).isEmpty then
          match hexUnit? second with
          | none => .error (.at .unicodeEscape (second.length + 1))
          | some low =>
            if isLowSurrogate low then
              .ok ([Char.ofNat (0x10000 + (unit - 0xD800) * 0x400 + (low - 0xDC00))], 10)
            else .ok (unitChars unit, 4)
        else .ok (unitChars unit, 4)
      | _ => .ok (unitChars unit, 4)

theorem length_drop_lt (taken : Nat) (c d : Char) (text : List Char) :
    (text.drop taken).length < (c :: d :: text).length := by
  simp only [List.length_drop, List.length_cons]
  omega

/-- Reads a string whose opening quotation mark has been read; `opened` is the text from that mark
on. -/
def readText (opened text : List Char) : Except Refusal (List Char × Rest text) :=
  match text with
  | [] => .error (.at .unterminated opened.length)
  | c :: rest =>
    if c = '"' then .ok ([], ⟨rest, Nat.lt_succ_self _⟩)
    else if c = '\\' then
      match rest with
      | [] => .error (.at .unterminated opened.length)
      | e :: after =>
        if e = 'u' then do
          let (decoded, taken) ← unicodeEscape after
          let (more, left) ← readText opened (after.drop taken)
          .ok (decoded ++ more, left.ofLonger (Nat.le_of_lt (length_drop_lt taken c e after)))
        else
          match shortEscape? e with
          | none => .error (.at .escape (rest.length + 1))
          | some decoded => do
            let (more, left) ← readText opened after
            .ok (decoded :: more, left.ofLonger (Nat.le_add_right _ 2))
    else if c.toNat < 32 then .error (.at .controlCharacter (rest.length + 1))
    else do
      let (more, left) ← readText opened rest
      .ok (c :: more, left.ofLonger (Nat.le_succ _))
termination_by text.length
decreasing_by
  · exact length_drop_lt taken c e after
  · exact Nat.lt_add_of_pos_right (Nat.succ_pos 1)
  · exact Nat.lt_succ_self _

/-! ### Numbers -/

/-- Whether a character is one of the ten digits. -/
def isAsciiDigit (c : Char) : Bool := '0' ≤ c && c ≤ '9'

/-- The number that a run of digits denotes. -/
def digitsValue (digits : List Char) : Nat :=
  digits.foldl (fun value d => value * 10 + (d.toNat - 48)) 0

/-- The digits at the start of a text, and the rest. -/
def spanDigits (text : List Char) : List Char × List Char :=
  (text.takeWhile isAsciiDigit, text.dropWhile isAsciiDigit)

/-- The integer part at the start of a text: a zero, or digits that begin with another. -/
def integerPart? : List Char → Option (List Char × List Char)
  | [] => none
  | c :: rest =>
    if c = '0' then some (['0'], rest)
    else if isAsciiDigit c then
      let (digits, after) := spanDigits rest
      some (c :: digits, after)
    else none

/-- The fraction at the start of a text: a point with digits, or nothing. -/
def fractionPart (text : List Char) : Option (List Char) × List Char :=
  match text with
  | '.' :: rest =>
    let (digits, after) := spanDigits rest
    if digits.isEmpty then (none, text) else (some digits, after)
  | _ => (none, text)

/-- The exponent at the start of a text: a letter, an optional sign and digits, or nothing. -/
def exponentPart (text : List Char) : Option Int × List Char :=
  match text with
  | c :: rest =>
    if c = 'e' ∨ c = 'E' then
      let (negative, unsigned) :=
        match rest with
        | '+' :: more => (false, more)
        | '-' :: more => (true, more)
        | _ => (false, rest)
      let (digits, after) := spanDigits unsigned
      if digits.isEmpty then (none, text)
      else
        let value : Int := digitsValue digits
        (some (if negative then -value else value), after)
    else (none, text)
  | [] => (none, text)

/-- The number at the start of a text, with the rest; nothing where no number starts. -/
def number? (text : List Char) : Option (Except Refusal Json × List Char) :=
  let (negative, unsigned) :=
    match text with
    | '-' :: rest => (true, rest)
    | _ => (false, text)
  match integerPart? unsigned with
  | none => none
  | some (whole, afterWhole) =>
    let (fraction, afterFraction) := fractionPart afterWhole
    let (exponent, after) := exponentPart afterFraction
    let result : Except Refusal Json :=
      -- a fraction or an exponent makes a float, whatever the value is
      if fraction.isNone && exponent.isNone then
        if digitLimit < whole.length then .error (.longInteger whole.length)
        else
          let value : Int := digitsValue whole
          .ok (.int (if negative then -value else value))
      else
        let decimals := fraction.getD []
        .ok (.float (.ofDecimal negative (digitsValue (whole ++ decimals))
          (exponent.getD 0 - decimals.length)))
    some (result, after)

/-! ### Values -/

/-- The rest of a text after a word, if the text starts with it. -/
def afterWord? (word text : List Char) : Option (List Char) :=
  if word.isPrefixOf text then some (text.drop word.length) else none

/-- The words that denote values. -/
def constants : List (List Char × Json) :=
  [("null".toList, .null), ("true".toList, .bool true), ("false".toList, .bool false),
    ("NaN".toList, .float .notANumber), ("Infinity".toList, .float (.infinite false)),
    ("-Infinity".toList, .float (.infinite true))]

/-- Reads a word or a number. -/
def readScalar (text : List Char) : Except Refusal (Json × Rest text) :=
  let refused : Except Refusal (Json × Rest text) := .error (.at .value text.length)
  -- words come first, since the negative infinity begins as a number does
  let found : Option (Except Refusal Json × List Char) :=
    match constants.findSome? fun (word, value) => (afterWord? word text).map (value, ·) with
    | some (value, rest) => some (.ok value, rest)
    | none => number? text
  match found with
  | none => refused
  | some (result, rest) =>
    if h : rest.length < text.length then
      match result with
      | .ok value => .ok (value, ⟨rest, h⟩)
      | .error refusal => .error refusal
    else refused

mutual
/-- Reads the value at the start of a text; `room` more arrays and objects may be opened in it. -/
def readValue (room : Nat) (text : List Char) : Except Refusal (Json × Rest text) :=
  match text with
  | [] => .error (.at .value 0)
  | c :: rest =>
    if c = '"' then do
      let (value, left) ← readText (c :: rest) rest
      .ok (.string (String.ofList value), ⟨left.1, by have := left.2; simp; omega⟩)
    else if c = '[' then
      if room = 0 then .error (.tooDeep "array") else
      have hgap := length_skipGap_le rest
      match h : skipGap rest with
      | [] => .error (.at .value 0)
      | d :: after =>
        if d = ']' then .ok (.array [], ⟨after, by simp [h] at hgap ⊢; omega⟩)
        else do
          let (items, left) ← readItems (room - 1) (d :: after)
          .ok (.array items, ⟨left.1, by have := left.2; simp [h] at this hgap ⊢; omega⟩)
    else if c = '{' then
      if room = 0 then .error (.tooDeep "object") else
      have hgap := length_skipGap_le rest
      match h : skipGap rest with
      | [] => .error (.at .key 0)
      | d :: after =>
        if d = '}' then .ok (.object [], ⟨after, by simp [h] at hgap ⊢; omega⟩)
        else do
          let (members, left) ← readMembers (room - 1) [] (d :: after)
          .ok (.object members, ⟨left.1, by have := left.2; simp [h] at this hgap ⊢; omega⟩)
    else readScalar (c :: rest)
termination_by 2 * text.length
decreasing_by all_goals simp_all; omega

/-- Reads the items of an array from the first one on, with the closing bracket. -/
def readItems (room : Nat) (text : List Char) : Except Refusal (List Json × Rest text) := do
  let (item, left) ← readValue room text
  have hgap := length_skipGap_le left.1
  match h : skipGap left.1 with
  | [] => .error (.at .comma 0)
  | c :: after =>
    if c = ']' then
      .ok ([item], ⟨after, by have := left.2; simp [h] at hgap; omega⟩)
    else if c = ',' then do
      have hnext := length_skipGap_le after
      let (items, last) ← readItems room (skipGap after)
      .ok (item :: items,
        ⟨last.1, by have := left.2; have := last.2; simp [h] at hgap; omega⟩)
    else .error (.at .comma (after.length + 1))
termination_by 2 * text.length + 1
decreasing_by all_goals first | omega | (have _hleft := left.2; simp [h] at hgap; omega)

/-- Reads the members of an object from the first one on, with the closing brace; `members` are
those read before. -/
def readMembers (room : Nat) (members : Members) (text : List Char) :
    Except Refusal (Members × Rest text) :=
  match text with
  | [] => .error (.at .key 0)
  | c :: rest =>
    if c = '"' then do
      let (key, afterKey) ← readText (c :: rest) rest
      have hkey := length_skipGap_le afterKey.1
      match hcolon : skipGap afterKey.1 with
      | [] => .error (.at .colon 0)
      | d :: afterColon =>
        if d = ':' then do
          have hvalue := length_skipGap_le afterColon
          let (value, left) ← readValue room (skipGap afterColon)
          have hgap := length_skipGap_le left.1
          -- a key that was read before keeps its place and gets the new value
          let extended := members.put (String.ofList key) value
          match h : skipGap left.1 with
          | [] => .error (.at .comma 0)
          | e :: after =>
            if e = '}' then
              .ok (extended, ⟨after, by
                have := left.2; have := afterKey.2
                simp [h] at hgap; simp [hcolon] at hkey; simp; omega⟩)
            else if e = ',' then do
              have hnext := length_skipGap_le after
              let (all, last) ← readMembers room extended (skipGap after)
              .ok (all, ⟨last.1, by
                have := left.2; have := afterKey.2; have := last.2
                simp [h] at hgap; simp [hcolon] at hkey; simp; omega⟩)
            else .error (.at .comma (after.length + 1))
        else .error (.at .colon (afterColon.length + 1))
    else .error (.at .key (rest.length + 1))
termination_by 2 * text.length + 1
decreasing_by
  · have := afterKey.2
    simp [hcolon] at hkey
    simp
    omega
  · have := left.2
    have := afterKey.2
    simp [h] at hgap
    simp [hcolon] at hkey
    simp
    omega
end

/-! ### Documents -/

/-- Where a position stands: its line and its column, both counted from one. -/
def place (text : List Char) (position : Nat) : Nat × Nat :=
  let before := text.take position
  (before.count '\n' + 1, (before.reverse.takeWhile (· != '\n')).length + 1)

/-- The report of a fault within a document. -/
def Refusal.report (text : List Char) : Refusal → ReadError
  | .at complaint remaining =>
    let position := text.length - remaining
    let (line, column) := place text position
    .malformed complaint line column position
  | .longInteger digits => .longInteger digits
  | .tooDeep container => .tooDeep container

/-- Reads a document: one value, with nothing but gaps around it. -/
def read (document : String) : Except ReadError Json :=
  let text := document.toList
  match text with
  | '\uFEFF' :: _ => .error (.malformed .byteOrderMark 1 1 0)
  | _ =>
    match readValue nestingLimit (skipGap text) with
    | .error refusal => .error (refusal.report text)
    | .ok (value, rest) =>
      let after := skipGap rest.1
      if after.isEmpty then .ok value
      else .error (Refusal.report text (.at .extraData after.length))

end HostBindings.Json
