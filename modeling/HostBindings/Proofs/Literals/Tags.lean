import HostBindings.Declaration
import HostBindings.Proofs.Literals.Interpreted

/-!
# What the tags of fields denote

The tag of a field is a raw string literal: what stands between two backticks, without carriage
returns. Its text is a list of keys, each with a value that is an interpreted string literal, and
programs look a value up by its key. A raw literal has no escapes: what stands between the backticks
cannot hold a backtick. So a name reaches the programs unless it has one of three characters.

## Main definitions

* `Literal.rawText?` — the text that a raw string literal denotes
* `Literal.pair?`, `Literal.lookup?` — the pairs of a tag, and the value of a key
* `Literal.Carries` — a tag that gives a name under a key

## Main results

* `Literal.lookup?_pair` — a tag of one pair
* `Literal.bytes?_escapeTag` — an escaped name denotes the name
* `Literal.carries_iff` — the tags that give a name
-/

namespace HostBindings.Literal

variable {key name body rest text : List Char}

/-! ### Raw string literals -/

/-- The text that a raw string literal denotes; none for a text that is no such literal. -/
def rawText? : List Char → Option (List Char)
  | '\x60' :: rest =>
    if rest.getLast? = some '\x60' ∧ '\x60' ∉ rest.dropLast then
      some (rest.dropLast.filter (· ≠ '\r'))
    else none
  | _ => none

theorem rawText?_eq (text : List Char) :
    rawText? ('\x60' :: (text ++ ['\x60'])) =
      if '\x60' ∈ text then none else some (text.filter (· ≠ '\r')) := by
  simp [rawText?]

/-! ### Looking up a key -/

/-- Whether a character can stand in a key. -/
def isKeyChar (c : Char) : Bool := ' ' < c && c ≠ ':' && c ≠ '"' && c ≠ '\x7f'

/-- What stands before a quotation mark that is not escaped, and what stands behind it. -/
def quoted? : List Char → Option (List Char × List Char)
  | [] => none
  | '"' :: rest => some ([], rest)
  | '\\' :: c :: rest => (quoted? rest).map fun (body, after) => ('\\' :: c :: body, after)
  | c :: rest => (quoted? rest).map fun (body, after) => (c :: body, after)

/-- The first pair of a tag: the key, what stands between the quotation marks of the value, and what
follows. -/
def pair? (tag : List Char) : Option (List Char × List Char × List Char) :=
  let tag := tag.dropWhile (· == ' ')
  match tag.dropWhile isKeyChar with
  | ':' :: '"' :: rest =>
    if tag.takeWhile isKeyChar = [] then none
    else (quoted? rest).map fun (body, after) => (tag.takeWhile isKeyChar, body, after)
  | _ => none

theorem length_quoted? {after : List Char} (found : quoted? text = some (body, after)) :
    after.length < text.length := by
  fun_induction quoted? text generalizing body with
  | case1 => cases found
  | case2 rest =>
    cases found
    exact Nat.lt_succ_self _
  | case3 c rest ih | case4 c rest _ _ ih =>
    obtain ⟨⟨inner, last⟩, there, same⟩ := Option.map_eq_some_iff.mp found
    cases same
    have := ih there
    simp only [List.length_cons]
    omega

theorem length_pair? {after : List Char} (found : pair? text = some (key, body, after)) :
    after.length < text.length := by
  have spaces := (List.dropWhile_suffix (l := text) (· == ' ')).length_le
  have names := (List.dropWhile_suffix (l := text.dropWhile (· == ' ')) isKeyChar).length_le
  simp only [pair?] at found
  split at found
  next rest same =>
    split at found
    · cases found
    · obtain ⟨⟨inner, last⟩, there, same'⟩ := Option.map_eq_some_iff.mp found
      cases same'
      have shorter : last.length < rest.length := length_quoted? there
      rw [same] at names
      simp only [List.length_cons] at names ⊢
      omega
  · cases found

/-- The value of a key in a tag, as bytes. -/
def lookup? (key tag : List Char) : Option (List UInt8) :=
  match found : pair? tag with
  | none => none
  | some (name, body, after) =>
    if name = key then Reading.plain.bytes? body
    else
      have := length_pair? found
      lookup? key after
termination_by tag.length

/-- A key: some characters that can stand in one, and none that ends a raw string literal. An
identifier is a key. -/
structure IsKey (key : List Char) : Prop where
  /-- There is a character. -/
  filled : key ≠ []
  /-- All can stand in a key. -/
  chars : ∀ c ∈ key, isKeyChar c = true
  /-- None is a backtick. -/
  raw : '\x60' ∉ key

/-- In a tag of one pair, the key of the pair has the value. -/
theorem lookup?_pair (plain : IsKey key) (ends : quoted? text = some (body, [])) :
    lookup? key (key ++ ':' :: '"' :: text) = Reading.plain.bytes? body := by
  have lead : (key ++ ':' :: '"' :: text).dropWhile (· == ' ') = key ++ ':' :: '"' :: text := by
    obtain ⟨c, more, rfl⟩ := List.exists_cons_of_ne_nil plain.filled
    have first := plain.chars c List.mem_cons_self
    rw [List.cons_append, List.dropWhile_cons_of_neg]
    simp only [beq_iff_eq]
    rintro rfl
    cases first
  have found : pair? (key ++ ':' :: '"' :: text) = some (key, body, []) := by
    have stop : isKeyChar ':' = false := rfl
    simp only [pair?, lead, List.takeWhile_append_of_pos plain.chars,
      List.dropWhile_append_of_pos plain.chars, List.takeWhile_cons, List.dropWhile_cons, stop,
      Bool.false_eq_true, if_false, List.append_nil, if_neg plain.filled, ends, Option.map_some]
  rw [lookup?]
  split
  next none => exact absurd (found.symm.trans none) nofun
  next same =>
    cases found.symm.trans same
    rw [if_pos rfl]

/-! ### Escaped names -/

/-- A character of a name as it stands in a tag. -/
private def tagChar (c : Char) : List Char := if c = '\\' ∨ c = '"' then ['\\', c] else [c]

private theorem toList_escapeTag (name : String) :
    (Generator.escapeTag name).toList = name.toList.flatMap tagChar := by
  rw [Generator.escapeTag, String.toList_ofList]
  rfl

/-- The quotation marks of a name do not end it. -/
private theorem quoted?_tagChars (name rest : List Char) :
    quoted? (name.flatMap tagChar ++ '"' :: rest) = some (name.flatMap tagChar, rest) := by
  induction name with
  | nil => rfl
  | cons c more ih =>
    rw [List.flatMap_cons, List.append_assoc]
    by_cases special : c = '\\' ∨ c = '"'
    · rw [tagChar, if_pos special]
      simp [quoted?, ih]
    · obtain ⟨slash, mark⟩ := not_or.mp special
      rw [tagChar, if_neg special]
      simp [quoted?, ih, slash]

/-- An escaped name denotes the name, unless it has a line feed. -/
private theorem bytes?_tagChars (name : List Char) :
    Reading.plain.bytes? (name.flatMap tagChar) =
      if '\n' ∈ name then none else some (name.flatMap String.utf8EncodeChar) := by
  -- on the name: backslashes and quotes are escaped, a line feed ends the literal early
  induction name with
  | nil => rfl
  | cons c more ih =>
    rw [List.flatMap_cons]
    by_cases special : c = '\\' ∨ c = '"'
    · have feed : '\n' ≠ c := by
        rintro rfl
        simp at special
      have whole : Reading.plain.bytes? (tagChar c ++ more.flatMap tagChar) =
          (Reading.plain.bytes? (more.flatMap tagChar)).map (String.utf8EncodeChar c ++ ·) := by
        rw [tagChar, if_pos special]
        rcases special with rfl | rfl
        · exact bytes?_letter rfl rfl (by decide)
        · exact bytes?_letter rfl rfl (by decide)
      rw [whole, ih]
      by_cases member : '\n' ∈ more <;> simp [member, feed]
    · rw [tagChar, if_neg special, List.singleton_append]
      obtain ⟨slash, mark⟩ := not_or.mp special
      by_cases feed : c = '\n'
      · subst feed
        simp [Reading.bytes?, Reading.step]
      · rw [bytes?_plain slash mark feed, ih]
        by_cases member : '\n' ∈ more <;> simp [member, Ne.symm feed]

/-- Dropping a character that is not escaped. -/
private theorem filter_tagChars (name : List Char) :
    (name.flatMap tagChar).filter (· ≠ '\r') = (name.filter (· ≠ '\r')).flatMap tagChar := by
  induction name with
  | nil => rfl
  | cons c more ih =>
    rw [List.flatMap_cons, List.filter_append, ih]
    by_cases special : c = '\\' ∨ c = '"'
    · rcases special with rfl | rfl <;> simp [tagChar]
    · by_cases feed : c = '\r'
      · subst feed
        simp [tagChar]
      · simp [tagChar, special, feed]

/-! ### Tags that give a name -/

/-- A tag behind a field gives a name under a key: it is a raw string literal in whose text the
value of the key is the name. -/
def Carries (key name tag : String) : Prop :=
  ∃ literal pairs, tag.toList = ' ' :: literal ∧ rawText? literal = some pairs ∧
    lookup? key.toList pairs = some (bytesOf name)

/-- A backtick in an escaped name is one of the name. -/
private theorem backtick_mem_tagChars (name : List Char) :
    '\x60' ∈ name.flatMap tagChar ↔ '\x60' ∈ name := by
  have one (c : Char) : '\x60' ∈ tagChar c ↔ '\x60' = c := by
    by_cases special : c = '\\' ∨ c = '"'
    · rcases special with rfl | rfl <;> decide
    · simp [tagChar, special]
  simp only [List.mem_flatMap, one, exists_eq_right']

/-- The value of the key in the text of the tag of one pair. -/
private theorem lookup?_raw (plain : IsKey key) (name : List Char) :
    lookup? key ((key ++ ':' :: '"' :: (name.flatMap tagChar ++ ['"'])).filter (· ≠ '\r')) =
      if '\n' ∈ name then none
      else some ((name.filter (· ≠ '\r')).flatMap String.utf8EncodeChar) := by
  have kept : key.filter (· ≠ '\r') = key := by
    refine List.filter_eq_self.mpr fun c member => ?_
    simp only [decide_eq_true_eq]
    rintro rfl
    exact absurd (plain.chars _ member) (by decide)
  have pairs : (key ++ ':' :: '"' :: (name.flatMap tagChar ++ ['"'])).filter (· ≠ '\r') =
      key ++ ':' :: '"' :: ((name.filter (· ≠ '\r')).flatMap tagChar ++ ['"']) := by
    rw [List.filter_append, kept, List.filter_cons_of_pos (by decide),
      List.filter_cons_of_pos (by decide), List.filter_append, filter_tagChars]
    rfl
  have feed : '\n' ∈ name.filter (· ≠ '\r') ↔ '\n' ∈ name := by simp
  rw [pairs, lookup?_pair plain (quoted?_tagChars _ []), bytes?_tagChars]
  simp only [feed]

/-- Names that can be given by the tag of one pair: those without a backtick, which would end the
literal, without a line feed, which cannot stand in a value, and without a carriage return, which a
raw literal drops. -/
def IsTagName (name : String) : Prop :=
  '\x60' ∉ name.toList ∧ '\n' ∉ name.toList ∧ '\r' ∉ name.toList

/-- The tag of one pair gives exactly such names. -/
theorem carries_iff {key name : String} (plain : IsKey key.toList) :
    Carries key name s!" \x60{key}:\"{Generator.escapeTag name}\"\x60" ↔ IsTagName name := by
  -- what is between the backticks; a raw text loses its carriage returns
  let inner := key.toList ++ ':' :: '"' :: (name.toList.flatMap tagChar ++ ['"'])
  have written : (s!" \x60{key}:\"{Generator.escapeTag name}\"\x60").toList =
      ' ' :: '\x60' :: (inner ++ ['\x60']) := by
    simp [inner, toString, toList_escapeTag]
  have ended : '\x60' ∈ inner ↔ '\x60' ∈ name.toList := by
    simp only [inner, List.mem_append, List.mem_cons, plain.raw, backtick_mem_tagChars]
    simp
  have returned : (name.toList.filter (· ≠ '\r')).flatMap String.utf8EncodeChar = bytesOf name ↔
      '\r' ∉ name.toList := by
    refine ⟨fun same => ?_, fun none => ?_⟩
    · -- without its carriage returns the name has the same bytes, so it has none
      have texts : String.ofList (name.toList.filter (· ≠ '\r')) = name :=
        bytesOf_injective (by rw [bytesOf, String.toList_ofList, same])
      have chars : name.toList.filter (· ≠ '\r') = name.toList := by
        rw [← String.toList_ofList (l := name.toList.filter (· ≠ '\r')), texts]
      rw [← chars]
      simp
    · rw [List.filter_eq_self.mpr, bytesOf]
      intro c member
      simp only [decide_eq_true_eq]
      rintro rfl
      exact none member
  unfold Carries
  rw [written]
  constructor
  · rintro ⟨literal, pairs, same, raw, found⟩
    cases same
    rw [rawText?_eq] at raw
    split at raw
    · cases raw
    next open' =>
      cases raw
      rw [lookup?_raw plain] at found
      split at found
      · cases found
      next line => exact ⟨mt ended.mpr open', line, returned.mp (Option.some.inj found)⟩
  · rintro ⟨open', line, stays⟩
    refine ⟨_, inner.filter (· ≠ '\r'), rfl, ?_, ?_⟩
    · rw [rawText?_eq, if_neg (mt ended.mp open')]
    · rw [lookup?_raw plain, if_neg line, returned.mpr stays]

end HostBindings.Literal
