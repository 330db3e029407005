import HostBindings.Proofs.Json.Keys
import HostBindings.Proofs.Json.Values
import HostBindings.Text.Lines

/-!
# Documents that are written and read

The indented form of a value is read as the value, if no object in it lists a key twice and the
value is within the limits of the reader. Beside what is in the strings, the form has line feeds and
visible characters only, so it is the same text after all ends of lines are unified.

## Main definitions

* `Json.Readable` — a value that can be read where some arrays and objects may be opened
* `Json.lacks` — whether a value has a character in none of its strings

## Main results

* `Json.readable_read` — what is read could be read again
* `Json.read_indented` — what is written is read
* `Json.not_mem_indented` — the characters of the form
* `Json.unifyLineEnds_indented` — the ends of its lines
-/

namespace HostBindings.Json

variable {room level : Nat} {c : Char} {text rest tail : List Char} {value item : Json}
  {items : List Json} {members : Members}

/-! ### Values within the limits -/

/-- A value can be read where `room` arrays and objects may be opened. -/
structure Readable (room : Nat) (value : Json) : Prop where
  /-- No key is listed twice. -/
  keyed : value.Keyed
  /-- No more arrays and objects are open at once. -/
  depth : value.depth ≤ room
  /-- Integers have no more digits than the reader takes. -/
  digits : value.longestInteger ≤ digitLimit

theorem measureItems_le {scalar : Json → Nat} {bound : Nat} :
    measureItems scalar level items ≤ bound ↔
      ∀ item ∈ items, measure scalar level item ≤ bound := by
  induction items with
  | nil => simp [measureItems]
  | cons item rest ih => rw [measureItems, Nat.max_le, ih, List.forall_mem_cons]

theorem measureMembers_le {scalar : Json → Nat} {bound : Nat} :
    measureMembers scalar level members ≤ bound ↔
      ∀ member ∈ members, measure scalar level member.2 ≤ bound := by
  induction members with
  | nil => simp [measureMembers]
  | cons member rest ih => rw [measureMembers, Nat.max_le, ih, List.forall_mem_cons]

theorem depth_array_le (parts : ∀ item ∈ items, item.depth ≤ room) :
    (array items).depth ≤ room + 1 := by
  rw [depth, measure]
  exact Nat.succ_le_succ (measureItems_le.mpr parts)

theorem depth_object_le (parts : ∀ member ∈ members, member.2.depth ≤ room) :
    (object members).depth ≤ room + 1 := by
  rw [depth, measure]
  exact Nat.succ_le_succ (measureMembers_le.mpr parts)

/-- An array takes room, and its items have to do with one less. -/
theorem Readable.of_array (readable : Readable room (.array items)) :
    room ≠ 0 ∧ ∀ item ∈ items, Readable (room - 1) item := by
  obtain ⟨keyed, depth, digits⟩ := readable
  rw [Json.depth, measure] at depth
  have inside := measureItems_le.mp (Nat.le_sub_of_add_le depth)
  exact ⟨by omega, fun item listed =>
    ⟨keyed_array.mp keyed item listed, inside item listed, measureItems_le.mp digits item listed⟩⟩

/-- Items with one less room make an array. -/
theorem Readable.array (opens : room ≠ 0) (parts : ∀ item ∈ items, Readable (room - 1) item) :
    Readable room (.array items) := by
  obtain ⟨inner, rfl⟩ := Nat.exists_eq_succ_of_ne_zero opens
  exact ⟨keyed_array.mpr fun item listed => (parts item listed).keyed,
    depth_array_le fun item listed => (parts item listed).depth,
    measureItems_le.mpr fun item listed => (parts item listed).digits⟩

/-- Members with one less room make an object. -/
theorem Readable.object (opens : room ≠ 0) (single : (members.map (·.1)).Nodup)
    (parts : ∀ member ∈ members, Readable (room - 1) member.2) :
    Readable room (.object members) := by
  obtain ⟨inner, rfl⟩ := Nat.exists_eq_succ_of_ne_zero opens
  exact ⟨keyed_object.mpr ⟨single, fun member listed => (parts member listed).keyed⟩,
    depth_object_le fun member listed => (parts member listed).depth,
    measureMembers_le.mpr fun member listed => (parts member listed).digits⟩

/-- An object takes room, and its members have to do with one less. -/
theorem Readable.of_object (readable : Readable room (.object members)) :
    room ≠ 0 ∧ (members.map (·.1)).Nodup ∧
      ∀ member ∈ members, Readable (room - 1) member.2 := by
  obtain ⟨keyed, depth, digits⟩ := readable
  obtain ⟨single, keyed⟩ := keyed_object.mp keyed
  rw [Json.depth, measure] at depth
  have inside := measureMembers_le.mp (Nat.le_sub_of_add_le depth)
  exact ⟨by omega, single, fun member listed =>
    ⟨keyed member listed, inside member listed, measureMembers_le.mp digits member listed⟩⟩

theorem readable_of_mem_constants {word : List Char} (listed : (word, value) ∈ constants) :
    Readable room value := by
  simp only [constants, List.mem_cons, List.not_mem_nil, or_false, Prod.mk.injEq] at listed
  rcases listed with ⟨-, rfl⟩ | ⟨-, rfl⟩ | ⟨-, rfl⟩ | ⟨-, rfl⟩ | ⟨-, rfl⟩ | ⟨-, rfl⟩
  all_goals exact ⟨trivial, Nat.zero_le _, Nat.zero_le _⟩

theorem readable_of_number? (number : number? text = some (.ok value, rest)) :
    Readable room value := by
  rcases number?_eq_ok number with ⟨_, whole, _, part, short, integer, same, rfl⟩ | ⟨double, rfl⟩
  · refine ⟨trivial, Nat.zero_le _, ?_⟩
    obtain ⟨some, digits⟩ := isDigits_of_integerPart? part
    calc longestInteger (.int integer)
      _ = Binary64.digitCount (digitsValue whole) := by rw [← same]; rfl
      _ ≤ whole.length := digitCount_digitsValue_le some digits
      _ ≤ digitLimit := short
  · exact ⟨trivial, Nat.zero_le _, Nat.zero_le _⟩

/-- What is read from a document could be read from its own form. -/
theorem readable_read {document : String} (result : read document = .ok value) :
    Readable nestingLimit value := by
  have closed : ReadInvariant Readable :=
    { string := fun _ => ⟨trivial, Nat.zero_le _, Nat.zero_le _⟩
      scalar := fun read => (readScalar_eq_ok read).elim
        (fun ⟨_, listed⟩ => readable_of_mem_constants listed)
        fun ⟨_, number⟩ => readable_of_number? number
      array := fun opens parts => .array opens parts
      object := fun opens single parts => .object opens single parts }
  exact closed.read result

/-! ### Gaps -/

theorem skipGap_of_not_isGap (token : isGap c = false) : skipGap (c :: text) = c :: text := by
  simp [skipGap, token]

theorem toList_newLine (level : Nat) :
    (newLine level).toList = '\n' :: List.replicate (2 * level) ' ' := by
  rw [newLine, String.toList_append, String.toList_ofList]
  simp

/-- The start of a line is skipped. -/
theorem skipGap_newLine (level : Nat) (text : List Char) :
    skipGap ((newLine level).toList ++ text) = skipGap text := by
  rw [toList_newLine, skipGap, List.dropWhile_append_of_pos]
  · rfl
  · simp [isGap]

/-- What may follow a number: a comma or a new line. -/
theorem endsNumber_cons (other : isAsciiDigit c = false ∧ c ≠ '.' ∧ c ≠ 'e' ∧ c ≠ 'E') :
    EndsNumber (c :: text) := by
  rintro _ ⟨⟩
  exact other

theorem endsNumber_newLine (level : Nat) (text : List Char) :
    EndsNumber ((newLine level).toList ++ text) := by
  rw [toList_newLine]
  exact endsNumber_cons (by decide)

/-! ### The first character -/

/-- A character that starts no gap, closes no array and is no mark of a byte order. -/
def IsLead (c : Char) : Prop := isGap c = false ∧ c ≠ ']' ∧ c ≠ '\uFEFF'

/-- A value that is read starts without a gap. -/
theorem exists_lead_of_reads (read : Reads (readValue room text) value rest) :
    ∃ c more, text = c :: more ∧ IsLead c := by
  obtain ⟨left, read, -⟩ := read
  cases text with
  | nil =>
    rw [readValue.eq_def] at read
    cases read
  | cons c more =>
    refine ⟨c, more, rfl, ?_⟩
    -- no word and no number starts with any other character
    by_contra other
    have listed : c ∈ [' ', '\t', '\n', '\r', ']', '\uFEFF'] := by
      simp only [IsLead, isGap, Bool.or_eq_false_iff, beq_eq_false_iff_ne] at other
      simp only [List.mem_cons, List.not_mem_nil, or_false]
      tauto
    simp only [List.mem_cons, List.not_mem_nil, or_false] at listed
    rcases listed with rfl | rfl | rfl | rfl | rfl | rfl
    all_goals
      rw [readValue_eq_readScalar (by decide) (by decide) (by decide)] at read
      cases read

/-- Items that are read start with a value. -/
theorem exists_lead_of_reads_items (read : Reads (readItems room text) items rest) :
    ∃ c more, text = c :: more ∧ IsLead c := by
  obtain ⟨left, read, -⟩ := read
  obtain ⟨item, after, first, -⟩ := readItems_eq_ok read
  exact exists_lead_of_reads ⟨after, first, rfl⟩

/-- Members that are read start with a quotation mark. -/
theorem exists_quote_of_reads_members {before : Members}
    (read : Reads (readMembers room before text) members rest) : ∃ more, text = '"' :: more := by
  obtain ⟨left, read, -⟩ := read
  rw [readMembers.eq_def] at read
  split at read
  next => cases read
  next c more =>
    split at read
    next same => exact ⟨more, by rw [same]⟩
    next => cases read

/-! ### Scalars -/

theorem reads_int (room : Nat) (value : Int)
    (short : (Json.int value).longestInteger ≤ digitLimit) (ends : EndsNumber rest) :
    Reads (readValue room ((toString value).toList ++ rest)) (.int value) rest :=
  reads_number room (fun _ ends => number?_int value ends short) ends

theorem reads_float (room : Nat) (value : Binary64) (ends : EndsNumber rest) :
    Reads (readValue room ((floatLiteral value).toList ++ rest)) (.float value) rest := by
  cases value with
  | notANumber => exact reads_word room (.tail _ (.tail _ (.tail _ (.head _)))) rest
  | infinite negative =>
    cases negative with
    | false => exact reads_word room (.tail _ (.tail _ (.tail _ (.tail _ (.head _))))) rest
    | true => exact reads_word room (.tail _ (.tail _ (.tail _ (.tail _ (.tail _ (.head _)))))) rest
  | finite negative magnitude =>
    exact reads_number room (fun _ ends => number?_finite negative magnitude ends) ends

/-! ### Brackets -/

section Brackets

variable {opening closing : String} {o : Char}

theorem toList_bracketed_nil (opens : opening.toList = [o]) (closes : closing.toList = [c])
    (level : Nat) (rest : List Char) :
    (bracketed opening closing level []).toList ++ rest = o :: c :: rest := by
  simp [bracketed, opens, closes]

theorem toList_bracketed (opens : opening.toList = [o]) (closes : closing.toList = [c])
    (level : Nat) {parts : List String} (some : parts ≠ []) (rest : List Char) :
    (bracketed opening closing level parts).toList ++ rest =
      o :: ((newLine (level + 1)).toList ++
        ((("," ++ newLine (level + 1)).intercalate parts).toList ++
          ((newLine level).toList ++ c :: rest))) := by
  rw [bracketed, if_neg (by simpa using some)]
  simp [opens, closes]

theorem toList_separated (level : Nat) (first second : String) (parts : List String)
    (tail : List Char) :
    (("," ++ newLine level).intercalate (first :: second :: parts)).toList ++ tail =
      first.toList ++ ',' :: ((newLine level).toList ++
        ((("," ++ newLine level).intercalate (second :: parts)).toList ++ tail)) := by
  rw [String.intercalate_cons_cons]
  simp only [String.toList_append, List.append_assoc]
  rfl

end Brackets

/-! ### Arrays -/

/-- A value is read wherever it stands at a level with some room left. -/
def ReadsAt (level room : Nat) (value : Json) : Prop :=
  ∀ rest, EndsNumber rest →
    Reads (readValue room ((indentedAt level value).toList ++ rest)) value rest

/-- The items of an array, with the bracket that closes it. -/
theorem reads_indentedItems (some : items ≠ []) (each : ∀ item ∈ items, ReadsAt level room item)
    (ends : EndsNumber tail) (closed : skipGap tail = ']' :: rest) :
    Reads (readItems room
      ((("," ++ newLine level).intercalate (indentedItems level items)).toList ++ tail))
      items rest := by
  induction items with
  | nil => exact absurd rfl some
  | cons item more ih =>
    obtain ⟨first, others⟩ := List.forall_mem_cons.mp each
    cases more with
    | nil =>
      rw [indentedItems, indentedItems, String.intercalate_singleton]
      exact reads_items_last (first tail ends) closed
    | cons next more =>
      have later := ih (List.cons_ne_nil _ _) others
      obtain ⟨c, text, same, lead, -⟩ := exists_lead_of_reads_items later
      rw [indentedItems] at later same ⊢
      rw [indentedItems, toList_separated]
      refine reads_items_more (first _ (endsNumber_cons (by decide)))
        (skipGap_of_not_isGap rfl) ?_
      rwa [skipGap_newLine, same, skipGap_of_not_isGap lead, ← same]

theorem readsAt_array (opens : room ≠ 0)
    (each : ∀ item ∈ items, ReadsAt (level + 1) (room - 1) item) :
    ReadsAt level room (.array items) := by
  intro rest _
  rw [indentedAt]
  by_cases some : items = []
  · subst some
    rw [indentedItems, toList_bracketed_nil (o := '[') (c := ']') (by simp) (by simp)]
    exact reads_array_empty opens (skipGap_of_not_isGap rfl)
  · have parts : indentedItems (level + 1) items ≠ [] := by
      cases items <;> simp_all [indentedItems]
    rw [toList_bracketed (o := '[') (c := ']') (by simp) (by simp) level parts]
    have inside := reads_indentedItems some each (endsNumber_newLine level (']' :: rest))
      ((skipGap_newLine _ _).trans (skipGap_of_not_isGap rfl))
    obtain ⟨c, text, same, lead, other, -⟩ := exists_lead_of_reads_items inside
    rw [same] at inside ⊢
    exact reads_array opens ((skipGap_newLine _ _).trans (skipGap_of_not_isGap lead)) other inside

/-! ### Objects -/

/-- A member: its key between quotation marks, a colon, a space and its value. -/
theorem toList_member (key value : String) (tail : List Char) :
    (Text.quote key ++ ": " ++ value).toList ++ tail =
      '"' :: (key.toList.flatMap Text.escape ++ '"' :: ':' :: ' ' :: (value.toList ++ tail)) := by
  simp only [String.toList_append, toList_quote, List.append_assoc, List.cons_append]
  rfl

/-- The members of an object, with the brace that closes it. -/
theorem reads_indentedMembers (before : Members) (some : members ≠ [])
    (single : ((before ++ members).map (·.1)).Nodup)
    (each : ∀ member ∈ members, ReadsAt level room member.2)
    (ends : EndsNumber tail) (closed : skipGap tail = '\x7d' :: rest) :
    Reads (readMembers room before
      ((("," ++ newLine level).intercalate (indentedMembers level members)).toList ++ tail))
      (before ++ members) rest := by
  induction members generalizing before with
  | nil => exact absurd rfl some
  | cons member more ih =>
    obtain ⟨key, value⟩ := member
    obtain ⟨first, others⟩ := List.forall_mem_cons.mp each
    have put : before.put (String.ofList key.toList) value = before ++ [(key, value)] := by
      rw [String.ofList_toList]
      refine Members.put_of_not_mem fun listed => ?_
      rw [List.map_append] at single
      exact List.disjoint_of_nodup_append single listed List.mem_cons_self
    have behindColon {text : List Char} (ends : EndsNumber text) :
        Reads (readValue room (skipGap (' ' :: ((indentedAt level value).toList ++ text))))
          value text := by
      obtain ⟨c, more, same, lead, -⟩ := exists_lead_of_reads (first text ends)
      have read := first text ends
      rw [same] at read ⊢
      rwa [show skipGap (' ' :: c :: more) = skipGap (c :: more) from rfl,
        skipGap_of_not_isGap lead]
    cases more with
    | nil =>
      rw [indentedMembers, indentedMembers, String.intercalate_singleton, toList_member, ← put]
      exact reads_members_last (reads_text _ _ _) (skipGap_of_not_isGap rfl) (behindColon ends)
        closed
    | cons next more =>
      -- the key is new, so the member is behind those before when the next one is read
      have later := ih (before ++ [(key, value)]) (List.cons_ne_nil _ _)
        (by rwa [List.append_assoc]) others
      obtain ⟨text, same⟩ := exists_quote_of_reads_members later
      obtain ⟨name, second⟩ := next
      rw [indentedMembers] at later same ⊢
      rw [indentedMembers, toList_separated, toList_member]
      refine reads_members_more (reads_text _ _ _) (skipGap_of_not_isGap rfl)
        (behindColon (endsNumber_cons (by decide))) (skipGap_of_not_isGap rfl) ?_
      rw [skipGap_newLine, same, skipGap_of_not_isGap rfl, ← same, put]
      rwa [List.append_assoc] at later

theorem readsAt_object (opens : room ≠ 0) (single : (members.map (·.1)).Nodup)
    (each : ∀ member ∈ members, ReadsAt (level + 1) (room - 1) member.2) :
    ReadsAt level room (.object members) := by
  intro rest _
  rw [indentedAt]
  by_cases some : members = []
  · subst some
    rw [indentedMembers, toList_bracketed_nil (o := '\x7b') (c := '\x7d') (by simp) (by simp)]
    exact reads_object_empty opens (skipGap_of_not_isGap rfl)
  · have parts : indentedMembers (level + 1) members ≠ [] := by
      cases members <;> simp_all [indentedMembers]
    rw [toList_bracketed (o := '\x7b') (c := '\x7d') (by simp) (by simp) level parts]
    have inside := reads_indentedMembers [] some single each
      (endsNumber_newLine level ('\x7d' :: rest))
      ((skipGap_newLine _ _).trans (skipGap_of_not_isGap rfl))
    obtain ⟨text, same⟩ := exists_quote_of_reads_members inside
    rw [same] at inside ⊢
    exact reads_object opens ((skipGap_newLine _ _).trans (skipGap_of_not_isGap rfl)) (by decide)
      inside

/-! ### Documents -/

/-- A value is read from its indented form, wherever that stands. -/
theorem Readable.readsAt (readable : Readable room value) (level : Nat) :
    ReadsAt level room value := by
  -- arrays and objects take room, so their parts are read with less of it
  induction room using Nat.strongRecOn generalizing value level with
  | _ room ih =>
    cases value with
    | null => exact fun rest _ => reads_word room (.head _) rest
    | bool value =>
      cases value with
      | true => exact fun rest _ => reads_word room (.tail _ (.head _)) rest
      | false => exact fun rest _ => reads_word room (.tail _ (.tail _ (.head _))) rest
    | int value => exact fun rest ends => reads_int room value readable.digits ends
    | float value => exact fun rest ends => reads_float room value ends
    | string value => exact fun rest _ => reads_quote room value rest
    | array items =>
      obtain ⟨opens, inside⟩ := readable.of_array
      exact readsAt_array opens fun item listed =>
        ih (room - 1) (by omega) (inside item listed) (level + 1)
    | object members =>
      obtain ⟨opens, single, inside⟩ := readable.of_object
      exact readsAt_object opens single fun member listed =>
        ih (room - 1) (by omega) (inside member listed) (level + 1)

/-- What is written is read. -/
theorem read_indented (readable : Readable nestingLimit value) :
    read (indented value) = .ok value := by
  have reads := readable.readsAt 0 [] (by simp [EndsNumber])
  rw [List.append_nil] at reads
  obtain ⟨c, more, same, lead, -, mark⟩ := exists_lead_of_reads reads
  unfold read indented
  generalize (indentedAt 0 value).toList = text at same reads
  subst same
  rw [← skipGap_of_not_isGap lead] at reads
  obtain ⟨left, inside, rest⟩ := reads
  dsimp only
  split
  next marked => exact absurd (List.cons.inj marked).1 mark
  next =>
    rw [inside]
    simp only [rest]
    rfl

/-! ### The characters of a document -/

mutual
/-- Whether a character is in no string within a value and in no key of its objects. -/
def lacks (c : Char) : Json → Bool
  | .string text => !text.toList.contains c
  | .array items => lacksItems c items
  | .object members => lacksMembers c members
  | _ => true

/-- Whether a character is in no string within the items. -/
def lacksItems (c : Char) : List Json → Bool
  | [] => true
  | item :: rest => lacks c item && lacksItems c rest

/-- Whether a character is in no key of the members and in no string within their values. -/
def lacksMembers (c : Char) : Members → Bool
  | [] => true
  | (key, value) :: rest => !key.toList.contains c && (lacks c value && lacksMembers c rest)
end

theorem lacks_string {text : String} : lacks c (.string text) = true ↔ c ∉ text.toList := by
  simp [lacks]

theorem lacksItems_cons :
    lacksItems c (item :: items) = true ↔ lacks c item = true ∧ lacksItems c items = true := by
  rw [lacksItems, Bool.and_eq_true]

theorem lacksMembers_cons {key : String} : lacksMembers c ((key, value) :: members) = true ↔
    c ∉ key.toList ∧ lacks c value = true ∧ lacksMembers c members = true := by
  simp [lacksMembers]

/-- An escape has basic characters only, and any other character stands for itself. -/
theorem eq_of_mem_escape {d : Char} (member : c ∈ Text.escape d) (strange : ¬ IsBasic c) :
    c = d ∧ 32 ≤ c.toNat := by
  rcases escape_cases d with ⟨e, short, same⟩ | ⟨control, same⟩ | ⟨-, -, printable, same⟩
  all_goals rw [same] at member
  · refine absurd ?_ strange
    rcases List.mem_cons.mp member with rfl | member
    · decide
    · rw [List.mem_singleton.mp member]
      unfold shortEscape? at short
      split at short
      all_goals first | decide | cases short
  · have basic : ∀ n < 32, ('\\' :: 'u' :: Text.hexDigits 4 n).all (IsBasic ·) = true := by decide
    exact absurd (basic_of_all (basic _ control) c member) strange
  · obtain rfl := List.mem_singleton.mp member
    exact ⟨rfl, not_lt.mp printable⟩

theorem not_mem_intercalate {separator : String} {parts : List String}
    (between : c ∉ separator.toList) (each : ∀ part ∈ parts, c ∉ part.toList) :
    c ∉ (separator.intercalate parts).toList := by
  induction parts with
  | nil => simp
  | cons part rest ih =>
    obtain ⟨first, others⟩ := List.forall_mem_cons.mp each
    cases rest with
    | nil => simpa using first
    | cons next more =>
      rw [String.intercalate_cons_cons, String.toList_append, String.toList_append]
      exact List.not_mem_append (List.not_mem_append first between) (ih others)

section Strange

variable (strange : ¬ IsBasic c)

include strange

theorem not_mem_of_basic {text : String} (basic : ∀ d ∈ text.toList, IsBasic d) :
    c ∉ text.toList := fun member => strange (basic c member)

theorem not_mem_quote {text : String} (absent : 32 ≤ c.toNat → c ∉ text.toList) :
    c ∉ (Text.quote text).toList := by
  have mark : c ≠ '"' := by
    rintro rfl
    exact strange (by decide)
  rw [toList_quote]
  simp only [List.mem_cons, List.mem_append, List.mem_flatMap, List.not_mem_nil, or_false,
    not_or, mark, not_false_eq_true, true_and]
  rintro ⟨d, member, inside⟩
  obtain ⟨rfl, visible⟩ := eq_of_mem_escape inside strange
  exact absent visible member

theorem not_mem_floatLiteral (value : Binary64) : c ∉ (floatLiteral value).toList := by
  refine not_mem_of_basic strange ?_
  cases value with
  | notANumber => exact basic_of_all (by decide)
  | infinite negative => cases negative <;> exact basic_of_all (by decide)
  | finite negative magnitude => exact basic_finite negative magnitude

variable (line : c ≠ '\n')

include line

theorem not_mem_newLine (level : Nat) : c ∉ (newLine level).toList := by
  have blank : c ≠ ' ' := by
    rintro rfl
    exact strange (by decide)
  simp [toList_newLine, line, blank]

/-- Brackets and new lines have other characters, so it is a matter of the parts. -/
theorem not_mem_bracketed {opening closing : String} {parts : List String}
    (opens : ∀ d ∈ opening.toList, IsBasic d) (closes : ∀ d ∈ closing.toList, IsBasic d)
    (each : ∀ part ∈ parts, c ∉ part.toList) :
    c ∉ (bracketed opening closing level parts).toList := by
  have opens := not_mem_of_basic strange opens
  have closes := not_mem_of_basic strange closes
  have comma : c ≠ ',' := by
    rintro rfl
    exact strange (by decide)
  have separated : c ∉ ("," ++ newLine (level + 1)).toList := by
    simp [comma, not_mem_newLine strange line]
  unfold bracketed
  split
  · simp [opens, closes]
  · simp only [String.toList_append, List.mem_append, not_or]
    exact ⟨⟨⟨⟨opens, not_mem_newLine strange line _⟩, not_mem_intercalate separated each⟩,
      not_mem_newLine strange line _⟩, closes⟩

end Strange

mutual
theorem not_mem_indentedAt (strange : ¬ IsBasic c) (line : c ≠ '\n') :
    ∀ (level : Nat) (value : Json), (32 ≤ c.toNat → lacks c value = true) →
      c ∉ (indentedAt level value).toList
  | level, .array items, absent =>
    not_mem_bracketed strange line (basic_of_all (by decide)) (basic_of_all (by decide))
      (not_mem_indentedItems strange line (level + 1) items absent)
  | level, .object members, absent =>
    not_mem_bracketed strange line (basic_of_all (by decide)) (basic_of_all (by decide))
      (not_mem_indentedMembers strange line (level + 1) members absent)
  | _, .null, _ =>
    show c ∉ "null".toList from not_mem_of_basic strange (basic_of_all (by decide))
  | _, .bool true, _ =>
    show c ∉ "true".toList from not_mem_of_basic strange (basic_of_all (by decide))
  | _, .bool false, _ =>
    show c ∉ "false".toList from not_mem_of_basic strange (basic_of_all (by decide))
  | _, .int value, _ => not_mem_of_basic strange (basic_int value)
  | _, .float value, _ => not_mem_floatLiteral strange value
  | _, .string _, absent => not_mem_quote strange fun visible => lacks_string.mp (absent visible)

theorem not_mem_indentedItems (strange : ¬ IsBasic c) (line : c ≠ '\n') :
    ∀ (level : Nat) (items : List Json), (32 ≤ c.toNat → lacksItems c items = true) →
      ∀ part ∈ indentedItems level items, c ∉ part.toList
  | _, [], _ => by simp [indentedItems]
  | level, item :: rest, absent =>
    have parts := fun visible => lacksItems_cons.mp (absent visible)
    List.forall_mem_cons.mpr
      ⟨not_mem_indentedAt strange line level item fun visible => (parts visible).1,
        not_mem_indentedItems strange line level rest fun visible => (parts visible).2⟩

theorem not_mem_indentedMembers (strange : ¬ IsBasic c) (line : c ≠ '\n') :
    ∀ (level : Nat) (members : Members), (32 ≤ c.toNat → lacksMembers c members = true) →
      ∀ part ∈ indentedMembers level members, c ∉ part.toList
  | _, [], _ => by simp [indentedMembers]
  | level, (key, value) :: rest, absent => by
    have parts := fun visible => lacksMembers_cons.mp (absent visible)
    refine List.forall_mem_cons.mpr
      ⟨?_, not_mem_indentedMembers strange line level rest fun visible => (parts visible).2.2⟩
    have named := not_mem_quote strange fun visible => (parts visible).1
    have colon : c ∉ ": ".toList := not_mem_of_basic strange (basic_of_all (by decide))
    have inside := not_mem_indentedAt strange line level value fun visible => (parts visible).2.1
    simp only [String.toList_append, List.mem_append, not_or]
    exact ⟨⟨named, colon⟩, inside⟩
end

/-- A document has no character but line feeds, visible ones, and those of the strings. -/
theorem not_mem_indented (strange : ¬ IsBasic c) (line : c ≠ '\n')
    (absent : 32 ≤ c.toNat → lacks c value = true) : c ∉ (indented value).toList :=
  not_mem_indentedAt strange line 0 value absent

theorem unifyLineEndsOf_of_not_mem (plain : '\r' ∉ text) : Text.unifyLineEndsOf text = text := by
  induction text with
  | nil => rfl
  | cons c rest ih =>
    rw [List.mem_cons, not_or] at plain
    have other : c ≠ '\r' := Ne.symm plain.1
    simp [Text.unifyLineEndsOf, other, ih plain.2]

/-- The ends of the lines of a document are unified already. -/
theorem unifyLineEnds_indented (value : Json) :
    Text.unifyLineEnds (indented value) = indented value := by
  have plain : '\r' ∉ (indented value).toList :=
    not_mem_indented (by decide) (by decide) fun visible => absurd visible (by decide)
  rw [Text.unifyLineEnds, unifyLineEndsOf_of_not_mem plain, String.ofList_toList]

end HostBindings.Json
