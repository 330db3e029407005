import HostBindings.Code
import HostBindings.Proofs.Layout.Literals

/-!
# Reading members

A field or a constant whose names are words, whose types are names of types and whose literals are
literals is read back as what it is, and is a single line that trimming leaves as it is.

## Main definitions

* `Code.Slot.WellFormed`, `Code.Signature.WellFormed`, `Code.FieldType.WellFormed`
* `Code.Field.WellFormed`, `Code.Constant.WellFormed`

## Main results

* `Code.Signature.WellFormed.afterSignature?` — a signature is read to its end
* `Code.Field.WellFormed.read`, `Code.Constant.WellFormed.read`
* `Code.Field.WellFormed.isLine`, `Code.Constant.WellFormed.isLine`
-/

namespace HostBindings

open Text (IsLine isBlank isWordChar)

namespace Layout

/-! ### Tokens -/

theorem isWord_iff {text : Line} :
    isWord text = true ↔ text ≠ [] ∧ ∀ c ∈ text, isWordChar c = true := by
  simp [isWord]

theorem isTypeName_iff {text : Line} :
    isTypeName text = true ↔ text ≠ [] ∧ ∀ c ∈ text, isTypeChar c = true := by
  simp [isTypeName]

theorem not_isBlank_of_isTypeChar {c : Char} (type : isTypeChar c = true) : isBlank c = false := by
  simp only [isTypeChar, Bool.or_eq_true, beq_iff_eq, or_assoc] at type
  rcases type with word | rfl | rfl
  · exact Text.not_isBlank_of_isWordChar word
  · decide
  · decide

/-- Words are names of types. -/
theorem isTypeName_of_isWord {text : Line} (word : isWord text = true) :
    isTypeName text = true := by
  obtain ⟨some, all⟩ := isWord_iff.mp word
  exact isTypeName_iff.mpr ⟨some, fun c member => by simp [isTypeChar, all c member]⟩

theorem isLine_of_isTypeName {text : Line} (type : isTypeName text = true) : IsLine text := by
  obtain ⟨some, all⟩ := isTypeName_iff.mp type
  exact .of_all some fun c member => not_isBlank_of_isTypeChar (all c member)

/-- A token is read up to the first character of another class. -/
theorem token?_append {p : Char → Bool} {token rest : Line} (some : token ≠ [])
    (all : ∀ c ∈ token, p c = true) (stops : ∀ c ∈ rest.head?, p c = false) :
    token? p (token ++ rest) = .some (token, rest) := by
  have head : rest.takeWhile p = [] := by
    cases rest with
    | nil => rfl
    | cons c rest => rw [List.takeWhile_cons_of_neg]; simpa using stops c rfl
  have tail : rest.dropWhile p = rest := by
    cases rest with
    | nil => rfl
    | cons c rest => rw [List.dropWhile_cons_of_neg]; simpa using stops c rfl
  rw [token?, List.takeWhile_append_of_pos all, List.dropWhile_append_of_pos all, head, tail,
    List.append_nil]
  cases token with
  | nil => exact absurd rfl some
  | cons c token => rfl

theorem token?_word {text rest : Line} (word : isWord text = true)
    (stops : ∀ c ∈ rest.head?, isWordChar c = false) :
    token? isWordChar (text ++ rest) = some (text, rest) := by
  obtain ⟨some, all⟩ := isWord_iff.mp word
  exact token?_append some all stops

theorem token?_typeName {text rest : Line} (type : isTypeName text = true)
    (stops : ∀ c ∈ rest.head?, isTypeChar c = false) :
    token? isTypeChar (text ++ rest) = some (text, rest) := by
  obtain ⟨some, all⟩ := isTypeName_iff.mp type
  exact token?_append some all stops

theorem dropPrefix?_append (lead rest : Line) : (lead ++ rest).dropPrefix? lead = some rest :=
  List.dropPrefix?_append_of_beq rest (by simp)

/-- A single comment line. -/
def IsNote (line : String) : Prop := isComment line.toList = true ∧ '\n' ∉ line.toList

theorem isWordChar_space : isWordChar ' ' = false := by decide

theorem isTypeChar_space : isTypeChar ' ' = false := by decide

theorem isTypeChar_bracket : isTypeChar ')' = false := by decide

end Layout

open Layout

/-! ### Slots -/

namespace Code

/-- A type whose text is the name of a type. -/
def TypeName.WellFormed (type : TypeName) : Prop := isTypeName type.text.toList = true

/-- A name and a type. -/
structure Slot.WellFormed (slot : Slot) : Prop where
  /-- The name is a word. -/
  name : isWord slot.name.toList = true
  /-- The type is the name of a type. -/
  type : slot.type.WellFormed

/-- A signature with proper slots. -/
def Signature.WellFormed (signature : Signature) : Prop :=
  ∀ slot ∈ signature.slots, slot.WellFormed

/-- A type or a signature. -/
def FieldType.WellFormed : FieldType → Prop
  | value type => type.WellFormed
  | function signature => signature.WellFormed

/-- The two words of a parameter. -/
def Slot.words (slot : Slot) : List Line := [slot.name.toList, slot.type.text.toList ++ [',']]

variable {slot : Slot} {signature : Signature}

theorem Slot.WellFormed.isLine (proper : slot.WellFormed) : IsLine slot.text.toList := by
  have type := isLine_of_isTypeName proper.type
  have name := (isLine_of_isTypeName (isTypeName_of_isWord proper.name)).single
  simp only [Slot.text, String.toList_append]
  exact type.append (by simp [name])

/-- A slot is read to its end. -/
theorem Slot.WellFormed.afterSlot? (proper : slot.WellFormed) {rest : Line}
    (stops : ∀ c ∈ rest.head?, isTypeChar c = false) :
    Layout.afterSlot? (slot.text.toList ++ rest) = some rest := by
  have split : slot.text.toList ++ rest =
      slot.name.toList ++ ([' '] ++ (slot.type.text.toList ++ rest)) := by
    simp [Slot.text]
  have name : token? isWordChar (slot.text.toList ++ rest) = _ :=
    split ▸ token?_word proper.name (by simp [isWordChar_space])
  simp only [Layout.afterSlot?, name, bind, Option.bind, dropPrefix?_append,
    token?_typeName proper.type stops]
  rfl

/-- A slot is made of characters of types, but for the gap in it. -/
theorem Slot.WellFormed.not_mem_text (proper : slot.WellFormed) {c : Char}
    (stops : isTypeChar c = false) (gap : c ≠ ' ') : c ∉ slot.text.toList := by
  have name := (isTypeName_iff.mp (isTypeName_of_isWord proper.name)).2
  have type := (isTypeName_iff.mp proper.type).2
  simp only [Slot.text, String.toList_append, List.mem_append, not_or]
  refine ⟨⟨fun part => ?_, by simpa using gap⟩, fun part => ?_⟩
  · simp [name c part] at stops
  · simp [type c part] at stops

/-- The words of a parameter are made of characters of types, but for the comma behind it. -/
theorem Slot.WellFormed.not_mem_word (proper : slot.WellFormed) {word : Line}
    (member : word ∈ slot.words) {c : Char} (stops : isTypeChar c = false) (comma : c ≠ ',') :
    c ∉ word := by
  have name := (isTypeName_iff.mp (isTypeName_of_isWord proper.name)).2
  have type := (isTypeName_iff.mp proper.type).2
  intro part
  simp only [Slot.words, List.mem_cons, List.not_mem_nil, or_false] at member
  rcases member with rfl | rfl
  · simp [name c part] at stops
  · rcases List.mem_append.mp part with part | last
    · simp [type c part] at stops
    · exact comma (by simpa using last)

/-! ### Signatures -/

/-- The text of the parameters of a signature. -/
def Signature.inner (signature : Signature) : Line :=
  [' '].intercalate (signature.parameters.flatMap (·.words))

private theorem toList_parameters (parameters : List Slot) :
    (" ".intercalate (parameters.map (·.text ++ ","))).toList =
      [' '].intercalate (parameters.flatMap (·.words)) := by
  induction parameters with
  | nil => rfl
  | cons slot rest ih =>
    by_cases last : rest = []
    · subst last
      simp [Slot.words, Slot.text, List.intercalate_cons_cons]
    · have more : rest.flatMap (·.words) ≠ [] := by
        obtain ⟨next, others, rfl⟩ := List.exists_cons_of_ne_nil last
        simp [Slot.words]
      rw [List.map_cons, String.intercalate_cons_of_ne_nil (by simpa using last),
        String.toList_append, String.toList_append, ih, List.flatMap_cons, Slot.words,
        List.cons_append, List.cons_append, List.nil_append, List.intercalate_cons_cons,
        List.intercalate_cons_of_ne_nil more]
      simp [Slot.text]

theorem Signature.toList_text (signature : Signature) :
    signature.text.toList = "func(".toList ++ (signature.inner ++ ')' ::
      match signature.result? with
      | some result => " (".toList ++ (result.text.toList ++ [')'])
      | none => []) := by
  have inner := toList_parameters signature.parameters
  unfold Signature.text Signature.inner
  rw [← inner]
  cases signature.result? <;> simp

private theorem areParameters_words {slots : List Slot} (proper : ∀ slot ∈ slots, slot.WellFormed) :
    areParameters (slots.flatMap (·.words)) = true := by
  induction slots with
  | nil => rfl
  | cons slot rest ih =>
    have first := proper slot List.mem_cons_self
    have type : isTypeName slot.type.text.toList = true := first.type
    have others := ih fun other member => proper other (List.mem_cons_of_mem _ member)
    rw [List.flatMap_cons, Slot.words, List.cons_append, List.cons_append, List.nil_append,
      Layout.areParameters, others]
    simp [first.name, type]

namespace Signature.WellFormed

theorem parameters (proper : signature.WellFormed) :
    ∀ slot ∈ signature.parameters, slot.WellFormed :=
  fun slot member => proper slot (List.mem_append_left _ member)

theorem result (proper : signature.WellFormed) {slot : Slot}
    (found : signature.result? = some slot) : slot.WellFormed :=
  proper slot (List.mem_append_right _ (by simp [found]))

/-- A character that is neither the gap nor in a word of a parameter is not in the parameters. -/
theorem not_mem_inner (proper : signature.WellFormed) {c : Char} (stops : isTypeChar c = false)
    (comma : c ≠ ',') (gap : c ≠ ' ') : c ∉ signature.inner := by
  intro member
  rcases Text.mem_of_mem_intercalate member with between | ⟨word, wordMember, part⟩
  · exact gap (List.mem_singleton.mp between)
  · obtain ⟨slot, slotMember, wordMember⟩ := List.mem_flatMap.mp wordMember
    exact (proper.parameters slot slotMember).not_mem_word wordMember stops comma part

/-- The parameters are read as such. -/
theorem areParameters (proper : signature.WellFormed) :
    signature.inner = [] ∨ Layout.areParameters (signature.inner.splitOn ' ') = true := by
  by_cases none : signature.parameters = []
  · exact .inl (by simp [inner, none])
  · have some : signature.parameters.flatMap (·.words) ≠ [] := by
      obtain ⟨slot, rest, same⟩ := List.exists_cons_of_ne_nil none
      simp [same, Slot.words]
    refine .inr ?_
    rw [inner, List.splitOn_intercalate _ _ some]
    · exact areParameters_words proper.parameters
    · intro word member
      obtain ⟨slot, slotMember, wordMember⟩ := List.mem_flatMap.mp member
      exact (proper.parameters slot slotMember).not_mem_word wordMember isTypeChar_space (by decide)

/-- A signature is a single line. -/
theorem isLine (proper : signature.WellFormed) : IsLine signature.text.toList := by
  have bracket : IsLine [')'] := ⟨by decide, ')', by decide, by decide⟩
  have inner : '\n' ∉ signature.inner := proper.not_mem_inner (by decide) (by decide) (by decide)
  rw [signature.toList_text]
  refine .append (by decide) ?_
  cases found : signature.result? with
  | none => exact .append inner bracket
  | some slot =>
    have line := (proper.result found).isLine
    rw [← List.singleton_append]
    refine .append inner (.append (by decide) (.append (by decide) (.append line.single bracket)))

/-- Apart from the characters of types, there are those around the parameters and the result. -/
theorem not_mem_text (proper : signature.WellFormed) {c : Char} (stops : isTypeChar c = false)
    (other : c ∉ "func(), ".toList) : c ∉ signature.text.toList := by
  have marks : c ≠ 'f' ∧ c ≠ 'u' ∧ c ≠ 'n' ∧ c ≠ 'c' ∧ c ≠ '(' ∧ c ≠ ')' ∧ c ≠ ',' ∧ c ≠ ' ' := by
    simpa using other
  have comma : c ≠ ',' := (ne_of_mem_of_not_mem (by decide) other).symm
  have gap : c ≠ ' ' := (ne_of_mem_of_not_mem (by decide) other).symm
  have inner := proper.not_mem_inner stops comma gap
  rw [signature.toList_text]
  cases found : signature.result? with
  | none => simp [inner, marks]
  | some slot => simp [inner, (proper.result found).not_mem_text stops gap, marks]

/-- A signature is read to its end, with or without a tag behind it. -/
theorem afterSignature? (proper : signature.WellFormed) {tag : Line} (tagged : isTag tag = true) :
    Layout.afterSignature? (signature.text.toList ++ tag) = some tag := by
  -- the first closing bracket is the one behind the parameters
  have stop : ∀ c ∈ signature.inner, (c != ')') = true := by
    intro c member
    rw [bne_iff_ne]
    rintro rfl
    exact proper.not_mem_inner isTypeChar_bracket (by decide) (by decide) member
  have before (rest : Line) :
      (signature.inner ++ ')' :: rest).takeWhile (· != ')') = signature.inner := by
    rw [List.takeWhile_append_of_pos stop]
    simp
  have behind (rest : Line) :
      (signature.inner ++ ')' :: rest).dropWhile (· != ')') = [')'] ++ rest := by
    rw [List.dropWhile_append_of_pos stop]
    simp
  rw [signature.toList_text]
  cases found : signature.result? with
  | none =>
    -- a tag begins with a space and a grave accent, so it is not taken for a result
    have none : tag.dropPrefix? " (".toList = none := by
      unfold isTag at tagged
      split at tagged
      · rfl
      · rfl
      · cases tagged
    have split : "func(".toList ++ (signature.inner ++ ')' :: []) ++ tag =
        "func(".toList ++ (signature.inner ++ ')' :: tag) := by simp
    simp only [Layout.afterSignature?, split, bind, Option.bind, dropPrefix?_append, before, behind,
      if_pos proper.areParameters, none]
    rfl
  | some slot =>
    have split : "func(".toList ++ (signature.inner ++
          ')' :: (" (".toList ++ (slot.text.toList ++ [')']))) ++ tag =
        "func(".toList ++ (signature.inner ++
          ')' :: (" (".toList ++ (slot.text.toList ++ ([')'] ++ tag)))) := by simp
    have read := (proper.result found).afterSlot? (show ∀ c ∈ ([')'] ++ tag).head?, _ by
      simp [isTypeChar_bracket])
    simp only [Layout.afterSignature?, split, bind, Option.bind, dropPrefix?_append, before, behind,
      if_pos proper.areParameters, read]

end Signature.WellFormed

/-! ### Fields -/

/-- A field that is read back. -/
structure Field.WellFormed (field : Field) : Prop where
  /-- Its comments are single comment lines. -/
  comments : ∀ line ∈ field.comments, IsNote line
  /-- Its name is a word. -/
  name : isWord field.name.toList = true
  /-- Its type is a type or a signature. -/
  type : field.type.WellFormed
  /-- Its tag is one, or nothing. -/
  tag : isTag field.tag.toList = true
  /-- Its tag has no line feed. -/
  single : '\n' ∉ field.tag.toList

/-- A type is read up to a tag behind it. -/
theorem TypeName.WellFormed.read {type : TypeName} (proper : type.WellFormed) {tag : Line}
    (tagged : isTag tag = true) :
    Layout.afterSignature? (type.text.toList ++ tag) = none ∧
      token? isTypeChar (type.text.toList ++ tag) = some (type.text.toList, tag) := by
  have stops : ∀ c ∈ tag.head?, isTypeChar c = false := by
    unfold isTag at tagged
    split at tagged
    · simp
    · simp [isTypeChar_space]
    · cases tagged
  have token := token?_typeName proper stops
  refine ⟨?_, token⟩
  suffices unread : (type.text.toList ++ tag).dropPrefix? "func(".toList = none by
    rw [Layout.afterSignature?, unread]
    rfl
  by_contra signature
  obtain ⟨rest, found⟩ := Option.ne_none_iff_exists'.mp signature
  -- the characters of a type end before the bracket, and there is no tag
  obtain ⟨lead, same, equal⟩ := List.dropPrefix?_eq_some_iff.mp found
  have split : type.text.toList ++ tag = "func".toList ++ ('(' :: rest) := by
    rw [same, eq_of_beq equal]
    rfl
  have other : token? isTypeChar ("func".toList ++ '(' :: rest) =
      some ("func".toList, '(' :: rest) :=
    token?_typeName (by decide) (by simp; decide)
  rw [← split, token] at other
  have bracket : tag = '(' :: rest := congrArg Prod.snd (Option.some.inj other)
  rw [bracket] at tagged
  cases tagged

/-- The type of a field is a single line. -/
theorem FieldType.WellFormed.isLine {type : FieldType} (proper : type.WellFormed) :
    IsLine type.text.toList := by
  cases type with
  | value type => exact isLine_of_isTypeName proper
  | function signature => exact Signature.WellFormed.isLine proper

/-- So it is with the type of a field. -/
theorem FieldType.WellFormed.not_mem_text {type : FieldType} (proper : type.WellFormed) {c : Char}
    (stops : isTypeChar c = false) (other : c ∉ "func(), ".toList) : c ∉ type.text.toList := by
  cases type with
  | value type =>
    intro part
    have char : isTypeChar c = true := (isTypeName_iff.mp proper).2 c part
    simp [char] at stops
  | function signature => exact Signature.WellFormed.not_mem_text proper stops other

private theorem isLine_of_isTag {tag : Line} (tagged : isTag tag = true) (some : tag ≠ [])
    (single : '\n' ∉ tag) : IsLine tag := by
  unfold isTag at tagged
  split at tagged
  · exact absurd rfl some
  next rest =>
    rw [Bool.and_eq_true, beq_iff_eq] at tagged
    exact ⟨single, '\x60', by simp [List.getLast?_cons, tagged.1], by decide⟩
  · cases tagged

namespace Field.WellFormed

variable {field : Field}

theorem isLine (proper : field.WellFormed) : IsLine (field.text ++ field.tag).toList := by
  have name := (isLine_of_isTypeName (isTypeName_of_isWord proper.name)).single
  have type := proper.type.isLine
  have split : (field.text ++ field.tag).toList =
      (field.name.toList ++ [' ']) ++ (field.type.text.toList ++ field.tag.toList) := by
    simp [Field.text]
  rw [split]
  refine .append (by simp [name]) ?_
  by_cases none : field.tag.toList = []
  · rw [none, List.append_nil]
    exact type
  · exact .append type.single (isLine_of_isTag proper.tag none proper.single)

/-- A field is read as one. -/
theorem read (proper : field.WellFormed) :
    field? (field.text ++ field.tag).toList = some [] := by
  have split : (field.text ++ field.tag).toList =
      field.name.toList ++ ([' '] ++ (field.type.text.toList ++ field.tag.toList)) := by
    simp [Field.text]
  have name : token? isWordChar (field.text ++ field.tag).toList = _ :=
    split ▸ token?_word proper.name (by simp [isWordChar_space])
  have tag := proper.tag
  have type := proper.type
  simp only [field?, name, bind, Option.bind, dropPrefix?_append]
  -- a field is read as a function first, and then as a value
  cases same : field.type with
  | value inner =>
    rw [same] at type
    obtain ⟨other, token⟩ := TypeName.WellFormed.read type tag
    simp [FieldType.text, other, token, tag]
  | function signature =>
    rw [same] at type
    simp [FieldType.text, Signature.WellFormed.afterSignature? type tag, tag]

end Field.WellFormed

/-! ### Constants -/

/-- A constant that is read back. -/
structure Constant.WellFormed (constant : Constant) : Prop where
  /-- Its comments are single comment lines. -/
  comments : ∀ line ∈ constant.comments, IsNote line
  /-- Its name is a word. -/
  name : isWord constant.name.toList = true
  /-- Its value is a literal. -/
  literal : isLiteral constant.literal.toList = true
  /-- Its value has no line feed. -/
  single : '\n' ∉ constant.literal.toList

theorem Constant.toList_text (constant : Constant) (type? : Option String) :
    (constant.text type?).toList =
      constant.name.toList ++ ((equals type?).toList ++ constant.literal.toList) := by
  cases type? with
  | none =>
    change (constant.name ++ " = " ++ constant.literal).toList = _
    simp [equals]
  | some type =>
    change (constant.name ++ " " ++ type ++ " = " ++ constant.literal).toList = _
    simp [equals]

namespace Constant.WellFormed

variable {constant : Constant}

theorem isLine (proper : constant.WellFormed) {type? : Option String}
    (word : ∀ type ∈ type?, isWord type.toList = true) : IsLine (constant.text type?).toList := by
  have name := (isLine_of_isTypeName (isTypeName_of_isWord proper.name)).single
  have gap : '\n' ∉ (equals type?).toList := by
    cases type? with
    | none => decide
    | some type =>
      have single := (isLine_of_isTypeName (isTypeName_of_isWord (word type rfl))).single
      simp [equals, single]
  rw [Constant.toList_text]
  exact .append name (.append gap (isLine_of_isLiteral proper.literal proper.single))

/-- A constant is read with its name. -/
theorem read (proper : constant.WellFormed) (type? : Option String) :
    constant? type? (constant.text type?).toList = some [constant.name] := by
  have stops : ∀ c ∈ ((equals type?).toList ++ constant.literal.toList).head?,
      isWordChar c = false := by
    cases type? <;> simp [equals, isWordChar_space]
  rw [Constant.toList_text, constant?, token?_word proper.name stops]
  simp [dropPrefix?_append, proper.literal]

end Constant.WellFormed

end Code

end HostBindings
