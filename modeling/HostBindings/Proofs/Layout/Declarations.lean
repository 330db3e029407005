import HostBindings.Proofs.Layout.Members
import HostBindings.Proofs.Printing.Templates

/-!
# Reading declarations

A declaration whose parts are read back is read back with its names. Its lines are comments and
lines that trimming leaves as they are, and no line is empty but the one within an enumeration.

## Main definitions

* `Code.Declaration.WellFormed` — declarations that are read back
* `Code.Declaration.parts` — the lines of a declaration, paragraph by paragraph

## Main results

* `Layout.body?_members` — bracketed lines
* `Code.Declaration.WellFormed.read` — the names of a declaration are read
-/

namespace HostBindings

open Layout
open Text (IsLine isBlank trimRight)

/-! ### Trimmed lines -/

namespace Text

theorem trimRight_cons {c : Char} {rest : List Char} (plain : isBlank c = false) :
    trimRight (c :: rest) = c :: trimRight rest := by
  rw [trimRight, dropTail]
  split
  next none => rw [trimRight, none, plain]; rfl
  next => rfl

/-- A lead stays where something of the line behind it does. -/
theorem trimRight_cons_of_ne_nil {c : Char} {rest : List Char} (some : trimRight rest ≠ []) :
    trimRight (c :: rest) = c :: trimRight rest := by
  rw [trimRight, dropTail]
  split
  next none => exact absurd none some
  next => rfl

/-- Lines without their trailing blanks. -/
def trimmedLines (lines : List String) : List (List Char) :=
  lines.map fun line => trimRight line.toList

@[simp] theorem trimmedLines_append (lines more : List String) :
    trimmedLines (lines ++ more) = trimmedLines lines ++ trimmedLines more := by
  simp [trimmedLines]

@[simp] theorem trimmedLines_cons (line : String) (lines : List String) :
    trimmedLines (line :: lines) = trimRight line.toList :: trimmedLines lines := rfl

@[simp] theorem trimmedLines_nil : trimmedLines [] = [] := rfl

end Text

open Text (trimmedLines)

namespace Layout

/-- A trimmed comment is a comment. -/
theorem IsNote.isComment {line : String} (note : IsNote line) :
    Layout.isComment (trimRight line.toList) = true := by
  obtain ⟨rest, same⟩ := List.isPrefixOf_iff_prefix.mp note.1
  have lead : line.toList = '/' :: '/' :: rest := same.symm
  rw [lead, Text.trimRight_cons (by decide), Text.trimRight_cons (by decide)]
  rfl

theorem IsNote.ne_nil {line : String} (note : IsNote line) : trimRight line.toList ≠ [] := by
  intro none
  have comment := note.isComment
  rw [none] at comment
  cases comment

/-- What begins with a word is no comment. -/
theorem isComment_word {word rest : Line} (proper : isWord word = true) :
    isComment (word ++ rest) = false := by
  obtain ⟨some, all⟩ := isWord_iff.mp proper
  cases word with
  | nil => exact absurd rfl some
  | cons c word =>
    have other : c ≠ '/' := by
      rintro rfl
      exact absurd (all '/' List.mem_cons_self) (by decide)
    have apart : ('/' == c) = false := by simpa using Ne.symm other
    change ('/' == c && _) = false
    rw [apart, Bool.false_and]

/-! ### Bracketed lines -/

variable {member? : Line → Option (List String)} {closing : Line} {rest : Paragraph}
  {names more : List String}

theorem body?_cons {line text : Line} (lead : line = '\t' :: text)
    (read : line? member? text = some names)
    (others : body? member? closing rest = some more) :
    body? member? closing (line :: rest) = some (names ++ more) := by
  cases rest with
  | nil => cases others
  | cons next rest =>
    have text? : line.dropPrefix? ['\t'] = some text := by
      rw [lead]
      exact dropPrefix?_append ['\t'] text
    simp only [body?, text?, bind, Option.bind, read, others]
    rfl

/-- Comments in brackets declare nothing. -/
theorem body?_notes {notes : List String} (proper : ∀ line ∈ notes, IsNote line)
    (others : body? member? closing rest = some more) :
    body? member? closing (trimmedLines (Code.Declaration.bodyLines notes) ++ rest) =
      some more := by
  induction notes with
  | nil => exact others
  | cons line notes ih =>
    have note := proper line List.mem_cons_self
    have next := ih fun other member => proper other (List.mem_cons_of_mem _ member)
    have lead : trimRight ("\t" ++ line).toList = '\t' :: trimRight line.toList := by
      simpa using Text.trimRight_cons_of_ne_nil note.ne_nil
    exact body?_cons lead (if_pos note.isComment) next

/-- A member in brackets, behind its comments. -/
theorem body?_member {notes : List String} {text : String} (proper : ∀ line ∈ notes, IsNote line)
    (line : IsLine text.toList) (comment : isComment text.toList = false)
    (read : member? text.toList = some names) (others : body? member? closing rest = some more) :
    body? member? closing
      (trimmedLines (Code.Declaration.bodyLines (notes ++ [text])) ++ rest) =
        some (names ++ more) := by
  have lead : trimRight ("\t" ++ text).toList = '\t' :: text.toList := by
    have some : trimRight text.toList ≠ [] := by
      rw [line.trimRight_eq]
      exact line.ne_nil
    simpa [line.trimRight_eq] using Text.trimRight_cons_of_ne_nil some
  have last := body?_cons lead ((if_neg (by simp [comment])).trans read) others
  rw [Code.Declaration.bodyLines, List.map_append, Text.trimmedLines_append, List.append_assoc]
  exact body?_notes proper last

/-- Members in brackets, one after the other. -/
theorem body?_members {α : Type} {linesOf namesOf : α → List String} {items : List α}
    (each : ∀ item ∈ items, ∀ {rest more}, body? member? closing rest = some more →
      body? member? closing
        (trimmedLines (Code.Declaration.bodyLines (linesOf item)) ++ rest) =
          some (namesOf item ++ more)) :
    body? member? closing
      (trimmedLines (Code.Declaration.bodyLines (items.flatMap linesOf)) ++ [closing]) =
        some (items.flatMap namesOf) := by
  -- what is behind an item is read already, down to the closing bracket
  induction items with
  | nil => simp [Code.Declaration.bodyLines, body?]
  | cons item items ih =>
    have later := ih fun other member => each other (List.mem_cons_of_mem _ member)
    have first := each item List.mem_cons_self later
    simpa [Code.Declaration.bodyLines, List.flatMap_cons] using first

end Layout

namespace Code

/-! ### Fields and constants in brackets -/

/-- The field of a handle that is not embedded. -/
def Handle.asField (handle : Handle) : Field :=
  ⟨[], handle.field, .value (.basic handle.type), ""⟩

/-- A handle with a name and a type. -/
def Handle.WellFormed (handle : Handle) : Prop := handle.asField.WellFormed

theorem Handle.WellFormed.line {handle : Handle} (proper : handle.WellFormed) :
    handle.line.text = handle.asField.text ++ handle.asField.tag := by
  have named : handle.field ≠ "" := by
    intro none
    have word : isWord handle.field.toList = true := proper.name
    rw [none] at word
    cases word
  simp [Handle.line, named, asField, Field.text, FieldType.text, TypeName.text]

theorem Field.WellFormed.read_body {field : Field} (proper : field.WellFormed) {rest : Paragraph}
    {more : List String} (others : body? field? ['\x7d'] rest = some more) :
    body? field? ['\x7d'] (trimmedLines (Declaration.bodyLines field.lines) ++ rest) =
      some more := by
  have comment : isComment (field.text ++ field.tag).toList = false := by
    have split : (field.text ++ field.tag).toList =
        field.name.toList ++ (' ' :: field.type.text.toList ++ field.tag.toList) := by
      simp [Field.text]
    rw [split]
    exact isComment_word proper.name
  exact body?_member proper.comments proper.isLine comment proper.read others

/-- The lines of a structure between its brackets. -/
theorem read_fields {handle : Handle} {fields : List Field} (handled : handle.WellFormed)
    (proper : ∀ field ∈ fields, field.WellFormed) :
    body? field? ['\x7d'] (trimmedLines
      (Declaration.bodyLines (handle.line.text :: fields.flatMap (·.lines))) ++ [['\x7d']]) =
        some [] := by
  have all : ∀ field ∈ handle.asField :: fields, field.WellFormed := by
    simpa using ⟨handled, proper⟩
  have read : body? field? ['\x7d'] (trimmedLines
      (Declaration.bodyLines ((handle.asField :: fields).flatMap (·.lines))) ++ [['\x7d']]) =
        some ((handle.asField :: fields).flatMap fun _ => []) :=
    body?_members fun field member _ _ others => (all field member).read_body others
  have first : handle.asField.lines = [handle.line.text] := by
    rw [handled.line]
    rfl
  rw [List.flatMap_cons, first, List.singleton_append] at read
  rw [read]
  simp

theorem Constant.WellFormed.read_body {constant : Constant} (proper : constant.WellFormed)
    {type? : Option String} (word : ∀ type ∈ type?, isWord type.toList = true) {rest : Paragraph}
    {more : List String} (others : body? (constant? type?) [')'] rest = some more) :
    body? (constant? type?) [')']
      (trimmedLines (Declaration.bodyLines (constant.lines type?)) ++ rest) =
        some ([constant.name] ++ more) := by
  have comment : isComment (constant.text type?).toList = false := by
    rw [Constant.toList_text]
    exact isComment_word proper.name
  exact body?_member proper.comments (proper.isLine word) comment (proper.read type?) others

/-- The constants of a block, brackets included. -/
theorem read_constants {constants : List Constant}
    (proper : ∀ constant ∈ constants, constant.WellFormed) {type? : Option String}
    (word : ∀ type ∈ type?, isWord type.toList = true) :
    constants? type? (trimmedLines
      ("const (" :: Declaration.bodyLines (constants.flatMap (·.lines type?)) ++ [")"])) =
        some (constants.map (·.name)) := by
  have read : body? (constant? type?) [')'] (trimmedLines
      (Declaration.bodyLines (constants.flatMap (·.lines type?))) ++ [[')']]) =
        some (constants.flatMap fun constant => [constant.name]) :=
    body?_members fun constant member _ _ others => (proper constant member).read_body word others
  have opening : trimRight "const (".toList = "const (".toList := by decide
  have closing : trimRight ")".toList = [')'] := by decide
  rw [List.cons_append, Text.trimmedLines_cons, Text.trimmedLines_append, opening]
  simp only [constants?, if_true, Text.trimmedLines_cons, Text.trimmedLines_nil, closing]
  rw [read, List.map_eq_flatMap]

/-! ### Declarations -/

namespace Declaration

/-- The parts of a declaration are such that it is read back. -/
def WellFormed : Declaration → Prop
  | events comments constants =>
    (∀ line ∈ comments, IsNote line) ∧ ∀ constant ∈ constants, constant.WellFormed
  | composite comments name handle fields =>
    (∀ line ∈ comments, IsNote line) ∧ isWord name.toList = true ∧ handle.WellFormed ∧
      ∀ field ∈ fields, field.WellFormed
  | enumeration comments name base members =>
    (∀ line ∈ comments, IsNote line) ∧ isWord name.toList = true ∧
      isTypeName base.text.toList = true ∧ ∀ member ∈ members, member.WellFormed
  | function comments name signature =>
    (∀ line ∈ comments, IsNote line) ∧ isWord name.toList = true ∧ signature.WellFormed

/-- The lines of a declaration, paragraph by paragraph. -/
def parts : Declaration → List (List String)
  | enumeration comments name base members =>
    [comments ++ ["type " ++ name ++ " " ++ base.text],
      "const (" :: bodyLines (members.flatMap (·.lines (some name))) ++ [")"]]
  | declaration => [declaration.lines]

/-- The paragraphs of a declaration as they are read. -/
def paragraphs (declaration : Declaration) : List Paragraph :=
  declaration.parts.map trimmedLines

theorem item?_notes {notes : List String} (proper : ∀ line ∈ notes, IsNote line) {first : Line}
    {body : Paragraph} (code : isComment first = false) :
    item? (trimmedLines notes ++ first :: body) =
      if first = "const (".toList then (constants? none (first :: body)).map .whole
      else typeItem? first body := by
  have comments : ∀ line ∈ trimmedLines notes, isComment line = true := by
    intro line member
    obtain ⟨note, noteMember, rfl⟩ := List.mem_map.mp member
    exact (proper note noteMember).isComment
  rw [item?, List.dropWhile_append_of_pos comments, List.dropWhile_cons_of_neg (by simp [code])]

theorem declarations?_whole {paragraph : Paragraph} {rest : List Paragraph} {names : List String}
    (read : item? paragraph = some (.whole names)) :
    declarations? (paragraph :: rest) = (declarations? rest).map (names ++ ·) := by
  have some : paragraph ≠ [] := by
    rintro rfl
    cases read
  rw [declarations?, read]
  exact fun none => absurd none some

/-- The line of a type is its name and what stands behind it. -/
theorem typeItem?_line {name : String} (word : isWord name.toList = true) (type : String)
    (body : Paragraph) :
    typeItem? ("type " ++ name ++ " " ++ type).toList body = typed? name type.toList body := by
  have split : ("type " ++ name ++ " " ++ type).toList =
      "type ".toList ++ (name.toList ++ ([' '] ++ type.toList)) := by simp
  have token : token? Text.isWordChar (name.toList ++ ([' '] ++ type.toList)) =
      some (name.toList, [' '] ++ type.toList) :=
    token?_word word (by simp [isWordChar_space])
  simp only [typeItem?, split, dropPrefix?_append, bind, Option.bind, token, String.ofList_toList]

theorem isLine_typeLine {name type : String} (word : isWord name.toList = true)
    (line : IsLine type.toList) : IsLine ("type " ++ name ++ " " ++ type).toList := by
  have single := (isLine_of_isTypeName (isTypeName_of_isWord word)).single
  have split : ("type " ++ name ++ " " ++ type).toList =
      ("type ".toList ++ (name.toList ++ [' '])) ++ type.toList := by simp
  rw [split]
  refine .append ?_ line
  simp [single]

/-- The paragraph of a type behind its comments. -/
theorem item?_type {notes : List String} (proper : ∀ line ∈ notes, IsNote line) {name type : String}
    (word : isWord name.toList = true) (line : IsLine type.toList) (body : List String) :
    item? (trimmedLines (notes ++ ("type " ++ name ++ " " ++ type) :: body)) =
      typed? name type.toList (trimmedLines body) := by
  have first : ("type " ++ name ++ " " ++ type).toList =
      't' :: ("ype " ++ name ++ " " ++ type).toList := by simp
  rw [Text.trimmedLines_append, Text.trimmedLines_cons, (isLine_typeLine word line).trimRight_eq,
    item?_notes proper (by rw [first]; rfl), if_neg (by rw [first]; simp), typeItem?_line word]

/-! ### Reading a declaration -/

namespace WellFormed

variable {declaration : Declaration}

variable {comments : List String} {name : String}

theorem read_events {constants : List Constant}
    (proper : (Declaration.events comments constants).WellFormed) (rest : List Paragraph) :
    declarations? ((Declaration.events comments constants).paragraphs ++ rest) =
      (declarations? rest).map ((Declaration.events comments constants).names ++ ·) := by
  obtain ⟨notes, each⟩ := proper
  refine declarations?_whole ?_
  have opening : trimRight "const (".toList = "const (".toList := by decide
  have block := read_constants each (show ∀ type ∈ (none : Option String), _ by simp)
  rw [List.cons_append, Text.trimmedLines_cons, opening] at block
  rw [lines, List.append_assoc, List.cons_append, Text.trimmedLines_append,
    Text.trimmedLines_cons, opening, item?_notes notes (by decide), if_pos rfl, block]
  rfl

theorem read_composite {handle : Handle} {fields : List Field}
    (proper : (Declaration.composite comments name handle fields).WellFormed)
    (rest : List Paragraph) :
    declarations? ((Declaration.composite comments name handle fields).paragraphs ++ rest) =
      (declarations? rest).map
        ((Declaration.composite comments name handle fields).names ++ ·) := by
  obtain ⟨notes, word, handled, each⟩ := proper
  refine declarations?_whole ?_
  have split : ("type " ++ name ++ " struct \x7b") = "type " ++ name ++ " " ++ "struct \x7b" := by
    rw [String.append_assoc, String.append_assoc]
    rfl
  have bracket : trimmedLines ["\x7d"] = [['\x7d']] := by decide
  rw [lines, List.append_assoc, List.cons_append, split,
    item?_type notes word ⟨by decide, '\x7b', by decide, by decide⟩, typed?, if_pos rfl,
    Text.trimmedLines_append, bracket, read_fields handled each]
  rfl

/-- The type of an enumeration is read, and then its constants from the paragraph behind it. -/
theorem read_enumeration {base : Json} {members : List Constant}
    (proper : (Declaration.enumeration comments name base members).WellFormed)
    (rest : List Paragraph) :
    declarations? ((Declaration.enumeration comments name base members).paragraphs ++ rest) =
      (declarations? rest).map
        ((Declaration.enumeration comments name base members).names ++ ·) := by
  obtain ⟨notes, word, based, each⟩ := proper
  have line := isLine_of_isTypeName based
  have other : base.text.toList ≠ "struct \x7b".toList := by
    intro same
    rw [same] at based
    exact absurd based (by decide)
  -- the type is read after signatures were tried, and has no bracket
  have unsigned : afterSignature? base.text.toList = none := by
    have inner : (TypeName.basic base).WellFormed := based
    simpa [TypeName.text] using (inner.read (show isTag [] = true from rfl)).1
  have item : item? (trimmedLines (comments ++ ["type " ++ name ++ " " ++ base.text])) =
      some (.enumerated name) := by
    rw [item?_type notes word line, typed?, if_neg other, Text.trimmedLines_nil,
      if_neg (by simp), unsigned, if_neg (by simp), if_pos based]
  have block := read_constants each (show ∀ type ∈ some name, isWord type.toList = true by
    simpa using word)
  rw [List.cons_append] at block
  have some : trimmedLines (comments ++ ["type " ++ name ++ " " ++ base.text]) ≠ [] := by simp
  simp only [paragraphs, parts, List.map_cons, List.map_nil, List.cons_append, List.nil_append]
  rw [declarations?, item]
  · simp only [block, names]
    cases declarations? rest <;> rfl
  · exact fun none => absurd none some

theorem read_function {signature : Signature}
    (proper : (Declaration.function comments name signature).WellFormed) (rest : List Paragraph) :
    declarations? ((Declaration.function comments name signature).paragraphs ++ rest) =
      (declarations? rest).map ((Declaration.function comments name signature).names ++ ·) := by
  obtain ⟨notes, word, signed⟩ := proper
  refine declarations?_whole ?_
  have line := Signature.WellFormed.isLine signed
  have other : signature.text.toList ≠ "struct \x7b".toList := by
    rw [signature.toList_text]
    simp
  have read : afterSignature? signature.text.toList = some [] := by
    simpa using Signature.WellFormed.afterSignature? signed (show isTag [] = true from rfl)
  rw [lines, item?_type notes word line, typed?, if_neg other, Text.trimmedLines_nil,
    if_neg (by simp), read, if_pos rfl]
  rfl

/-- The names of a declaration are read, whatever comes behind it. -/
theorem read (proper : declaration.WellFormed) (rest : List Paragraph) :
    declarations? (declaration.paragraphs ++ rest) =
      (declarations? rest).map (declaration.names ++ ·) := by
  cases declaration with
  | events => exact read_events proper rest
  | composite => exact read_composite proper rest
  | enumeration => exact read_enumeration proper rest
  | function => exact read_function proper rest

end WellFormed

end Declaration

end Code

end HostBindings
