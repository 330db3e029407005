import HostBindings.Proofs.Emission.Progress
import HostBindings.Proofs.Layout.Declarations

/-!
# The text of declarations

The text of a declaration has the paragraphs of its parts, and so have the texts of several
declarations and of several blocks. No line of them is blank, so nothing but the ends of lines is
changed by the normal form.

## Main definitions

* `Text.Remains` — lines that trimming does not make empty

## Main results

* `Code.Declaration.WellFormed.paragraphs_printed` — the text of a declaration
* `Code.paragraphs_textOf` — the text of several declarations
-/

namespace HostBindings

open Layout
open Text (IsLine isBlank trimRight trimmedLines)

/-! ### The text of a declaration -/

namespace Text

/-- A line of which trimming leaves something. -/
structure Remains (line : String) : Prop where
  /-- It is a single line. -/
  single : '\n' ∉ line.toList
  /-- It is not blank. -/
  some : trimRight line.toList ≠ []

theorem Remains.ne_nil {line : String} (remains : Remains line) : line.toList ≠ [] := by
  intro none
  exact remains.some (by rw [none]; rfl)

theorem IsLine.remains {line : String} (proper : IsLine line.toList) : Remains line :=
  ⟨proper.single, by rw [proper.trimRight_eq]; exact proper.ne_nil⟩

theorem Remains.indented {line : String} (remains : Remains line) : Remains ("\t" ++ line) where
  single := by simpa using remains.single
  some := by
    have kept := trimRight_cons_of_ne_nil remains.some (c := '\t')
    simp [kept]

/-- A text that is put together of paragraphs. -/
theorem paragraphs_of_parts {parts : List (List String)} (some : parts ≠ [])
    (each : ∀ part ∈ parts, part ≠ [] ∧ ∀ line ∈ part, Remains line) :
    paragraphs ("\n".intercalate ([""].intercalate parts)) =
      parts.map (List.map String.toList) := by
  -- no line feeds within lines, so splitting takes the text apart where it was joined
  have single : ∀ line ∈ [""].intercalate parts, '\n' ∉ line.toList := by
    intro line member
    rcases mem_of_mem_intercalate member with gap | ⟨part, partMember, lineMember⟩
    · rw [List.mem_singleton.mp gap]
      exact List.not_mem_nil
    · exact ((each part partMember).2 line lineMember).single
  have filled : [""].intercalate parts ≠ [] := by
    obtain ⟨part, rest, rfl⟩ := List.exists_cons_of_ne_nil some
    have first := (each part List.mem_cons_self).1
    cases rest with
    | nil => simpa using first
    | cons next rest => simp [List.intercalate_cons_cons]
  have blank : [""].map String.toList = [[]] := rfl
  rw [paragraphs_joined filled single, map_intercalate, blank, List.splitOn_intercalate]
  · intro part member empty
    obtain ⟨raw, rawMember, rfl⟩ := List.mem_map.mp member
    obtain ⟨line, lineMember, none⟩ := List.mem_map.mp empty
    exact ((each raw rawMember).2 line lineMember).ne_nil none
  · simpa using some

end Text

open Text (Remains)

theorem Layout.IsNote.remains {line : String} (note : IsNote line) : Remains line :=
  ⟨note.2, note.ne_nil⟩

namespace Code

theorem Field.WellFormed.remains {field : Field} (proper : field.WellFormed) :
    ∀ line ∈ field.lines, Remains line := by
  intro line member
  rcases List.mem_append.mp member with note | last
  · exact (proper.comments line note).remains
  · rw [List.mem_singleton.mp last]
    exact proper.isLine.remains

theorem Constant.WellFormed.remains {constant : Constant} (proper : constant.WellFormed)
    {type? : Option String} (word : ∀ type ∈ type?, isWord type.toList = true) :
    ∀ line ∈ constant.lines type?, Remains line := by
  intro line member
  rcases List.mem_append.mp member with note | last
  · exact (proper.comments line note).remains
  · rw [List.mem_singleton.mp last]
    exact (proper.isLine word).remains

namespace Declaration

/-- Bracketed lines, the brackets included. -/
private theorem remains_bracketed {opening closing : String} {lines : List String}
    (first : Remains opening) (last : Remains closing) (each : ∀ line ∈ lines, Remains line) :
    ∀ line ∈ opening :: bodyLines lines ++ [closing], Remains line := by
  intro line member
  rw [List.cons_append, List.mem_cons, List.mem_append, List.mem_singleton] at member
  rcases member with rfl | within | rfl
  · exact first
  · obtain ⟨inner, innerMember, rfl⟩ := List.mem_map.mp within
    exact (each inner innerMember).indented
  · exact last

private theorem remains_flatMap {α : Type} {items : List α} {linesOf : α → List String}
    (each : ∀ item ∈ items, ∀ line ∈ linesOf item, Remains line) :
    ∀ line ∈ items.flatMap linesOf, Remains line := by
  intro line member
  obtain ⟨item, itemMember, lineMember⟩ := List.mem_flatMap.mp member
  exact each item itemMember line lineMember

private theorem remains_notes {notes lines : List String} (proper : ∀ line ∈ notes, IsNote line)
    (each : ∀ line ∈ lines, Remains line) : ∀ line ∈ notes ++ lines, Remains line := by
  intro line member
  rcases List.mem_append.mp member with note | other
  · exact (proper line note).remains
  · exact each line other

namespace WellFormed

variable {declaration : Declaration}

/-- No line of a declaration is empty, and there are some in every paragraph. -/
theorem remains (proper : declaration.WellFormed) :
    ∀ part ∈ declaration.parts, part ≠ [] ∧ ∀ line ∈ part, Remains line := by
  have opening : Remains "const (" := ⟨by decide, by decide⟩
  have closing : Remains ")" := ⟨by decide, by decide⟩
  -- an enumeration has two paragraphs, the other declarations one
  cases declaration with
  | events comments constants =>
    obtain ⟨notes, each⟩ := proper
    have body := remains_flatMap fun constant member =>
      (each constant member).remains (show ∀ type ∈ (none : Option String), _ by simp)
    have all := remains_notes notes (remains_bracketed opening closing body)
    simpa [parts, lines] using all
  | composite comments name handle fields =>
    obtain ⟨notes, word, handled, each⟩ := proper
    have first : Remains ("type " ++ name ++ " " ++ "struct \x7b") :=
      (isLine_typeLine word ⟨by decide, '\x7b', by decide, by decide⟩).remains
    have line : Remains handle.line.text := by
      rw [handled.line]
      exact (Field.WellFormed.isLine handled).remains
    have body : ∀ line ∈ handle.line.text :: fields.flatMap (·.lines), Remains line := by
      simpa [line] using remains_flatMap fun field member => (each field member).remains
    have brace : Remains "\x7d" := ⟨by decide, by decide⟩
    have all := remains_notes notes (remains_bracketed first brace body)
    simpa [parts, lines, String.append_assoc] using all
  | enumeration comments name base members =>
    obtain ⟨notes, word, based, each⟩ := proper
    have first := (isLine_typeLine word (isLine_of_isTypeName based)).remains
    have body := remains_flatMap fun member there =>
      (each member there).remains (show ∀ type ∈ some name, isWord type.toList = true by
        simpa using word)
    have head := remains_notes notes (show ∀ line ∈ [_], Remains line by simpa using first)
    have block := remains_bracketed opening closing body
    intro part member
    simp only [parts, List.mem_cons, List.not_mem_nil, or_false] at member
    rcases member with rfl | rfl
    · exact ⟨by simp, head⟩
    · exact ⟨by simp, block⟩
  | function comments name signature =>
    obtain ⟨notes, word, signed⟩ := proper
    have first := (isLine_typeLine word (Signature.WellFormed.isLine signed)).remains
    have all := remains_notes notes (show ∀ line ∈ [_], Remains line by simpa using first)
    simpa [parts, lines] using all

end WellFormed

/-- The lines of a declaration are those of its paragraphs, with an empty one between each two. -/
theorem lines_eq (declaration : Declaration) :
    declaration.lines = [""].intercalate declaration.parts := by
  cases declaration <;> simp [lines, parts, List.intercalate_cons_cons]

/-- The paragraphs of the text of a declaration. -/
theorem WellFormed.paragraphs_printed {declaration : Declaration}
    (proper : declaration.WellFormed) :
    Text.paragraphs declaration.printed = declaration.parts.map (List.map String.toList) := by
  have some : declaration.parts ≠ [] := by cases declaration <;> simp [parts]
  rw [printed, lines_eq, Text.paragraphs_of_parts some proper.remains]

/-- No paragraph of a declaration is empty. -/
theorem WellFormed.nil_notMem {declaration : Declaration} (proper : declaration.WellFormed) :
    [] ∉ declaration.parts.map (List.map String.toList) := by
  intro empty
  obtain ⟨part, member, none⟩ := List.mem_map.mp empty
  exact (proper.remains part member).1 (by simpa using none)

/-- There are no line feeds around the text of a declaration. -/
theorem WellFormed.trimmed_eq {declaration : Declaration} (proper : declaration.WellFormed) :
    declaration.trimmed = declaration.printed := by
  have full : [] ∉ Text.paragraphs declaration.printed :=
    proper.paragraphs_printed ▸ proper.nil_notMem
  rw [trimmed, Text.trimNewlines_of_paragraphs full, String.ofList_toList]

end Declaration

/-! ### Several declarations -/

/-- The lines of declarations, paragraph by paragraph. -/
def partsOf (declarations : List Declaration) : List Paragraph :=
  declarations.flatMap fun declaration => declaration.parts.map (List.map String.toList)

variable {declarations : List Declaration}

/-- The paragraphs of the text of declarations are those of each. -/
theorem paragraphs_textOf (some : declarations ≠ [])
    (proper : ∀ declaration ∈ declarations, declaration.WellFormed) :
    Text.paragraphs (textOf declarations) = partsOf declarations := by
  rw [textOf, Text.paragraphs_intercalate (by simpa using some), List.flatMap_map, partsOf]
  refine List.flatMap_congr fun declaration member => ?_
  rw [(proper declaration member).trimmed_eq, (proper declaration member).paragraphs_printed]

/-- No line of declarations is blank. -/
theorem partsOf_remains (proper : ∀ declaration ∈ declarations, declaration.WellFormed) :
    ∀ part ∈ partsOf declarations, part ≠ [] ∧ ∀ line ∈ part, trimRight line ≠ [] := by
  intro part member
  obtain ⟨declaration, there, partMember⟩ := List.mem_flatMap.mp member
  obtain ⟨raw, rawMember, rfl⟩ := List.mem_map.mp partMember
  obtain ⟨some, each⟩ := (proper declaration there).remains raw rawMember
  refine ⟨by simpa using some, fun line lineMember => ?_⟩
  obtain ⟨text, textMember, rfl⟩ := List.mem_map.mp lineMember
  exact (each text textMember).some

/-- The names of declarations are read, in order. -/
theorem read_partsOf (proper : ∀ declaration ∈ declarations, declaration.WellFormed) :
    declarations? ((partsOf declarations).map (List.map trimRight) ++ [[]]) =
      some (declarations.flatMap (·.names)) := by
  induction declarations with
  | nil => rfl
  | cons declaration rest ih =>
    have first := (proper declaration List.mem_cons_self).read
    have others := ih fun other member => proper other (List.mem_cons_of_mem _ member)
    have split : (partsOf (declaration :: rest)).map (List.map trimRight) ++ [[]] =
        declaration.paragraphs ++ ((partsOf rest).map (List.map trimRight) ++ [[]]) := by
      simp [partsOf, Declaration.paragraphs, trimmedLines, Function.comp_def]
    rw [split, first, others]
    rfl

end Code

/-! ### Sections -/

namespace DeclarationUnit

variable {unit : DeclarationUnit}

/-- The declarations of a unit, in order. -/
def declarations (unit : DeclarationUnit) : List Code.Declaration :=
  unit.sections.flatMap (·.declarations)

theorem names_eq (unit : DeclarationUnit) : unit.names = unit.declarations.flatMap (·.names) := by
  rw [names, declarations, List.flatMap_assoc]
  rfl

/-- Every section is the text of its declarations, which are read back. -/
structure WellFormed (unit : DeclarationUnit) : Prop where
  /-- There is a declaration in every section. -/
  some : ∀ entry ∈ unit.sections, entry.declarations ≠ []
  /-- The text of a section is the text of its declarations. -/
  text : ∀ entry ∈ unit.sections, entry.text = Code.textOf entry.declarations
  /-- Declarations are read back. -/
  proper : ∀ declaration ∈ unit.declarations, declaration.WellFormed

namespace WellFormed

theorem paragraphs_text (proper : unit.WellFormed) {entry : Section}
    (member : entry ∈ unit.sections) :
    Text.paragraphs entry.text = Code.partsOf entry.declarations := by
  rw [proper.text entry member]
  refine Code.paragraphs_textOf (proper.some entry member) fun declaration there => ?_
  exact proper.proper declaration (List.mem_flatMap.mpr ⟨entry, member, there⟩)

/-- The body of a unit has the paragraphs of its declarations. -/
theorem paragraphs_body (proper : unit.WellFormed) (filled : unit.sections ≠ []) :
    Text.paragraphs unit.body = Code.partsOf unit.declarations := by
  have full : ∀ entry ∈ unit.sections, [] ∉ Text.paragraphs entry.text := by
    intro entry member empty
    rw [proper.paragraphs_text member] at empty
    have each := Code.partsOf_remains fun declaration there =>
      proper.proper declaration (List.mem_flatMap.mpr ⟨entry, member, there⟩)
    exact (each [] empty).1 rfl
  have all : unit.sections.filter (·.text != "") = unit.sections := by
    refine List.filter_eq_self.mpr fun entry member => ?_
    simpa using Text.ne_empty_of_paragraphs (full entry member)
  have texts : unit.sections.map (fun entry =>
      String.ofList (Text.trimNewlines entry.text.toList)) = unit.sections.map (·.text) := by
    refine List.map_congr_left fun entry member => ?_
    rw [Text.trimNewlines_of_paragraphs (full entry member), String.ofList_toList]
  rw [body, all]
  simp only [texts]
  rw [Text.paragraphs_intercalate (by simpa using filled), List.flatMap_map, Code.partsOf,
    declarations, List.flatMap_assoc]
  exact List.flatMap_congr fun entry member => proper.paragraphs_text member

end WellFormed

end DeclarationUnit

end HostBindings
