import HostBindings.Proofs.Comments.Units
import HostBindings.Proofs.Layout.Standard
import HostBindings.Proofs.Literals.Interpreted
import Mathlib.Data.List.Chain
import Mathlib.Data.List.Flatten

/-!
# Constants read from code

A line of code declares a constant with a text for its value if it is a tab, a name, an equality
sign and an interpreted string literal. Read line by line, what is declared under the default
settings tells the constants of events and nothing else, apart from what stands in comments: the
members of an enumeration have a type in front of the equality sign, and in the tag of a field every
quotation mark of a name is escaped, also where the name goes over several lines.

## Main definitions

* `Layout.stringConstant?`, `Layout.stringConstants` — a line and a text read
* `Layout.IsQuiet` — texts with no place where the value of such a constant could begin
* `Code.Declaration.told` — the constants of events, each with the bytes of its literal
* `Code.Declaration.Tells` — a declaration from which these are read

## Main results

* `Layout.IsQuiet.rawConstants` — no line of such a text declares a constant
* `Code.rawConstants_event`, `Code.rawConstants_member`, `Code.rawConstants_field` — members
* `Code.Declaration.tells_events`, `Code.Declaration.tells_composite`,
  `Code.Declaration.tells_enumeration`, `Code.Declaration.tells_function` — whole declarations
-/

namespace HostBindings

open Text (codeLines trimRight)

namespace Layout

/-! ### Reading -/

/-- The constant that a line declares, if its value is an interpreted string literal and it has no
type: its name, and the bytes of the literal. -/
def stringConstant? (line : Line) : Option (String × List UInt8) := do
  let (name, rest) ← token? Text.isWordChar (← line.dropPrefix? ['\t'])
  let bytes ← Literal.unquote? (← rest.dropPrefix? (equals none).toList)
  return (String.ofList name, bytes)

/-- The constants that the lines of code of a text declare, in order. -/
def stringConstants (code : String) : List (String × List UInt8) :=
  (codeLines code).filterMap stringConstant?

/-- The constants of a text that is not in its normal form yet: there may be blanks at the ends of
its lines. -/
def rawConstants (text : String) : List (String × List UInt8) :=
  (codeLines text).filterMap fun line => stringConstant? (trimRight line)

theorem filterMap_trimmed (lines : List Line) :
    (lines.map trimRight).filterMap stringConstant? =
      lines.filterMap fun line => stringConstant? (trimRight line) :=
  List.filterMap_map ..

variable {line text : Line}

/-- The value of a constant stands behind an equality sign and a blank, and it ends the line. -/
theorem exists_of_stringConstant? {constant : String × List UInt8}
    (read : stringConstant? line = some constant) :
    ∃ before value, line = before ++ (['=', ' ', '"'] ++ value) ∧ value.getLast? = some '"' := by
  simp only [stringConstant?, Option.bind_eq_bind, Option.bind_eq_some_iff, Option.pure_def,
    List.dropPrefix?_eq_some_iff, beq_iff_eq] at read
  obtain ⟨text, ⟨lead, rfl, -⟩, ⟨name, rest⟩, token, value, ⟨_, behind, rfl⟩, bytes, quoted, -⟩ :=
    read
  have sign : rest = (equals none).toList ++ value := behind
  have split : text = name ++ rest := by
    unfold token? at token
    split at token
    · cases token
    · cases token
      exact (List.takeWhile_append_dropWhile ..).symm
  unfold Literal.unquote? at quoted
  split at quoted
  next rest =>
    split at quoted
    next last => exact ⟨lead ++ name ++ [' '], rest, by simp [split, sign, equals], last⟩
    next => cases quoted
  next => cases quoted

/-! ### Texts that declare no constant -/

/-- No quotation mark stands behind an equality sign and a blank, unless all that follows is the
grave accent at the end of a tag. -/
def IsQuiet (text : Line) : Prop :=
  ∀ before after, text = before ++ (['=', ' ', '"'] ++ after) → after = ['\x60']

theorem isQuiet_of_mark_not_mem (absent : '"' ∉ text) : IsQuiet text := by
  rintro before after rfl
  simp at absent

/-- What stands in a quiet text declares no constant. -/
theorem IsQuiet.stringConstant?_eq_none (quiet : IsQuiet text) (within : line <:+: text) :
    stringConstant? line = none := by
  by_contra some
  obtain ⟨constant, read⟩ := Option.ne_none_iff_exists'.mp some
  obtain ⟨before, value, rfl, last⟩ := exists_of_stringConstant? read
  obtain ⟨lead, tail, same⟩ := within
  -- the value would have to be nothing, or the grave accent
  have rest := quiet (lead ++ before) (value ++ tail) (by simp [← same])
  rcases List.append_eq_singleton_iff.mp rest with ⟨rfl, -⟩ | ⟨rfl, -⟩
  · cases last
  · cases last

/-- No line of a quiet text declares one. -/
theorem IsQuiet.rawConstants {text : String} (quiet : IsQuiet text.toList) :
    rawConstants text = [] := by
  refine List.filterMap_eq_nil_iff.mpr fun line member => quiet.stringConstant?_eq_none ?_
  have whole : line <:+: text.toList := Text.infix_of_mem_lines (List.mem_filter.mp member).1
  exact (Text.prefix_trimRight line).isInfix.trans whole

/-! ### Tags -/

/-- A quotation mark that closes a text is at its end. -/
theorem isQuiet_closed (chain : text.IsChain fun c d => c = ' ' → d ≠ '"') :
    IsQuiet (text ++ ['"', '\x60']) := by
  intro before after same
  induction after using List.reverseRecOn with
  | nil =>
    have last := congrArg List.getLast? same
    simp at last
  | append_singleton after c _ =>
    have split : (text ++ ['"']) ++ ['\x60'] = (before ++ (['=', ' ', '"'] ++ after)) ++ [c] := by
      simpa using same
    obtain ⟨front, last⟩ := List.append_inj' split rfl
    cases last
    induction after using List.reverseRecOn with
    | nil => rfl
    | append_singleton after d _ =>
      have split : text ++ ['"'] = (before ++ (['=', ' ', '"'] ++ after)) ++ [d] := by
        simpa using front
      obtain ⟨inner, -⟩ := List.append_inj' split rfl
      have opened : text = (before ++ ['=']) ++ ' ' :: '"' :: after := by simp [inner]
      exact absurd rfl (List.isChain_iff_forall_rel_of_append_cons_cons.mp chain opened rfl)

/-- A text without quotation marks has none behind a blank. -/
private theorem isChain_of_mark_not_mem (absent : '"' ∉ text) :
    text.IsChain fun c d => c = ' ' → d ≠ '"' := by
  rw [List.isChain_iff_forall_rel_of_append_cons_cons]
  rintro c d before after rfl - rfl
  simp at absent

/-- Neither has a name between quotation marks, where its own are escaped. -/
private theorem isChain_escapeTag (name : String) :
    ('"' :: (Generator.escapeTag name).toList).IsChain fun c d => c = ' ' → d ≠ '"' := by
  rw [Generator.escapeTag, String.toList_ofList]
  generalize name.toList = chars
  suffices inside : ∀ lead, (lead :: chars.flatMap fun c =>
      if c = '\\' ∨ c = '"' then ['\\', c] else [c]).IsChain fun c d => c = ' ' → d ≠ '"' from
    inside '"'
  -- whatever stands in front, a name never begins with a quotation mark
  induction chars with
  | nil => simp
  | cons c rest ih =>
    intro lead
    rw [List.flatMap_cons]
    split
    next => simpa using ih c
    next other =>
      rw [not_or] at other
      simpa [other.2] using ih c

/-- A text without quotation marks is quiet with the tag of an entity behind it. -/
theorem isQuiet_fieldTag (comments tags : Json) (info : Api.Info) (parent : Option Api.Info)
    (absent : '"' ∉ text) :
    IsQuiet (text ++ (Generator.fieldTag (.standard comments tags) info parent).toList) := by
  unfold Generator.fieldTag
  split
  next _ _ key _ keyed =>
    split
    · simpa using isQuiet_of_mark_not_mem absent
    · have front : '"' ∉ text ++ " \x60js:".toList := by simp [absent]
      have split (name : String) :
          text ++ (s!" \x60{key}:\"{Generator.escapeTag name}\"\x60").toList =
            text ++ " \x60js:".toList ++ '"' :: (Generator.escapeTag name).toList ++
              ['"', '\x60'] := by
        rw [Generator.eq_of_mem_tagKey? key keyed]
        change _ ++ (" \x60" ++ "js" ++ ":\"" ++ Generator.escapeTag name ++ "\"\x60").toList = _
        simp
      rw [split]
      refine isQuiet_closed (List.isChain_append.mpr
        ⟨isChain_of_mark_not_mem front, isChain_escapeTag _, ?_⟩)
      simp
  next => simpa using isQuiet_of_mark_not_mem absent

/-! ### Members -/

/-- Words have no quotation mark, and neither have types. -/
theorem mark_not_mem_of_isTypeName (type : isTypeName text = true) : '"' ∉ text := fun member => by
  have char := (isTypeName_iff.mp type).2 '"' member
  revert char
  decide

theorem mark_not_mem_of_isWord (word : isWord text = true) : '"' ∉ text :=
  mark_not_mem_of_isTypeName (isTypeName_of_isWord word)

/-- A name with a type is no constant that is read: no equality sign is next to the name. -/
theorem stringConstant?_typed {name type : Line} (word : isWord name = true)
    (typed : isTypeName type = true) (rest : Line) :
    stringConstant? ('\t' :: (name ++ ' ' :: (type ++ rest))) = none := by
  have token : token? Text.isWordChar (name ++ ' ' :: (type ++ rest)) = _ :=
    token?_word word (by simp [isWordChar_space])
  have lead : ('\t' :: (name ++ ' ' :: (type ++ rest))).dropPrefix? ['\t'] =
      some (name ++ ' ' :: (type ++ rest)) := dropPrefix?_append ['\t'] _
  have behind : (' ' :: (type ++ rest)).dropPrefix? (equals none).toList = none := by
    by_contra some
    obtain ⟨value, found⟩ := Option.ne_none_iff_exists'.mp some
    obtain ⟨sign, same, equal⟩ := List.dropPrefix?_eq_some_iff.mp found
    obtain ⟨filled, all⟩ := isTypeName_iff.mp typed
    obtain ⟨c, more, rfl⟩ := List.exists_cons_of_ne_nil filled
    have first : c = '=' := by
      rw [eq_of_beq equal] at same
      exact (List.cons.inj (List.cons.inj same).2).1
    have char := all c List.mem_cons_self
    rw [first] at char
    revert char
    decide
  simp [stringConstant?, lead, token, behind]

/-- An event name between quotation marks is read behind the name of its constant. -/
theorem stringConstant?_quoted {name : Line} (word : isWord name = true) (text : String) :
    stringConstant? ('\t' :: (name ++ ((equals none).toList ++ (Text.quote text).toList))) =
      some (String.ofList name, Literal.bytesOf text) := by
  have stops : ∀ c ∈ ((equals none).toList ++ (Text.quote text).toList).head?,
      Text.isWordChar c = false := by
    simp [equals, isWordChar_space]
  have lead : ('\t' :: (name ++ ((equals none).toList ++ (Text.quote text).toList))).dropPrefix?
      ['\t'] = some _ := dropPrefix?_append ['\t'] _
  simp [stringConstant?, lead, token?_word word stops, dropPrefix?_append, Literal.unquote?_quote]

/-- A line that begins with a tab and a word is code. -/
theorem codeLines_word {text : String} {word rest : Line} (proper : isWord word = true)
    (same : text.toList = word ++ rest) (line : Text.IsLine text.toList) :
    codeLines ("\t" ++ text) = ['\t' :: text.toList] := by
  have chars : ("\t" ++ text).toList = '\t' :: text.toList := by simp
  have single : '\n' ∉ ("\t" ++ text).toList := by simpa [chars] using line.single
  have code : Text.isAside ('\t' :: text.toList) = false := by
    have comment : isComment text.toList = false := same ▸ isComment_word proper
    obtain ⟨some, all⟩ := isWord_iff.mp proper
    obtain ⟨c, more, rfl⟩ := List.exists_cons_of_ne_nil some
    have plain := Text.not_isBlank_of_isWordChar (all c List.mem_cons_self)
    have tab : c ≠ '\t' := by
      rintro rfl
      exact absurd plain (by decide)
    rw [same] at comment ⊢
    simp_all [Text.isAside]
  rw [Text.codeLines_single single, chars, code]
  rfl

end Layout

open Layout

namespace Code

variable {constant : Constant} {field : Field}

/-! ### Constants -/

/-- Without its comments, a constant is read back whose literal is quoted. -/
theorem wellFormed_quoted (word : isWord constant.name.toList = true) {text : String}
    (quoted : constant.literal = Text.quote text) : (constant.seen .code).WellFormed where
  comments _ comment := by cases comment
  name := word
  literal := by
    change isLiteral constant.literal.toList = true
    rw [quoted]
    simp [isLiteral, isQuoted_quote]
  single := by
    change '\n' ∉ constant.literal.toList
    rw [quoted]
    exact lineFeed_not_mem_quote text

/-- The line of such a constant is a line of code that trimming leaves as it is. -/
theorem codeLines_quoted (word : isWord constant.name.toList = true) {text : String}
    (quoted : constant.literal = Text.quote text) (type? : Option String)
    (typed : ∀ type ∈ type?, isWord type.toList = true) :
    codeLines ("\t" ++ constant.text type?) = ['\t' :: (constant.text type?).toList] ∧
      trimRight ('\t' :: (constant.text type?).toList) = '\t' :: (constant.text type?).toList := by
  have line : Text.IsLine (constant.text type?).toList :=
    (wellFormed_quoted word quoted).isLine typed
  have tabbed : Text.IsLine (['\t'] ++ (constant.text type?).toList) := .append (by decide) line
  exact ⟨codeLines_word word (constant.toList_text type?) line, tabbed.trimRight_eq⟩

/-- The constant of an event is read. -/
theorem rawConstants_event (word : isWord constant.name.toList = true) {text : String}
    (quoted : constant.literal = Text.quote text) :
    rawConstants ("\t" ++ constant.text none) = [(constant.name, Literal.bytesOf text)] := by
  obtain ⟨lines, trimmed⟩ := codeLines_quoted word quoted none (by simp)
  have read := stringConstant?_quoted word text
  rw [← quoted, ← constant.toList_text, String.ofList_toList] at read
  simp [rawConstants, lines, trimmed, read]

/-- The constant of a member of an enumeration is not, whether its literal is quoted or not. -/
theorem rawConstants_member (word : isWord constant.name.toList = true) {type : String}
    (typed : isWord type.toList = true)
    (literal : (∃ text, constant.literal = Text.quote text) ∨ '"' ∉ constant.literal.toList) :
    rawConstants ("\t" ++ constant.text (some type)) = [] := by
  have same := constant.toList_text (some type)
  rcases literal with ⟨text, quoted⟩ | plain
  · obtain ⟨lines, trimmed⟩ := codeLines_quoted word quoted (some type) (by simpa)
    have unread := stringConstant?_typed word (isTypeName_of_isWord typed)
      (" = ".toList ++ constant.literal.toList)
    have split : (constant.text (some type)).toList = constant.name.toList ++
        ' ' :: (type.toList ++ (" = ".toList ++ constant.literal.toList)) := by
      rw [same]
      simp [equals]
    rw [← split] at unread
    simp [rawConstants, lines, trimmed, unread]
  · have name := mark_not_mem_of_isWord word
    have type := mark_not_mem_of_isWord typed
    refine (isQuiet_of_mark_not_mem ?_).rawConstants
    simp [same, equals, name, type, plain]

/-! ### Fields -/

/-- The line of a field is not, whatever name its tag has. -/
theorem rawConstants_field {comments tags : Json} (word : isWord field.name.toList = true)
    (type : field.type.WellFormed) {info : Api.Info} {parent : Option Api.Info}
    (tag : field.tag = Generator.fieldTag (.standard comments tags) info parent) :
    rawConstants ("\t" ++ (field.text ++ field.tag)) = [] := by
  have front : '"' ∉ '\t' :: field.text.toList := by
    have name := mark_not_mem_of_isWord word
    have inner : '"' ∉ field.type.text.toList := type.not_mem_text (by decide) (by decide)
    simp [Field.text, name, inner]
  have quiet := isQuiet_fieldTag comments tags info parent front
  apply IsQuiet.rawConstants
  simpa [tag] using quiet

/-- Neither is the line of a handle. -/
theorem rawConstants_handle {handle : Handle} (proper : handle.WellFormed) :
    rawConstants ("\t" ++ handle.line.text) = [] := by
  have name : '"' ∉ handle.field.toList := mark_not_mem_of_isWord proper.name
  have type : '"' ∉ handle.type.text.toList := mark_not_mem_of_isTypeName proper.type
  apply IsQuiet.rawConstants
  apply isQuiet_of_mark_not_mem
  rw [proper.line]
  simp [Handle.asField, Field.text, FieldType.text, TypeName.text, name, type]

/-! ### Declarations -/

namespace Declaration

/-- The constants of events that are declared, each with the bytes that its literal denotes. -/
def told : Declaration → List (String × List UInt8)
  | events _ constants => constants.filterMap fun constant =>
    (Literal.unquote? constant.literal.toList).map fun bytes => (constant.name, bytes)
  | composite .. | enumeration .. | function .. => []

/-- Read line by line, a declaration without its comments tells the constants of events. -/
def Tells (declaration : Declaration) : Prop :=
  rawConstants (declaration.seen .code).printed = declaration.told

theorem rawConstants_printed (declaration : Declaration) :
    rawConstants declaration.printed = declaration.lines.flatMap rawConstants := by
  rw [rawConstants, codeLines_printed, List.filterMap_flatMap]
  rfl

/-- Comments are more lines, and change no other line. -/
theorem lines_seen_sublist (declaration : Declaration) :
    (declaration.seen .code).lines.Sublist declaration.lines := by
  -- under whichever header, comments only stand above the line of an item
  have items {α : Type} (seen : α → α) (linesOf : α → List String)
      (fewer : ∀ item, (linesOf (seen item)).Sublist (linesOf item)) (items : List α) :
      (bodyLines ((items.map seen).flatMap linesOf)).Sublist
        (bodyLines (items.flatMap linesOf)) := by
    rw [List.flatMap_map]
    exact (List.Sublist.flatMap_right _ fun item _ => fewer item).map _
  cases declaration with
  | events comments values =>
    have body := items (Constant.seen .code) (·.lines none)
      (fun _ => List.sublist_append_right _ _) values
    exact .append (.append (List.nil_sublist _) (body.cons_cons _)) (.refl _)
  | composite comments name handle values =>
    have body := items (Field.seen .code) (·.lines)
      (fun _ => List.sublist_append_right _ _) values
    exact .append (.append (List.nil_sublist _) ((body.cons_cons _).cons_cons _)) (.refl _)
  | enumeration comments name base members =>
    have body := items (Constant.seen .code) (·.lines (some name))
      (fun _ => List.sublist_append_right _ _) members
    refine .append (.append (List.nil_sublist _) ?_) (.refl _)
    exact ((body.cons_cons _).cons_cons _).cons_cons _
  | function comments name signature => exact List.sublist_append_right _ _

/-- With its comments, a declaration tells them among others. -/
theorem Tells.sublist {declaration : Declaration} (tells : declaration.Tells) :
    declaration.told.Sublist (rawConstants declaration.printed) := by
  rw [← tells, rawConstants_printed, rawConstants_printed]
  exact declaration.lines_seen_sublist.flatMap _

/-- A comment with a line feed in it tells one more. -/
example :
    rawConstants (events [] [⟨["// a\n\tB = \"other\""], "B", "\"b\""⟩]).printed =
      [("B", Literal.bytesOf "other"), ("B", Literal.bytesOf "b")] := by
  decide +kernel

/-- Items whose comments are left out, behind a tab each, tell what their own lines tell. -/
theorem rawConstants_items {α : Type} (seen : α → α) (comments : α → List String)
    (text : α → String) (none : ∀ item, comments (seen item) = [])
    (same : ∀ item, text (seen item) = text item) (items : List α) :
    (bodyLines ((items.map seen).flatMap fun item => comments item ++ [text item])).flatMap
        rawConstants =
      items.flatMap fun item => rawConstants ("\t" ++ text item) := by
  have bare : ∀ item ∈ items.map seen, ∀ line ∈ comments item, IsNote line := by
    intro item member line comment
    obtain ⟨raw, -, rfl⟩ := List.mem_map.mp member
    rw [none] at comment
    cases comment
  have read := congrArg (List.filterMap fun line => stringConstant? (trimRight line))
    (codeLines_items comments text bare)
  rw [List.filterMap_flatMap, List.filterMap_flatMap] at read
  refine read.trans ?_
  rw [List.flatMap_map]
  simp only [same, rawConstants]

theorem rawConstants_constants (constants : List Constant) (type? : Option String) :
    (bodyLines ((constants.map (·.seen .code)).flatMap (·.lines type?))).flatMap rawConstants =
      constants.flatMap fun constant => rawConstants ("\t" ++ constant.text type?) := by
  have items := rawConstants_items (Constant.seen .code) Constant.comments (Constant.text · type?)
    (fun _ => rfl) (fun _ => rfl) constants
  exact items

/-- Lines without quotation marks tell nothing. -/
theorem rawConstants_of_mark_not_mem {line : String} (absent : '"' ∉ line.toList) :
    rawConstants line = [] :=
  (isQuiet_of_mark_not_mem absent).rawConstants

/-- The lines of brackets tell nothing. -/
theorem rawConstants_brackets :
    ∀ line ∈ ["const (", ")", "\x7d", ""], rawConstants line = [] := by
  decide

/-- Constants of events tell their names and values. -/
theorem tells_events {comments : List String} {constants : List Constant}
    (words : ∀ constant ∈ constants, isWord constant.name.toList = true)
    (quoted : ∀ constant ∈ constants, ∃ text, constant.literal = Text.quote text) :
    (events comments constants).Tells := by
  have each : ∀ constant ∈ constants, rawConstants ("\t" ++ constant.text none) =
      ((Literal.unquote? constant.literal.toList).map
        fun bytes => (constant.name, bytes)).toList := by
    intro constant member
    obtain ⟨text, same⟩ := quoted constant member
    rw [rawConstants_event (words constant member) same, same, Literal.unquote?_quote]
    rfl
  have items := rawConstants_constants constants none
  rw [List.flatMap_congr each, ← List.filterMap_eq_flatMap_toList] at items
  rw [Tells, rawConstants_printed, told, ← items]
  simp [seen, lines, View.code, rawConstants_brackets]

/-- Fields tell nothing, so structures do not. -/
theorem tells_composite {comments : List String} {name : String} {handle : Handle}
    {fields : List Field} (word : isWord name.toList = true) (handled : handle.WellFormed)
    (silent : ∀ field ∈ fields, rawConstants ("\t" ++ (field.text ++ field.tag)) = []) :
    (composite comments name handle fields).Tells := by
  have items := rawConstants_items (·.seen .code) Field.comments
    (fun field => field.text ++ field.tag) (fun _ => rfl) (fun _ => rfl) fields
  have opening : rawConstants ("type " ++ name ++ " struct \x7b") = [] := by
    apply rawConstants_of_mark_not_mem
    simp [mark_not_mem_of_isWord word]
  rw [List.flatMap_eq_nil_iff.mpr silent] at items
  rw [Tells, rawConstants_printed, told]
  simpa [seen, lines, View.code, bodyLines, opening, rawConstants_handle handled,
    rawConstants_brackets, Field.lines] using items

/-- Neither do the members of an enumeration. -/
theorem tells_enumeration {comments : List String} {name : String} {base : Json}
    {members : List Constant} (word : isWord name.toList = true)
    (typed : isTypeName base.text.toList = true)
    (silent : ∀ member ∈ members, rawConstants ("\t" ++ member.text (some name)) = []) :
    (enumeration comments name base members).Tells := by
  have items := rawConstants_constants members (some name)
  have opening : rawConstants ("type " ++ name ++ " " ++ base.text) = [] := by
    apply rawConstants_of_mark_not_mem
    simp [mark_not_mem_of_isWord word, mark_not_mem_of_isTypeName typed]
  rw [List.flatMap_eq_nil_iff.mpr silent] at items
  rw [Tells, rawConstants_printed, told]
  simpa [seen, lines, View.code, opening, rawConstants_brackets] using items

/-- Nor does a function type. -/
theorem tells_function {comments : List String} {name : String} {signature : Signature}
    (word : isWord name.toList = true) (proper : signature.WellFormed) :
    (function comments name signature).Tells := by
  have inner : '"' ∉ signature.text.toList := proper.not_mem_text (by decide) (by decide)
  have line : rawConstants ("type " ++ name ++ " " ++ signature.text) = [] := by
    apply rawConstants_of_mark_not_mem
    simp [mark_not_mem_of_isWord word, inner]
  rw [Tells, rawConstants_printed, told]
  simp [seen, lines, View.code, line]

end Declaration

end Code

end HostBindings
