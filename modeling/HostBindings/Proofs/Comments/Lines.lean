import HostBindings.Proofs.Emission.Progress
import HostBindings.Proofs.Layout.Members
import HostBindings.Proofs.Shapes.Views
import HostBindings.Proofs.Text.CodeLines

/-!
# The lines of code of declarations

Comments that are single lines add no line of code, wherever they stand: over a declaration, or
behind a tab over a field or a constant. So the lines of code of a declaration are seen through a
view that leaves such comments out.

## Main definitions

* `Code.Declaration.docs`, `Code.Declaration.heading` — the comments of a declaration
* `Code.View.Omits` — a view that leaves out nothing but comments that are single lines

## Main results

* `Code.Declaration.codeLines_seen` — one declaration
* `Code.codeLines_textOf` — the text of declarations
-/

namespace HostBindings

open Layout (IsNote isComment)
open Text (codeLines isAside)

/-! ### Comments -/

/-- No tab stands in front of a comment line. -/
private theorem dropWhile_note {line : String} (note : IsNote line) :
    line.toList.dropWhile (· == '\t') = line.toList := by
  obtain ⟨rest, same⟩ := List.isPrefixOf_iff_prefix.mp note.1
  rw [← same]
  rfl

/-- A comment line is no line of code. -/
theorem Layout.IsNote.codeLines_eq_nil {line : String} (note : IsNote line) :
    codeLines line = [] := by
  rw [Text.codeLines_single note.2, isAside, dropWhile_note note, note.1, Bool.or_true, if_pos rfl]

/-- Neither is it behind a tab. -/
theorem Layout.IsNote.codeLines_tab {line : String} (note : IsNote line) :
    codeLines ("\t" ++ line) = [] := by
  have chars : ("\t" ++ line).toList = '\t' :: line.toList := by simp
  have single : '\n' ∉ ("\t" ++ line).toList := by simpa [chars] using note.2
  have aside : isAside ('\t' :: line.toList) = true := by
    rw [isAside, List.dropWhile_cons_of_pos rfl, dropWhile_note note, note.1, Bool.or_true]
  rw [Text.codeLines_single single, chars, aside, if_pos rfl]

theorem codeLines_notes {comments : List String} (notes : ∀ line ∈ comments, IsNote line) :
    comments.flatMap codeLines = [] :=
  List.flatMap_eq_nil_iff.mpr fun line member => (notes line member).codeLines_eq_nil

namespace Code

open Declaration (bodyLines)

/-- The lines of code of items with comments over them, behind a tab each. -/
theorem codeLines_items {α : Type} {items : List α} (comments : α → List String)
    (text : α → String) (notes : ∀ item ∈ items, ∀ line ∈ comments item, IsNote line) :
    (bodyLines (items.flatMap fun item => comments item ++ [text item])).flatMap codeLines =
      items.flatMap fun item => codeLines ("\t" ++ text item) := by
  induction items with
  | nil => rfl
  | cons item rest ih =>
    have above : (comments item).flatMap (fun line => codeLines ("\t" ++ line)) = [] :=
      List.flatMap_eq_nil_iff.mpr fun line member =>
        (notes item List.mem_cons_self line member).codeLines_tab
    have below := ih fun other member => notes other (List.mem_cons_of_mem _ member)
    simp only [bodyLines, List.flatMap_map] at below ⊢
    rw [List.flatMap_cons, List.flatMap_append, List.flatMap_append, above, below,
      List.flatMap_cons]
    simp

/-- Without their comments the items have the same lines of code. -/
theorem codeLines_seen_items {α : Type} {items : List α} (seen : α → α)
    (comments : α → List String) (text : α → String) (none : ∀ item, comments (seen item) = [])
    (same : ∀ item, text (seen item) = text item)
    (notes : ∀ item ∈ items, ∀ line ∈ comments item, IsNote line) :
    (bodyLines ((items.map seen).flatMap fun item => comments item ++ [text item])).flatMap
        codeLines =
      (bodyLines (items.flatMap fun item => comments item ++ [text item])).flatMap codeLines := by
  have quiet : ∀ item ∈ items.map seen, ∀ line ∈ comments item, IsNote line := by
    intro item member line comment
    obtain ⟨raw, -, rfl⟩ := List.mem_map.mp member
    rw [none] at comment
    cases comment
  rw [codeLines_items comments text quiet, codeLines_items comments text notes, List.flatMap_map]
  simp only [same]

namespace Declaration

/-- The comments on the entities that a declaration declares. -/
def docs : Declaration → List String
  | events _ constants => constants.flatMap (·.comments)
  | composite comments _ _ fields => comments ++ fields.flatMap (·.comments)
  | enumeration comments _ _ members => comments ++ members.flatMap (·.comments)
  | function comments _ _ => comments

/-- The comment over the constants of events. -/
def heading : Declaration → List String
  | events comments _ => comments
  | _ => []

end Declaration

/-- A view that leaves nothing out of a declaration but comments that are single lines: all comments
on entities are, and so is the comment over the constants of events unless it is looked at. -/
structure View.Omits (view : View) (declaration : Declaration) : Prop where
  /-- No comment on an entity is looked at. -/
  none : ∀ lines, view.docs lines = []
  /-- They are single lines. -/
  docs : ∀ line ∈ declaration.docs, IsNote line
  /-- The comment over constants is the same, or is no code. -/
  heading : (view.heading declaration.heading).flatMap codeLines =
    declaration.heading.flatMap codeLines

namespace Declaration

variable {view : View} {declaration : Declaration}

theorem codeLines_printed (declaration : Declaration) :
    codeLines declaration.printed = declaration.lines.flatMap codeLines :=
  Text.codeLines_intercalate Text.codeLines_append _

/-- Through such a view a declaration keeps its lines of code. -/
theorem codeLines_seen (omits : view.Omits declaration) :
    codeLines (declaration.seen view).printed = codeLines declaration.printed := by
  have docs := omits.docs
  have heading := omits.heading
  have constants (type? : Option String) (constants : List Constant)
      (notes : ∀ constant ∈ constants, ∀ line ∈ constant.comments, IsNote line) :
      (bodyLines ((constants.map (·.seen view)).flatMap (·.lines type?))).flatMap codeLines =
        (bodyLines (constants.flatMap (·.lines type?))).flatMap codeLines :=
    codeLines_seen_items (Constant.seen view) Constant.comments (Constant.text · type?)
      (fun _ => omits.none _) (fun _ => rfl) notes
  have fields (fields : List Field)
      (notes : ∀ field ∈ fields, ∀ line ∈ field.comments, IsNote line) :
      (bodyLines ((fields.map (·.seen view)).flatMap (·.lines))).flatMap codeLines =
        (bodyLines (fields.flatMap (·.lines))).flatMap codeLines :=
    codeLines_seen_items (Field.seen view) Field.comments (fun field => field.text ++ field.tag)
      (fun _ => omits.none _) (fun _ => rfl) notes
  -- comments have no lines of code, so omitting them changes none
  rw [codeLines_printed, codeLines_printed]
  cases declaration with
  | events comments values =>
    have items := constants none values fun constant member line comment =>
      docs line (List.mem_flatMap.mpr ⟨constant, member, comment⟩)
    simp only [Declaration.heading] at heading
    simp only [seen, lines, List.flatMap_append, List.flatMap_cons, heading, items]
  | composite comments name handle values =>
    have above := codeLines_notes fun line comment => docs line (List.mem_append_left _ comment)
    have items := fields values fun field member line comment =>
      docs line (List.mem_append_right _ (List.mem_flatMap.mpr ⟨field, member, comment⟩))
    simp only [bodyLines] at items
    simp only [seen, lines, bodyLines, List.map_cons, List.flatMap_append, List.flatMap_cons,
      omits.none, above, List.flatMap_nil, items]
  | enumeration comments name base members =>
    have above := codeLines_notes fun line comment => docs line (List.mem_append_left _ comment)
    have items := constants (some name) members fun constant member line comment =>
      docs line (List.mem_append_right _ (List.mem_flatMap.mpr ⟨constant, member, comment⟩))
    simp only [seen, lines, List.flatMap_append, List.flatMap_cons, omits.none, above,
      List.flatMap_nil, items]
  | function comments name signature =>
    have above : comments.flatMap codeLines = [] := codeLines_notes docs
    simp only [seen, lines, List.flatMap_append, omits.none, above, List.flatMap_nil]

end Declaration

/-- The lines of code of a text of declarations. -/
theorem codeLines_textOf (declarations : List Declaration) :
    codeLines (textOf declarations) =
      declarations.flatMap fun declaration => codeLines declaration.printed := by
  rw [textOf, Text.codeLines_intercalate Text.codeLines_gap, List.flatMap_map]
  simp only [Declaration.trimmed, Text.codeLines_trimNewlines]

end Code

end HostBindings
