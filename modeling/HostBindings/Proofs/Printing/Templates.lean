import HostBindings.Pass
import HostBindings.Proofs.Results
import HostBindings.Proofs.Text.Trimming

/-!
# What the templates print

The five templates of the generated language never fail on the contexts they are given, and print
line by line. This file says which lines.

## Main definitions

* `Declaration.lines`, `Declaration.printed` — the lines of a declaration, and its text
* `Declaration.trimmed` — its text without the line feeds around it

## Main results

* `Template.renderPiece_lineLoop` — a loop over lines
* `Template.render_builtin` — the text of a declaration is its lines
* `Code.Declaration.sectionText?_printed` — that text is never empty
-/

namespace HostBindings

/-! ### Texts of lines -/

namespace Text

/-- Lines with a line feed behind each. -/
def ended (lines : List String) : String := String.join (lines.map (· ++ "\n"))

@[simp] theorem ended_nil : ended [] = "" := by simp [ended]

@[simp] theorem ended_cons (line : String) (lines : List String) :
    ended (line :: lines) = line ++ "\n" ++ ended lines := by simp [ended]

@[simp] theorem ended_append (lines more : List String) :
    ended (lines ++ more) = ended lines ++ ended more := by
  induction lines with
  | nil => simp
  | cons line rest ih => simp [ih, String.append_assoc]

/-- Lines with a last one that has no line feed behind it. -/
theorem ended_append_last (lines : List String) (last : String) :
    ended lines ++ last = "\n".intercalate (lines ++ [last]) := by
  induction lines with
  | nil => simp
  | cons line rest ih =>
    rw [List.cons_append, String.intercalate_cons_of_ne_nil (by simp), ← ih, ended_cons,
      String.append_assoc]

/-- Lines with a line feed behind each, the last one included. -/
theorem ended_eq {lines : List String} (some : lines ≠ []) :
    ended lines = "\n".intercalate lines ++ "\n" := by
  obtain ⟨before, last, rfl⟩ := (List.eq_nil_or_concat lines).resolve_left some
  rw [List.concat_eq_append, ← ended_append_last, ended_append, ended_cons, ended_nil,
    String.append_empty, String.append_assoc]

end Text

namespace Template

variable {context : Json.Members}

/-! ### Pieces -/

theorem eval_var {name : String} {value : Json} (found : context.get? name = some value) :
    (Expr.var name).eval context = .ok value.text := by
  simp [Expr.eval, lookup, found]

private theorem render_loopBody (lead : String) (value : Json) :
    render (context.put "line" value) [.text lead, .value (.var "line"), .text "\n"] =
      .ok (lead ++ value.text ++ "\n") := by
  have found : (context.put "line" value).get? "line" = some value := by
    simp [Json.Members.get?_put]
  simp only [render, renderPiece, eval_var found]
  simp [bind, Except.bind, pure, Except.pure, String.append_assoc]

/-- A loop over lines prints each behind its lead. -/
theorem renderPiece_lineLoop {collection : String} (lead : String) {items : List Json}
    (found : context.get? collection = some (.array items)) :
    renderPiece context (lineLoop collection lead) =
      .ok (Text.ended (items.map fun item => lead ++ item.text)) := by
  have each : items.mapM (fun value => render (context.put "line" value)
      [.text lead, .value (.var "line"), .text "\n"]) =
      .ok (items.map fun item => lead ++ item.text ++ "\n") := by
    simp only [render_loopBody]
    exact List.mapM_pure
  simp only [lineLoop, renderPiece, lookup, found, Json.items, mapError_ok, bind, Except.bind,
    each]
  simp [pure, Except.pure, Text.ended, Function.comp_def]

theorem render_cons {piece : Piece} {rest : List Piece} {head tail : String}
    (first : renderPiece context piece = .ok head) (others : render context rest = .ok tail) :
    render context (piece :: rest) = .ok (head ++ tail) := by
  simp [render, first, others, bind, Except.bind, pure, Except.pure]

theorem render_nil : render context [] = .ok "" := rfl

theorem renderPiece_text (content : String) :
    renderPiece context (.text content) = .ok content := rfl

theorem renderPiece_var {name : String} {value : Json} (found : context.get? name = some value) :
    renderPiece context (.value (.var name)) = .ok value.text := eval_var found

end Template

/-! ### Declarations -/

namespace Code.Declaration

/-- Lines within brackets, behind a tab each. -/
def bodyLines (lines : List String) : List String := lines.map ("\t" ++ ·)

/-- The lines of a declaration. -/
def lines : Declaration → List String
  | events comments constants =>
    comments ++ "const (" :: bodyLines (constants.flatMap (·.lines none)) ++ [")"]
  | composite comments name handle fields =>
    comments ++ ("type " ++ name ++ " struct \x7b") ::
      bodyLines (handle.line.text :: fields.flatMap (·.lines)) ++ ["\x7d"]
  | enumeration comments name base members =>
    comments ++ ("type " ++ name ++ " " ++ base.text) :: "" :: "const (" ::
      bodyLines (members.flatMap (·.lines (some name))) ++ [")"]
  | function comments name signature =>
    comments ++ ["type " ++ name ++ " " ++ signature.text]

/-- The text of a declaration. -/
def printed (declaration : Declaration) : String := "\n".intercalate declaration.lines

/-- The text of a declaration without the line feeds around it. -/
def trimmed (declaration : Declaration) : String :=
  String.ofList (Text.trimNewlines declaration.printed.toList)

end Code.Declaration

namespace Template

open Code (Declaration linesValue)

private theorem renderPiece_lines {context : Json.Members} {collection : String} (lead : String)
    {lines : List String} (found : context.get? collection = some (linesValue lines)) :
    renderPiece context (lineLoop collection lead) = .ok (Text.ended (lines.map (lead ++ ·))) := by
  rw [renderPiece_lineLoop lead found, List.map_map]
  rfl

private theorem render_events (comments : List String) (constants : List Code.Constant) :
    render (Declaration.events comments constants).context constBlock =
      .ok (Declaration.events comments constants).printed := by
  refine (render_cons (renderPiece_lines "" rfl) <| render_cons (renderPiece_text _) <|
    render_cons (renderPiece_lines "\t" rfl) <|
    render_cons (renderPiece_text _) render_nil).trans ?_
  rw [Declaration.printed, Declaration.lines, ← Text.ended_append_last]
  simp [Declaration.bodyLines, String.append_assoc]

private theorem render_composite (comments : List String) (name : String) (handle : Code.Handle)
    (fields : List Code.Field) :
    render (Declaration.composite comments name handle fields).context structType =
      .ok (Declaration.composite comments name handle fields).printed := by
  refine (render_cons (renderPiece_lines "" rfl) <| render_cons (renderPiece_text _) <|
    render_cons (renderPiece_var rfl) <| render_cons (renderPiece_text _) <|
    render_cons (renderPiece_lineLoop "\t" rfl) <|
    render_cons (renderPiece_text _) render_nil).trans ?_
  rw [Declaration.printed, Declaration.lines, ← Text.ended_append_last]
  simp [Declaration.bodyLines, String.append_assoc, Function.comp_def]

private theorem render_enumeration (comments : List String) (name : String) (base : Json)
    (members : List Code.Constant) :
    render (Declaration.enumeration comments name base members).context enumeration =
      .ok (Declaration.enumeration comments name base members).printed := by
  refine (render_cons (renderPiece_lines "" rfl) <| render_cons (renderPiece_text _) <|
    render_cons (renderPiece_var rfl) <| render_cons (renderPiece_text _) <|
    render_cons (renderPiece_var rfl) <| render_cons (renderPiece_text _) <|
    render_cons (renderPiece_lines "\t" rfl) <|
    render_cons (renderPiece_text _) render_nil).trans ?_
  rw [Declaration.printed, Declaration.lines, ← Text.ended_append_last]
  -- the literal of the template has the line feeds of three lines
  have gap (tail : String) : "\n\nconst (\n" ++ tail = "\n" ++ ("\n" ++ ("const (\n" ++ tail)) := by
    rw [← String.append_assoc, ← String.append_assoc]
    exact congrArg (· ++ tail) rfl
  simp [Declaration.bodyLines, String.append_assoc]
  exact gap _

private theorem render_function (comments : List String) (name : String)
    (signature : Code.Signature) :
    render (Declaration.function comments name signature).context functionType =
      .ok (Declaration.function comments name signature).printed := by
  refine (render_cons (renderPiece_lines "" rfl) <| render_cons (renderPiece_text _) <|
    render_cons (renderPiece_var rfl) <| render_cons (renderPiece_text _) <|
    render_cons (renderPiece_var rfl) render_nil).trans ?_
  rw [Declaration.printed, Declaration.lines, ← Text.ended_append_last]
  simp [String.append_assoc]

/-- The template of a declaration prints its lines. -/
theorem render_builtin (declaration : Declaration) :
    Library.builtin.render declaration.template declaration.context = .ok declaration.printed := by
  cases declaration with
  | events comments constants =>
    have found : Library.builtin.find? "const_block.go.j2" = some constBlock := rfl
    simp [Library.render, Declaration.template, found, render_events]
  | composite comments name handle fields =>
    have found : Library.builtin.find? "struct.go.j2" = some structType := rfl
    simp [Library.render, Declaration.template, found, render_composite]
  | enumeration comments name base members =>
    have found : Library.builtin.find? "enum.go.j2" = some enumeration := rfl
    simp [Library.render, Declaration.template, found, render_enumeration]
  | function comments name signature =>
    have found : Library.builtin.find? "func_type.go.j2" = some functionType := rfl
    simp [Library.render, Declaration.template, found, render_function]

end Template

/-! ### Sections -/

namespace Code.Declaration

/-- Every line of a declaration is part of its text. -/
theorem mem_printed {declaration : Declaration} (line : String) {c : Char}
    (member : line ∈ declaration.lines) (part : c ∈ line.toList) :
    c ∈ declaration.printed.toList := by
  obtain ⟨before, after, split⟩ := List.append_of_mem member
  rw [printed, split, String.toList_intercalate, List.map_append, List.map_cons]
  generalize before.map String.toList = early
  induction early with
  | nil => cases after <;> simp [List.intercalate, part]
  | cons head rest ih =>
    have more : rest ++ line.toList :: after.map String.toList ≠ [] := by simp
    rw [List.cons_append, List.intercalate_cons_of_ne_nil more]
    exact List.mem_append_right _ ih

/-- No declaration is blank. -/
theorem exists_mem_printed (declaration : Declaration) :
    ∃ c ∈ declaration.printed.toList, c ≠ '\n' := by
  cases declaration with
  | events =>
    refine ⟨'c', mem_printed "const (" ?_ (by decide), by decide⟩
    simp [lines]
  | composite _ name =>
    refine ⟨'t', mem_printed ("type " ++ name ++ " struct \x7b") ?_ ?_, by decide⟩ <;>
      simp [lines]
  | enumeration _ name base =>
    refine ⟨'t', mem_printed ("type " ++ name ++ " " ++ base.text) ?_ ?_, by decide⟩ <;>
      simp [lines]
  | function _ name signature =>
    refine ⟨'t', mem_printed ("type " ++ name ++ " " ++ signature.text) ?_ ?_,
      by decide⟩ <;> simp [lines]

/-- Every declaration has a text. -/
theorem sectionText?_printed (declaration : Declaration) :
    sectionText? declaration.printed = some declaration.trimmed := by
  obtain ⟨c, member, other⟩ := declaration.exists_mem_printed
  have some : declaration.trimmed ≠ "" := by
    intro none
    exact Text.trimNewlines_ne_nil member other (by simpa [trimmed] using none)
  simp only [sectionText?]
  exact if_neg some

end Code.Declaration

end HostBindings
