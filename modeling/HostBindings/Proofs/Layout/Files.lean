import HostBindings.Generation
import HostBindings.Proofs.Layout.Sections

/-!
# Reading files

The header of a file has a paragraph for the notice, one for the package clause and perhaps one for
the import clause. Behind it stand the declarations of the unit, so the whole text is read back with
the names of the unit.

## Main definitions

* `Generator.headerParts` — the lines of a header, paragraph by paragraph

## Main results

* `Generator.fileHeader_eq` — the text of a header
* `Generator.declaredNames?_unitCode` — the names of a file are read
-/

namespace HostBindings

open Layout
open Text (IsLine Remains isBlank trimRight trimmedLines)

/-! ### The template of a header -/

namespace Template

variable {context : Json.Members}

theorem renderPiece_choose {cond : Cond} {yes no : List Piece} {holds : Bool}
    (known : cond.eval context = .ok holds) :
    renderPiece context (.choose cond yes no) = render context (if holds then yes else no) := by
  cases holds <;> simp [renderPiece, known, bind, Except.bind]

theorem eval_truthy {name : String} {value : Json} (found : context.get? name = some value) :
    (Cond.truthy name).eval context = .ok value.truthy := by
  simp [Cond.eval, lookup, found, bind, Except.bind, pure, Except.pure]

theorem eval_lengthIs {name : String} {items : List Json} (length : Nat)
    (found : context.get? name = some (.array items)) :
    (Cond.lengthIs name length).eval context = .ok (items.length == length) := by
  simp [Cond.eval, lookup, found, bind, Except.bind, pure, Except.pure]

theorem renderPiece_quotedFirst {name : String} {first : Json} {rest : List Json}
    (found : context.get? name = some (.array (first :: rest))) :
    renderPiece context (.value (.quotedFirst name)) = .ok (Text.quote first.text) := by
  simp [renderPiece, Expr.eval, lookup, found, bind, Except.bind, pure, Except.pure]

end Template

namespace Generator

/-- The lines of a header, paragraph by paragraph. -/
def headerParts (notice : List String) (package : String) (path? : Option String) :
    List (List String) :=
  [notice.map ("// " ++ ·), ["package " ++ package]] ++
    path?.toList.map fun path => ["import " ++ Text.quote path]

/-- The context of a header with at most one import. -/
def headerContext (notice : List String) (package : Json) (path? : Option Json) : Json.Members :=
  [("notice", .array (notice.map .string)), ("package_name", package),
    ("imports", .array path?.toList)]

open Template in
/-- The clause of a single import, behind a line feed. -/
private theorem render_importClause (notice : List String) (package path : Json)
    (several : List Piece) :
    render (headerContext notice package (some path))
      [.text "\n",
        .choose (.lengthIs "imports" 1)
          [.text "import ", .value (.quotedFirst "imports"), .text "\n"] several] =
      .ok ("\n" ++ ("import " ++ Text.quote path.text ++ "\n")) := by
  have one : (headerContext notice package (some path)).get? "imports" = some (.array [path]) := rfl
  have clause := render_cons (renderPiece_text "import ") <|
    render_cons (renderPiece_quotedFirst one) <| render_cons (renderPiece_text "\n") render_nil
  have choice : renderPiece (headerContext notice package (some path))
      (.choose (.lengthIs "imports" 1)
        [.text "import ", .value (.quotedFirst "imports"), .text "\n"] several) =
      .ok ("import " ++ Text.quote path.text ++ "\n") := by
    rw [renderPiece_choose (eval_lengthIs 1 one), List.length_singleton, beq_self_eq_true,
      if_pos rfl, clause]
    simp [String.append_assoc]
  rw [render_cons (renderPiece_text "\n") (render_cons choice render_nil), String.append_empty]

open Template in
private theorem render_imports (notice : List String) (package : Json) (path? : Option Json) :
    renderPiece (headerContext notice package path?)
      (.choose (.truthy "imports")
        [.text "\n",
          .choose (.lengthIs "imports" 1)
            [.text "import ", .value (.quotedFirst "imports"), .text "\n"]
            [.text "import (\n",
              .each "path" "imports" [.text "\t", .value (.quotedVar "path"), .text "\n"],
              .text ")\n"]]
        []) =
      .ok (Text.ended
        (path?.toList.flatMap fun path => ["", "import " ++ Text.quote path.text])) := by
  have found : (headerContext notice package path?).get? "imports" =
      some (.array path?.toList) := rfl
  rw [renderPiece_choose (eval_truthy found)]
  cases path? with
  | none => rfl
  | some path =>
    refine (render_importClause notice package path _).trans ?_
    simp [String.append_assoc]

/-- The text of a header. -/
theorem render_header (notice : List String) (package : Json) (path? : Option Json) :
    Template.Library.builtin.render "file_header.go.j2" (headerContext notice package path?) =
      .ok ("\n".intercalate
        ([""].intercalate (headerParts notice package.text (path?.map Json.text))) ++ "\n") := by
  have found : Template.Library.builtin.find? "file_header.go.j2" = some Template.fileHeader := rfl
  have lines : [""].intercalate (headerParts notice package.text (path?.map Json.text)) =
      notice.map ("// " ++ ·) ++ ["", "package " ++ package.text] ++
        path?.toList.flatMap fun path => ["", "import " ++ Text.quote path.text] := by
    cases path? <;> simp [headerParts, List.intercalate_cons_cons]
  -- the template piece by piece: notice, package clause, and the import if there is one
  have text := Template.render_cons
    (Template.renderPiece_lineLoop "// " (show (headerContext notice package path?).get? "notice" =
      some (.array (notice.map .string)) from rfl)) <|
    Template.render_cons (Template.renderPiece_text "\npackage ") <|
    Template.render_cons (Template.renderPiece_var (show
      (headerContext notice package path?).get? "package_name" = some package from rfl)) <|
    Template.render_cons (Template.renderPiece_text "\n") <|
    Template.render_cons (render_imports notice package path?) Template.render_nil
  have some : [""].intercalate (headerParts notice package.text (path?.map Json.text)) ≠ [] := by
    rw [lines]
    simp
  have lead (tail : String) : "\npackage " ++ tail = "\n" ++ ("package " ++ tail) := by
    rw [← String.append_assoc]
    exact congrArg (· ++ tail) rfl
  rw [Template.Library.render, found, ← Text.ended_eq some, lines]
  simp only [Template.fileHeader, text]
  simp [Function.comp_def, String.append_assoc]
  rw [lead]

/-- A single import is in order, whatever it is. -/
theorem sort_option (path? : Option Json) : Json.sort path?.toList = .ok path?.toList := by
  cases path? with
  | none => simpa [sortTexts] using Json.sort_strings []
  | some path =>
    cases path with
    | string text => simpa [sortTexts] using Json.sort_strings [text]
    | null | bool _ | int _ | float _ | array _ | object _ => rfl

/-- The header of a file with at most one import. -/
theorem fileHeader_eq {generator : Generator} (builtin : generator.templates = .builtin)
    (package : Json) (path? : Option Json) (source : Json) (metadata : Option Api.Info) :
    generator.fileHeader package path?.toList source metadata =
      .ok ("\n".intercalate ([""].intercalate
        (headerParts (generator.noticeLines source metadata) package.text
          (path?.map Json.text))) ++ "\n") := by
  have rendered := render_header (generator.noticeLines source metadata) package path?
  rw [headerContext] at rendered
  simp only [fileHeader, sort_option, builtin, mapError_ok, bind, Except.bind, rendered]

/-! ### Whole files -/

/-- A comment line that is put together from a single line. -/
theorem isNote_of_single {line : String} (single : '\n' ∉ line.toList) :
    IsNote ("// " ++ line) := by
  have lead : ("// " ++ line).toList = '/' :: '/' :: ' ' :: line.toList := by simp
  constructor
  · rw [lead]
    rfl
  · rw [lead]
    simpa using single

theorem isLine_packageClause {package : String} (word : isWord package.toList = true) :
    IsLine ("package " ++ package).toList := by
  rw [String.toList_append]
  exact .append (by decide) (isLine_of_isTypeName (isTypeName_of_isWord word))

theorem isLine_importClause (path : String) : IsLine ("import " ++ Text.quote path).toList := by
  rw [String.toList_append]
  refine .append (by decide) (isLine_of_isLiteral ?_ (lineFeed_not_mem_quote path))
  simp [isLiteral, isQuoted_quote]

variable {notice : List String} {package : String} {path? : Option String}

theorem headerParts_remain (single : ∀ line ∈ notice, '\n' ∉ line.toList) (some : notice ≠ [])
    (word : isWord package.toList = true) :
    ∀ part ∈ headerParts notice package path?, part ≠ [] ∧ ∀ line ∈ part, Remains line := by
  intro part member
  simp only [headerParts, List.cons_append, List.nil_append, List.mem_cons, List.mem_map,
    Option.mem_toList] at member
  rcases member with rfl | rfl | ⟨path, -, rfl⟩
  · refine ⟨by simpa using some, fun line lineMember => ?_⟩
    obtain ⟨text, textMember, rfl⟩ := List.mem_map.mp lineMember
    exact (isNote_of_single (single text textMember)).remains
  · simpa using (isLine_packageClause word).remains
  · simpa using (isLine_importClause path).remains

/-- What can be read as a declaration is no import clause. -/
theorem isImportClause_eq_false {paragraph : Paragraph} {rest : List Paragraph}
    {names : List String} (read : declarations? (paragraph :: rest) = some names) :
    isImportClause paragraph = false := by
  by_contra clause
  rw [Bool.not_eq_false] at clause
  obtain ⟨first, body, rfl, tail, lead⟩ : ∃ first body, paragraph = first :: body ∧
      ∃ tail, first = "import ".toList ++ tail := by
    match paragraph with
    | [] => cases clause
    | [line] =>
      rw [isImportClause, Option.any_eq_true] at clause
      obtain ⟨tail, found, -⟩ := clause
      obtain ⟨lead, same, equal⟩ := List.dropPrefix?_eq_some_iff.mp found
      exact ⟨line, [], rfl, tail, by rw [same, eq_of_beq equal]⟩
    | first :: next :: body =>
      rw [isImportClause, Bool.and_eq_true, decide_eq_true_eq] at clause
      · have split : "import (".toList = "import ".toList ++ ['('] := by decide
        exact ⟨first, next :: body, rfl, ['('], clause.1.trans split⟩
      · simp
  -- neither a comment nor a bracket nor a type begins like an import
  have item : item? (first :: body) = none := by
    have code : isComment first = false := by rw [lead]; rfl
    have other : first ≠ "const (".toList := by rw [lead]; simp
    have type : first.dropPrefix? "type ".toList = none := by rw [lead]; rfl
    rw [item?, List.dropWhile_cons_of_neg (by simp [code])]
    simp only [if_neg other, typeItem?, type]
    rfl
  rw [declarations?, item] at read
  · cases read
  · simp

/-- Declarations behind a header are read. -/
theorem file?_header (single : ∀ line ∈ notice, '\n' ∉ line.toList) (some : notice ≠ [])
    (word : isWord package.toList = true) {rest : List Paragraph} {names : List String}
    (read : declarations? rest = .some names) :
    file? ((headerParts notice package path?).map trimmedLines ++ rest) = .some names := by
  have comments : (trimmedLines (notice.map ("// " ++ ·))).all isComment = true := by
    rw [List.all_eq_true]
    intro line member
    obtain ⟨raw, rawMember, rfl⟩ := List.mem_map.mp member
    obtain ⟨text, textMember, rfl⟩ := List.mem_map.mp rawMember
    exact (isNote_of_single (single text textMember)).isComment
  have clause : isPackageClause (trimmedLines ["package " ++ package]) = true := by
    rw [Text.trimmedLines_cons, (isLine_packageClause word).trimRight_eq, Text.trimmedLines_nil,
      isPackageClause, String.toList_append, dropPrefix?_append, Option.any_some, word]
  have ready : trimmedLines (notice.map ("// " ++ ·)) ≠ [] := by simpa [trimmedLines] using some
  -- without an import the first declaration must not be taken for one
  cases path? with
  | none =>
    cases rest with
    | nil => cases read
    | cons paragraph rest =>
      simp only [headerParts, Option.toList_none, List.map_nil, List.append_nil, List.map_cons,
        List.cons_append, List.nil_append, file?]
      rw [if_pos ⟨ready, comments, clause⟩, isImportClause_eq_false read]
      exact read
  | some path =>
    have imports : isImportClause (trimmedLines ["import " ++ Text.quote path]) = true := by
      rw [Text.trimmedLines_cons, (isLine_importClause path).trimRight_eq, Text.trimmedLines_nil,
        isImportClause, String.toList_append, dropPrefix?_append, Option.any_some, isQuoted_quote]
    simp only [headerParts, Option.toList_some, List.map_cons, List.map_nil, List.cons_append,
      List.nil_append, file?]
    rw [if_pos ⟨ready, comments, clause⟩, imports]
    exact read

/-- The header of a file as a text, but for the line feed at its end. -/
def writtenHeader (notice : List String) (package : String) (path? : Option String) : String :=
  "\n".intercalate ([""].intercalate (headerParts notice package path?))

section Header

variable (single : ∀ line ∈ notice, '\n' ∉ line.toList) (some : notice ≠ [])
  (word : isWord package.toList = true)

include single some word

theorem paragraphs_writtenHeader :
    Text.paragraphs (writtenHeader notice package path?) =
      (headerParts notice package path?).map (List.map String.toList) :=
  Text.paragraphs_of_parts (by simp [headerParts]) (headerParts_remain single some word)

/-- A header ends with one line feed only. -/
theorem withoutFinalLineFeeds_writtenHeader :
    withoutFinalLineFeeds (writtenHeader notice package path? ++ "\n") =
      writtenHeader notice package path? := by
  have full : [] ∉ Text.paragraphs (writtenHeader notice package path?) := by
    rw [paragraphs_writtenHeader single some word]
    intro empty
    obtain ⟨part, member, none⟩ := List.mem_map.mp empty
    exact (headerParts_remain single some word part member).1 (by simpa using none)
  have feed : (writtenHeader notice package path? ++ "\n").toList =
      (writtenHeader notice package path?).toList ++ ['\n'] := by simp
  have last := Text.trimRightNewlines_of_paragraphs full
  rw [Text.trimRightNewlines, Text.dropTail_eq_rdropWhile] at last
  rw [withoutFinalLineFeeds, feed, Text.trimRightNewlines, Text.dropTail_eq_rdropWhile,
    List.rdropWhile_concat_pos _ _ _ (by decide), last, String.ofList_toList]

/-- The lines of a header are as they remain in the file. -/
theorem headerLines_remain :
    ∀ part ∈ (headerParts notice package path?).map (List.map String.toList),
      part ≠ [] ∧ ∀ line ∈ part, trimRight line ≠ [] := by
  intro part member
  obtain ⟨raw, rawMember, rfl⟩ := List.mem_map.mp member
  obtain ⟨filled, lines⟩ := headerParts_remain single some word raw rawMember
  refine ⟨by simpa using filled, fun line lineMember => ?_⟩
  obtain ⟨written, there, rfl⟩ := List.mem_map.mp lineMember
  exact (lines written there).some

end Header

variable {generator : Generator} {unit : DeclarationUnit} {metadata : Option Api.Info}

/-- The text of a unit before its layout is put in order. -/
theorem renderUnit_eq (builtin : generator.templates = .builtin)
    (named : generator.settings.packageName = .string package) (word : isWord package.toList = true)
    (imports : unit.imports = path?.toList.map .string)
    (same : generator.noticeLines unit.source metadata = notice)
    (single : ∀ line ∈ notice, '\n' ∉ line.toList) (some : notice ≠ []) :
    generator.renderUnit unit metadata =
      .ok (writtenHeader notice package path? ++ "\n\n" ++ unit.body ++ "\n") := by
  have paths : path?.toList.map Json.string = (path?.map Json.string).toList := by
    cases path? <;> rfl
  have texts : (path?.map Json.string).map Json.text = path? := by
    cases path? <;> simp
  rw [renderUnit, named, imports, paths, fileHeader_eq builtin, same, Json.text_string, texts]
  -- the blank line behind the header is put there again
  exact congrArg (fun lead => Except.ok (lead ++ "\n\n" ++ unit.body ++ "\n"))
    (withoutFinalLineFeeds_writtenHeader single some word)

/-- A unit with declarations becomes a file from which its names are read. -/
theorem declaredNames?_unitCode {schema : Api.Schema} (builtin : generator.templates = .builtin)
    (named : generator.settings.packageName = .string package) (word : isWord package.toList = true)
    (imports : unit.imports = path?.toList.map .string)
    (single : ∀ line ∈ generator.noticeLines unit.source (schema.metadataBlock?.map (·.info)),
      '\n' ∉ line.toList)
    (proper : unit.WellFormed) (filled : unit.sections ≠ []) :
    ∃ code, generator.unitCode schema unit = .ok code ∧ declaredNames? code = some unit.names := by
  -- only the lines of the notice matter, not what they say
  generalize same : generator.noticeLines unit.source (schema.metadataBlock?.map (·.info)) = notice
    at single
  have some : notice ≠ [] := by
    rw [← same]
    simp [noticeLines]
  have text := renderUnit_eq builtin named word imports same single some
  have all : Text.paragraphs (writtenHeader notice package path? ++ "\n\n" ++ unit.body ++ "\n") =
      ((headerParts notice package path?).map (List.map String.toList) ++
        Code.partsOf unit.declarations) ++ [[]] := by
    rw [Text.paragraphs_ended, Text.paragraphs_gap, paragraphs_writtenHeader single some word,
      proper.paragraphs_body filled]
  refine ⟨Text.tidy (writtenHeader notice package path? ++ "\n\n" ++ unit.body ++ "\n"), ?_, ?_⟩
  · have there : unit.sections.isEmpty = false := by simpa using filled
    rw [unitCode, there, text]
    rfl
  · have lines : List.map trimRight ∘ List.map String.toList = trimmedLines := by
      funext part
      simp [trimmedLines]
    rw [declaredNames?, Text.paragraphs_tidy all, List.map_append, List.append_assoc,
      List.map_map, lines, DeclarationUnit.names_eq]
    · exact file?_header single some word (Code.read_partsOf proper.proper)
    · intro part member
      rcases List.mem_append.mp member with inHeader | inBody
      · exact headerLines_remain single some word part inHeader
      · exact Code.partsOf_remains proper.proper part inBody

end Generator

end HostBindings
