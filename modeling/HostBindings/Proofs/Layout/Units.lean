import HostBindings.Proofs.Layout.Files
import HostBindings.Proofs.Runs.Sections
import HostBindings.Proofs.Text.CodeLines

/-!
# The code of a unit

A unit becomes a text whatever it holds, as long as it imports nothing but the host package. The
lines of code of that text are those of the package clause, of the import and of the sections; the
notice adds none if its lines are single ones.

## Main definitions

* `Generator.clauses` — the lines of code of a header

## Main results

* `Generator.exists_unitCode` — there is a text, which is empty for an empty unit alone
* `Generator.codeLines_unitCode` — its lines of code
-/

namespace HostBindings

open Text (codeLines trimRight)

/-- The lines of code of a body are those of the sections. -/
theorem DeclarationUnit.codeLines_body (unit : DeclarationUnit) :
    codeLines unit.body = unit.sections.flatMap fun entry => codeLines entry.text := by
  rw [body, Text.codeLines_intercalate Text.codeLines_gap, List.flatMap_map]
  simp only [Text.codeLines_trimNewlines]
  -- an empty section is left out, and has no code
  induction unit.sections with
  | nil => rfl
  | cons entry rest ih =>
    by_cases empty : entry.text = ""
    · rw [List.filter_cons_of_neg (by simp [empty]), ih, List.flatMap_cons, empty,
        Text.codeLines_empty, List.nil_append]
    · rw [List.filter_cons_of_pos (by simpa using empty), List.flatMap_cons, List.flatMap_cons, ih]

namespace Generator

variable {generator : Generator} {unit : DeclarationUnit}

/-- The lines of code of a header: the package clause and the imports. -/
def clauses (package : Json) (imports : List Json) : List (List Char) :=
  codeLines ("package " ++ package.text) ++
    imports.flatMap fun path => codeLines ("import " ++ Text.quote path.text)

/-- Imports of the host package are one at most. -/
theorem HostOnly.exists_option {imports : List Json} (only : generator.HostOnly imports) :
    ∃ path? : Option Json, imports = path?.toList :=
  only.elim (fun nothing => ⟨none, nothing⟩) fun host => ⟨some _, host⟩

/-- A header with such imports is rendered. Its lines of code are those of its clauses, and those
that the notice adds. -/
theorem exists_fileHeader (builtin : generator.templates = .builtin) {imports : List Json}
    (only : generator.HostOnly imports) (package source : Json) (metadata : Option Api.Info) :
    ∃ header, generator.fileHeader package imports source metadata = .ok header ∧
      codeLines header =
        (generator.noticeLines source metadata).flatMap (fun line => codeLines ("// " ++ line)) ++
          clauses package imports := by
  obtain ⟨path?, rfl⟩ := only.exists_option
  refine ⟨_, fileHeader_eq builtin package path? source metadata, ?_⟩
  rw [Text.codeLines_ended, Text.codeLines_intercalate Text.codeLines_append]
  cases path? <;> simp [headerParts, clauses, List.intercalate_cons_cons, List.flatMap_map]

theorem codeLines_withoutFinalLineFeeds (text : String) :
    codeLines (withoutFinalLineFeeds text) = codeLines text := by
  rw [withoutFinalLineFeeds, Text.codeLines_trimRightNewlines, String.ofList_toList]

/-- The lines of code of a unit that is not empty: those of its header and of its sections. -/
theorem codeLines_unitCode (schema : Api.Schema) (builtin : generator.templates = .builtin)
    (only : generator.HostOnly unit.imports) (filled : unit.sections ≠ []) :
    ∃ code, generator.unitCode schema unit = .ok code ∧
      codeLines code =
        ((generator.noticeLines unit.source (schema.metadataBlock?.map (·.info))).flatMap
          (fun line => codeLines ("// " ++ line)) ++
          clauses generator.settings.packageName unit.imports ++
          unit.sections.flatMap fun entry => codeLines entry.text).map trimRight := by
  obtain ⟨header, rendered, lines⟩ := exists_fileHeader builtin only
    generator.settings.packageName unit.source (schema.metadataBlock?.map (·.info))
  have some : unit.sections.isEmpty = false := by simpa using filled
  refine ⟨Text.tidy (withoutFinalLineFeeds header ++ "\n\n" ++ unit.body ++ "\n"), ?_, ?_⟩
  · rw [unitCode, some, renderUnit, rendered]
    rfl
  · rw [Text.codeLines_tidy, Text.codeLines_ended, Text.codeLines_gap,
      codeLines_withoutFinalLineFeeds, lines, unit.codeLines_body]

/-- Every unit that imports nothing but the host package has a text, and that is empty only for an
empty unit. -/
theorem exists_unitCode (schema : Api.Schema) (builtin : generator.templates = .builtin)
    (only : generator.HostOnly unit.imports) :
    ∃ code, generator.unitCode schema unit = .ok code ∧ (code = "" ↔ unit.sections = []) := by
  by_cases filled : unit.sections = []
  · refine ⟨"", ?_, by simp [filled]⟩
    rw [unitCode, filled]
    rfl
  · obtain ⟨code, coded, lines⟩ := codeLines_unitCode schema builtin only filled
    refine ⟨code, coded, iff_of_false ?_ filled⟩
    -- there is the package clause at least
    rintro rfl
    have package : codeLines ("package " ++ generator.settings.packageName.text) ≠ [] :=
      Text.codeLines_ne_nil 'p' (by simp) (by decide) (by decide)
    simp [clauses, package] at lines

end Generator

end HostBindings
