import HostBindings.Proofs.Comments.Entities
import HostBindings.Proofs.Comments.Runs
import HostBindings.Proofs.Layout.Units

/-!
# The code of a unit without its comments

The lines of code of a unit do not change when comments are left out that are single lines: they are
those of the declarations as a view shows them. So units that look the same through a view have the
same lines of code.

## Main definitions

* `Generator.SeesCode` — a view that leaves out nothing but comments that are no code
* `Generator.linesThrough` — the lines of code of a unit, through a view

## Main results

* `Generator.omits_of_runs` — what a pass writes
* `Generator.codeLines_through` — the code of a unit
* `DeclarationUnit.Alike.linesThrough_eq` — units that look the same
-/

namespace HostBindings

open Api (Block Schema)
open Text (codeLines trimRight)

namespace Generator

variable {generator : Generator} {view : Code.View} {block : Block}

/-- A view that leaves out the comments on entities, and the comment over the constants of events
only where that is no code, whatever the symbol of the block. -/
structure SeesCode (generator : Generator) (view : Code.View) : Prop where
  /-- The comments on entities are left out. -/
  docs : ∀ lines, view.docs lines = []
  /-- The comment over constants is seen, or is no code. -/
  heading : ∀ info symbol, generator.baseSymbol info = .ok symbol →
    ∀ lines ⊆ [s!"// Events emitted by {symbol}."],
      (view.heading lines).flatMap codeLines = lines.flatMap codeLines

/-- The comments on entities may always be left out. -/
theorem seesCode_headings (generator : Generator) : generator.SeesCode .headings :=
  ⟨fun _ => rfl, fun _ _ _ _ _ => rfl⟩

/-- All comments may be left out if every symbol is a single line. -/
theorem seesCode_code
    (single : ∀ info symbol, generator.baseSymbol info = .ok symbol →
      Api.isSingle symbol = true) : generator.SeesCode .code := by
  refine ⟨fun _ => rfl, fun info symbol spelt lines known => ?_⟩
  refine (codeLines_notes fun line member => ?_).symm
  have parts : s!"// Events emitted by {symbol}." =
      "// " ++ ("Events emitted by " ++ symbol ++ ".") := by
    rw [← String.append_assoc, ← String.append_assoc]
    rfl
  rw [List.mem_singleton.mp (known member), parts]
  exact isNote_of_single (by simpa using Api.isSingle_iff.mp (single info symbol spelt))

/-! ### Sections -/

/-- What a pass writes for a block whose texts are single lines shows its code through the view. -/
theorem omits_of_runs {reserved : List String} {start pass : Pass} {count : Nat}
    (builtin : generator.templates = .builtin) (sees : generator.SeesCode view)
    (single : block.isSingle = true)
    (started : Pass.start generator block reserved = .ok start)
    (run : Emit.Runs (generator.emission block) start count pass) :
    ∀ declaration ∈ pass.sink.declarations, view.Omits declaration := by
  intro declaration member
  have comments := comments_of_runs builtin started run declaration member
  exact ⟨sees.docs, comments.docs.isNote (List.all_eq_true.mp single),
    sees.heading block.info _ (baseSymbol_of_start started) _ comments.heading⟩

/-- The lines of code of a section are those of its declarations through the view. -/
theorem codeLines_sectionOf {entry : Section} (builtin : generator.templates = .builtin)
    (sees : generator.SeesCode view) (single : block.isSingle = true)
    (sectionOf : generator.SectionOf block entry) :
    codeLines entry.text =
      (entry.declarations.map (·.seen view)).flatMap fun declaration =>
        codeLines declaration.printed := by
  obtain ⟨start, pass, wrote⟩ := sectionOf
  obtain ⟨reserved, started⟩ := wrote.started
  obtain ⟨count, run⟩ := wrote.succeeded
  rw [wrote.text, Code.codeLines_textOf, List.flatMap_map]
  refine List.flatMap_congr fun declaration member => ?_
  rw [wrote.declarations] at member
  have omits := omits_of_runs builtin sees single started run declaration member
  exact (Code.Declaration.codeLines_seen omits).symm

/-! ### Units -/

/-- The lines of code of a unit, with its declarations as a view shows them. -/
def linesThrough (view : Code.View) (package : Json) (unit : DeclarationUnit) :
    List (List Char) :=
  if unit.sections.isEmpty then []
  else
    (clauses package unit.imports ++ unit.sections.flatMap fun entry =>
      (entry.declarations.map (·.seen view)).flatMap fun declaration =>
        codeLines declaration.printed).map trimRight

/-- A notice without line feeds adds no line of code. -/
theorem codeLines_notice (generator : Generator) {source : Json} {metadata : Option Api.Info}
    (single : Api.isSingle source.text = true) (known : ∀ info ∈ metadata, info.isSingle = true) :
    (generator.noticeLines source metadata).flatMap (fun line => codeLines ("// " ++ line)) = [] :=
  List.flatMap_eq_nil_iff.mpr fun line member =>
    (isNote_of_single (noticeLines_single generator single known line member)).codeLines_eq_nil

/-- The unit that a description of single lines goes to is rendered, and its lines of code are those
that the view shows. -/
theorem codeLines_through {schema : Schema} {done : List Block} {unit : DeclarationUnit}
    (builtin : generator.templates = .builtin) (sees : generator.SeesCode view)
    (single : schema.isSingle = true) (known : done ⊆ schema.blocks)
    (sections : generator.UnitSections schema.source done unit) :
    ∃ code, generator.unitCode schema unit = .ok code ∧
      codeLines code = linesThrough view generator.settings.packageName unit := by
  simp only [Schema.isSingle, Bool.and_eq_true, List.all_eq_true] at single
  by_cases filled : unit.sections = []
  · refine ⟨"", ?_, ?_⟩
    · rw [unitCode, filled]
      rfl
    · rw [linesThrough, filled]
      rfl
  · obtain ⟨code, coded, lines⟩ := codeLines_unitCode schema builtin sections.imports filled
    have some : unit.sections.isEmpty = false := by simpa using filled
    -- neither the sections nor the notice have lines of code in their comments
    have texts : ∀ entry ∈ unit.sections, codeLines entry.text =
        (entry.declarations.map (·.seen view)).flatMap fun declaration =>
          codeLines declaration.printed := by
      intro entry member
      obtain ⟨block, there, sectionOf⟩ := exists_item_of_mem sections.sections member
      exact codeLines_sectionOf builtin sees (single.2 block (known there)) sectionOf
    have metadata : ∀ info ∈ schema.metadataBlock?.map (·.info), info.isSingle = true := by
      intro info found
      obtain ⟨block, first, rfl⟩ := Option.map_eq_some_iff.mp found
      have proper := single.2 block (List.mem_of_find?_eq_some first)
      exact List.all_eq_true.mp proper _ List.mem_cons_self
    have notice := generator.codeLines_notice (sections.source ▸ single.1) metadata
    refine ⟨code, coded, ?_⟩
    rw [lines, notice, List.nil_append, linesThrough, some, if_neg (by decide),
      List.flatMap_congr texts]

end Generator

/-- Units that look the same have the same lines of code. -/
theorem DeclarationUnit.Alike.linesThrough_eq {view : Code.View} {a b : DeclarationUnit}
    (alike : a.Alike view b) (package : Json) :
    Generator.linesThrough view package a = Generator.linesThrough view package b := by
  have empty : a.sections.isEmpty = b.sections.isEmpty := isEmpty_eq_of_forall₂ alike.sections
  have declarations : a.sections.map (fun entry => entry.declarations.map (·.seen view)) =
      b.sections.map fun entry => entry.declarations.map (·.seen view) :=
    forall₂_map_eq alike.sections fun entries => entries.declarations
  have lines (unit : DeclarationUnit) :
      (unit.sections.flatMap fun entry =>
        (entry.declarations.map (·.seen view)).flatMap fun declaration =>
          codeLines declaration.printed) =
        (unit.sections.map fun entry => entry.declarations.map (·.seen view)).flatMap
          fun declarations => declarations.flatMap fun declaration =>
            codeLines declaration.printed :=
    (List.flatMap_map ..).symm
  rw [Generator.linesThrough, Generator.linesThrough, empty, alike.imports, lines, lines,
    declarations]

end HostBindings
