import HostBindings.Proofs.Literals.Values
import HostBindings.Proofs.Runs.Complete
import HostBindings.Proofs.Settings.Declared

/-!
# Enumerations

An enumerated property is declared as a type with a constant for each of its possible values. Its
tag asks for a base type; if the literals of all values fit that type, the constants have it, and
otherwise they are texts, and there is one warning.

## Main definitions

* `Api.Property.wanted` — the base type that the tag of a property asks for
* `Generator.FitsTag` — the literals of a property fit the base type

## Main results

* `Generator.exists_base` — the base type, and what is said of it
* `Generator.Supplies.exists_runs_declarePending` — an enumeration is declared
* `Generator.enumeration_members_valid`
-/

namespace HostBindings

open Api (PossibleValue Property)

/-- The base type that the tag of a property asks for. A tag that stands for no primitive type asks
for texts. -/
def Api.Property.wanted (property : Property) : Primitive :=
  (property.tag.bind Primitive.ofTag?).getD .text

variable {p q : Pass}

/-! ### Writing -/

/-- A warning changes no text. -/
theorem Emit.exists_runs_warn (message : String) (p : Pass) :
    ∃ q, Runs (warn message) p () q ∧ q.sink = p.sink ∧ q.sections = p.sections := by
  simp only [warn, note, runs_bind, runs_get, runs_modify]
  exact ⟨_, ⟨p, p, ⟨rfl, rfl⟩, (), _, rfl, rfl⟩, rfl, rfl⟩

/-- A sink that is open takes every text. -/
theorem Emit.exists_runs_write (text : String) (isOpen : p.sink.isOpen = true) :
    ∃ q, Runs (write text) p () q ∧ q.sink.isOpen = true := by
  refine ⟨{ p with sink := { p.sink with text := p.sink.text ++ text } }, ?_, isOpen⟩
  simp only [write, runs_bind, runs_get]
  refine ⟨p, p, ⟨rfl, rfl⟩, ?_⟩
  rw [Sink.write?, if_pos isOpen]
  rfl

theorem Emit.exists_runs_writeTrimmed (text : String) (isOpen : p.sink.isOpen = true) :
    ∃ q, Runs (writeTrimmed text) p () q := by
  simp only [writeTrimmed, runs_bind, runs_get]
  by_cases later : p.sections ≠ 0
  · obtain ⟨m, gap, still⟩ := exists_runs_write "\n\n" isOpen
    obtain ⟨n, written, -⟩ := exists_runs_write text still
    refine ⟨{ n with sections := n.sections + 1 }, p, p, ⟨rfl, rfl⟩, ?_⟩
    rw [if_pos later]
    exact runs_bind.mpr ⟨_, _, gap, runs_bind.mpr ⟨_, _, written, rfl⟩⟩
  · obtain ⟨n, written, -⟩ := exists_runs_write text isOpen
    refine ⟨{ n with sections := n.sections + 1 }, p, p, ⟨rfl, rfl⟩, ?_⟩
    rw [if_neg later]
    exact runs_bind.mpr ⟨_, _, written, rfl⟩

/-- A declaration is written as long as the sink is open. -/
theorem Emit.exists_runs_declare {generator : Generator} (builtin : generator.templates = .builtin)
    (declaration : Code.Declaration) (isOpen : p.sink.isOpen = true) :
    ∃ q, Runs (declare generator declaration) p () q := by
  obtain ⟨m, written⟩ := exists_runs_writeTrimmed declaration.trimmed isOpen
  refine ⟨{ m with sink := m.sink.record declaration }, ?_⟩
  simp only [declare, render, builtin, Template.render_builtin, pure_bind,
    declaration.sectionText?_printed, runs_bind]
  exact ⟨_, _, written, rfl⟩

namespace Generator

open Emit (Runs)

variable {settings : Settings} {generator : Generator} {pending : Pending}

/-! ### Members -/

section Members

variable (supplies : generator.Supplies)

include supplies

/-- A possible value gets its constant. -/
theorem Supplies.exists_runs_memberOf (name : String) (quoted : Bool) (value : PossibleValue)
    (p : Pass) :
    ∃ constant q, Runs (generator.memberOf name quoted value) p constant q ∧
      generator.MemberFor quoted value constant ∧ p.Keeps q := by
  cases spelt : generator.symbol
    (if value.info.name = "" then value.literal else value.info.name) with
  | error fault => exact absurd (.symbol spelt) (supplies.settings fault)
  | ok symbol =>
    obtain ⟨member, q, claimed, keeps⟩ := Emit.exists_runs_claim (name ++ symbol) p
    refine ⟨⟨generator.docLines value.info, member,
      if quoted then Text.quote value.literal else value.literal⟩, q, ?_, ⟨rfl, rfl⟩, keeps⟩
    simp only [memberOf, spelt, Emit.runs_bind, Emit.runs_setting, Emit.runs_pure]
    exact ⟨symbol, p, ⟨rfl, rfl⟩, member, q, claimed, rfl, rfl⟩

/-- Possible values get their constants in order. -/
theorem Supplies.exists_runs_members (name : String) (quoted : Bool) (values : List PossibleValue)
    (p : Pass) :
    ∃ constants q, Runs (values.mapM (generator.memberOf name quoted)) p constants q ∧
      List.Forall₂ (generator.MemberFor quoted) values constants ∧ p.Keeps q := by
  induction values generalizing p with
  | nil => exact ⟨[], p, by rw [List.mapM_nil]; rfl, .nil, rfl, rfl, rfl⟩
  | cons value rest ih =>
    obtain ⟨constant, m, first, fits, keeps⟩ :=
      supplies.exists_runs_memberOf name quoted value p
    obtain ⟨constants, q, others, more, kept⟩ := ih m
    exact ⟨constant :: constants, q, Emit.runs_mapM_cons.mpr ⟨_, _, _, first, others, rfl⟩,
      .cons fits more, keeps.trans kept⟩

/-- An enumeration is made of its base type and its members. -/
theorem Supplies.exists_runs_enumerationOf {base : Json} {m : Pass}
    (based : Runs (generator.enumBaseType pending) p base m) :
    ∃ members q,
      Runs (generator.enumerationOf pending) p
        (.enumeration (generator.docLines pending.node.property.info) pending.name base members) q ∧
      List.Forall₂ (generator.MemberFor (base.agrees generator.types.stringType))
        pending.node.property.possibleValues members ∧ m.Keeps q := by
  obtain ⟨members, q, mapped, fits, keeps⟩ := supplies.exists_runs_members pending.name
    (base.agrees generator.types.stringType) pending.node.property.possibleValues m
  refine ⟨members, q, ?_, fits, keeps⟩
  simp only [enumerationOf, Emit.runs_bind, Emit.runs_pure]
  exact ⟨base, m, based, members, q, mapped, rfl, rfl⟩

end Members

/-! ### Base types -/

/-- By default a tag has a type by whose test the literals of an enumeration are tested. -/
theorem exists_basicType_wanted (property : Property) :
    ∃ type, TypeSettings.basicType {} property.tag = .ok type ∧
      (∀ literals, literalType? {} type.name literals =
        (Literal.test? property.wanted).map literals.all) ∧
      (property.wanted ≠ .text → type.name = TypeSettings.primitive {} property.wanted) := by
  have wanted : property.wanted = (property.tag.bind Primitive.ofTag?).getD .text := rfl
  rw [wanted]
  cases property.tag with
  | none => exact ⟨_, rfl, fun _ => rfl, fun other => absurd rfl other⟩
  | some tag =>
    rw [TypeSettings.basicType_default, Option.bind_some]
    cases Primitive.ofTag? tag with
    | none => exact ⟨_, rfl, fun _ => rfl, fun other => absurd rfl other⟩
    | some primitive => exact ⟨_, rfl, Literal.literalType?_primitive primitive, fun _ => rfl⟩

/-- The literals of a property fit the base type that its tag asks for. -/
def FitsTag (property : Property) : Prop :=
  ∀ value ∈ property.possibleValues, Literal.Fits property.wanted value.literal

/-- The tests read the literals of a property as the grammar has it. -/
def IsReadable (property : Property) : Prop :=
  ∀ value ∈ property.possibleValues, Literal.IsRead property.wanted value.literal

/-- What the literals of an enumeration come to by default: texts are not tested, and other literals
fit the type that the tag asks for if the test says so. -/
inductive Tested (property : Property) (type : Json) : Option Bool → Prop where
  /-- The tag asks for texts. -/
  | texts : property.wanted = .text → Tested property type none
  /-- All literals fit. -/
  | fit : property.wanted ≠ .text → type = TypeSettings.primitive {} property.wanted →
      FitsTag property → Tested property type (some true)
  /-- Some literal does not. -/
  | unfit : property.wanted ≠ .text → type = TypeSettings.primitive {} property.wanted →
      ¬ FitsTag property → Tested property type (some false)

theorem exists_tested {property : Property} (readable : IsReadable property) :
    ∃ type, TypeSettings.basicType {} property.tag = .ok type ∧
      Tested property type.name
        (literalType? {} type.name (property.possibleValues.map (·.literal))) := by
  obtain ⟨type, found, tested, named⟩ := exists_basicType_wanted property
  refine ⟨type, found, ?_⟩
  rw [tested]
  cases known : Literal.test? property.wanted with
  | none => exact .texts (Literal.test?_eq_none_iff.mp known)
  | some test =>
    have other : property.wanted ≠ .text := by
      rw [Ne, ← Literal.test?_eq_none_iff, known]
      exact nofun
    have all : (property.possibleValues.map (·.literal)).all test = true ↔ FitsTag property := by
      simp only [List.all_eq_true, List.forall_mem_map]
      exact forall₂_congr fun value member => Literal.test_iff known (readable value member)
    rw [Option.map_some]
    cases test : (property.possibleValues.map (·.literal)).all test with
    | true => exact .fit other (named other) (all.mp test)
    | false => exact .unfit other (named other) fun fits => by simp [all.mpr fits] at test

/-- A base type is found wherever the tag has a type. -/
theorem exists_runs_enumBaseType {type : BindingType}
    (found : generator.types.basicType pending.node.property.tag = .ok type) (p : Pass) :
    ∃ base q, Runs (generator.enumBaseType pending) p base q ∧
      q.sink = p.sink ∧ q.sections = p.sections := by
  simp only [enumBaseType, Emit.runs_bind, Emit.runs_setting]
  rcases tested : literalType? generator.types type.name
    (pending.node.property.possibleValues.map (·.literal)) with _ | _ | _
  · refine ⟨generator.types.stringType, p, ⟨type, p, ⟨found, rfl⟩, ?_⟩, rfl, rfl⟩
    rw [tested]
    rfl
  · obtain ⟨q, warned, sink, sections⟩ := Emit.exists_runs_warn
      (s!"values of {pending.name} do not fit {type.name.text}, using " ++
        generator.types.stringType.text) p
    refine ⟨generator.types.stringType, q, ⟨type, p, ⟨found, rfl⟩, ?_⟩, sink, sections⟩
    rw [tested]
    exact Emit.runs_bind.mpr ⟨_, _, warned, rfl⟩
  · refine ⟨type.name, p, ⟨type, p, ⟨found, rfl⟩, ?_⟩, rfl, rfl⟩
    rw [tested]
    rfl

/-- The base type of an enumeration by default, and what is said of it: it is the one that the tag
asks for if all literals fit, and otherwise that of texts, with a warning. -/
theorem exists_base (types : generator.types = {}) (constants : pending.kind = .constants)
    (readable : IsReadable pending.node.property) {base : Json}
    (fits : generator.BaseFor pending.node.property base) :
    ∃ primitive, base = TypeSettings.primitive {} primitive ∧
      (FitsTag pending.node.property → primitive = pending.node.property.wanted ∧
        generator.pendingRemarks pending = []) ∧
      (¬ FitsTag pending.node.property → primitive = .text ∧
        generator.pendingRemarks pending = ["values of " ++ pending.name ++ " do not fit " ++
          (TypeSettings.primitive {} pending.node.property.wanted).text ++ ", using string"]) := by
  obtain ⟨type, known, tested⟩ := exists_tested readable
  obtain ⟨again, found, same⟩ := fits
  rw [types] at found same
  cases known.symm.trans found
  simp only [pendingRemarks, constants, types, known]
  generalize literalType? {} type.name
    (pending.node.property.possibleValues.map (·.literal)) = fit at tested same ⊢
  cases tested with
  | texts wanted =>
    have fits : FitsTag pending.node.property := fun value _ => by rw [wanted]; trivial
    exact ⟨.text, same, fun _ => ⟨wanted.symm, rfl⟩, fun unfit => absurd fits unfit⟩
  | fit _ named fits =>
    exact ⟨_, same.trans named, fun _ => ⟨rfl, rfl⟩, fun unfit => absurd fits unfit⟩
  | unfit _ named unfit =>
    refine ⟨.text, same, fun fits => absurd fits unfit, fun _ => ⟨rfl, ?_⟩⟩
    rw [named]
    simp [toString, TypeSettings.primitive, Json.text, String.append_assoc]

/-! ### Enumerations -/

/-- The members of an enumeration are written as literals of its base type. -/
theorem writes_of_memberFor (types : generator.types = {}) {base : Primitive}
    {value : PossibleValue} {member : Code.Constant}
    (plain : base ≠ .text → Literal.Fits base value.literal)
    (fits : generator.MemberFor
      ((TypeSettings.primitive {} base).agrees generator.types.stringType) value member) :
    Literal.Writes base value.literal member.literal := by
  have quoted : (TypeSettings.primitive {} base).agrees generator.types.stringType =
      decide (base = .text) := by
    rw [types]
    cases base <;> rfl
  rw [fits.literal, quoted]
  by_cases text : base = .text
  · rw [decide_eq_true text, if_pos rfl, text]
    exact .quote _
  · rw [decide_eq_false text, if_neg Bool.false_ne_true]
    exact .of_fits text (plain text)

/-- An enumeration that waits is declared in whichever pass whose sink is open. -/
theorem Supplies.exists_runs_declarePending (supplies : generator.Supplies)
    (constants : pending.kind = .constants) {type : BindingType}
    (found : generator.types.basicType pending.node.property.tag = .ok type)
    (isOpen : p.sink.isOpen = true) :
    ∃ base members after,
      Runs (generator.declarePending pending) p () after ∧
      after.sink.declarations = p.sink.declarations ++
        [.enumeration (generator.docLines pending.node.property.info) pending.name base members] ∧
      (p.Prints → after.Prints) ∧
      generator.BaseFor pending.node.property base ∧
      List.Forall₂ (generator.MemberFor (base.agrees generator.types.stringType))
        pending.node.property.possibleValues members := by
  obtain ⟨base, m, based, sink, sections⟩ := exists_runs_enumBaseType found p
  obtain ⟨members, n, made, fits, keeps⟩ := supplies.exists_runs_enumerationOf based
  -- nothing is written before the declaration is complete
  have same : n.sink = p.sink := keeps.sink.trans sink
  obtain ⟨after, written⟩ := Emit.exists_runs_declare supplies.builtin
    (.enumeration (generator.docLines pending.node.property.info) pending.name base members)
    (same ▸ isOpen)
  refine ⟨base, members, after, ?_, ?_, fun prints => ?_, (grows_enumBaseType based).1, fits⟩
  · rw [declarePending, pendingDeclaration, constants]
    exact Emit.runs_bind.mpr ⟨_, _, made, written⟩
  · rw [eq_of_declare supplies.builtin written]
    simp only [same]
  · have before : n.Prints :=
      ⟨by rw [same, prints.text], by rw [keeps.sections, sections, same, prints.sections]⟩
    exact (runs_declare supplies.builtin before written).1

/-- Members have valid values. Under settings of the declared types with the default types, an
enumeration that waits is declared in whichever pass whose sink is open, with a constant for each
possible value in order: its value is a literal of the base type on a single line, which denotes the
literal of the possible value. If all literals fit the type that the tag asks for, that is the base
type, and nothing is said; otherwise the constants are texts, and there is one warning. This is so
for all literals that the tests read as the grammar has it. -/
theorem enumeration_members_valid (declared : settings.IsDeclared)
    (configured : Generator.ofSettings settings = .ok generator)
    (default : TypeSettings.ofSettings settings = .ok {}) (constants : pending.kind = .constants)
    (readable : IsReadable pending.node.property) (isOpen : p.sink.isOpen = true) :
    ∃ (base : Primitive) (members : List Code.Constant) (after : Pass),
      Runs (generator.declarePending pending) p () after ∧
      after.sink.declarations = p.sink.declarations ++
        [.enumeration (generator.docLines pending.node.property.info) pending.name
          (TypeSettings.primitive {} base) members] ∧
      (p.Prints → after.Prints) ∧
      List.Forall₂ (fun value member => member.comments = generator.docLines value.info ∧
        Literal.Writes base value.literal member.literal)
        pending.node.property.possibleValues members ∧
      (FitsTag pending.node.property →
        base = pending.node.property.wanted ∧ after.warnings = p.warnings) ∧
      (¬ FitsTag pending.node.property → base = .text ∧
        after.warnings = p.warnings ++ ["values of " ++ pending.name ++ " do not fit " ++
          (TypeSettings.primitive {} pending.node.property.wanted).text ++ ", using string"]) := by
  have supplies := declared.supplies configured
  have types : generator.types = {} := by
    obtain ⟨_, types, -, found, rfl⟩ := Generator.ofSettings_eq_ok.mp configured
    cases default.symm.trans found
    rfl
  obtain ⟨type, found, -⟩ := exists_basicType_wanted pending.node.property
  rw [← types] at found
  obtain ⟨_, members, after, run, written, prints, baseFor, fits⟩ :=
    supplies.exists_runs_declarePending constants found isOpen
  obtain ⟨base, rfl, fit, unfit⟩ := exists_base types constants readable baseFor
  obtain ⟨warnings, -⟩ := warnings_declarePending run
  -- a base other than texts is only chosen where all literals fit
  have plain : ∀ value ∈ pending.node.property.possibleValues,
      base ≠ .text → Literal.Fits base value.literal := by
    intro value member other
    have all : FitsTag pending.node.property := by
      by_contra some
      exact other (unfit some).1
    rw [(fit all).1]
    exact all value member
  refine ⟨base, members, after, run, written, prints, ?_, fun all => ?_, fun some => ?_⟩
  · exact ((List.forall₂_and_left _ _).mpr ⟨plain, fits⟩).imp fun value member ⟨plain, fits⟩ =>
      ⟨fits.comments, writes_of_memberFor types plain fits⟩
  · obtain ⟨same, none⟩ := fit all
    exact ⟨same, by rw [warnings, none, List.append_nil]⟩
  · obtain ⟨same, one⟩ := unfit some
    exact ⟨same, by rw [warnings, one]⟩

/-- An integer with two possible values, which waits for its declaration. -/
def valuesSample : Pending where
  kind := .constants
  name := "AM"
  node :=
    { id := .block
      property :=
        { info := { name := "m", rawType := .single "Integer" }
          possibleValues := [{ value := "1" }, { value := "-20" }] } }

theorem fitsTag_valuesSample : FitsTag valuesSample.node.property := by
  have natural {text : List Char} (digits : Literal.IsDigits text) (first : text.head? ≠ some '0') :
      Literal.IsNatural text := ⟨digits, fun zero => absurd zero first⟩
  intro value member
  simp only [valuesSample, List.mem_cons, List.not_mem_nil, or_false] at member
  rcases member with rfl | rfl
  · change Literal.Signed Literal.IsNatural ['1']
    exact .inl (natural ⟨by simp, by simp⟩ (by simp))
  · exact .inr ⟨['2', '0'], rfl, natural ⟨by simp, by simp⟩ (by simp)⟩

theorem enumeration_members_valid_sample :
    ({} : Settings).IsDeclared ∧ TypeSettings.ofSettings {} = .ok {} ∧
      IsReadable valuesSample.node.property ∧
      ∃ generator start comments first second after,
        Generator.ofSettings {} = .ok generator ∧
        Pass.start generator {} [] = .ok start ∧ start.sink.isOpen = true ∧
        Runs (generator.declarePending valuesSample) start () after ∧
        after.sink.declarations =
          [.enumeration comments "AM" (.string "int64") [first, second]] ∧
        first.literal = "1" ∧ second.literal = "-20" ∧ after.warnings = [] := by
  have declared := Settings.isDeclared_default
  have readable : IsReadable valuesSample.node.property :=
    fun value member => .of_fits (fitsTag_valuesSample value member)
  obtain ⟨generator, configured⟩ : ∃ generator, Generator.ofSettings {} = .ok generator := ⟨_, rfl⟩
  obtain ⟨start, started⟩ := (declared.supplies configured).exists_start {} []
  obtain ⟨opened, empty, unwarned⟩ :
      start.sink.isOpen = true ∧ start.sink.declarations = [] ∧ start.warnings = [] := by
    obtain ⟨_, _, _, _, rfl⟩ := start_eq_ok.mp started
    exact ⟨rfl, rfl, rfl⟩
  obtain ⟨base, members, after, run, written, -, writes, fit, -⟩ :=
    enumeration_members_valid declared configured rfl rfl readable opened
  obtain ⟨rfl, quiet⟩ := fit fitsTag_valuesSample
  -- two members for two values, each written as it is
  have plain {value literal : String} (writes : Literal.Writes .integer value literal) :
      literal = value := by
    cases writes
    rfl
  cases writes with
  | cons one others =>
    cases others with
    | cons two none =>
      cases none
      refine ⟨declared, rfl, readable, generator, start,
        generator.docLines valuesSample.node.property.info, _, _, after, configured, started,
        opened, run, ?_, plain one.2, plain two.2, quiet.trans unwarned⟩
      rw [written, empty]
      rfl

end Generator

end HostBindings
