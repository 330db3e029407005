import HostBindings.Proofs.Events.Blocks
import HostBindings.Proofs.Runs.Outcomes

/-!
# Settings of the declared types

Every setting is declared with a type: texts, switches, pairs of texts, a text or nothing. Where the
settings that passes and runs rely on have these types, every name and every type can be had, and
every block is allowed or skipped.

## Main definitions

* `TypeSettings.IsTyped` — type settings that are texts
* `Settings.IsDeclared` — settings of the declared types

## Main results

* `TypeSettings.IsTyped.exists_basicType` — every tag has a type
* `Settings.IsDeclared.supplies`, `Settings.IsDeclared.decides`
-/

namespace HostBindings

/-- Type settings as they are declared, as far as types can be missing: texts, and a text for each
tag that has a type of its own. -/
structure TypeSettings.IsTyped (types : TypeSettings) : Prop where
  /-- The handle of what is opaque. -/
  dynamic : ∃ name, types.dynamicType = .string name
  /-- The handle of generated structures. -/
  handle : ∃ name, types.hostHandleType = .string name
  /-- The import path of the host package. -/
  host : ∃ path, types.hostImport = .string path
  /-- The types of single tags. -/
  overrides : ∃ members : Json.Members, types.overrides = .object members ∧
    ∀ tag value, members.get? tag = some value → ∃ name, value = .string name

namespace TypeSettings.IsTyped

variable {types : TypeSettings} (typed : types.IsTyped)

include typed

theorem exists_typeOf (name : String) : ∃ type, types.typeOf (.string name) = .ok type := by
  obtain ⟨path, host⟩ := typed.host
  have needs : ∃ imports, types.importsFor (.string name) = .ok imports := by
    rw [importsFor, host]
    split
    · exact ⟨_, rfl⟩
    · change ∃ imports, (if mentionsHost name then .ok [Json.string path] else .ok []) =
        Except.ok imports
      split
      · exact ⟨_, rfl⟩
      · exact ⟨_, rfl⟩
  obtain ⟨imports, needed⟩ := needs
  exact ⟨_, by rw [typeOf, needed]; rfl⟩

theorem exists_hostHandle : ∃ type, types.hostHandle = .ok type := by
  obtain ⟨name, handle⟩ := typed.handle
  rw [hostHandle, handle]
  exact typed.exists_typeOf name

theorem exists_dynamic : ∃ type, types.dynamic = .ok type := by
  obtain ⟨name, known⟩ := typed.dynamic
  obtain ⟨type, found⟩ := typed.exists_typeOf name
  exact ⟨_, by rw [TypeSettings.dynamic, known, found]; rfl⟩

/-- Every tag has a type. -/
theorem exists_basicType (tag : Option String) : ∃ type, types.basicType tag = .ok type := by
  obtain ⟨type, opaque'⟩ := typed.exists_dynamic
  cases tag with
  | none => exact ⟨_, by rw [basicType, basicTypeOf, if_pos rfl, opaque']; rfl⟩
  | some tag =>
    obtain ⟨members, own, texts⟩ := typed.overrides
    have override : types.override? (.string tag) = .ok (members.get? tag) := by
      unfold override?
      rw [own]
      rfl
    rw [basicType, basicTypeOf, if_neg nofun, override]
    -- a type that is set for the tag, else a primitive one, else the handle
    cases found : members.get? tag with
    | some value =>
      obtain ⟨name, rfl⟩ := texts tag value found
      exact typed.exists_typeOf name
    | none =>
      cases known : Primitive.ofTag? tag with
      | some primitive =>
        refine ⟨{ name := types.primitive primitive }, ?_⟩
        simp [Json.hashed_string, Json.string?, known, bind, Except.bind, pure, Except.pure]
      | none =>
        refine ⟨type, ?_⟩
        simp [Json.hashed_string, Json.string?, known, opaque', bind, Except.bind]

end TypeSettings.IsTyped

/-- Settings of the declared types, as far as passes and runs depend on them. The other settings are
switched on or off, or only shown, and can have any value. -/
structure Settings.IsDeclared (settings : Settings) : Prop where
  /-- The package has a name. -/
  package : ∃ name, settings.packageName = .string name
  /-- The suffix of modules is a text. -/
  suffix : ∃ suffix, settings.moduleSuffix = .string suffix
  /-- The names of events begin with a text. -/
  lead : ∃ lead, settings.eventLead = .string lead
  /-- No process is chosen, or one by its name. -/
  process : settings.processFilter = .null ∨ ∃ process, settings.processFilter = .string process
  /-- The settings of the language are members, and their corrections are pairs of texts. -/
  custom : ∃ members, settings.custom = .object members ∧
    ((members.lookup "acronyms").getD .null).IsCorrections
  /-- The types are texts. -/
  types : ∀ types, TypeSettings.ofSettings settings = .ok types → types.IsTyped

/-- The default settings are of the declared types. -/
theorem Settings.isDeclared_default : ({} : Settings).IsDeclared where
  package := ⟨_, rfl⟩
  suffix := ⟨_, rfl⟩
  lead := ⟨_, rfl⟩
  process := .inl rfl
  custom := ⟨[], rfl, .none⟩
  types := by
    rintro types ⟨⟩
    exact ⟨⟨_, rfl⟩, ⟨_, rfl⟩, ⟨_, rfl⟩, [], rfl, nofun⟩

namespace Settings.IsDeclared

variable {settings : Settings} {generator : Generator} (declared : settings.IsDeclared)
  (configured : Generator.ofSettings settings = .ok generator)

include declared configured

/-- No pass and no block lacks anything. -/
theorem supplies : generator.Supplies := by
  obtain ⟨normalizer, plain⟩ :=
    Generator.exists_normalizer declared.suffix declared.custom configured
  have typed : generator.types.IsTyped := by
    obtain ⟨_, types, -, found, rfl⟩ := Generator.ofSettings_eq_ok.mp configured
    exact declared.types types found
  constructor
  · -- each refusal would need a table or a type that the declared settings have
    intro fault refused
    cases refused with
    | symbol missing =>
      rw [Generator.symbol, plain] at missing
      cases missing
    | base missing =>
      rw [Generator.baseSymbol, plain] at missing
      cases missing
    | @type tag _ missing =>
      obtain ⟨type, found⟩ := typed.exists_basicType tag
      cases missing.symm.trans found
    | handle missing =>
      obtain ⟨type, found⟩ := typed.exists_hostHandle
      cases missing.symm.trans found
    | host missing =>
      obtain ⟨path, text⟩ := typed.host
      rw [text] at missing
      cases missing
    | lead missing =>
      obtain ⟨lead, text⟩ := declared.lead
      rw [Generator.settings_ofSettings configured, eventLeadText, text] at missing
      cases missing
  · intro info
    exact ⟨_, by rw [Generator.stem, plain]; rfl⟩
  · exact Generator.templates_ofSettings configured

/-- Every block is allowed or skipped. -/
theorem decides : generator.Decides := by
  intro block
  rw [Generator.settings_ofSettings configured, allows]
  rcases declared.process with none | ⟨process, chosen⟩
  · rw [none]
    exact ⟨true, rfl⟩
  · rw [chosen]
    change ∃ allowed, (if !(Json.string process).truthy || !block.info.processes.restricted then
      Except.ok true else .ok (block.info.processes.allow process)) = .ok allowed
    split
    · exact ⟨_, rfl⟩
    · exact ⟨_, rfl⟩

end Settings.IsDeclared

end HostBindings
