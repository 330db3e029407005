import HostBindings.FromDocument
import HostBindings.Proofs.Json.Keys
import HostBindings.Proofs.Runs.Nested
import HostBindings.Proofs.Settings.Layers

/-!
# Chosen types

A generator can be made with types that are chosen beforehand. They take the way of all settings of
the generated language: into the custom section of the options, over what is there, with that
section over the one of the defaults, and under whatever else the options have among their members.
They come out as they went in, as long as the options have none of their keys among their members.

## Main results

* `Settings.inner_put`, `Settings.sectioned_put` — options whose custom section is set
* `TypeSettings.eq_of_ofMembers` — types that are read from members that have them
* `Settings.exists_custom_of_overlay` — types that are last in the custom section of the options
* `Generator.types_ofTypes`
-/

namespace HostBindings

open Json (Members)

/-! ### Setting the custom section -/

namespace Settings

variable {options extra members : Members} {value : Json}

/-- What a value gives as members has no key twice if the objects within it have none. -/
theorem nodup_membersFrom (keyed : value.Keyed) (made : membersFrom value = .ok members) :
    (members.map (·.1)).Nodup := by
  unfold membersFrom at made
  split at made
  · cases made
    exact (Json.keyed_object.mp keyed).1
  · obtain ⟨pairs, -, same⟩ := bind_eq_ok_iff.mp made
    cases same
    exact Members.nodup_merge pairs List.nodup_nil
  · obtain ⟨pairs, -, same⟩ := bind_eq_ok_iff.mp made
    cases same
    exact Members.nodup_merge pairs List.nodup_nil
  · cases made

theorem inner_of_not_mem (none : "custom" ∉ options.map (·.1)) : inner options = [] := by
  refine List.flatMap_eq_nil_iff.mpr fun member listed => ?_
  split
  next => exact absurd (List.mem_map_of_mem listed) none
  next => rfl

/-- The custom section that is set is the only one. -/
theorem inner_put (single : (options.map (·.1)).Nodup) :
    inner (options.put "custom" (.object extra)) = extra := by
  -- the member that is replaced is the only one of its key, so nothing is left of another section
  induction options with
  | nil => simp [Members.put, inner]
  | cons member rest ih =>
    obtain ⟨absent, others⟩ := List.nodup_cons.mp single
    rw [Members.put]
    split
    next same =>
      have none : inner rest = [] := inner_of_not_mem (same ▸ absent)
      rw [← List.singleton_append, inner_append, none, same]
      simp [inner]
    next other =>
      rw [← List.singleton_append, inner_append, inner_singleton_of_ne other, ih others]
      rfl

theorem sectioned_put (single : (options.map (·.1)).Nodup) :
    Sectioned (options.put "custom" (.object extra)) := by
  intro value listed
  have found := lookup_eq_some_of_mem (Members.nodup_put single) listed
  have set : (options.put "custom" (.object extra)).get? "custom" = some (.object extra) := by
    rw [Members.get?_put, if_pos rfl]
  exact ⟨extra, Option.some.inj (found.symm.trans set)⟩

end Settings

/-! ### Reading types -/

namespace TypeSettings

variable {types made : TypeSettings} {custom : Members}

/-- Types are read as they stand among members. -/
theorem eq_of_ofMembers {declared : Members} (overrides : types.overrides = .object declared)
    (found : ∀ key ∈ keys, custom.get? key = types.toMembers.get? key)
    (read : ofMembers custom = .ok made) : made = types := by
  have get (key : String) (value : Json) (listed : key ∈ keys)
      (given : types.toMembers.get? key = some value) : custom.get? key = some value :=
    (found key listed).trans given
  have strings := get "string_type" types.stringType (by decide) rfl
  have integers := get "int_type" types.intType (by decide) rfl
  have floats := get "float_type" types.floatType (by decide) rfl
  have booleans := get "bool_type" types.boolType (by decide) rfl
  have dynamic := get "dynamic_type" types.dynamicType (by decide) rfl
  have handle := get "host_handle_type" types.hostHandleType (by decide) rfl
  have host := get "host_import" types.hostImport (by decide) rfl
  have single := get "type_overrides" types.overrides (by decide) rfl
  rw [overrides] at single
  simp only [ofMembers, strings, integers, floats, booleans, dynamic, handle, host, single,
    Option.getD_some, bind_eq_ok_iff] at read
  obtain ⟨_, -, _, -, _, same, read⟩ := read
  cases same
  cases read
  rw [← overrides]

/-- Options with chosen types have them last in their custom section. -/
theorem intoOptions_eq_ok {declared options chosen : Members}
    (overrides : types.overrides = .object declared)
    (into : types.intoOptions options = .ok chosen) :
    ∃ custom, Settings.membersFrom ((options.get? "custom").getD (.object [])) = .ok custom ∧
      chosen = options.put "custom" (.object (custom.merge types.toMembers)) := by
  rw [intoOptions, overrides] at into
  obtain ⟨custom, given, into⟩ := bind_eq_ok_iff.mp into
  refine ⟨custom, given, ?_⟩
  cases into
  rw [← overrides]

@[simp] theorem map_fst_toMembers (types : TypeSettings) : types.toMembers.map (·.1) = keys := rfl

/-- The types of a section that has these come out of settings again. -/
theorem eq_of_ofSettings {declared : Members} {settings : Settings}
    (overrides : types.overrides = .object declared) (same : settings.custom = .object custom)
    (found : ∀ key ∈ keys, custom.get? key = types.toMembers.get? key)
    (read : ofSettings settings = .ok made) : made = types := by
  have members : settings.customMembers = .ok custom := by
    rw [Settings.customMembers, same]
    cases custom with
    | nil => exact absurd (found "int_type" (by decide)) nofun
    | cons => rfl
  rw [ofSettings, members] at read
  exact eq_of_ofMembers overrides found read

end TypeSettings

/-! ### The whole way -/

namespace Settings

open Json.Members (last?)

/-- Types that are last in the custom section of the options are in the section of the settings, if
the options have none among their other members. -/
theorem exists_custom_of_overlay {language : String} {types : TypeSettings}
    {options custom merged : Members} {settings : Settings} (single : (options.map (·.1)).Nodup)
    (once : (custom.map (·.1)).Nodup) (apart : ∀ key ∈ TypeSettings.keys, key ∉ options.map (·.1))
    (laid : overlay (languageDefaults language)
      (options.put "custom" (.object (custom.merge types.toMembers))) = .ok merged)
    (made : ofMembers merged = .ok settings) :
    ∃ inside : Members, settings.custom = .object inside ∧
      ∀ key ∈ TypeSettings.keys, inside.get? key = types.toMembers.get? key := by
  obtain ⟨sectioned, defaultsOnce, fieldsOnly⟩ := languageDefaults_eq language
  replace laid := laid_overlay sectioned (sectioned_put single) laid
  obtain ⟨⟨inside, same, values⟩, -⟩ :=
    ofMembers_eq_ok laid.sectioned (laid.single defaultsOnce) made
  refine ⟨inside, same, fun key listed => ?_⟩
  have unknown : key ∉ keys := (by decide : ∀ key ∈ TypeSettings.keys, key ∉ keys) key listed
  have other : key ≠ "custom" := fun same => unknown (same ▸ by decide)
  -- neither the other members of the options nor those of the defaults have the key
  have absent :
      last? (options.put "custom" (.object (custom.merge types.toMembers))) key = none := by
    refine Members.last?_eq_none_iff.mpr fun value member => ?_
    rcases Members.mem_put member with old | new
    · exact apart key listed (List.mem_map_of_mem old)
    · exact other (Prod.mk.inj new).1
  obtain ⟨value, here⟩ := Option.isSome_iff_exists.mp (isSome_lookup_iff.mpr
    (types.map_fst_toMembers ▸ listed))
  have own : last? types.toMembers key = some value :=
    (Members.last?_eq_get? (types.map_fst_toMembers ▸ by decide)).trans here
  calc Members.get? inside key
      = (sectionOf merged).get? key := by
        rw [values key unknown, laid.top key other, absent, fieldsOnly key unknown]
        rfl
    _ = some value := by
        rw [laid.custom key, inner_put single, Members.last?_eq_get? (Members.nodup_merge _ once),
          Members.get?_merge, own]
        rfl
    _ = types.toMembers.get? key := here.symm

end Settings

namespace Generator

/-- A generator that is made with chosen types has these types, whatever the defaults of the
language are and whatever types the custom section of the options has; only among the other members
of the options there may be none. -/
theorem types_ofTypes [WorkingDirectory] {tree : FileTree} {types : TypeSettings}
    {declared options : Members} {log : Log} {generator : Generator}
    (overrides : types.overrides = .object declared) (keyed : (Json.object options).Keyed)
    (apart : ∀ key ∈ TypeSettings.keys, key ∉ options.map (·.1))
    (made : ((Generator.ofTypes tree (some types) options).run.run log).1 = .ok generator) :
    generator.types = types := by
  obtain ⟨single, inside⟩ := Json.keyed_object.mp keyed
  obtain ⟨last, whole⟩ :
      ∃ last, (Generator.ofTypes tree (some types) options).run.run log = (.ok generator, last) :=
    ⟨_, Prod.ext made rfl⟩
  obtain ⟨chosen, _, into, rest⟩ := Attempt.run_bind_eq_ok_iff.mp whole
  obtain ⟨settings, _, resolved, configured⟩ := Attempt.run_bind_eq_ok_iff.mp rest
  rw [Attempt.run_ofExcept] at into configured
  -- the options that are laid over the defaults have the types in their custom section
  obtain ⟨custom, given, rfl⟩ := TypeSettings.intoOptions_eq_ok overrides
    (mapError_eq_ok_iff.mp (Prod.mk.inj into).1)
  have once : (custom.map (·.1)).Nodup := by
    refine Settings.nodup_membersFrom ?_ given
    cases found : options.get? "custom" with
    | none => exact Json.keyed_object.mpr (by simp)
    | some value => exact inside _ (mem_of_lookup_eq_some found)
  -- no settings are read from a file
  have noFile : if "" = "" then ([] : Members) = [] else
      Settings.readFile tree (Path.ofString "") = .ok [] := by simp
  obtain ⟨_, merged, first, second, settled⟩ :=
    Settings.resolve_eq_ok noFile (congrArg Prod.fst resolved)
  cases first
  obtain ⟨section', same, found⟩ :=
    Settings.exists_custom_of_overlay single once apart second settled
  obtain ⟨_, _, -, read, rfl⟩ := ofSettings_eq_ok.mp (Prod.mk.inj configured).1
  exact TypeSettings.eq_of_ofSettings overrides same found read

attribute [local instance] WorkingDirectory.root

/-- Types that differ from the defaults, and an override. -/
def chosenSample : TypeSettings :=
  { intType := .string "int32", floatType := .string "", hostImport := .null
    overrides := .object [("Buffer", .string "[]byte")] }

/-- Options whose custom section has other types and an override of its own. -/
def chosenOptions : Members :=
  [("package_name", .string "host"),
    ("custom", .object
      [("int_type", .string "int16"), ("float_type", .string "float32"),
        ("type_overrides", .object [("Date", .string "time.Time")])])]

theorem types_ofTypes_sample :
    chosenSample.overrides = .object [("Buffer", .string "[]byte")] ∧
      (Json.object chosenOptions).Keyed ∧
      (∀ key ∈ TypeSettings.keys, key ∉ chosenOptions.map (·.1)) ∧
      ∃ generator,
        ((Generator.ofTypes {} (some chosenSample) chosenOptions).run.run []).1 = .ok generator ∧
        generator.types = chosenSample := by
  have keyed : (Json.object chosenOptions).Keyed := by
    simp [chosenOptions, Json.Keyed, Json.KeyedMembers]
  have apart : ∀ key ∈ TypeSettings.keys, key ∉ chosenOptions.map (·.1) := by decide
  have evaluated :
      ((Generator.ofTypes {} (some chosenSample) chosenOptions).run.run []).1.isOk = true := by
    decide +kernel
  obtain ⟨generator, made⟩ := isOk_iff.mp evaluated
  exact ⟨rfl, keyed, apart, generator, made, types_ofTypes rfl keyed apart made⟩

end Generator

end HostBindings
