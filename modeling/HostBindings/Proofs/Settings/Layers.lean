import HostBindings.Proofs.Attempts
import HostBindings.Proofs.Json.Members
import HostBindings.Settings.Layers

/-!
# The order of the layers

Settings come from overrides, from a file, and from the defaults of the language, in that order. A
setting of the generated language can stand at two places of a layer: among the members of the
layer, or in its custom section. All members that are no fields are taken over into the custom
section at the end, after the layers were merged, so those of any layer win over the sections of
all layers. Where the overrides have a setting in their section only and the file has it among its
members, the file wins; in all other cases the order of the layers holds.

## Main definitions

* `Settings.inner` — the members of the custom sections of a layer
* `Settings.Laid` — one layer over another
* `Settings.ComesFrom` — a value and the layer that it comes from

## Main results

* `Settings.laid_overlay` — what is found in one layer over another
* `Settings.ofMembers_eq_ok` — what becomes of the members of all layers
* `Settings.resolve_order` — the order of the layers
-/

namespace HostBindings

open Json (Members)

namespace Settings

open Json.Members (last?)

variable {layer overrides merged : Members} {key : String}

/-! ### One layer over another -/

/-- The members of the custom sections of a layer, one section behind the other. -/
def inner (layer : Members) : Members :=
  layer.flatMap fun
    | ("custom", .object extra) => extra
    | _ => []

theorem inner_append (layer more : Members) : inner (layer ++ more) = inner layer ++ inner more :=
  List.flatMap_append

/-- The members of the custom section that a layer has in effect. -/
def sectionOf (layer : Members) : Members :=
  match layer.get? "custom" with
  | some (.object members) => members
  | _ => []

/-- Custom sections are objects. -/
def Sectioned (layer : Members) : Prop :=
  ∀ value, ("custom", value) ∈ layer → ∃ members, value = .object members

/-- The custom section that is in effect is an object. -/
theorem Sectioned.get?_eq (sectioned : Sectioned layer) :
    layer.get? "custom" = none ∨ layer.get? "custom" = some (.object (sectionOf layer)) := by
  cases found : layer.get? "custom" with
  | none => exact .inl rfl
  | some value =>
    obtain ⟨members, rfl⟩ := sectioned value (mem_of_lookup_eq_some found)
    exact .inr (by rw [sectionOf, found])

theorem Sectioned.put {value : Json} (sectioned : Sectioned layer)
    (object : key = "custom" → ∃ members, value = .object members) :
    Sectioned (layer.put key value) := by
  intro other member
  rcases Members.mem_put member with old | new
  · exact sectioned other old
  · cases new
    exact object rfl

/-- One layer over another: what it gives comes first, and else what is below. -/
structure Laid (layer overrides merged : Members) : Prop where
  /-- The members. -/
  top : ∀ key ≠ "custom", merged.get? key = (last? overrides key).or (layer.get? key)
  /-- The custom sections. -/
  custom : ∀ key, (sectionOf merged).get? key =
    (last? (inner overrides) key).or ((sectionOf layer).get? key)
  /-- The custom section stays an object. -/
  sectioned : Sectioned merged
  /-- No key is listed twice. -/
  single : (layer.map (·.1)).Nodup → (merged.map (·.1)).Nodup

theorem Laid.trans {more last : Members} (first : Laid layer overrides merged)
    (second : Laid merged more last) : Laid layer (overrides ++ more) last where
  top key other := by
    rw [second.top key other, first.top key other, Members.last?_append, Option.or_assoc]
  custom key := by
    rw [second.custom, first.custom, inner_append, Members.last?_append, Option.or_assoc]
  sectioned := second.sectioned
  single := second.single ∘ first.single

theorem overlayMember_of_ne {value : Json} (other : key ≠ "custom") :
    overlayMember layer (key, value) = .ok (layer.put key value) := by
  unfold overlayMember
  split
  next same => exact absurd (Prod.mk.inj same).1 other
  next same =>
    cases same
    rfl

theorem inner_singleton_of_ne {value : Json} (other : key ≠ "custom") :
    inner [(key, value)] = [] := by
  rw [inner, List.flatMap_singleton]
  split
  next same => exact absurd (Prod.mk.inj same).1 other
  next => rfl

/-- A custom section is merged over the one below. -/
theorem overlayMember_custom (below : Sectioned layer) (extra : Members) :
    overlayMember layer ("custom", .object extra) =
      .ok (layer.put "custom" (.object ((sectionOf layer).merge extra))) := by
  rcases below.get?_eq with found | found
  · simp only [overlayMember, sectionOf, found, Option.getD_none]
  · simp only [overlayMember, found, Option.getD_some]

/-- One member over a layer. -/
theorem laid_overlayMember {member : String × Json} (below : Sectioned layer)
    (above : Sectioned [member]) (laid : overlayMember layer member = .ok merged) :
    Laid layer [member] merged := by
  obtain ⟨key, value⟩ := member
  -- only a custom section is laid into that of the layer; every other member replaces
  by_cases custom : key = "custom"
  · obtain ⟨extra, rfl⟩ := above value (by simp [custom])
    subst custom
    rw [overlayMember_custom below, Except.ok.injEq] at laid
    subst laid
    have inside : sectionOf (layer.put "custom" (.object ((sectionOf layer).merge extra))) =
        (sectionOf layer).merge extra := by
      simp [sectionOf, Members.get?_put]
    refine ⟨fun key other => ?_, fun key => ?_, below.put fun _ => ⟨_, rfl⟩, Members.nodup_put⟩
    · rw [Members.get?_put, if_neg other, Members.last?_cons, if_neg other]
      rfl
    · rw [inside, Members.get?_merge]
      simp [inner]
  · rw [overlayMember_of_ne custom, Except.ok.injEq] at laid
    subst laid
    have found : (layer.put key value).get? "custom" = layer.get? "custom" := by
      rw [Members.get?_put, if_neg (Ne.symm custom)]
    refine ⟨fun other _ => ?_, fun other => ?_, below.put fun same => absurd same custom,
      Members.nodup_put⟩
    · rw [Members.get?_put, Members.last?_cons]
      split <;> rfl
    · rw [sectionOf, found, inner_singleton_of_ne custom]
      rfl

/-- What is found in one layer over another. -/
theorem laid_overlay (below : Sectioned layer) (above : Sectioned overrides)
    (laid : overlay layer overrides = .ok merged) : Laid layer overrides merged := by
  induction overrides generalizing layer with
  | nil =>
    cases laid
    exact ⟨fun _ _ => rfl, fun _ => rfl, below, id⟩
  | cons member rest ih =>
    rw [overlay, List.foldlM_cons, bind_eq_ok_iff] at laid
    obtain ⟨next, first, others⟩ := laid
    have now := laid_overlayMember below
      (fun value here => above value (List.mem_cons.mpr (.inl (List.mem_singleton.mp here)))) first
    have later := ih now.sectioned (fun value there => above value (List.mem_cons_of_mem _ there))
      others
    exact now.trans later

/-! ### All layers -/

/-- The defaults of a language have fields only, each once, and a custom section that is one. -/
theorem languageDefaults_eq (language : String) :
    Sectioned (languageDefaults language) ∧
      ((languageDefaults language).map (·.1)).Nodup ∧
      ∀ key ∉ keys, (languageDefaults language).get? key = none := by
  unfold languageDefaults
  cases found : defaults.lookup (Text.lowerCase language) with
  | none => exact ⟨by simp [Sectioned], List.nodup_nil, fun _ _ => rfl⟩
  | some members =>
    have same := (Prod.mk.inj (List.mem_singleton.mp (mem_of_lookup_eq_some found))).2
    subst same
    refine ⟨?_, by decide, fun key other => ?_⟩
    · intro value member
      simp at member
      exact ⟨_, member⟩
    · refine lookup_eq_none_of_not_mem fun listed => other ?_
      have subset : ∀ key ∈ ["package_name", "add_comments", "generate_tags", "tag_key",
          "host_handle_field", "custom"], key ∈ keys := by decide
      exact subset key listed

/-- The value of a field. -/
def field? (settings : Settings) (key : String) : Option Json := settings.toMembers.get? key

theorem field?_ofKnown (custom : Json) (field : key ∈ keys) (other : key ≠ "custom") :
    field? { ofKnown merged with custom } key =
      (merged.get? key).or (field? {} key) := by
  simp only [keys, List.mem_cons, List.not_mem_nil, or_false] at field
  have value (found : Option Json) (default : Json) :
      some (found.getD default) = found.or (some default) := by
    cases found <;> rfl
  rcases field with rfl | rfl | rfl | rfl | rfl | rfl | rfl | rfl | rfl | rfl | rfl
  all_goals first | exact absurd rfl other | exact value _ _

/-- The custom section among the fields. -/
theorem custom_ofKnown (sectioned : Sectioned merged) :
    (ofKnown merged).custom = .object (sectionOf merged) := by
  rcases sectioned.get?_eq with found | found
  · simp [ofKnown, found, sectionOf]
  · simp [ofKnown, found]

/-- What becomes of the members of all layers: those that are no fields go to the custom section,
over what is there. -/
theorem ofMembers_eq_ok {settings : Settings} (sectioned : Sectioned merged)
    (single : (merged.map (·.1)).Nodup) (made : ofMembers merged = .ok settings) :
    (∃ custom, settings.custom = .object custom ∧ ∀ key ∉ keys,
      Members.get? custom key = (merged.get? key).or ((sectionOf merged).get? key)) ∧
    ∀ key ∈ keys, key ≠ "custom" →
      settings.field? key = (merged.get? key).or (field? {} key) := by
  have inside := custom_ofKnown sectioned
  have unknown {key : String} (other : key ∉ keys) :
      last? (merged.filter fun member => !keys.contains member.1) key = merged.get? key := by
    rw [Members.last?_filter (fun key => !keys.contains key) (by simpa using other),
      Members.last?_eq_get? single]
  unfold ofMembers at made
  dsimp only at made
  split at made
  next fieldsOnly =>
    cases made
    refine ⟨⟨_, inside, fun key other => ?_⟩, fun key => field?_ofKnown _⟩
    rw [← unknown other, List.isEmpty_iff.mp fieldsOnly]
    rfl
  next =>
    rw [inside] at made
    cases made
    refine ⟨⟨_, rfl, fun key other => ?_⟩, fun key => field?_ofKnown _⟩
    rw [Members.get?_merge, unknown other]

/-- Settings that are resolved are made of the overrides over the file over the defaults. -/
theorem resolve_eq_ok [WorkingDirectory] {tree : FileTree} {language file : String}
    {fromFile : Members} {settings : Settings} {log : Log}
    (read : if file = "" then fromFile = [] else readFile tree (Path.ofString file) = .ok fromFile)
    (resolved : ((resolve tree language overrides file).run.run log).1 = .ok settings) :
    ∃ below merged, overlay (languageDefaults language) fromFile = .ok below ∧
      overlay below overrides = .ok merged ∧ ofMembers merged = .ok settings := by
  obtain ⟨last, whole⟩ :
      ∃ last, (resolve tree language overrides file).run.run log = (.ok settings, last) :=
    ⟨_, Prod.ext resolved rfl⟩
  unfold resolve ofSetting at whole
  obtain ⟨below, _, layered, whole⟩ := Attempt.run_bind_eq_ok_iff.mp whole
  obtain ⟨merged, _, above, whole⟩ := Attempt.run_bind_eq_ok_iff.mp whole
  rw [Attempt.run_ofExcept] at above whole
  have second := mapError_eq_ok_iff.mp (Prod.mk.inj above).1
  have made := mapError_eq_ok_iff.mp (Prod.mk.inj whole).1
  refine ⟨below, merged, ?_, second, made⟩
  -- the first of the two layers is that of the file, if one is given
  unfold withFile ofSetting at layered
  dsimp only at layered
  split at layered
  next none =>
    rw [if_pos none] at read
    subst read
    cases layered
    rfl
  next some =>
    rw [if_neg some] at read
    obtain ⟨_, _, loaded, layered⟩ := Attempt.run_bind_eq_ok_iff.mp layered
    rw [read] at loaded
    cases loaded
    obtain ⟨_, _, -, layered⟩ := Attempt.run_bind_eq_ok_iff.mp layered
    rw [Attempt.run_ofExcept] at layered
    exact mapError_eq_ok_iff.mp (Prod.mk.inj layered).1

/-- A value that is one of the overrides if there are any, else one of the file if there are any,
and else a default. -/
inductive ComesFrom (overrides file : Json → Prop) (default : Option Json) : Option Json → Prop
  /-- It is one of the overrides. -/
  | overrides {value : Json} : overrides value → ComesFrom overrides file default (some value)
  /-- There are no overrides, and it is one of the file. -/
  | file {value : Json} : (∀ other, ¬overrides other) → file value →
      ComesFrom overrides file default (some value)
  /-- There are neither, and it is the default. -/
  | default : (∀ other, ¬overrides other) → (∀ other, ¬file other) →
      ComesFrom overrides file default default

/-- The last value of the overrides, or else of the file, or else a default. -/
theorem comesFrom_last? (overrides file : Members) (key : String) (default : Option Json) :
    ComesFrom (fun value => (key, value) ∈ overrides) (fun value => (key, value) ∈ file) default
      ((last? overrides key).or ((last? file key).or default)) := by
  cases upper : last? overrides key with
  | some value => exact .overrides (Members.mem_of_last?_eq_some upper)
  | none =>
    have none := Members.last?_eq_none_iff.mp upper
    cases lower : last? file key with
    | some value => exact .file none (Members.mem_of_last?_eq_some lower)
    | none => exact .default none (Members.last?_eq_none_iff.mp lower)

/-- A layer gives a value to a key, among its members or in its custom section. -/
def Gives (layer : Members) (key : String) (value : Json) : Prop :=
  (key, value) ∈ layer ∨ (key, value) ∈ inner layer

/-- A key that a layer does not have among its members can be in its section only. -/
theorem gives_of_last?_eq_none (none : last? layer key = none) :
    Gives layer key = fun value => (key, value) ∈ inner layer := by
  have topless := Members.last?_eq_none_iff.mp none
  ext value
  exact or_iff_right (topless value)

/-- The order of the layers. The custom section has the value of the overrides for a key that is no
field, or else that of the file, or else the default; unless the overrides have the key in their
custom section only and the file has it among its members, in which case the value is that of the
file. The value of a field is found in the same order, without exception. -/
theorem resolve_order [WorkingDirectory] {tree : FileTree} {language file : String}
    {fromFile : Members} {settings : Settings} {log : Log} (inFile : Sectioned fromFile)
    (above : Sectioned overrides)
    (read : if file = "" then fromFile = [] else readFile tree (Path.ofString file) = .ok fromFile)
    (resolved : ((resolve tree language overrides file).run.run log).1 = .ok settings) :
    (∃ custom : Members, settings.custom = .object custom ∧ ∀ key ∉ keys,
      (((∃ value, (key, value) ∈ fromFile) → (∃ value, Gives overrides key value) →
          ∃ value, (key, value) ∈ overrides) →
        ComesFrom (Gives overrides key) (Gives fromFile key)
          ((sectionOf (languageDefaults language)).get? key) (custom.get? key)) ∧
      ((∀ value, (key, value) ∉ overrides) → (∃ value, (key, value) ∈ fromFile) →
        ∃ value, (key, value) ∈ fromFile ∧ custom.get? key = some value)) ∧
    ∀ key ∈ keys, key ≠ "custom" →
      ComesFrom (fun value => (key, value) ∈ overrides) (fun value => (key, value) ∈ fromFile)
        (((languageDefaults language).get? key).or (field? {} key)) (settings.field? key) := by
  obtain ⟨below, merged, first, second, made⟩ := resolve_eq_ok read resolved
  obtain ⟨sectioned, single, fieldsOnly⟩ := languageDefaults_eq language
  have laid := (laid_overlay sectioned inFile first)
  replace laid := laid.trans (laid_overlay laid.sectioned above second)
  obtain ⟨⟨custom, same, values⟩, fields⟩ :=
    ofMembers_eq_ok laid.sectioned (laid.single single) made
  refine ⟨⟨custom, same, fun key unknown => ?_⟩, fun key field other => ?_⟩
  · -- the members of both layers come before the sections of both
    have other : key ≠ "custom" := fun same => unknown (same ▸ by decide)
    have found := values key unknown
    rw [laid.top key other, laid.custom, Members.last?_append, inner_append, Members.last?_append,
      fieldsOnly key unknown, Option.or_none] at found
    rw [found]
    refine ⟨fun plain => ?_, fun none some => ?_⟩
    -- a member of the overrides comes first, then one of the file, then the sections of both
    · cases upper : last? overrides key with
      | some value => exact .overrides (.inl (Members.mem_of_last?_eq_some upper))
      | none =>
        have topless := Members.last?_eq_none_iff.mp upper
        cases lower : last? fromFile key with
        | some value =>
          have there := Members.mem_of_last?_eq_some lower
          refine .file (fun other gives => ?_) (.inl there)
          obtain ⟨_, member⟩ := plain ⟨value, there⟩ ⟨other, gives⟩
          exact topless _ member
        | none =>
          rw [gives_of_last?_eq_none upper, gives_of_last?_eq_none lower, Option.none_or,
            Option.none_or, Option.or_assoc]
          exact comesFrom_last? _ _ _ _
    · obtain ⟨value, there⟩ := some
      cases lower : last? fromFile key with
      | none => exact absurd there (Members.last?_eq_none_iff.mp lower value)
      | some last =>
        rw [Members.last?_eq_none_iff.mpr none]
        exact ⟨last, Members.mem_of_last?_eq_some lower, rfl⟩
  · rw [fields key field other, laid.top key other, Members.last?_append, Option.or_assoc,
      Option.or_assoc]
    exact comesFrom_last? _ _ _ _

attribute [local instance] WorkingDirectory.root

/-- A file with a setting among its members. -/
def layersSample : FileTree :=
  .ofFiles [(.ofString "c.json", "\x7b\"int_type\": \"int16\"\x7d")] []

theorem resolve_order_sample :
    let fromFile : Members := [("int_type", .string "int16")]
    let overrides : Members := [("custom", .object [("float_type", .string "float32")])]
    readFile layersSample (Path.ofString "c.json") = .ok fromFile ∧
    ∃ settings, ((resolve layersSample "go" overrides "c.json").run.run []).1 = .ok settings ∧
      ∃ custom : Members, settings.custom = .object custom ∧
        ComesFrom (Gives overrides "float_type") (Gives fromFile "float_type")
          (some (.string "float64")) (custom.get? "float_type") ∧
        custom.get? "int_type" = some (.string "int16") := by
  intro fromFile overrides
  have read : readFile layersSample (Path.ofString "c.json") = .ok fromFile := by decide +kernel
  have evaluated :
      ((resolve layersSample "go" overrides "c.json").run.run []).1.isOk = true := by
    decide +kernel
  obtain ⟨settings, resolved⟩ := isOk_iff.mp evaluated
  have inFile : Sectioned fromFile := by simp [Sectioned, fromFile]
  have above : Sectioned overrides := by simp [Sectioned, overrides]
  obtain ⟨⟨custom, same, values⟩, -⟩ :=
    resolve_order inFile above (by simpa using read) resolved
  refine ⟨read, settings, resolved, custom, same, ?_, ?_⟩
  · exact (values "float_type" (by decide)).1 (by simp [fromFile])
  · obtain ⟨value, given, found⟩ :=
      (values "int_type" (by decide)).2 (by simp [overrides]) (by simp [fromFile])
    rw [found]
    simpa [fromFile] using given

end Settings

end HostBindings
