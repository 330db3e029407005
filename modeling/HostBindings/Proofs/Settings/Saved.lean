import HostBindings.Proofs.Files.Trees
import HostBindings.Proofs.Json.Documents
import HostBindings.Proofs.Settings.Layers

/-!
# Settings that are saved and read back

Settings that are saved to a file come back when the file is the only layer over the defaults of the
same language. The fields of the file stand for those of the defaults. Its custom section is merged
over that of the defaults, which changes nothing: the section of resolved settings begins with the
keys of the defaults, in their order, and gives each of them a value.

## Main definitions

* `Settings.Grown` — a layer that has grown from the defaults
* `Settings.Kept` — settings that come back

## Main results

* `Json.Members.merge_eq_of_leads` — members merged over those that they begin with
* `Settings.Grown.overlay`, `Settings.Grown.ofMembers` — what has grown from the defaults
* `Settings.Kept.reload` — settings from their own members over the defaults
* `Settings.resolve_save` — settings that are saved come back
-/

namespace HostBindings

open Json (Members Keyed Readable)

namespace Json.Members

variable {members base extra done : Members} {key : String} {value : Json}

/-- A key that is not among the first members is set in the others. -/
theorem put_append_of_not_mem (new : key ∉ done.map (·.1)) :
    (done ++ members).put key value = done ++ members.put key value := by
  induction done with
  | nil => rfl
  | cons member rest ih =>
    rw [List.map_cons, List.mem_cons, not_or] at new
    rw [List.cons_append, put, if_neg (Ne.symm new.1), ih new.2, List.cons_append]

/-- The keys that are there stay in front. -/
theorem prefix_put (members : Members) (key : String) (value : Json) :
    members.map (·.1) <+: (members.put key value).map (·.1) := by
  rw [keys_put]
  split
  · exact List.prefix_rfl
  · exact List.prefix_append _ _

theorem prefix_merge (members extra : Members) :
    members.map (·.1) <+: (members.merge extra).map (·.1) := by
  induction extra generalizing members with
  | nil => exact List.prefix_rfl
  | cons member rest ih => exact (prefix_put members member.1 member.2).trans (ih _)

/-- Members that begin with the keys of others give the same when they are merged over those. The
members in front are those that are settled. -/
theorem merge_append_eq_of_leads (base done : Members) (leads : base.map (·.1) <+: extra.map (·.1))
    (single : ((done ++ extra).map (·.1)).Nodup) :
    (done ++ base).merge extra = done ++ extra := by
  -- the first member of the extra ones goes over to those that are settled
  induction extra generalizing base done with
  | nil =>
    rw [List.map_nil, List.prefix_nil, List.map_eq_nil_iff] at leads
    rw [leads]
    rfl
  | cons member rest ih =>
    have new : member.1 ∉ done.map (·.1) := by
      intro listed
      rw [List.map_append] at single
      exact List.disjoint_of_nodup_append single listed List.mem_cons_self
    have again : ((done ++ [member] ++ rest).map (·.1)).Nodup := by simpa using single
    rw [merge, List.foldl_cons]
    change ((done ++ base).put member.1 member.2).merge rest = _
    cases base with
    | nil =>
      have later := ih [] (done ++ [member]) List.nil_prefix again
      rw [put_append_of_not_mem new]
      simpa [put] using later
    | cons first others =>
      rw [List.map_cons, List.map_cons, List.cons_prefix_cons] at leads
      have later := ih others (done ++ [member]) leads.2 again
      rw [put_append_of_not_mem new, put, if_pos leads.1, leads.1]
      simpa using later

theorem merge_eq_of_leads (leads : base.map (·.1) <+: extra.map (·.1))
    (single : (extra.map (·.1)).Nodup) : base.merge extra = extra :=
  merge_append_eq_of_leads base [] leads single

end Json.Members

namespace Settings

variable {base layer overrides merged : Members} {settings : Settings} {language : String}

/-! ### What has grown from the defaults -/

/-- A layer that has grown from a custom section. -/
structure Grown (base layer : Members) : Prop where
  /-- No key is listed twice. -/
  keyed : (Json.object layer).Keyed
  /-- The custom section is an object. -/
  sectioned : Sectioned layer
  /-- It begins with the keys it has grown from. -/
  leads : base.map (·.1) <+: (sectionOf layer).map (·.1)

/-- The custom section of a keyed layer is keyed. -/
theorem keyed_sectionOf (keyed : (Json.object layer).Keyed) :
    (Json.object (sectionOf layer)).Keyed := by
  unfold sectionOf
  split
  next members found =>
    exact (Json.keyed_object.mp keyed).2 _ (mem_of_lookup_eq_some found)
  next => exact Json.keyed_object.mpr (by simp)

/-- The custom section of a layer where another key is set. -/
theorem sectionOf_put_of_ne {key : String} {value : Json} (other : key ≠ "custom") :
    sectionOf (layer.put key value) = sectionOf layer := by
  rw [sectionOf, Members.get?_put, if_neg (Ne.symm other), sectionOf]

theorem sectionOf_put_custom (members : Members) :
    sectionOf (layer.put "custom" (.object members)) = members := by
  simp [sectionOf, Members.get?_put]

/-- One member over a layer that has grown. -/
theorem Grown.overlayMember {member : String × Json} (grown : Grown base layer)
    (keyed : member.2.Keyed) (above : Sectioned [member])
    (laid : overlayMember layer member = .ok merged) : Grown base merged := by
  obtain ⟨key, value⟩ := member
  by_cases custom : key = "custom"
  · obtain ⟨extra, rfl⟩ := above value (by simp [custom])
    subst custom
    rw [overlayMember_custom grown.sectioned, Except.ok.injEq] at laid
    subst laid
    have inside := (keyed_sectionOf grown.keyed).merge (Json.keyed_object.mp keyed).2
    refine ⟨grown.keyed.put inside, grown.sectioned.put fun _ => ⟨_, rfl⟩, ?_⟩
    rw [sectionOf_put_custom]
    exact grown.leads.trans (Members.prefix_merge _ _)
  · rw [overlayMember_of_ne custom, Except.ok.injEq] at laid
    subst laid
    refine ⟨grown.keyed.put keyed, grown.sectioned.put fun same => absurd same custom, ?_⟩
    rw [sectionOf_put_of_ne custom]
    exact grown.leads

/-- A layer that has grown grows on under another. -/
theorem Grown.overlay (grown : Grown base layer) (keyed : ∀ member ∈ overrides, member.2.Keyed)
    (above : Sectioned overrides) (laid : overlay layer overrides = .ok merged) :
    Grown base merged := by
  induction overrides generalizing layer with
  | nil =>
    cases laid
    exact grown
  | cons member rest ih =>
    rw [Settings.overlay, List.foldlM_cons, bind_eq_ok_iff] at laid
    obtain ⟨next, first, others⟩ := laid
    obtain ⟨now, later⟩ := List.forall_mem_cons.mp keyed
    have alone : Sectioned [member] := fun value here =>
      above value (List.mem_cons.mpr (.inl (List.mem_singleton.mp here)))
    exact ih (grown.overlayMember now alone first) later
      (fun value there => above value (List.mem_cons_of_mem _ there)) others

/-- The defaults of a language are what all else grows from. -/
theorem grown_languageDefaults (language : String) :
    Grown (sectionOf (languageDefaults language)) (languageDefaults language) := by
  obtain ⟨sectioned, single, -⟩ := languageDefaults_eq language
  refine ⟨Json.keyed_object.mpr ⟨single, ?_⟩, sectioned, List.prefix_rfl⟩
  unfold languageDefaults
  cases found : defaults.lookup (Text.lowerCase language) with
  | none => simp
  | some members =>
    have same := (Prod.mk.inj (List.mem_singleton.mp (mem_of_lookup_eq_some found))).2
    subst same
    refine List.forall_mem_cons.mpr ⟨trivial, List.forall_mem_cons.mpr ⟨trivial,
      List.forall_mem_cons.mpr ⟨trivial, List.forall_mem_cons.mpr ⟨trivial,
      List.forall_mem_cons.mpr ⟨trivial, List.forall_mem_singleton.mpr ?_⟩⟩⟩⟩⟩
    refine Json.keyed_object.mpr ⟨by decide, ?_⟩
    simp [defaultTypes, Json.Keyed, Json.KeyedMembers]

/-! ### What is saved -/

/-- Settings that come back: no key is listed twice in them, and the custom section begins with
certain keys. -/
structure Kept (base : Members) (settings : Settings) : Prop where
  /-- No key is listed twice. -/
  keyed : (Json.object settings.toMembers).Keyed
  /-- The custom section is an object and begins with the keys. -/
  custom : ∃ custom : Members, settings.custom = .object custom ∧
    base.map (·.1) <+: custom.map (·.1)

theorem map_fst_toMembers (settings : Settings) : settings.toMembers.map (·.1) = keys := by
  rw [toMembers, List.map_fst_zip (by rfl)]

theorem keyed_toMembers (keyed : ∀ value ∈ settings.values, value.Keyed) :
    (Json.object settings.toMembers).Keyed := by
  have single : (settings.toMembers.map (·.1)).Nodup := by
    rw [map_fst_toMembers]
    decide
  exact Json.keyed_object.mpr ⟨single, fun member listed =>
    keyed _ (List.of_mem_zip (show (member.1, member.2) ∈ _ from listed)).2⟩

/-- The fields of a layer, with a custom section. -/
theorem keyed_ofKnown {custom : Json} (keyed : (Json.object merged).Keyed)
    (inside : custom.Keyed) : (Json.object { ofKnown merged with custom }.toMembers).Keyed := by
  have field {key : String} {default : Json} (plain : default.Keyed) :
      ((merged.get? key).getD default).Keyed := by
    cases found : merged.get? key with
    | none => exact plain
    | some value => exact (Json.keyed_object.mp keyed).2 _ (mem_of_lookup_eq_some found)
  refine keyed_toMembers ?_
  simp only [values, List.forall_mem_cons]
  and_intros
  all_goals first | exact inside | exact field trivial | simp

theorem Grown.ofMembers (grown : Grown base merged) (made : ofMembers merged = .ok settings) :
    Kept base settings := by
  have inside := custom_ofKnown grown.sectioned
  have section_ := keyed_sectionOf grown.keyed
  unfold Settings.ofMembers at made
  dsimp only at made
  split at made
  next =>
    cases made
    refine ⟨?_, _, inside, grown.leads⟩
    have keyed := keyed_ofKnown grown.keyed section_
    rwa [← inside] at keyed
  next =>
    rw [inside] at made
    cases made
    refine ⟨keyed_ofKnown grown.keyed (section_.merge fun member listed => ?_), _, rfl,
      grown.leads.trans (Members.prefix_merge _ _)⟩
    exact (Json.keyed_object.mp grown.keyed).2 _ (List.mem_of_mem_filter listed)

/-! ### What is read back -/

theorem ofKnown_congr (same : ∀ key ∈ keys, merged.get? key = layer.get? key) :
    ofKnown merged = ofKnown layer := by
  unfold ofKnown
  dsimp only
  congr 1 <;> exact congrArg (Option.getD · _) (same _ (by decide))

theorem ofKnown_toMembers (settings : Settings) : ofKnown settings.toMembers = settings := rfl

/-- Members that are no custom section are set one by one. -/
theorem overlay_eq_merge (others : ∀ member ∈ overrides, member.1 ≠ "custom") :
    overlay layer overrides = .ok (layer.merge overrides) := by
  induction overrides generalizing layer with
  | nil => rfl
  | cons member rest ih =>
    obtain ⟨first, later⟩ := List.forall_mem_cons.mp others
    rw [overlay, List.foldlM_cons, overlayMember_of_ne first]
    exact ih later

theorem sectionOf_merge (others : ∀ member ∈ overrides, member.1 ≠ "custom") :
    sectionOf (layer.merge overrides) = sectionOf layer := by
  induction overrides generalizing layer with
  | nil => rfl
  | cons member rest ih =>
    obtain ⟨first, later⟩ := List.forall_mem_cons.mp others
    rw [Members.merge, List.foldl_cons]
    exact (ih later).trans (sectionOf_put_of_ne first)

theorem ofMembers_of_known (known : ∀ key ∉ keys, merged.get? key = none) :
    ofMembers merged = .ok (ofKnown merged) := by
  have none : (merged.filter fun member => !keys.contains member.1) = [] := by
    refine List.filter_eq_nil_iff.mpr fun member listed other => ?_
    have there := isSome_lookup_iff.mpr (List.mem_map_of_mem (f := (·.1)) listed)
    rw [show merged.lookup member.1 = none from known member.1 (by simpa using other)] at there
    cases there
  rw [ofMembers, none]
  rfl

/-- The members of a saved document but for the custom section. -/
def plainMembers (settings : Settings) : Members :=
  keys.dropLast.zip settings.values.dropLast

/-- The custom section is the last member. -/
theorem toMembers_eq_append (settings : Settings) :
    settings.toMembers = settings.plainMembers ++ [("custom", settings.custom)] := rfl

theorem ne_custom_of_mem_plainMembers (settings : Settings) :
    ∀ member ∈ settings.plainMembers, member.1 ≠ "custom" := by
  intro member listed
  have key := (List.of_mem_zip (show (member.1, member.2) ∈ settings.plainMembers from listed)).1
  exact fun custom => absurd (custom ▸ key) (by decide)

/-- A saved document over a layer: its fields are set, and its custom section is merged over the one
below. -/
theorem overlay_toMembers {custom : Members} (sectioned : Sectioned layer)
    (same : settings.custom = .object custom) :
    overlay layer settings.toMembers = .ok ((layer.merge settings.plainMembers).put "custom"
      (.object ((sectionOf layer).merge custom))) := by
  have others := ne_custom_of_mem_plainMembers settings
  have set : overlay layer settings.plainMembers = .ok (layer.merge settings.plainMembers) :=
    overlay_eq_merge others
  have laid := laid_overlay sectioned (fun value listed => absurd rfl (others _ listed)) set
  rw [toMembers_eq_append, same, overlay, List.foldlM_append]
  change (overlay layer settings.plainMembers >>= fun next => overlayMember next _ >>= pure) = _
  rw [set]
  change (overlayMember _ _ >>= pure) = _
  rw [overlayMember_custom laid.sectioned, sectionOf_merge others]
  rfl

/-- What is found in a saved document over a layer, if the custom section stays as it is. -/
theorem get?_toMembers_over (layer : Members) (single : (settings.toMembers.map (·.1)).Nodup)
    (key : String) :
    ((layer.merge settings.plainMembers).put "custom" settings.custom).get? key =
      (settings.toMembers.get? key).or (layer.get? key) := by
  rw [Members.get?_put, ← Members.last?_eq_get? single, toMembers_eq_append,
    Members.last?_append, Members.last?_cons]
  by_cases here : key = "custom"
  · rw [if_pos here, if_pos here]
    rfl
  · rw [if_neg here, if_neg here, Members.get?_merge]
    rfl

/-- Exactly the fields are found in a saved document. -/
theorem mem_keys_iff (settings : Settings) {key : String} :
    key ∈ keys ↔ (settings.toMembers.get? key).isSome := by
  rw [← map_fst_toMembers settings]
  exact isSome_lookup_iff.symm

/-- Kept settings come back from their members over the defaults. -/
theorem Kept.reload (kept : Kept (sectionOf (languageDefaults language)) settings) :
    ∃ merged, overlay (languageDefaults language) settings.toMembers = .ok merged ∧
      ofMembers merged = .ok settings := by
  obtain ⟨keyed, custom, same, leads⟩ := kept
  obtain ⟨sectioned, -, fieldsOnly⟩ := languageDefaults_eq language
  obtain ⟨single, inside⟩ := Json.keyed_object.mp keyed
  generalize languageDefaults language = layer at leads sectioned fieldsOnly
  -- the custom section of the document takes the place of that of the defaults
  have stays : (sectionOf layer).merge custom = custom := by
    have keyed : (Json.object custom).Keyed := by
      rw [toMembers_eq_append, same] at inside
      exact inside _ (List.mem_append_right _ (List.mem_singleton.mpr rfl))
    exact Members.merge_eq_of_leads leads (Json.keyed_object.mp keyed).1
  have whole := overlay_toMembers sectioned same
  rw [stays, ← same] at whole
  have found := get?_toMembers_over layer single
  have unknown : ∀ key ∉ keys, Members.get? _ key = none := fun key other => by
    rw [found, fieldsOnly key other, Option.or_none,
      Option.not_isSome_iff_eq_none.mp (mt (mem_keys_iff settings).mpr other)]
  have known : ∀ key ∈ keys, Members.get? _ key = settings.toMembers.get? key :=
    fun key field => by
      obtain ⟨value, there⟩ := Option.isSome_iff_exists.mp ((mem_keys_iff settings).mp field)
      rw [found, there, Option.some_or]
  exact ⟨_, whole, by rw [ofMembers_of_known unknown, ofKnown_congr known, ofKnown_toMembers]⟩

/-! ### The file -/

/-- The document of settings within the limits is read as the settings. -/
theorem read_document (keyed : (Json.object settings.toMembers).Keyed)
    (depth : (Json.object settings.toMembers).depth ≤ savedNestingLimit)
    (digits : (Json.object settings.toMembers).longestInteger ≤ Json.digitLimit) :
    Json.read settings.document = .ok (.object settings.toMembers) :=
  Json.read_indented ⟨keyed, depth.trans (by decide), digits⟩

/-- The document of settings without halves of surrogate pairs can be encoded. -/
theorem isEncodable_document (plain : (Json.object settings.toMembers).lacks Text.halfMark = true) :
    Text.IsEncodable settings.document :=
  Text.isEncodable_of_not_mem
    (Json.not_mem_indented (by decide) (by decide) fun _ => plain)

section Files

variable [WorkingDirectory]

/-- The members of a file are those of a document. -/
theorem readFile_eq_ok {tree : FileTree} {path : Path} {members : Members}
    (read : readFile tree path = .ok members) :
    ∃ content, Json.read content = .ok (.object members) := by
  unfold readFile at read
  split at read
  next => cases read
  next => cases read
  next =>
    split at read
    next => cases read
    next =>
      split at read
      next => cases read
      next content _ =>
        unfold readMembers at read
        split at read
        next => cases read
        next found =>
          cases read
          exact ⟨_, found⟩
        next => cases read

/-- A document that is written can be read at the same path. -/
theorem readFile_write {tree saved : FileTree} {path : Path} {content : String}
    {members : Members} (json : Text.lowerCase path.extension = ".json")
    (written : tree.write path content = .ok saved)
    (unified : Text.unifyLineEnds content = content)
    (read : Json.read content = .ok (.object members)) :
    readFile saved path = .ok members := by
  obtain ⟨⟨place, led, other, rfl⟩, encodable⟩ := FileTree.write_eq_ok.mp written
  have there : (tree.set place (.file content)).locate path = .ok place :=
    (FileTree.keeps_set other).locate led
  have found : (tree.set place (.file content)).at? place = some (.file content) := by
    rw [FileTree.at?_set (FileTree.isGround_eq_false other), if_pos rfl]
  rw [readFile, FileTree.probe_eq there, found]
  dsimp only
  rw [if_neg (not_not.mpr json), FileTree.read_of_at? there found encodable]
  dsimp only
  rw [unified, readMembers, read]

/-- Settings resolved from a file and nothing else. -/
theorem resolve_eq_ok_of_file {tree : FileTree} {file : String} {fromFile merged : Members}
    (some : file ≠ "") (read : readFile tree (Path.ofString file) = .ok fromFile)
    (laid : overlay (languageDefaults language) fromFile = .ok merged)
    (made : ofMembers merged = .ok settings) (log : Log) :
    ((resolve tree language [] file).run.run log).1 = .ok settings := by
  have below : ∃ last, (withFile tree language file).run.run log = (.ok merged, last) := by
    unfold withFile ofSetting
    dsimp only
    rw [if_neg some]
    refine ⟨log ++ [⟨.debug, s!"Loaded configuration from {(Path.ofString file).text}"⟩],
      Attempt.run_bind_eq_ok_iff.mpr ⟨fromFile, log, by rw [read]; rfl,
        Attempt.run_bind_eq_ok_iff.mpr ⟨(), _, rfl, ?_⟩⟩⟩
    rw [Attempt.run_ofExcept, laid]
    rfl
  obtain ⟨last, below⟩ := below
  have whole : (resolve tree language [] file).run.run log = (.ok settings, last) := by
    refine Attempt.run_bind_eq_ok_iff.mpr ⟨merged, last, below,
      Attempt.run_bind_eq_ok_iff.mpr ⟨merged, last, rfl, ?_⟩⟩
    rw [ofSetting, Attempt.run_ofExcept, made]
    rfl
  rw [whole]

/-- Settings that are saved come back. Saving succeeds where the file can be written and the
settings are within the limits of the writer, and the settings of the same language with the saved
file, and no overrides, are the same settings. -/
theorem resolve_save {tree saved : FileTree} {language file target : String}
    {fromFile overrides : Members} {settings : Settings} {log : Log}
    (inFile : Sectioned fromFile) (above : Sectioned overrides)
    (keyed : (Json.object overrides).Keyed)
    (read : if file = "" then fromFile = [] else readFile tree (Path.ofString file) = .ok fromFile)
    (resolved : ((resolve tree language overrides file).run.run log).1 = .ok settings)
    (json : Text.lowerCase (Path.ofString target).extension = ".json")
    (written : tree.write (Path.ofString target) settings.document = .ok saved)
    (depth : (Json.object settings.toMembers).depth ≤ savedNestingLimit)
    (digits : (Json.object settings.toMembers).longestInteger ≤ Json.digitLimit) :
    save tree settings target = .ok saved ∧
      ∀ log, ((resolve saved language [] target).run.run log).1 = .ok settings := by
  obtain ⟨below, merged, first, second, made⟩ := resolve_eq_ok read resolved
  -- what is read has no key twice, so the document that is written says all of the settings
  have keyedFile : (Json.object fromFile).Keyed := by
    split at read
    next =>
      subst read
      exact Json.keyed_object.mpr (by simp)
    next =>
      obtain ⟨content, found⟩ := readFile_eq_ok read
      exact (Json.readable_read found).keyed
  have kept := (((grown_languageDefaults language).overlay (Json.keyed_object.mp keyedFile).2
    inFile first).overlay (Json.keyed_object.mp keyed).2 above second).ofMembers made
  obtain ⟨again, laid, same⟩ := kept.reload
  have inside := read_document kept.keyed depth digits
  have some : target ≠ "" := by
    rintro rfl
    exact absurd json (by decide)
  refine ⟨?_, resolve_eq_ok_of_file some
    (readFile_write json written (Json.unifyLineEnds_indented _) inside) laid same⟩
  unfold save
  simp only [if_neg (not_lt.mpr depth), written, if_neg (not_lt.mpr digits)]

end Files

attribute [local instance] WorkingDirectory.root

/-- Settings with a setting of a file and one of the overrides. -/
def savedSample : Settings where
  custom := .object (Members.put defaultTypes "int_type" (.string "int16") ++
    [("type_overrides", .object []), ("depths", .array [.int (-12), .float (.infinite true)])])

theorem resolve_save_sample :
    let overrides : Members :=
      [("custom", .object [("depths", .array [.int (-12), .float (.infinite true)])])]
    ((resolve layersSample "go" overrides "c.json").run.run []).1 = .ok savedSample ∧
    ∃ saved, save layersSample savedSample "s.json" = .ok saved ∧
      ((resolve saved "go" [] "s.json").run.run []).1 = .ok savedSample := by
  intro overrides
  have read : readFile layersSample (Path.ofString "c.json") =
      .ok [("int_type", .string "int16")] := by
    decide +kernel
  have resolved :
      ((resolve layersSample "go" overrides "c.json").run.run []).1 = .ok savedSample := by
    decide +kernel
  obtain ⟨saved, written⟩ : ∃ saved,
      layersSample.write (Path.ofString "s.json") savedSample.document = .ok saved :=
    ⟨_, FileTree.write_eq_ok.mpr
      ⟨⟨["s.json"], by decide +kernel, by decide +kernel, rfl⟩,
        isEncodable_document (by decide +kernel)⟩⟩
  have inFile : Sectioned [("int_type", .string "int16")] := by simp [Sectioned]
  obtain ⟨result, again⟩ := resolve_save inFile (by simp [Sectioned, overrides])
    (Json.keyed_object.mpr (by simp [overrides, Json.Keyed, Json.KeyedMembers, Json.KeyedItems]))
    (by simpa using read) resolved (by decide) written (by decide) (by decide)
  exact ⟨resolved, saved, result, again []⟩

/-- Arrays within each other. -/
def nested : Nat → Json
  | 0 => .array []
  | depth + 1 => .array [nested depth]

theorem keyed_nested (depth : Nat) : (nested depth).Keyed := by
  induction depth with
  | zero => exact Json.keyed_array.mpr (by simp)
  | succ depth ih => exact Json.keyed_array.mpr (by simpa using ih)

theorem lacks_nested (c : Char) (depth : Nat) : (nested depth).lacks c = true := by
  induction depth with
  | zero => rfl
  | succ depth ih => exact Json.lacksItems_cons.mpr ⟨ih, rfl⟩

theorem depth_nested (depth : Nat) : (nested depth).depth = depth + 1 := by
  induction depth with
  | zero => rfl
  | succ depth ih =>
    rw [Json.depth] at ih
    rw [nested, Json.depth, Json.measure, Json.measureItems, Json.measureItems, ih, Nat.max_zero]

/-- The default settings with one that is no field. -/
def withExtra (value : Json) : Settings where
  custom := .object (defaultTypes ++ [("type_overrides", .object []), ("extra", value)])

/-- No half of a surrogate pair is in the default settings. -/
theorem lacks_withExtra {value : Json} (plain : value.lacks Text.halfMark = true) :
    (Json.object (withExtra value).toMembers).lacks Text.halfMark = true := by
  have whole : (Json.object (withExtra value).toMembers).lacks Text.halfMark =
      (value.lacks Text.halfMark && true && true) := rfl
  simp [whole, plain]

theorem measure_extra_le {scalar : Json → Nat} {level bound : Nat} {value : Json}
    (fits : (Json.object (withExtra value).toMembers).measure scalar level ≤ bound) :
    value.measure scalar level ≤ bound - level - level := by
  have custom := Json.measureMembers_le.mp (Nat.le_sub_of_add_le fits)
    ("custom", (withExtra value).custom) (by simp [toMembers, keys, values])
  exact Json.measureMembers_le.mp (Nat.le_sub_of_add_le custom) ("extra", value) (by simp)

theorem save_deep {value : Json} (deep : savedNestingLimit - 1 - 1 < value.depth)
    (tree : FileTree) (file : String) :
    save tree (withExtra value) file = .error (.unsaved .tooDeep) :=
  if_pos (not_le.mp fun fits => absurd (measure_extra_le fits) (not_le.mpr deep))

theorem save_long {value : Int} (long : Json.digitLimit < Binary64.digitCount value.natAbs)
    {tree saved : FileTree} {file : String}
    (written : tree.write (Path.ofString file) (withExtra (.int value)).document = .ok saved) :
    save tree (withExtra (.int value)) file = .error (.unsaved (.longInteger Json.digitLimit)) := by
  have flat : ¬ savedNestingLimit < (Json.object (withExtra (.int value)).toMembers).depth :=
    show ¬ savedNestingLimit < 3 by decide
  have beyond :
      Json.digitLimit < (Json.object (withExtra (.int value)).toMembers).longestInteger :=
    not_le.mp fun fits => absurd (measure_extra_le fits) (not_le.mpr long)
  unfold save
  simp only [if_neg flat, written, if_pos beyond]

/-- Settings can be resolved, and their document could be written, and yet they cannot be saved:
they are too deep, or an integer is too long. -/
theorem exists_resolved_not_saved :
    let unsaved := fun (value : Json) (error : Json.WriteError) =>
      let overrides : Members := [("extra", value)]
      (Json.object overrides).Keyed ∧ Sectioned overrides ∧
      ∃ settings, ((resolve {} "go" overrides).run.run []).1 = .ok settings ∧
        (∃ written, FileTree.write {} (Path.ofString "s.json") settings.document = .ok written) ∧
        save {} settings "s.json" = .error (.unsaved error)
    unsaved (nested 500) .tooDeep ∧ unsaved (.int (10 ^ 4300)) (.longInteger Json.digitLimit) := by
  intro unsaved
  have written {value : Json} (plain : value.lacks Text.halfMark = true) : ∃ written,
      FileTree.write {} (Path.ofString "s.json") (withExtra value).document = .ok written :=
    ⟨_, FileTree.write_eq_ok.mpr ⟨⟨["s.json"], by decide, by decide, rfl⟩,
      isEncodable_document (lacks_withExtra plain)⟩⟩
  have unsaved_of {value : Json} {error : Json.WriteError} (keyed : value.Keyed)
      (plain : value.lacks Text.halfMark = true)
      (refused : save {} (withExtra value) "s.json" = .error (.unsaved error)) :
      unsaved value error :=
    ⟨Json.keyed_object.mpr (by simp [keyed]), by simp [Sectioned], withExtra value, rfl,
      written plain, refused⟩
  have deep : savedNestingLimit - 1 - 1 < (nested 500).depth := by
    rw [depth_nested]
    decide
  have long : (Json.int (10 ^ 4300)).lacks Text.halfMark = true := rfl
  obtain ⟨saved, there⟩ := written long
  exact ⟨unsaved_of (keyed_nested 500) (lacks_nested _ 500) (save_deep deep _ _),
    unsaved_of trivial long (save_long (Json.lt_digitCount_ten_pow 4300) there)⟩

end Settings

end HostBindings
