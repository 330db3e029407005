import HostBindings.Proofs.Reading.Grammar

/-!
# Reading descriptions

A document is read into a description exactly if the grammar of descriptions accepts it, and what is
read is the one tree that it stands for: with the same nodes, in the same order, at every level.
Every other document is refused: with a schema error if it has not the form of a description, or
because of an integer of too many digits where a text is kept.

The order in which the parts of a node are read decides which error is given, but not whether there
is one. So what a reader reads is described part by part, without that order.

## Main results

* `Api.readInfo_eq_ok_iff`, `Api.readAll_eq_ok_iff`, `Api.mapM_eq_ok_iff_rel` — the parts of a node
* `Api.readProperty_eq_ok_iff`, `Api.readEvent_eq_ok_iff`, `Api.readMethod_eq_ok_iff`,
  `Api.readBlock_eq_ok_iff` — what is read from a value is the tree that it stands for
* `Api.Judges` and `Api.judges_readProperty`, `Api.judges_readEvent`, `Api.judges_readMethod`,
  `Api.judges_readBlock` — why a value is not read
* `Api.readSchema_accepts` — which documents are read, and what is read from them
-/

namespace HostBindings.Api

open Json (Members)

variable {α : Type} {Of : Json → α → Prop} {members : Members} {value : Json} {key path : String}

/-! ### The parts of a node -/

/-- A node is read as what its members are read as. -/
theorem membersOf_bind_eq_ok_iff
    {next : { members : Members // value = .object members } → Except SchemaError α} {result : α} :
    membersOf value path >>= next = .ok result ↔
      ∃ members, ∃ object : value = .object members, next ⟨members, object⟩ = .ok result := by
  rw [bind_eq_ok_iff]
  constructor
  · rintro ⟨⟨members, object⟩, -, read⟩
    exact ⟨members, object, read⟩
  · rintro ⟨members, rfl, read⟩
    exact ⟨⟨members, rfl⟩, rfl, read⟩

/-- The processes that are read for a node. -/
def readProcesses (members : Members) (path : String) : Except SchemaError Processes :=
  match members.get? "process" with
  | some (.object marks) => .ok ⟨flagOf marks "main", flagOf marks "renderer"⟩
  | some other => if other.truthy then .error (.badProcess path) else .ok {}
  | none => .ok {}

/-- The platforms that are found for a node. -/
def readPlatforms (members : Members) (path : String) : Except SchemaError (List Json) :=
  match members.get? "platforms" with
  | some (.array items) => .ok items
  | some other => if other.truthy then .error (.badPlatforms path) else .ok []
  | none => .ok []

/-- The texts of a node, behind what it says of processes and platforms. -/
def readTexts (members : Members) (processes : Processes) (platforms : List Json) :
    Except SchemaError Info := do
  let name ← textAt members "name"
  let description ← textAt members "description"
  let platforms ← platforms.mapM readText
  let version ← textAt members "version"
  let repoUrl ← textAt members "repoUrl"
  let websiteUrl ← textAt members "websiteUrl"
  let slug ← textAt members "slug"
  return { infoOf members with
    processes, name, description, platforms, version, repoUrl, websiteUrl, slug }

theorem readProcesses_eq_ok_iff {processes : Processes} :
    readProcesses members path = .ok processes ↔
      (∀ value, members.get? "process" = some value →
        value.truthy = false ∨ ∃ marks, value = .object marks) ∧
      processesOf members = processes := by
  unfold readProcesses processesOf
  cases members.get? "process" with
  | none => simp
  | some value =>
    cases off : value.truthy <;> cases value <;> simp [off]

theorem readPlatforms_eq_ok_iff {platforms : List Json} :
    readPlatforms members path = .ok platforms ↔
      (∀ value, members.get? "platforms" = some value →
        value.truthy = false ∨ ∃ items, value = .array items) ∧
      platformItems members = platforms := by
  unfold readPlatforms platformItems
  cases members.get? "platforms" with
  | none => simp
  | some value =>
    cases off : value.truthy <;> cases value <;> simp [off]

theorem readText_eq_ok_iff {text : String} :
    readText value = .ok text ↔ HasText value ∧ value.text = text := by
  unfold readText HasText
  split
  next long => simp [Nat.not_le.mpr long]
  next short => simp [Nat.not_lt.mp short]

theorem textAt_eq_ok_iff {text : String} :
    textAt members key = .ok text ↔ Spelt HasText members key ∧ textOf members key = text := by
  unfold textAt textOf Spelt
  cases present? members key with
  | none => simp
  | some value => simp [readText_eq_ok_iff]

theorem mapM_readText_eq_ok_iff {items : List Json} {texts : List String} :
    items.mapM readText = .ok texts ↔
      (∀ item ∈ items, HasText item) ∧ items.map Json.text = texts := by
  rw [mapM_eq_ok_iff]
  simp only [readText_eq_ok_iff]
  induction items generalizing texts with
  | nil => cases texts <;> simp
  | cons item rest ih =>
    cases texts with
    | nil => simp
    | cons text texts => simp [ih, and_assoc, and_left_comm]

theorem readTexts_eq_ok_iff {processes : Processes} {platforms : List Json} {info : Info} :
    readTexts members processes platforms = .ok info ↔
      (∀ item ∈ platforms, HasText item) ∧ (∀ key ∈ commonKeys, Spelt HasText members key) ∧
      info = { infoOf members with processes, platforms := platforms.map Json.text } := by
  simp only [readTexts, bind_eq_ok_iff, textAt_eq_ok_iff, mapM_readText_eq_ok_iff, commonKeys]
  constructor
  · rintro ⟨_, ⟨name, rfl⟩, _, ⟨description, rfl⟩, _, ⟨listed, rfl⟩, _, ⟨version, rfl⟩,
      _, ⟨repoUrl, rfl⟩, _, ⟨websiteUrl, rfl⟩, _, ⟨slug, rfl⟩, ⟨⟩⟩
    refine ⟨listed, ?_, rfl⟩
    simp [name, description, version, repoUrl, websiteUrl, slug]
  · rintro ⟨listed, texts, rfl⟩
    simp only [List.forall_mem_cons] at texts
    obtain ⟨name, description, version, repoUrl, websiteUrl, slug, -⟩ := texts
    exact ⟨_, ⟨name, rfl⟩, _, ⟨description, rfl⟩, _, ⟨listed, rfl⟩, _, ⟨version, rfl⟩,
      _, ⟨repoUrl, rfl⟩, _, ⟨websiteUrl, rfl⟩, _, ⟨slug, rfl⟩, rfl⟩

/-- The common part of a node: the processes, then the platforms, and the texts. -/
theorem readInfo_eq : readInfo members path = (do
    let processes ← readProcesses members path
    let platforms ← readPlatforms members path
    readTexts members processes platforms) := by
  unfold readInfo
  -- the reader continues within the branches of each field; here the rest is named
  extract_lets rest
  have rest_eq (processes : Processes) : rest processes = (do
      let platforms ← readPlatforms members path
      readTexts members processes platforms) := by
    unfold readPlatforms
    simp only [rest]
    cases members.get? "platforms" with
    | none => rfl
    | some value =>
      cases value with
      | array => rfl
      | _ =>
        dsimp only
        split <;> rfl
  simp only [← rest_eq]
  unfold readProcesses
  cases members.get? "process" with
  | none => rfl
  | some value =>
    cases value with
    | object => rfl
    | _ =>
      dsimp only
      split <;> rfl

theorem readInfo_eq_ok_iff {info : Info} :
    readInfo members path = .ok info ↔ WellMarked HasText members ∧ info = infoOf members := by
  simp only [readInfo_eq, bind_eq_ok_iff, readProcesses_eq_ok_iff, readPlatforms_eq_ok_iff,
    readTexts_eq_ok_iff]
  constructor
  · rintro ⟨_, ⟨process, rfl⟩, _, ⟨platforms, rfl⟩, listed, texts, rfl⟩
    exact ⟨⟨process, platforms, listed, texts⟩, rfl⟩
  · rintro ⟨marks, rfl⟩
    exact ⟨_, ⟨marks.process, rfl⟩, _, ⟨marks.platforms, rfl⟩, marks.listed, marks.texts, rfl⟩

theorem partOf?_eq_none (absent : present? members key = none) : partOf? members key = none := by
  unfold partOf?
  split
  · next found => rw [absent] at found; cases found
  · rfl

theorem exists_partOf?_eq (found : present? members key = some value) :
    ∃ smaller, partOf? members key = some ⟨value, smaller⟩ := by
  refine ⟨sizeOf_present?_lt found, ?_⟩
  unfold partOf?
  split
  · next other =>
    have same := Option.some.inj (found.symm.trans other)
    subst same
    rfl
  · next absent => rw [found] at absent; cases absent

/-- The items of a collection, each read at its path. -/
theorem readAll_eq {read : Json → String → Except SchemaError α} : readAll read members key path =
    match present? members key with
    | none => .ok []
    | some (.array items) =>
      items.zipIdx.mapM fun entry => read entry.1 s!"{path}.{key}[{entry.2}]"
    | some other => .error (.notList path key other.kindName) := by
  unfold readAll itemsOf
  cases found : present? members key with
  | none => rw [partOf?_eq_none found]; rfl
  | some value =>
    obtain ⟨smaller, part⟩ := exists_partOf?_eq found
    rw [part]
    cases value with
    | array items =>
      have entries : items.zipIdx = items.attach.zipIdx.map (Prod.map Subtype.val id) := by
        rw [← List.zipIdx_map, List.attach_map_subtype_val]
      dsimp only
      rw [entries, List.mapM_map]
      exact List.mapM_map
    | _ => rfl

/-- Items with their numbers fit results as the items do. -/
theorem forall₂_zipIdx_iff {Fits : Json × ℕ → α → Prop} {items : List Json} {start : ℕ}
    {results : List α}
    (each : ∀ item ∈ items, ∀ index result, Fits (item, index) result ↔ Of item result) :
    List.Forall₂ Fits (items.zipIdx start) results ↔ List.Forall₂ Of items results := by
  induction items generalizing start results with
  | nil => simp
  | cons item rest ih =>
    obtain ⟨first, others⟩ := List.forall_mem_cons.mp each
    simp only [List.zipIdx_cons, List.forall₂_cons_left_iff, first, ih others]

/-- A collection is read if all its items are, each as what it stands for. -/
theorem readAll_eq_ok_iff {read : Json → String → Except SchemaError α} {results : List α}
    (each : ∀ {item : Json}, sizeOf item < sizeOf (Json.object members) →
      ∀ {path result}, read item path = .ok result ↔ Of item result) :
    readAll read members key path = .ok results ↔ CollectionOf Of members key results := by
  rw [readAll_eq]
  unfold CollectionOf Collects
  cases found : present? members key with
  | none => simp [eq_comm]
  | some value =>
    cases value with
    | array items =>
      have smaller (item : Json) (member : item ∈ items) :
          sizeOf item < sizeOf (Json.object members) := Collects.sizeOf_lt (.inr found) member
      dsimp only
      rw [mapM_eq_ok_iff, forall₂_zipIdx_iff fun item member _ _ => each (smaller item member)]
      simp
    | _ => simp

/-- A part that may be missing is read as what it stands for. -/
theorem mapM_eq_ok_iff_rel {read : Json → Except SchemaError α} {value? : Option Json}
    {result? : Option α} (each : ∀ {value result}, read value = .ok result ↔ Of value result) :
    value?.mapM read = .ok result? ↔ Option.Rel Of value? result? := by
  cases value? with
  | none =>
    constructor
    · rintro ⟨⟩
      exact .none
    · rintro ⟨⟩
      rfl
  | some value =>
    simp only [Option.mapM_some, map_eq_pure_bind, bind_eq_ok_iff, each]
    constructor
    · rintro ⟨result, fit, ⟨⟩⟩
      exact .some fit
    · intro fits
      cases fits with
      | some fit => exact ⟨_, fit, rfl⟩

/-! ### Nodes -/

theorem readPossibleValue_eq_ok_iff {member : PossibleValue} :
    readPossibleValue value path = .ok member ↔ PossibleValueOf value member := by
  rw [readPossibleValue, membersOf_bind_eq_ok_iff]
  simp only [bind_eq_ok_iff, readInfo_eq_ok_iff, textAt_eq_ok_iff]
  constructor
  · rintro ⟨members, object, _, ⟨marks, rfl⟩, _, ⟨spelt, rfl⟩, ⟨⟩⟩
    exact ⟨members, object, marks, spelt, rfl, rfl⟩
  · rintro ⟨members, object, marks, spelt, info, text⟩
    refine ⟨members, object, _, ⟨marks, rfl⟩, _, ⟨spelt, rfl⟩, ?_⟩
    rw [← info, ← text]
    rfl

theorem readAll_possibleValues {nodes : List PossibleValue} :
    readAll readPossibleValue members key path = .ok nodes ↔
      CollectionOf PossibleValueOf members key nodes :=
  readAll_eq_ok_iff fun _ => readPossibleValue_eq_ok_iff

/-- A property, by its collections. -/
theorem readProperty_eq : readProperty value path = (do
    let ⟨members, _⟩ ← membersOf value path
    let info ← readInfo members path
    let properties ← readAll readProperty members "properties" path
    let parameters ← readAll readProperty members "parameters" path
    let possibleValues ← readAll readPossibleValue members "possibleValues" path
    return { info, properties, parameters, possibleValues }) := by
  rw [readProperty]
  simp only [readAll, bind_assoc]

theorem readProperty_eq_ok_iff {property : Property} :
    readProperty value path = .ok property ↔ PropertyOf value property := by
  -- on the size of the value, since its items are smaller
  induction size : sizeOf value using Nat.strongRecOn generalizing value path property with
  | _ size ih =>
    rw [readProperty_eq, membersOf_bind_eq_ok_iff, propertyOf_iff]
    refine exists_congr fun members => ?_
    simp only [exists_prop]
    refine and_congr_right fun object => ?_
    have below {item : Json} (smaller : sizeOf item < sizeOf (Json.object members)) {path : String}
        {node : Property} : readProperty item path = .ok node ↔ PropertyOf item node :=
      ih _ (by rw [← size, object]; exact smaller) rfl
    simp only [bind_eq_ok_iff, readInfo_eq_ok_iff, readAll_eq_ok_iff below,
      readAll_possibleValues]
    constructor
    · rintro ⟨_, ⟨marks, rfl⟩, _, fields, _, parameters, _, values, ⟨⟩⟩
      exact ⟨marks, rfl, fields, parameters, values⟩
    · rintro ⟨marks, info, fields, parameters, values⟩
      exact ⟨_, ⟨marks, info⟩, _, fields, _, parameters, _, values, by cases property; rfl⟩

theorem readAll_properties {nodes : List Property} :
    readAll readProperty members key path = .ok nodes ↔
      CollectionOf PropertyOf members key nodes :=
  readAll_eq_ok_iff fun _ => readProperty_eq_ok_iff

/-- An event, by its payload. -/
theorem readEvent_eq : readEvent value path = (do
    let ⟨members, _⟩ ← membersOf value path
    let info ← readInfo members path
    let returns ← readAll readProperty members "returns" path
    return { info, returns }) := by
  simp only [readEvent, readAll, bind_assoc]

theorem readEvent_eq_ok_iff {event : Event} :
    readEvent value path = .ok event ↔ EventOf value event := by
  rw [readEvent_eq, membersOf_bind_eq_ok_iff]
  refine exists_congr fun members => ?_
  simp only [exists_prop]
  refine and_congr_right fun object => ?_
  simp only [bind_eq_ok_iff, readInfo_eq_ok_iff, readAll_properties]
  constructor
  · rintro ⟨_, ⟨marks, rfl⟩, _, returns, ⟨⟩⟩
    exact ⟨marks, rfl, returns⟩
  · rintro ⟨marks, info, returns⟩
    exact ⟨_, ⟨marks, info⟩, _, returns, rfl⟩

theorem readAll_events {nodes : List Event} :
    readAll readEvent members key path = .ok nodes ↔
      CollectionOf EventOf members key nodes :=
  readAll_eq_ok_iff fun _ => readEvent_eq_ok_iff

/-- A method, by its result and its parameters. -/
theorem readMethod_eq : readMethod value path = (do
    let ⟨members, _⟩ ← membersOf value path
    let returns ← (present? members "returns").mapM fun result =>
      readProperty result s!"{path}.returns"
    let info ← readInfo members path
    let signature ← textAt members "signature"
    let parameters ← readAll readProperty members "parameters" path
    return { info, signature, parameters, returns }) := by
  simp only [readMethod, readAll, bind_assoc]

theorem readMethod_eq_ok_iff {method : Method} :
    readMethod value path = .ok method ↔ MethodOf value method := by
  rw [readMethod_eq, membersOf_bind_eq_ok_iff]
  refine exists_congr fun members => ?_
  simp only [exists_prop]
  refine and_congr_right fun object => ?_
  simp only [bind_eq_ok_iff, readInfo_eq_ok_iff, mapM_eq_ok_iff_rel readProperty_eq_ok_iff,
    readAll_properties, textAt_eq_ok_iff]
  constructor
  · rintro ⟨_, result, _, ⟨marks, rfl⟩, _, ⟨spelt, rfl⟩, _, parameters, ⟨⟩⟩
    exact ⟨marks, rfl, spelt, rfl, parameters, result⟩
  · rintro ⟨marks, info, spelt, signature, parameters, result⟩
    exact ⟨_, result, _, ⟨marks, info⟩, _, ⟨spelt, rfl⟩, _, parameters,
      by rw [← signature]; rfl⟩

theorem readAll_methods {nodes : List Method} :
    readAll readMethod members key path = .ok nodes ↔
      CollectionOf MethodOf members key nodes :=
  readAll_eq_ok_iff fun _ => readMethod_eq_ok_iff

theorem readBlock_eq_ok_iff {block : Block} :
    readBlock value path = .ok block ↔ BlockOf value block := by
  rw [readBlock, membersOf_bind_eq_ok_iff]
  refine exists_congr fun members => ?_
  simp only [exists_prop]
  refine and_congr_right fun object => ?_
  simp only [bind_eq_ok_iff, readInfo_eq_ok_iff, mapM_eq_ok_iff_rel readMethod_eq_ok_iff,
    readAll_events, readAll_properties, readAll_methods, textAt_eq_ok_iff]
  constructor
  · rintro ⟨_, constructorMethod, _, ⟨marks, rfl⟩, _, events, _, properties, _, methods,
      _, ⟨spelt, rfl⟩, _, instanceEvents, _, instanceProperties, _, instanceMethods,
      _, staticMethods, ⟨⟩⟩
    exact ⟨marks, rfl, ⟨spelt, rfl⟩, events, properties, methods, instanceEvents,
      instanceProperties, instanceMethods, staticMethods, constructorMethod⟩
  · rintro ⟨marks, info, ⟨spelt, instanceName⟩, events, properties, methods, instanceEvents,
      instanceProperties, instanceMethods, staticMethods, constructorMethod⟩
    exact ⟨_, constructorMethod, _, ⟨marks, info⟩, _, events, _, properties, _, methods,
      _, ⟨spelt, rfl⟩, _, instanceEvents, _, instanceProperties, _, instanceMethods,
      _, staticMethods, by rw [← instanceName]; rfl⟩

/-! ### Errors -/

/-- How the reading of a part can fail: where the part has its form, only because of a text, and
where all that is read has a text, only because of the form. -/
structure Judges (Form : Prop) (value : Json) (result : Except SchemaError α) : Prop where
  /-- In its form it has a value without a text. -/
  ofForm : Form → ∀ error, result = .error error → error = .longInteger
  /-- Where there are texts, it has another form. -/
  ofText : HasText value → ∀ error, result = .error error → error ≠ .longInteger

section Judges

variable {β : Type} {Form : Prop} {result : Except SchemaError α} {other : Json}

theorem judges_ok (a : α) : Judges Form value (.ok a : Except SchemaError α) :=
  ⟨fun _ _ failed => (nomatch failed), fun _ _ failed => (nomatch failed)⟩

theorem judges_refused {error : SchemaError} (refused : ¬ Form) (kind : error ≠ .longInteger) :
    Judges Form value (.error error : Except SchemaError α) :=
  ⟨fun form => absurd form refused, fun _ _ failed => Except.error.inj failed ▸ kind⟩

theorem Judges.bind {next : α → Except SchemaError β} (first : Judges Form value result)
    (after : ∀ a, result = .ok a → Judges Form value (next a)) :
    Judges Form value (result >>= next) := by
  constructor
  · intro form error failed
    rcases bind_eq_error_iff.mp failed with here | ⟨a, ran, later⟩
    · exact first.ofForm form error here
    · exact (after a ran).ofForm form error later
  · intro text error failed
    rcases bind_eq_error_iff.mp failed with here | ⟨a, ran, later⟩
    · exact first.ofText text error here
    · exact (after a ran).ofText text error later

/-- A part of a whole has its form if the whole has, and texts if the whole has. -/
theorem Judges.of_part {Whole : Prop} (part : Judges Form value result) (form : Whole → Form)
    (text : HasText other → HasText value) : Judges Whole other result :=
  ⟨fun whole => part.ofForm (form whole), fun whole => part.ofText (text whole)⟩

theorem judges_mapM {β : Type} {items : List β} {f : β → Except SchemaError α}
    (each : ∀ item ∈ items, Judges Form value (f item)) : Judges Form value (items.mapM f) := by
  constructor
  · intro form error failed
    obtain ⟨item, member, here⟩ := exists_of_mapM_eq_error failed
    exact (each item member).ofForm form error here
  · intro text error failed
    obtain ⟨item, member, here⟩ := exists_of_mapM_eq_error failed
    exact (each item member).ofText text error here

theorem judges_readText : Judges Form value (readText value) := by
  unfold readText
  split
  next long =>
    exact ⟨fun _ _ failed => (Except.error.inj failed).symm,
      fun short => absurd long (Nat.not_lt.mpr short)⟩
  next => exact judges_ok _

end Judges

/-! ### Errors of nodes -/

/-- A value that is found in a node has a text if the node has. -/
theorem HasText.of_get? (text : HasText (.object members)) (found : members.get? key = some value) :
    HasText value :=
  hasText_object.mp text (key, value) (mem_of_lookup_eq_some found)

theorem HasText.of_present? (text : HasText (.object members))
    (found : present? members key = some value) : HasText value := by
  have there : lookup? members key = some value := by
    unfold present? at found
    split at found
    next => cases found
    next => exact found
  unfold lookup? at there
  split at there
  next plain =>
    cases there
    exact text.of_get? plain
  next => exact text.of_get? there

theorem judges_textAt {Form : Prop} : Judges Form (.object members) (textAt members key) := by
  unfold textAt
  cases found : present? members key with
  | none => exact judges_ok ""
  | some value => exact judges_readText.of_part id fun text => text.of_present? found

theorem judges_readProcesses :
    Judges (WellMarked AnyText members) (.object members) (readProcesses members path) := by
  unfold readProcesses
  cases found : members.get? "process" with
  | none => exact judges_ok _
  | some value =>
    cases value with
    | object => exact judges_ok _
    | _ =>
      dsimp only
      split
      next on =>
        refine judges_refused (fun marks => ?_) (by simp)
        obtain off | ⟨_, object⟩ := marks.process _ found
        · simp [off] at on
        · cases object
      next => exact judges_ok _

theorem judges_readPlatforms :
    Judges (WellMarked AnyText members) (.object members) (readPlatforms members path) := by
  unfold readPlatforms
  cases found : members.get? "platforms" with
  | none => exact judges_ok _
  | some value =>
    cases value with
    | array => exact judges_ok _
    | _ =>
      dsimp only
      split
      next on =>
        refine judges_refused (fun marks => ?_) (by simp)
        obtain off | ⟨_, list⟩ := marks.platforms _ found
        · simp [off] at on
        · cases list
      next => exact judges_ok _

theorem judges_readInfo :
    Judges (WellMarked AnyText members) (.object members) (readInfo members path) := by
  rw [readInfo_eq]
  refine judges_readProcesses.bind fun processes _ => judges_readPlatforms.bind fun items read => ?_
  have platforms : Judges (WellMarked AnyText members) (.object members) (items.mapM readText) := by
    refine judges_mapM fun item member => judges_readText.of_part id fun text => ?_
    obtain ⟨-, rfl⟩ := readPlatforms_eq_ok_iff.mp read
    unfold platformItems at member
    split at member
    next found => exact hasText_array.mp (text.of_get? found) item member
    next => cases member
  exact judges_textAt.bind fun _ _ => judges_textAt.bind fun _ _ => platforms.bind fun _ _ =>
    judges_textAt.bind fun _ _ => judges_textAt.bind fun _ _ => judges_textAt.bind fun _ _ =>
      judges_textAt.bind fun _ _ => judges_ok _

/-- A node is judged by its members. -/
theorem judges_node {Node : Members → Prop}
    {next : { members : Members // value = .object members } → Except SchemaError α}
    (each : ∀ members, ∀ object : value = .object members,
      Judges (Node members) (.object members) (next ⟨members, object⟩)) :
    Judges (∃ members, value = .object members ∧ Node members) value
      (membersOf value path >>= next) := by
  cases value with
  | object members =>
    refine (each members rfl).of_part ?_ id
    rintro ⟨_, ⟨⟩, node⟩
    exact node
  | _ =>
    refine .bind (judges_refused ?_ (by simp)) fun other _ => nomatch other.2
    rintro ⟨_, object, -⟩
    cases object

/-- A collection is judged by its items. -/
theorem judges_readAll {read : Json → String → Except SchemaError α} {IsNode : Json → Prop}
    (each : ∀ {item : Json}, sizeOf item < sizeOf (Json.object members) →
      ∀ {path}, Judges (IsNode item) item (read item path)) :
    Judges (IsCollection IsNode members key) (.object members)
      (readAll read members key path) := by
  rw [readAll_eq]
  unfold IsCollection Collects
  cases found : present? members key with
  | none => exact judges_ok _
  | some value =>
    cases value with
    | array items =>
      refine judges_mapM fun entry listed => ?_
      have member : entry.1 ∈ items := List.fst_mem_of_mem_zipIdx listed
      refine (each (Collects.sizeOf_lt (.inr found) member)).of_part ?_ fun text =>
        hasText_array.mp (text.of_present? found) _ member
      rintro ⟨others, ⟨none, -⟩ | same, nodes⟩
      · cases none
      · cases same
        exact nodes _ member
    | _ => exact judges_refused (by simp) (by simp)

/-- A part that may be missing is judged by its value. -/
theorem judges_present? {read : Json → Except SchemaError α} {IsNode : Json → Prop}
    (each : ∀ {value : Json}, Judges (IsNode value) value (read value)) :
    Judges (∀ value, present? members key = some value → IsNode value) (.object members)
      ((present? members key).mapM read) := by
  cases found : present? members key with
  | none => exact judges_ok _
  | some value =>
    rw [Option.mapM_some]
    exact (each.of_part (fun nodes => nodes value rfl) fun text => text.of_present? found).bind
      fun _ _ => judges_ok _

theorem judges_readPossibleValue :
    Judges (IsPossibleValue AnyText value) value (readPossibleValue value path) :=
  judges_node fun _ _ =>
    (judges_readInfo.of_part And.left id).bind fun _ _ => judges_textAt.bind fun _ _ => judges_ok _

theorem judges_readProperty :
    Judges (IsProperty AnyText value) value (readProperty value path) := by
  -- on the size of the value, since its items are smaller
  induction size : sizeOf value using Nat.strongRecOn generalizing value path with
  | _ size ih =>
    rw [readProperty_eq, isProperty_iff]
    refine judges_node fun members object => ?_
    have below {key : String} : Judges (IsCollection (IsProperty AnyText) members key)
        (.object members) (readAll readProperty members key path) :=
      judges_readAll fun smaller => ih _ (by rw [← size, object]; exact smaller) rfl
    have values : Judges (IsCollection (IsPossibleValue AnyText) members "possibleValues")
        (.object members) (readAll readPossibleValue members "possibleValues" path) :=
      judges_readAll fun _ => judges_readPossibleValue
    refine (judges_readInfo.of_part And.left id).bind fun _ _ => ?_
    refine (below.of_part (·.2.1) id).bind fun _ _ => ?_
    refine (below.of_part (·.2.2.1) id).bind fun _ _ => ?_
    exact (values.of_part (·.2.2.2) id).bind fun _ _ => judges_ok _

theorem judges_readEvent : Judges (IsEvent AnyText value) value (readEvent value path) := by
  rw [readEvent_eq]
  refine judges_node fun members _ => (judges_readInfo.of_part And.left id).bind fun _ _ => ?_
  exact ((judges_readAll fun _ => judges_readProperty).of_part And.right id).bind
    fun _ _ => judges_ok _

theorem judges_readMethod : Judges (IsMethod AnyText value) value (readMethod value path) := by
  rw [readMethod_eq]
  refine judges_node fun members _ => ?_
  refine ((judges_present? judges_readProperty).of_part (·.2.2.2) id).bind fun _ _ => ?_
  refine (judges_readInfo.of_part And.left id).bind fun _ _ => judges_textAt.bind fun _ _ => ?_
  exact ((judges_readAll fun _ => judges_readProperty).of_part (·.2.2.1) id).bind
    fun _ _ => judges_ok _

theorem judges_readBlock : Judges (IsBlock AnyText value) value (readBlock value path) := by
  rw [readBlock]
  refine judges_node fun members _ => ?_
  have event {key : String} : Judges (IsCollection (IsEvent AnyText) members key)
      (.object members) (readAll readEvent members key path) :=
    judges_readAll fun _ => judges_readEvent
  have property {key : String} : Judges (IsCollection (IsProperty AnyText) members key)
      (.object members) (readAll readProperty members key path) :=
    judges_readAll fun _ => judges_readProperty
  have method {key : String} : Judges (IsCollection (IsMethod AnyText) members key)
      (.object members) (readAll readMethod members key path) :=
    judges_readAll fun _ => judges_readMethod
  refine ((judges_present? judges_readMethod).of_part (·.constructorMethod) id).bind fun _ _ => ?_
  refine (judges_readInfo.of_part (·.marks) id).bind fun _ _ => ?_
  refine (event.of_part (·.events) id).bind fun _ _ => ?_
  refine (property.of_part (·.properties) id).bind fun _ _ => ?_
  refine (method.of_part (·.methods) id).bind fun _ _ => judges_textAt.bind fun _ _ => ?_
  refine (event.of_part (·.instanceEvents) id).bind fun _ _ => ?_
  refine (property.of_part (·.instanceProperties) id).bind fun _ _ => ?_
  refine (method.of_part (·.instanceMethods) id).bind fun _ _ => ?_
  exact (method.of_part (·.staticMethods) id).bind fun _ _ => judges_ok _

/-! ### Documents -/

/-- A document whose source has a text. -/
theorem readSchema_of_hasText {source : Json} (named : HasText source) (document : Json) :
    readSchema document source =
      match document with
      | .array items => do
        let blocks ← items.zipIdx.mapM fun entry =>
          readBlock entry.1 s!"{source.text}[{entry.2}]"
        return { source, blocks }
      | other => .error (.notBlocks source.text other.kindName) := by
  have text : readText source = .ok source.text := readText_eq_ok_iff.mpr ⟨named, rfl⟩
  cases document <;> simp only [readSchema, text] <;> rfl

theorem readSchema_eq_ok_iff {document source : Json} (named : HasText source) {schema : Schema} :
    readSchema document source = .ok schema ↔
      schema.source = source ∧
        ∃ items, document = .array items ∧ List.Forall₂ BlockOf items schema.blocks := by
  rw [readSchema_of_hasText named]
  cases document with
  | array items =>
    have blocks {blocks : List Block} :
        (items.zipIdx.mapM fun entry => readBlock entry.1 s!"{source.text}[{entry.2}]") =
          .ok blocks ↔ List.Forall₂ BlockOf items blocks :=
      mapM_eq_ok_iff.trans (forall₂_zipIdx_iff fun _ _ _ _ => readBlock_eq_ok_iff)
    simp only [bind_eq_ok_iff, blocks, Json.array.injEq, exists_eq_left']
    constructor
    · rintro ⟨_, fits, ⟨⟩⟩
      exact ⟨rfl, fits⟩
    · rintro ⟨rfl, fits⟩
      exact ⟨_, fits, rfl⟩
  | _ => simp

theorem exists_readSchema_eq_ok_iff {document source : Json} (named : HasText source) :
    (∃ schema, readSchema document source = .ok schema) ↔ IsDescription HasText document := by
  simp only [readSchema_eq_ok_iff named, IsDescription, ← exists_blockOf_iff,
    ← exists_forall₂_iff]
  constructor
  · rintro ⟨schema, -, items, list, fits⟩
    exact ⟨items, list, schema.blocks, fits⟩
  · rintro ⟨items, list, blocks, fits⟩
    exact ⟨⟨source, blocks⟩, rfl, items, list, fits⟩

theorem judges_readSchema {document source : Json} (named : HasText source) :
    Judges (IsDescription AnyText document) document (readSchema document source) := by
  rw [readSchema_of_hasText named]
  cases document with
  | array items =>
    refine (judges_mapM fun entry listed => ?_).bind fun _ _ => judges_ok _
    have member : entry.1 ∈ items := List.fst_mem_of_mem_zipIdx listed
    refine judges_readBlock.of_part ?_ fun text => hasText_array.mp text _ member
    rintro ⟨_, ⟨⟩, blocks⟩
    exact blocks _ member
  | _ =>
    refine judges_refused ?_ (by simp)
    rintro ⟨_, list, -⟩
    cases list

/-- A document is read into a description exactly if the grammar accepts it, where an integer of too
many digits has no text. A document whose integers are short is read exactly if it has the form of a
description. A document that is not read is refused: with a schema error of its form only if it has
not this form, and else because of an integer of too many digits, which it has then. What is read
has the name that it is read under and, in the order of the items, the blocks that the items of the
document stand for. -/
theorem readSchema_accepts (document source : Json) (named : HasText source) :
    ((∃ schema, readSchema document source = .ok schema) ↔ IsDescription HasText document) ∧
    (document.longestInteger ≤ Json.digitLimit →
      ((∃ schema, readSchema document source = .ok schema) ↔ IsDescription AnyText document)) ∧
    (∀ error, readSchema document source = .error error →
      (error ≠ .longInteger → ¬ IsDescription AnyText document) ∧
      (error = .longInteger → Json.digitLimit < document.longestInteger)) ∧
    ∀ schema, readSchema document source = .ok schema ↔
      schema.source = source ∧
        ∃ items, document = .array items ∧ List.Forall₂ BlockOf items schema.blocks := by
  have accepted : _ ↔ IsDescription HasText document := exists_readSchema_eq_ok_iff named
  have judged : Judges _ document _ := judges_readSchema named
  refine ⟨accepted, fun short => ?_, fun error refused => ⟨fun other form => ?_, fun long => ?_⟩,
    fun _ => readSchema_eq_ok_iff named⟩
  · refine accepted.trans ⟨.mono fun _ _ => trivial, fun form => accepted.mp ?_⟩
    cases read : readSchema document source with
    | ok schema => exact ⟨schema, rfl⟩
    | error error =>
      exact absurd (judged.ofForm form error read) (judged.ofText short error read)
  · exact other (judged.ofForm form error refused)
  · exact Nat.not_le.mp fun short => judged.ofText short error refused long

/-- A module with an event. -/
def eventDocument : Json := .array [.object
  [("name", .string "app"), ("type", .string "Module"),
    ("events", .array [.object [("name", .string "ready")]])]]

theorem readSchema_accepts_sample :
    HasText (.string "app.json") ∧ IsDescription HasText eventDocument ∧
      ∃ schema, readSchema eventDocument (.string "app.json") = .ok schema ∧
        schema.source = .string "app.json" ∧
        ∃ items, eventDocument = .array items ∧ List.Forall₂ BlockOf items schema.blocks := by
  have named : HasText (.string "app.json") := Nat.zero_le _
  have evaluated : (readSchema eventDocument (.string "app.json")).isOk = true := by
    decide +kernel
  obtain ⟨schema, read⟩ := isOk_iff.mp evaluated
  obtain ⟨accepted, -, -, tree⟩ := readSchema_accepts eventDocument (.string "app.json") named
  exact ⟨named, accepted.mp ⟨schema, read⟩, schema, read, (tree schema).mp read⟩

/-- A block that has an integer of too many digits for its name. -/
def longNameDocument : Json := .array [.object [("name", .int (10 ^ 4300))]]

/-- It has the form of a description, but it is not read, and no schema error says so. -/
theorem readSchema_long_name :
    IsDescription AnyText longNameDocument ∧
      readSchema longNameDocument (.string "f.json") = .error .longInteger ∧
      SchemaError.isLimit .longInteger = true := by
  have none {IsNode : Json → Prop} {key : String}
      (absent : present? [("name", .int (10 ^ 4300))] key = none) :
      IsCollection IsNode [("name", .int (10 ^ 4300))] key :=
    ⟨[], .inl ⟨absent, rfl⟩, fun _ member => nomatch member⟩
  have node : IsBlockNode AnyText [("name", .int (10 ^ 4300))] :=
    { marks :=
        { process := fun _ found => nomatch found
          platforms := fun _ found => nomatch found
          listed := fun _ member => nomatch member
          texts := fun _ _ _ _ => trivial }
      instanceName := fun _ _ => trivial
      events := none rfl
      properties := none rfl
      methods := none rfl
      instanceEvents := none rfl
      instanceProperties := none rfl
      instanceMethods := none rfl
      staticMethods := none rfl
      constructorMethod := fun _ found => nomatch found }
  have form : IsDescription AnyText longNameDocument :=
    ⟨_, rfl, List.forall_mem_singleton.mpr ⟨_, rfl, node⟩⟩
  have named : HasText (.string "f.json") := Nat.zero_le _
  refine ⟨form, ?_, rfl⟩
  cases read : readSchema longNameDocument (.string "f.json") with
  | error error => rw [(judges_readSchema named).ofForm form error read]
  | ok schema =>
    obtain ⟨_, ⟨⟩, blocks⟩ := (exists_readSchema_eq_ok_iff named).mp ⟨schema, read⟩
    obtain ⟨_, ⟨⟩, block⟩ := blocks _ (List.mem_singleton_self _)
    have text := block.marks.texts "name" (by decide) (.int (10 ^ 4300)) rfl
    exact absurd text (Nat.not_le.mpr (Json.lt_digitCount_ten_pow 4300))

end HostBindings.Api
