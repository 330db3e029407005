import Mathlib.Data.List.Find
import HostBindings.Proofs.Reading.Descriptions

/-!
# Keys in two spellings

A key of a node may be written with a capital first letter, as long as the node does not have the
capitalized key as well. Which keys of which nodes are written so makes no difference: the same
description is read, or the document is refused with the same error.

The keys of what is said of processes, platforms, types and of what is required have one spelling.

## Main definitions

* `Api.NodeKind`, `NodeKind.below` — the kinds of nodes, and the keys of the nodes below
* `Api.twofoldKeys`, `Api.singleKeys` — the keys with two spellings, and with one
* `Api.Choice`, `Api.respell` — a document in other spellings, chosen node by node

## Main results

* `Api.lookup?_respelled`, `Api.get?_respelled` — what is found under a key
* `Api.readProperty_respell`, `Api.readEvent_respell`, `Api.readMethod_respell`,
  `Api.readBlock_respell` — one node
* `Api.readSchema_respell` — a document
-/

namespace HostBindings.Api

open Json (Members)

/-! ### Nodes and keys -/

/-- The kinds of nodes in a document. -/
inductive NodeKind where
  | block
  | event
  | method
  | property
  | possibleValue
  deriving DecidableEq, Repr

/-- The keys under which nodes stand below a node, with the kinds of these. -/
def NodeKind.below : NodeKind → List (String × NodeKind)
  | block =>
    [("events", event), ("properties", property), ("methods", method), ("instanceEvents", event),
      ("instanceProperties", property), ("instanceMethods", method),
      ("constructorMethod", method), ("staticMethods", method)]
  | event => [("returns", property)]
  | method => [("parameters", property), ("returns", property)]
  | property =>
    [("properties", property), ("parameters", property), ("possibleValues", possibleValue)]
  | possibleValue => []

/-- The kind of the nodes below a node under a key of either spelling, if there are nodes, with the
plain spelling of the key. -/
def NodeKind.below? (kind : NodeKind) (key : String) : Option (String × NodeKind) :=
  kind.below.find? fun entry => key == entry.1 || key == capitalized entry.1

/-- The keys of texts. -/
def textKeys : List String :=
  ["name", "description", "version", "repoUrl", "websiteUrl", "slug", "value", "signature",
    "instanceName"]

/-- The keys with two spellings: those of texts, and those under which nodes stand. -/
def twofoldKeys : List String :=
  textKeys ++
    ["returns", "constructorMethod", "events", "properties", "methods", "instanceEvents",
      "instanceProperties", "instanceMethods", "staticMethods", "parameters", "possibleValues"]

/-- The keys with one spelling. -/
def singleKeys : List String := ["type", "process", "platforms", "required"]

/-- No two spellings of keys are the same. -/
theorem nodup_spellings : (twofoldKeys ++ twofoldKeys.map capitalized ++ singleKeys).Nodup := by
  decide +kernel

section Keys

variable {kind : NodeKind} {key name : String}

/-- Capitalized keys are no plain keys. -/
theorem capitalized_ne_plain (twofold : name ∈ twofoldKeys) (other : key ∈ twofoldKeys) :
    capitalized name ≠ key := by
  have apart := (List.nodup_append.mp (List.nodup_append.mp nodup_spellings).1).2.2
  exact fun same => apart key other (capitalized name) (List.mem_map_of_mem twofold) same.symm

theorem capitalized_injOn (twofold : name ∈ twofoldKeys) (other : key ∈ twofoldKeys) :
    capitalized name = capitalized key ↔ name = key := by
  have single := (List.nodup_append.mp (List.nodup_append.mp nodup_spellings).1).2.1
  exact ⟨List.inj_on_of_nodup_map single twofold other, congrArg capitalized⟩

/-- A key with one spelling is no spelling of another key. -/
theorem not_single (single : key ∈ singleKeys) (twofold : name ∈ twofoldKeys) :
    name ≠ key ∧ capitalized name ≠ key := by
  have apart := (List.nodup_append.mp nodup_spellings).2.2
  exact ⟨apart name (List.mem_append_left _ twofold) key single,
    apart (capitalized name) (List.mem_append_right _ (List.mem_map_of_mem twofold)) key single⟩

/-- The keys of the nodes below a node have two spellings. -/
theorem mem_twofoldKeys_of_below (kind : NodeKind) :
    ∀ entry ∈ kind.below, entry.1 ∈ twofoldKeys := by
  cases kind <;> decide

theorem below?_plain (twofold : key ∈ twofoldKeys) :
    kind.below? key = kind.below.find? fun entry => key == entry.1 := by
  refine List.find?_congr fun entry listed => ?_
  have plain := capitalized_ne_plain (mem_twofoldKeys_of_below kind entry listed) twofold
  rw [beq_false_of_ne plain.symm, Bool.or_false]

theorem below?_of_lookup {below : NodeKind} (twofold : key ∈ twofoldKeys)
    (nodes : kind.below.lookup key = some below) : kind.below? key = some (key, below) := by
  obtain ⟨before, after, listed, others⟩ := List.lookup_eq_some_iff.mp nodes
  rw [below?_plain twofold, List.find?_eq_some_iff_append]
  exact ⟨beq_self_eq_true key, before, after, listed, others⟩

/-- The nodes below are found in both spellings of their key. -/
theorem below?_capitalized (twofold : key ∈ twofoldKeys) :
    kind.below? (capitalized key) = kind.below? key := by
  rw [below?_plain twofold]
  refine List.find?_congr fun entry listed => ?_
  have other := mem_twofoldKeys_of_below kind entry listed
  rw [beq_false_of_ne (capitalized_ne_plain twofold other), Bool.false_or, Bool.eq_iff_iff,
    beq_iff_eq, beq_iff_eq, capitalized_injOn twofold other]

theorem below?_single (single : key ∈ singleKeys) : kind.below? key = none := by
  refine List.find?_eq_none.mpr fun entry listed => ?_
  have other := not_single single (mem_twofoldKeys_of_below kind entry listed)
  simp [other.1.symm, other.2.symm]

/-- No nodes stand under the key of a text. -/
theorem below?_text (kind : NodeKind) : ∀ key ∈ textKeys, kind.below? key = none := by
  intro key text
  rw [below?_plain (List.mem_append_left _ text)]
  revert key
  cases kind <;> decide

end Keys

/-! ### Other spellings -/

/-- One step from a node to a node below it: along a key, or to an item of a list. -/
inductive NodeStep where
  | key (name : String)
  | item (index : Nat)
  deriving DecidableEq, Repr

/-- Which keys are to be written with a capital first letter, for each node by the steps that lead
to it. -/
abbrev Choice := List NodeStep → String → Bool

/-- What is chosen for the nodes below a step. -/
def Choice.below (choice : Choice) (step : NodeStep) : Choice := fun steps => choice (step :: steps)

/-- A key as it is written in a node with certain keys: a plain one is capitalized where this is
chosen, unless the node has the capitalized key already. -/
def Choice.spell (choice : Choice) (keys : List String) (key : String) : String :=
  if key ∈ twofoldKeys ∧ choice [] key = true ∧ capitalized key ∉ keys then capitalized key
  else key

mutual
/-- Nodes of a kind, one or a list of them, with the keys that are chosen capitalized, in them and
in all nodes below. -/
def respell (kind : NodeKind) (choice : Choice) : Json → Json
  | .object members => .object (respellMembers kind choice (members.map (·.1)) members)
  | .array items => .array (respellItems kind choice 0 items)
  | value => value

/-- The items of a list of nodes. -/
def respellItems (kind : NodeKind) (choice : Choice) (index : Nat) : List Json → List Json
  | [] => []
  | item :: rest =>
    respell kind (choice.below (.item index)) item :: respellItems kind choice (index + 1) rest

/-- The members of a node with certain keys. -/
def respellMembers (kind : NodeKind) (choice : Choice) (keys : List String) : Members → Members
  | [] => []
  | (key, value) :: rest =>
    (choice.spell keys key,
      match kind.below? key with
      | some (plain, below) => respell below (choice.below (.key plain)) value
      | none => value) :: respellMembers kind choice keys rest
end

variable {kind below : NodeKind} {choice : Choice} {members : Members}
  {key plain name path : String} {value : Json} {α : Type}
  {read : Json → String → Except SchemaError α}

/-- A node with the keys that are chosen capitalized. -/
def respelled (kind : NodeKind) (choice : Choice) (members : Members) : Members :=
  respellMembers kind choice (members.map (·.1)) members

/-- The value of a key, with the keys of the nodes in it that are chosen capitalized. -/
def respellUnder (kind : NodeKind) (choice : Choice) (key : String) (value : Json) : Json :=
  match kind.below? key with
  | some (plain, below) => respell below (choice.below (.key plain)) value
  | none => value

theorem respellUnder_of_below (nodes : kind.below? key = some (plain, below)) (value : Json) :
    respellUnder kind choice key value = respell below (choice.below (.key plain)) value := by
  rw [respellUnder, nodes]

theorem respellUnder_of_leaf (leaf : kind.below? key = none) (value : Json) :
    respellUnder kind choice key value = value := by
  rw [respellUnder, leaf]

theorem respellUnder_capitalized (twofold : key ∈ twofoldKeys) :
    respellUnder kind choice (capitalized key) = respellUnder kind choice key := by
  funext value
  rw [respellUnder, below?_capitalized twofold, respellUnder]

theorem respell_eq_null_iff : respell kind choice value = .null ↔ value = .null := by
  cases value <;> simp [respell]

theorem respellUnder_eq_null_iff : respellUnder kind choice key value = .null ↔ value = .null := by
  unfold respellUnder
  split
  · exact respell_eq_null_iff
  · rfl

/-! ### Looking up keys -/

/-- Which keys are written as a plain key: that key alone, unless it is capitalized. -/
theorem spell_eq_plain_iff {keys : List String} (twofold : key ∈ twofoldKeys) :
    choice.spell keys name = key ↔
      name = key ∧ ¬ (choice [] key = true ∧ capitalized key ∉ keys) := by
  unfold Choice.spell
  split
  · next moved =>
    refine iff_of_false (capitalized_ne_plain moved.1 twofold) ?_
    rintro ⟨rfl, kept⟩
    exact kept moved.2
  · next kept =>
    refine ⟨?_, And.left⟩
    rintro rfl
    exact ⟨rfl, fun moved => kept ⟨twofold, moved⟩⟩

/-- Which keys are written as a capitalized key: that key, and the plain one if it is
capitalized. -/
theorem spell_eq_capitalized_iff {keys : List String} (twofold : key ∈ twofoldKeys) :
    choice.spell keys name = capitalized key ↔
      name = capitalized key ∨ name = key ∧ choice [] key = true ∧ capitalized key ∉ keys := by
  unfold Choice.spell
  split
  · next moved =>
    have plain : name ≠ capitalized key := (capitalized_ne_plain twofold moved.1).symm
    rw [capitalized_injOn moved.1 twofold]
    constructor
    · rintro rfl
      exact .inr ⟨rfl, moved.2⟩
    · rintro (same | ⟨same, -⟩)
      · exact absurd same plain
      · exact same
  · next kept =>
    refine ⟨.inl, ?_⟩
    rintro (same | ⟨rfl, moved⟩)
    · exact same
    · exact absurd ⟨twofold, moved⟩ kept

/-- Which keys are written as a key with one spelling: that key alone. -/
theorem spell_eq_single_iff {keys : List String} (single : key ∈ singleKeys) :
    choice.spell keys name = key ↔ name = key := by
  unfold Choice.spell
  split
  · next moved =>
    have other := not_single single moved.1
    exact iff_of_false other.2 other.1
  · rfl

/-- Under a spelling that only one key is given, the value of this key is found. -/
theorem get?_respellMembers {keys : List String}
    (given : ∀ name ∈ members.map (·.1), choice.spell keys name = plain ↔ name = key) :
    (respellMembers kind choice keys members).get? plain =
      (members.get? key).map (respellUnder kind choice key) := by
  induction members with
  | nil => rfl
  | cons member rest ih =>
    obtain ⟨name, value⟩ := member
    obtain ⟨first, others⟩ := List.forall_mem_cons.mp given
    by_cases same : name = key
    · subst same
      have here : choice.spell keys name = plain := first.mpr rfl
      simp [respellMembers, Members.get?, here, respellUnder]
    · have elsewhere : choice.spell keys name ≠ plain := fun spelled => same (first.mp spelled)
      have after := ih others
      simp only [Members.get?] at after
      simp [respellMembers, Members.get?, List.lookup_cons, beq_false_of_ne (Ne.symm elsewhere),
        beq_false_of_ne (Ne.symm same), after]

/-- Under a spelling that no key is given, nothing is found. -/
theorem get?_respellMembers_eq_none {keys : List String}
    (free : ∀ name ∈ members.map (·.1), choice.spell keys name ≠ plain) :
    (respellMembers kind choice keys members).get? plain = none := by
  have absent : plain ∉ (respellMembers kind choice keys members).map (·.1) := by
    induction members with
    | nil => simp [respellMembers]
    | cons member rest ih =>
      obtain ⟨first, others⟩ := List.forall_mem_cons.mp free
      rw [respellMembers, List.map_cons, List.mem_cons, not_or]
      exact ⟨Ne.symm first, ih others⟩
  exact lookup_eq_none_of_not_mem absent

/-- What is found under a key with two spellings is what was found, with the chosen spellings in
the nodes there. -/
theorem lookup?_respelled (twofold : key ∈ twofoldKeys) :
    lookup? (respelled kind choice members) key =
      (lookup? members key).map (respellUnder kind choice key) := by
  unfold lookup? respelled
  -- the plain key is looked up first, so the capitalized one counts only if it is the only one
  by_cases moved : choice [] key = true ∧ capitalized key ∉ members.map (·.1)
  · have vacant : (respellMembers kind choice (members.map (·.1)) members).get? key = none :=
      get?_respellMembers_eq_none fun name _ spelled =>
        ((spell_eq_plain_iff twofold).mp spelled).2 moved
    have carried : (respellMembers kind choice (members.map (·.1)) members).get? (capitalized key) =
        (members.get? key).map (respellUnder kind choice key) := by
      refine get?_respellMembers fun name listed => ?_
      rw [spell_eq_capitalized_iff twofold, and_iff_left moved]
      exact or_iff_right fun same => moved.2 (same ▸ listed)
    have unlisted : members.get? (capitalized key) = none := lookup_eq_none_of_not_mem moved.2
    rw [vacant, carried, unlisted]
    cases members.get? key <;> rfl
  · have plain : (respellMembers kind choice (members.map (·.1)) members).get? key =
        (members.get? key).map (respellUnder kind choice key) :=
      get?_respellMembers fun name _ => by rw [spell_eq_plain_iff twofold, and_iff_left moved]
    have capital : (respellMembers kind choice (members.map (·.1)) members).get? (capitalized key) =
        (members.get? (capitalized key)).map (respellUnder kind choice key) := by
      rw [← respellUnder_capitalized twofold]
      refine get?_respellMembers fun name _ => ?_
      rw [spell_eq_capitalized_iff twofold]
      exact or_iff_left fun same => moved same.2
    rw [plain, capital]
    cases members.get? key <;> rfl

theorem present?_respelled (twofold : key ∈ twofoldKeys) :
    present? (respelled kind choice members) key =
      (present? members key).map (respellUnder kind choice key) := by
  unfold present?
  rw [lookup?_respelled twofold]
  cases found : lookup? members key with
  | none => rfl
  | some value =>
    by_cases missing : value = .null
    · have gone : respellUnder kind choice key value = .null := respellUnder_eq_null_iff.mpr missing
      rw [Option.map_some, gone, missing]
      rfl
    · have kept : respellUnder kind choice key value ≠ .null :=
        mt respellUnder_eq_null_iff.mp missing
      simp [kept, missing]

/-- What is found under the key of a text is what was found. -/
theorem present?_text (text : key ∈ textKeys) :
    present? (respelled kind choice members) key = present? members key := by
  have leaf : kind.below? key = none := below?_text kind key text
  have same : respellUnder kind choice key = id := funext (respellUnder_of_leaf leaf)
  rw [present?_respelled (List.mem_append_left _ text), same, Option.map_id, id]

theorem textAt_respelled (text : key ∈ textKeys) :
    textAt (respelled kind choice members) key = textAt members key := by
  rw [textAt, present?_text text, ← textAt]

/-- What is found under a key with one spelling is what was found. -/
theorem get?_respelled (single : key ∈ singleKeys) :
    (respelled kind choice members).get? key = members.get? key := by
  have leaf : kind.below? key = none := below?_single single
  have same : respellUnder kind choice key = id := funext (respellUnder_of_leaf leaf)
  rw [respelled, get?_respellMembers fun _ _ => spell_eq_single_iff single, same, Option.map_id, id]

/-! ### Reading nodes -/

theorem readInfo_respelled :
    readInfo (respelled kind choice members) path = readInfo members path := by
  have once : ∀ key ∈ singleKeys,
      (respelled kind choice members).get? key = members.get? key := fun _ => get?_respelled
  simp only [singleKeys, List.forall_mem_cons] at once
  obtain ⟨type, process, platforms, required, -⟩ := once
  have texts : ∀ key ∈ textKeys,
      present? (respelled kind choice members) key = present? members key := fun _ => present?_text
  simp only [textKeys, List.forall_mem_cons] at texts
  obtain ⟨name, description, version, repoUrl, websiteUrl, slug, -⟩ := texts
  have common : infoOf (respelled kind choice members) = infoOf members := by
    simp only [infoOf, textOf, platformItems, processesOf, flagOf, type, process, platforms,
      required, name, description, version, repoUrl, websiteUrl, slug]
  simp only [readInfo_eq, readProcesses, readPlatforms, readTexts, textAt, process, platforms,
    common, name, description, version, repoUrl, websiteUrl, slug]

/-- Nodes in a list are read as before if each of them is. -/
theorem mapM_respellItems {items : List Json} (place : ℕ → String)
    (each : ∀ item ∈ items, ∀ choice path, read (respell below choice item) path = read item path)
    (index start : ℕ) :
    (((respellItems below choice index items).zipIdx start).mapM fun entry =>
        read entry.1 (place entry.2)) =
      (items.zipIdx start).mapM fun entry => read entry.1 (place entry.2) := by
  induction items generalizing index start with
  | nil => rfl
  | cons item rest ih =>
    obtain ⟨first, others⟩ := List.forall_mem_cons.mp each
    simp only [respellItems, List.zipIdx_cons, List.mapM_cons, first, ih others]

/-- The nodes of a collection are read as before if each of them is. -/
theorem readAll_respelled (twofold : key ∈ twofoldKeys)
    (nodes : kind.below.lookup key = some below)
    (each : ∀ item, sizeOf item < sizeOf (Json.object members) →
      ∀ choice path, read (respell below choice item) path = read item path) :
    readAll read (respelled kind choice members) key path = readAll read members key path := by
  rw [readAll_eq, readAll_eq, present?_respelled twofold]
  cases found : present? members key with
  | none => rfl
  | some value =>
    rw [Option.map_some, respellUnder_of_below (below?_of_lookup twofold nodes)]
    cases value with
    | array items =>
      simp only [respell]
      exact mapM_respellItems (fun index => s!"{path}.{key}[{index}]")
        (fun item member => each item (Collects.sizeOf_lt (.inr found) member)) 0 0
    | _ => rfl

/-- A node that may be missing is read as before if it is where it stands. -/
theorem mapM_present?_respelled {read : Json → Except SchemaError α} (twofold : key ∈ twofoldKeys)
    (nodes : kind.below.lookup key = some below)
    (each : ∀ choice value, read (respell below choice value) = read value) :
    (present? (respelled kind choice members) key).mapM read =
      (present? members key).mapM read := by
  rw [present?_respelled twofold]
  cases present? members key with
  | none => rfl
  | some value =>
    rw [Option.map_some, Option.mapM_some, Option.mapM_some,
      respellUnder_of_below (below?_of_lookup twofold nodes), each]

theorem respell_object (members : Members) :
    respell kind choice (.object members) = .object (respelled kind choice members) := by
  rw [respell, respelled]

theorem membersOf_object_bind {next : { other // Json.object members = .object other } →
    Except SchemaError α} : membersOf (.object members) path >>= next = next ⟨members, rfl⟩ := rfl

/-- A value that is no node is refused in all spellings, with the same error. -/
theorem object_or_refused (kind : NodeKind) (choice : Choice) (value : Json) :
    (∃ members, value = .object members) ∨ ∃ found, ∀ path,
      membersOf value path = .error (.notObject path found) ∧
        membersOf (respell kind choice value) path = .error (.notObject path found) := by
  cases value with
  | object members => exact .inl ⟨members, rfl⟩
  | array items => exact .inr ⟨_, fun _ => ⟨rfl, by rw [respell]; rfl⟩⟩
  | _ => exact .inr ⟨_, fun _ => ⟨rfl, rfl⟩⟩

theorem readPossibleValue_respell :
    readPossibleValue (respell .possibleValue choice value) path =
      readPossibleValue value path := by
  rcases object_or_refused .possibleValue choice value with ⟨members, rfl⟩ | ⟨found, refused⟩
  · have text : textAt (respelled .possibleValue choice members) "value" =
        textAt members "value" := textAt_respelled (by decide)
    rw [respell_object, readPossibleValue, readPossibleValue]
    simp only [membersOf_object_bind, readInfo_respelled, text]
  · simp only [readPossibleValue, refused]
    rfl

theorem readProperty_respell :
    readProperty (respell .property choice value) path = readProperty value path := by
  -- on the size of the value, since its items are smaller
  induction size : sizeOf value using Nat.strongRecOn generalizing value path choice with
  | _ size ih =>
    rcases object_or_refused .property choice value with ⟨members, rfl⟩ | ⟨found, refused⟩
    · have below (item : Json) (smaller : sizeOf item < sizeOf (Json.object members))
          (choice : Choice) (path : String) :
          readProperty (respell .property choice item) path = readProperty item path :=
        ih _ (size ▸ smaller) rfl
      have properties :
          readAll readProperty (respelled .property choice members) "properties" path =
            readAll readProperty members "properties" path :=
        readAll_respelled (by decide) rfl below
      have parameters :
          readAll readProperty (respelled .property choice members) "parameters" path =
            readAll readProperty members "parameters" path :=
        readAll_respelled (by decide) rfl below
      have values :
          readAll readPossibleValue (respelled .property choice members) "possibleValues" path =
            readAll readPossibleValue members "possibleValues" path :=
        readAll_respelled (by decide) rfl fun _ _ _ _ => readPossibleValue_respell
      rw [respell_object, readProperty_eq, readProperty_eq]
      simp only [membersOf_object_bind, readInfo_respelled, properties, parameters, values]
    · simp only [readProperty_eq, refused]
      rfl

theorem readAll_properties_respelled (twofold : key ∈ twofoldKeys)
    (nodes : kind.below.lookup key = some .property) :
    readAll readProperty (respelled kind choice members) key path =
      readAll readProperty members key path :=
  readAll_respelled twofold nodes fun _ _ _ _ => readProperty_respell

theorem readEvent_respell :
    readEvent (respell .event choice value) path = readEvent value path := by
  rcases object_or_refused .event choice value with ⟨members, rfl⟩ | ⟨found, refused⟩
  · have returns : readAll readProperty (respelled .event choice members) "returns" path =
        readAll readProperty members "returns" path :=
      readAll_properties_respelled (by decide) rfl
    rw [respell_object, readEvent_eq, readEvent_eq]
    simp only [membersOf_object_bind, readInfo_respelled, returns]
  · simp only [readEvent_eq, refused]
    rfl

theorem readMethod_respell :
    readMethod (respell .method choice value) path = readMethod value path := by
  rcases object_or_refused .method choice value with ⟨members, rfl⟩ | ⟨found, refused⟩
  · have result : ((present? (respelled .method choice members) "returns").mapM fun result =>
        readProperty result s!"{path}.returns") =
          (present? members "returns").mapM fun result =>
            readProperty result s!"{path}.returns" :=
      mapM_present?_respelled (by decide) rfl fun _ _ => readProperty_respell
    have signature : textAt (respelled .method choice members) "signature" =
        textAt members "signature" := textAt_respelled (by decide)
    have parameters : readAll readProperty (respelled .method choice members) "parameters" path =
        readAll readProperty members "parameters" path :=
      readAll_properties_respelled (by decide) rfl
    rw [respell_object, readMethod_eq, readMethod_eq]
    simp only [membersOf_object_bind, readInfo_respelled, result, signature, parameters]
  · simp only [readMethod_eq, refused]
    rfl

theorem readAll_events_respelled (twofold : key ∈ twofoldKeys)
    (nodes : kind.below.lookup key = some .event) :
    readAll readEvent (respelled kind choice members) key path =
      readAll readEvent members key path :=
  readAll_respelled twofold nodes fun _ _ _ _ => readEvent_respell

theorem readAll_methods_respelled (twofold : key ∈ twofoldKeys)
    (nodes : kind.below.lookup key = some .method) :
    readAll readMethod (respelled kind choice members) key path =
      readAll readMethod members key path :=
  readAll_respelled twofold nodes fun _ _ _ _ => readMethod_respell

theorem readBlock_respell :
    readBlock (respell .block choice value) path = readBlock value path := by
  rcases object_or_refused .block choice value with ⟨members, rfl⟩ | ⟨found, refused⟩
  · have builder : ((present? (respelled .block choice members) "constructorMethod").mapM
        fun method => readMethod method s!"{path}.constructorMethod") =
          (present? members "constructorMethod").mapM
            fun method => readMethod method s!"{path}.constructorMethod" :=
      mapM_present?_respelled (by decide) rfl fun _ _ => readMethod_respell
    rw [respell_object, readBlock, readBlock]
    simp (disch := decide) only [membersOf_object_bind, builder, readInfo_respelled,
      textAt_respelled, readAll_events_respelled, readAll_properties_respelled,
      readAll_methods_respelled]
  · simp only [readBlock, refused]
    rfl

/-! ### Documents -/

/-- A document in which keys are capitalized, any of those that have two spellings in any of the
nodes as long as the node does not have the capitalized key as well, is read as the document in its
own spelling: into the same description, or with the same error. -/
theorem readSchema_respell (choice : Choice) (document source : Json) :
    readSchema (respell .block choice document) source = readSchema document source := by
  cases document with
  | array items =>
    have blocks :
        ((respellItems .block choice 0 items).zipIdx.mapM fun entry => do
          readBlock entry.1 s!"{← readText source}[{entry.2}]") =
        (items.zipIdx.mapM fun entry => do
          readBlock entry.1 s!"{← readText source}[{entry.2}]") := by
      -- the text of the source is the same for all blocks, and so is the fault if it has none
      cases readText source with
      | ok text =>
        exact mapM_respellItems (fun index => s!"{text}[{index}]")
          (fun _ _ _ _ => readBlock_respell) 0 0
      | error error => cases items <;> rfl
    simp only [respell, readSchema, blocks]
  | object members => rw [respell_object]; rfl
  | _ => rfl

/-- Everything is capitalized but the key that has its capitalized key beside it. -/
example :
    respell .block (fun _ _ => true) (.array [.object
      [("name", .string "a"), ("slug", .string "b"), ("Slug", .null), ("type", .null)]]) =
    .array [.object
      [("Name", .string "a"), ("slug", .string "b"), ("Slug", .null), ("type", .null)]] := by
  decide +kernel

end HostBindings.Api
