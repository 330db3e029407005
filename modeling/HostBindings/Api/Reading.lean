import HostBindings.Api.Basic
import HostBindings.Json.Writer
import HostBindings.Text.UpperCase

/-!
# Reading a description

A decoded JSON document as a description. A key may also be written with a capital first letter;
the plain spelling comes first. A text field takes any value and keeps its text; a collection takes
a list or null; whatever else does not fit is refused, with the path of the node. A value that has
an integer of too many digits in it has no text: where its text is kept, the document is beyond a
limit.

## Main definitions

* `Api.SchemaError` — why a document is refused; `SchemaError.message` its wording
* `Api.readRawType`, `Api.readPossibleValue`, `Api.readProperty`, `Api.readEvent`,
  `Api.readMethod`, `Api.readBlock` — the nodes
* `Api.readSchema` — the document
-/

namespace HostBindings.Api

open Json (Members)

/-- Why a document is refused. A path names the node at fault, and `found` the kind of the value
that stands there. -/
inductive SchemaError where
  | notBlocks (source found : String)
  | notObject (path found : String)
  | notList (path key found : String)
  | badProcess (path : String)
  | badPlatforms (path : String)
  /-- A text is kept of an integer with more digits than are written. -/
  | longInteger
  deriving DecidableEq, Repr

/-- The wording of a refusal. -/
def SchemaError.message : SchemaError → String
  | .notBlocks source found => s!"{source}: expected a list of blocks, got {found}"
  | .notObject path found => s!"{path}: expected an object, got {found}"
  | .notList path key found => s!"{path}.{key}: expected a list, got {found}"
  | .badProcess path => s!"{path}.process: expected an object"
  | .badPlatforms path => s!"{path}.platforms: expected a list"
  | .longInteger => (Json.WriteError.longInteger Json.digitLimit).message

/-- Whether a document is refused for a limit, and not because it is malformed. -/
def SchemaError.isLimit : SchemaError → Bool
  | .longInteger => true
  | _ => false

/-! ### Members of a node -/

/-- A key with a capital first letter. -/
def capitalized (key : String) : String :=
  match key.toList with
  | [] => ""
  | c :: rest => String.ofList (Text.upper c ++ rest)

/-- The value of a key in either spelling. A plain key counts even if its value is null. -/
def lookup? (members : Members) (key : String) : Option Json :=
  match members.get? key with
  | some value => some value
  | none => members.get? (capitalized key)

/-- The value of a key in either spelling, where null counts as no value. -/
def present? (members : Members) (key : String) : Option Json :=
  match lookup? members key with
  | some .null => none
  | found => found

/-- The text of a value, if it has one. -/
def readText (value : Json) : Except SchemaError String :=
  if Json.digitLimit < value.longestInteger then .error .longInteger else .ok value.text

/-- The text of a key; empty without a value. -/
def textAt (members : Members) (key : String) : Except SchemaError String :=
  match present? members key with
  | some value => readText value
  | none => .ok ""

/-- Whether a key of exactly this spelling is switched on. -/
def flagOf (members : Members) (key : String) : Bool :=
  match members.get? key with
  | some value => value.truthy
  | none => false

/-- The members of a node. -/
def membersOf (value : Json) (path : String) :
    Except SchemaError { members : Members // value = .object members } :=
  match value with
  | .object members => .ok ⟨members, rfl⟩
  | other => .error (.notObject path other.kindName)

theorem sizeOf_get?_lt {members : Members} {key : String} {value : Json}
    (h : members.get? key = some value) : sizeOf value < sizeOf (Json.object members) := by
  induction members with
  | nil => simp [Members.get?] at h
  | cons member rest ih =>
    obtain ⟨k, v⟩ := member
    simp only [Members.get?, List.lookup_cons] at h ih
    split at h
    · cases h
      simp
      omega
    · have := ih h
      simp at this ⊢
      omega

theorem sizeOf_present?_lt {members : Members} {key : String} {value : Json}
    (h : present? members key = some value) : sizeOf value < sizeOf (Json.object members) := by
  have hlookup : lookup? members key = some value := by
    unfold present? at h
    split at h
    · simp at h
    · exact h
  unfold lookup? at hlookup
  split at hlookup
  · next heq =>
    cases hlookup
    exact sizeOf_get?_lt heq
  · exact sizeOf_get?_lt hlookup

/-- A value of a node, with the proof that it is smaller than the node. -/
abbrev Part (members : Members) := { value : Json // sizeOf value < sizeOf (Json.object members) }

/-- The value of a key, if it has one. -/
def partOf? (members : Members) (key : String) : Option (Part members) :=
  match h : present? members key with
  | some value => some ⟨value, sizeOf_present?_lt h⟩
  | none => none

/-- The items of a collection, each with the path it has; a collection without a value is empty. -/
def itemsOf (members : Members) (key path : String) :
    Except SchemaError (List (Part members × String)) :=
  match partOf? members key with
  | none => .ok []
  | some ⟨.array items, h⟩ =>
    .ok (items.attach.zipIdx.map fun (⟨item, hmem⟩, index) =>
      (⟨item, by
        have := List.sizeOf_lt_of_mem hmem
        simp at h ⊢
        omega⟩, s!"{path}.{key}[{index}]"))
  | some ⟨other, _⟩ => .error (.notList path key other.kindName)

/-! ### Nodes -/

/-- The type that a value gives. -/
def readRawType : Json → RawType
  | .null => .absent
  | .string tag => .single tag
  | .array (.string first :: rest) =>
    match rest.mapM fun item => match item with | .string tag => some tag | _ => none with
    | some tags => .union first tags
    | none => .malformed
  | _ => .malformed

/-- The common part of a node. -/
def readInfo (members : Members) (path : String) : Except SchemaError Info := do
  -- a value of another kind is refused, unless it is switched off
  let processes ←
    match members.get? "process" with
    | some (.object marks) =>
      .ok { main := flagOf marks "main", renderer := flagOf marks "renderer" : Processes }
    | some other => if other.truthy then .error (.badProcess path) else .ok {}
    | none => .ok {}
  let platforms ←
    match members.get? "platforms" with
    | some (.array items) => .ok items
    | some other => if other.truthy then .error (.badPlatforms path) else .ok []
    | none => .ok []
  return {
    name := ← textAt members "name"
    rawType := readRawType ((members.get? "type").getD .null)
    description := ← textAt members "description"
    platforms := ← platforms.mapM readText
    processes := processes
    required := flagOf members "required"
    version := ← textAt members "version"
    repoUrl := ← textAt members "repoUrl"
    websiteUrl := ← textAt members "websiteUrl"
    slug := ← textAt members "slug" }

/-- A member of an enumeration. -/
def readPossibleValue (value : Json) (path : String) : Except SchemaError PossibleValue := do
  let ⟨members, _⟩ ← membersOf value path
  let info ← readInfo members path
  return { info, value := ← textAt members "value" }

/-- A property, with everything below it. -/
def readProperty (value : Json) (path : String) : Except SchemaError Property := do
  let ⟨members, _⟩ ← membersOf value path
  let info ← readInfo members path
  let properties ← (← itemsOf members "properties" path).mapM fun (item, itemPath) =>
    readProperty item.1 itemPath
  let parameters ← (← itemsOf members "parameters" path).mapM fun (item, itemPath) =>
    readProperty item.1 itemPath
  let possibleValues ← (← itemsOf members "possibleValues" path).mapM fun (item, itemPath) =>
    readPossibleValue item.1 itemPath
  return { info, properties, parameters, possibleValues }
termination_by sizeOf value
decreasing_by all_goals (subst_vars; exact item.2)

/-- An event. -/
def readEvent (value : Json) (path : String) : Except SchemaError Event := do
  let ⟨members, _⟩ ← membersOf value path
  let info ← readInfo members path
  let returns ← (← itemsOf members "returns" path).mapM fun (item, itemPath) =>
    readProperty item.1 itemPath
  return { info, returns }

/-- A method. Its result is read before its common part. -/
def readMethod (value : Json) (path : String) : Except SchemaError Method := do
  let ⟨members, _⟩ ← membersOf value path
  let returns ← (present? members "returns").mapM fun result =>
    readProperty result s!"{path}.returns"
  let info ← readInfo members path
  let signature ← textAt members "signature"
  let parameters ← (← itemsOf members "parameters" path).mapM fun (item, itemPath) =>
    readProperty item.1 itemPath
  return { info, signature, parameters, returns }

/-- The nodes of a collection. -/
def readAll (read : Json → String → Except SchemaError α) (members : Members) (key path : String) :
    Except SchemaError (List α) := do
  (← itemsOf members key path).mapM fun (item, itemPath) => read item.1 itemPath

/-- A block. Its constructor is read before its common part. -/
def readBlock (value : Json) (path : String) : Except SchemaError Block := do
  let ⟨members, _⟩ ← membersOf value path
  let constructorMethod ← (present? members "constructorMethod").mapM fun method =>
    readMethod method s!"{path}.constructorMethod"
  let info ← readInfo members path
  let events ← readAll readEvent members "events" path
  let properties ← readAll readProperty members "properties" path
  let methods ← readAll readMethod members "methods" path
  let instanceName ← textAt members "instanceName"
  let instanceEvents ← readAll readEvent members "instanceEvents" path
  let instanceProperties ← readAll readProperty members "instanceProperties" path
  let instanceMethods ← readAll readMethod members "instanceMethods" path
  let staticMethods ← readAll readMethod members "staticMethods" path
  return {
    info, events, properties, methods, instanceName,
    instanceEvents, instanceProperties, instanceMethods, constructorMethod, staticMethods }

/-- The name of a document that has no other. -/
def defaultSource : Json := .string "<memory>"

/-- A document: a list of blocks. -/
def readSchema (document : Json) (source : Json := defaultSource) : Except SchemaError Schema :=
  match document with
  | .array items => do
    let blocks ← items.zipIdx.mapM fun (item, index) => do
      readBlock item s!"{← readText source}[{index}]"
    return { source, blocks }
  | other => do throw (.notBlocks (← readText source) other.kindName)

end HostBindings.Api
