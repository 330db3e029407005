import HostBindings.Number.Binary64

/-!
# JSON values

Values of a JSON document. An object keeps its members in document order, and integers are told
apart from other numbers.

## Main definitions

* `Json` — the values
* `Json.Members` — the members of an object: `get?`, `put`, `merge`
* `Json.digitLimit` — how long an integer may be
* `Json.truthy` — whether a setting given as a JSON value is switched on
* `Json.same` — equality, which is decidable
-/

namespace HostBindings

/-- A JSON value. -/
inductive Json where
  | null
  | bool (value : Bool)
  | int (value : Int)
  | float (value : Binary64)
  | string (value : String)
  | array (items : List Json)
  | object (members : List (String × Json))
  deriving Inhabited

namespace Json

/-- The members of an object, in order. -/
abbrev Members := List (String × Json)

namespace Members

/-- The value of a key. -/
def get? (members : Members) (key : String) : Option Json :=
  members.lookup key

/-- Whether a key has a value. -/
def has (members : Members) (key : String) : Bool :=
  (members.get? key).isSome

/-- The members with a key set to a value: in its place if the key is present, else at the end. -/
def put (members : Members) (key : String) (value : Json) : Members :=
  match members with
  | [] => [(key, value)]
  | (k, v) :: rest => if k = key then (k, value) :: rest else (k, v) :: put rest key value

/-- The members with all of `overrides` set, in order. -/
def merge (members overrides : Members) : Members :=
  overrides.foldl (fun acc member => acc.put member.1 member.2) members

theorem get?_put (members : Members) (key other : String) (value : Json) :
    (members.put key value).get? other =
      if other = key then some value else members.get? other := by
  induction members with
  | nil =>
    by_cases h : other = key
    · simp [put, get?, h]
    · simp [put, get?, List.lookup_cons, h, beq_false_of_ne h]
  | cons member rest ih =>
    obtain ⟨k, v⟩ := member
    simp only [put, get?] at ih ⊢
    by_cases hk : k = key
    · subst hk
      by_cases h : other = k
      · simp [h]
      · simp [List.lookup_cons, h, beq_false_of_ne h]
    · by_cases h : other = k
      · subst h
        simp [hk]
      · simp [List.lookup_cons, hk, beq_false_of_ne h, ih]

end Members

/-- The greatest number of digits of an integer that is read or written as a text. -/
def digitLimit : Nat := 4300

/-- The kind of a value, as messages name it. -/
def kindName : Json → String
  | .null => "NoneType"
  | .bool _ => "bool"
  | .int _ => "int"
  | .float _ => "float"
  | .string _ => "str"
  | .array _ => "list"
  | .object _ => "dict"

/-- Whether a value counts as switched on: everything but null, false, zero and what is empty. -/
def truthy : Json → Bool
  | .null => false
  | .bool value => value
  | .int value => value != 0
  | .float value => !value.isZero
  | .string value => value != ""
  | .array items => !items.isEmpty
  | .object members => !members.isEmpty

/-- The text that a value is, if it is one. -/
def string? : Json → Option String
  | .string value => some value
  | _ => none

/-! ### Equality -/

mutual
/-- Whether two values are the same, member by member. -/
def same : Json → Json → Bool
  | .null, .null => true
  | .bool a, .bool b => a == b
  | .int a, .int b => a == b
  | .float a, .float b => a == b
  | .string a, .string b => a == b
  | .array as, .array bs => sameItems as bs
  | .object as, .object bs => sameMembers as bs
  | _, _ => false

/-- Whether two lists of values are the same. -/
def sameItems : List Json → List Json → Bool
  | [], [] => true
  | a :: as, b :: bs => same a b && sameItems as bs
  | _, _ => false

/-- Whether two lists of members are the same. -/
def sameMembers : Members → Members → Bool
  | [], [] => true
  | (key, a) :: as, (key', b) :: bs => key == key' && same a b && sameMembers as bs
  | _, _ => false
end

mutual
theorem same_iff : ∀ a b : Json, same a b = true ↔ a = b
  | .null, b => by cases b <;> simp [same]
  | .bool _, b => by cases b <;> simp [same]
  | .int _, b => by cases b <;> simp [same]
  | .float _, b => by cases b <;> simp [same]
  | .string _, b => by cases b <;> simp [same]
  | .array as, b => by cases b <;> simp [same, sameItems_iff as]
  | .object as, b => by cases b <;> simp [same, sameMembers_iff as]

theorem sameItems_iff : ∀ as bs : List Json, sameItems as bs = true ↔ as = bs
  | [], bs => by cases bs <;> simp [sameItems]
  | a :: as, [] => by simp [sameItems]
  | a :: as, b :: bs => by simp [sameItems, same_iff a b, sameItems_iff as bs]

theorem sameMembers_iff : ∀ as bs : Members, sameMembers as bs = true ↔ as = bs
  | [], bs => by cases bs <;> simp [sameMembers]
  | (key, a) :: as, [] => by simp [sameMembers]
  | (key, a) :: as, (key', b) :: bs => by
    simp [sameMembers, same_iff a b, sameMembers_iff as bs, and_assoc]
end

instance : DecidableEq Json := fun a b => decidable_of_iff _ (same_iff a b)

end Json

end HostBindings
