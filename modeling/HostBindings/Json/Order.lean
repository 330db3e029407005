import HostBindings.Json.Use
import HostBindings.Text.Order

/-!
# Comparing values

Values are compared by what they mean: a truth value counts as zero or one, and an integer equals
the other number of the same size. Numbers, texts and lists have an order; values of two kinds that
have none in common cannot be sorted.

## Main definitions

* `Extent` — numbers on the extended line, and their comparison
* `Json.agrees` — equality of what values mean
* `Json.addOnce`, `Json.unite` — lists of values as sets
* `Json.less`, `Json.sort` — the order of values
-/

namespace HostBindings

/-- A number on the extended line. -/
inductive Extent where
  /-- Below every finite number. -/
  | below
  /-- A fraction with a positive denominator. -/
  | finite (num : Int) (den : Nat)
  /-- Above every finite number. -/
  | above
  deriving DecidableEq, Repr

namespace Extent

/-- How two numbers compare. -/
def compare : Extent → Extent → Ordering
  | below, below => .eq
  | below, _ => .lt
  | _, below => .gt
  | above, above => .eq
  | above, _ => .gt
  | _, above => .lt
  | finite num den, finite num' den' => Ord.compare (num * den') (num' * den)

end Extent

/-- A number with sign. -/
def Magnitude.extent (magnitude : Magnitude) (negative : Bool) : Extent :=
  let num : Int := magnitude.mantissa
  let signed := if negative then -num else num
  match magnitude.exponent with
  | .ofNat e => .finite (signed * Nat.pow 2 e) 1
  | .negSucc e => .finite signed (Nat.pow 2 (e + 1))

/-- Where a number is on the line; nothing if it is none. -/
def Binary64.extent? : Binary64 → Option Extent
  | .finite negative magnitude => some (magnitude.extent negative)
  | .infinite negative => some (if negative then .below else .above)
  | .notANumber => none

namespace Json

/-- Whether a value counts as a number. -/
def isNumeric : Json → Bool
  | .bool _ | .int _ | .float _ => true
  | _ => false

/-- Where a value that counts as a number is on the line. -/
def extent? : Json → Option Extent
  | .bool value => some (.finite (if value then 1 else 0) 1)
  | .int value => some (.finite value 1)
  | .float value => value.extent?
  | _ => none

/-- Whether two values are numbers of one size. -/
def sameNumber (a b : Json) : Bool :=
  match a.extent?, b.extent? with
  | some x, some y => x.compare y == .eq
  | _, _ => false

mutual
/-- Equality of what values mean, up to the order of members. A number that is not one equals
nothing, itself included. -/
def agrees : Json → Json → Bool
  | .null, .null => true
  | .string a, .string b => a == b
  | .array as, .array bs => listAgrees as bs
  | .object as, .object bs => as.length == bs.length && membersAgree as bs
  | a, b => sameNumber a b

/-- Item by item equality. -/
def listAgrees : List Json → List Json → Bool
  | [], [] => true
  | a :: as, b :: bs => agrees a b && listAgrees as bs
  | _, _ => false

/-- Whether every member on the left has an equal value on the right. -/
def membersAgree : Members → Members → Bool
  | [], _ => true
  | (key, a) :: as, bs =>
    (match bs.get? key with
      | some b => agrees a b
      | none => false) && membersAgree as bs
end

@[simp] theorem agrees_string (a b : String) :
    agrees (.string a) (.string b) = (a == b) := by
  rw [agrees]

/-! ### Lists of values as sets -/

/-- Whether a value is among others, or one that means the same. -/
def isAmong (value : Json) (values : List Json) : Bool :=
  values.any fun other => other = value || other.agrees value

/-- A list of values with one more, unless it is there already. -/
def addOnce (values : List Json) (value : Json) : List Json :=
  if value.isAmong values then values else values ++ [value]

/-- Lists of values united, each value once. -/
def unite (values more : List Json) : List Json :=
  more.foldl addOnce values

/-- The values of a list, each once. -/
def distinct (values : List Json) : List Json := unite [] values

/-! ### Order -/

mutual
/-- Whether one value comes before another. -/
def less : Json → Json → Except UseFault Bool
  | .array as, .array bs => listLess as bs
  | .string a, .string b => .ok (decide (a < b))
  | a, b =>
    if a.isNumeric && b.isNumeric then
      match a.extent?, b.extent? with
      | some x, some y => .ok (x.compare y == .lt)
      | _, _ => .ok false
    else .error (.unordered a.kindName b.kindName)

/-- Whether one list comes before another, by the first items that differ. -/
def listLess : List Json → List Json → Except UseFault Bool
  | _, [] => .ok false
  | [], _ :: _ => .ok true
  | a :: as, b :: bs => if agrees a b then listLess as bs else less a b
end

/-- A value put into a sorted list, behind all that do not come after it. -/
def insertSorted (value : Json) : List Json → Except UseFault (List Json)
  | [] => .ok [value]
  | other :: rest => do
    if ← less value other then return value :: other :: rest
    else return other :: (← insertSorted value rest)

/-- Values in order. Texts are sorted as texts. -/
def sort (values : List Json) : Except UseFault (List Json) :=
  match values.mapM string? with
  | some texts => .ok ((sortTexts texts).map .string)
  | none => values.foldlM (fun sorted value => insertSorted value sorted) []

theorem sort_strings (texts : List String) :
    sort (texts.map .string) = .ok ((sortTexts texts).map .string) := by
  have texts? : (texts.map Json.string).mapM string? = some texts := by
    induction texts with
    | nil => rfl
    | cons text rest ih => simp [string?, ih]
  rw [sort, texts?]

end Json

end HostBindings
