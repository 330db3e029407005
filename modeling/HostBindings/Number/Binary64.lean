/-!
# Double-precision numbers

The numbers of the binary interchange format with 53 significant bits, as exact values: a sign, an
integer of at most 53 bits, and a power of two. They are read from decimal notation by rounding to
the nearest. The sum of two numbers is the exact sum, rounded to the nearest number. A sum that is
exactly zero has no sign, unless both terms are zero with a minus sign.

## Main definitions

* `Magnitude` — a finite absolute value, in its one canonical form
* `Binary64` — a signed magnitude, an infinity, or not a number
* `Binary64.ofDecimal` — the double nearest to a decimal number, a tie going to the even neighbour
* `Binary64.ofInt?` — the number nearest to an integer
* `Binary64.add` — sums
-/

namespace HostBindings

/-- The quotient rounded to the nearest integer, a tie going to the even one. -/
def roundQuotient (num den : Nat) : Nat :=
  let quotient := num / den
  let remainder := num % den
  if 2 * remainder < den then quotient
  else if den < 2 * remainder then quotient + 1
  else quotient + quotient % 2

/-- The least exponent of a magnitude. -/
def leastExponent : Int := -1074

/-- The greatest exponent of a magnitude. -/
def greatestExponent : Int := 971

/-- The number of integers of at most 53 bits. -/
def mantissaLimit : Nat := Nat.pow 2 53

/-- The least integer of exactly 53 bits. -/
def fullMantissa : Nat := Nat.pow 2 52

/-- The finite absolute value `mantissa * 2 ^ exponent`. It is canonical: the mantissa uses all 53
bits unless the exponent is the least one. -/
structure Magnitude where
  /-- The significant bits. -/
  mantissa : Nat
  /-- The power of two. -/
  exponent : Int
  /-- Every value has one such form. -/
  canonical : mantissa < mantissaLimit ∧ leastExponent ≤ exponent ∧ exponent ≤ greatestExponent ∧
    (fullMantissa ≤ mantissa ∨ exponent = leastExponent)
  deriving DecidableEq

namespace Magnitude

/-- Zero. -/
def zero : Magnitude := ⟨0, leastExponent, by decide⟩

/-- The magnitude with the given parts, if they are canonical. -/
def ofParts? (mantissa : Nat) (exponent : Int) : Option Magnitude :=
  if h : mantissa < mantissaLimit ∧ leastExponent ≤ exponent ∧ exponent ≤ greatestExponent ∧
      (fullMantissa ≤ mantissa ∨ exponent = leastExponent) then
    some ⟨mantissa, exponent, h⟩
  else none

/-- The fraction `num / den` divided by `2 ^ exponent`, as a fraction. -/
def scale (num den : Nat) (exponent : Int) : Nat × Nat :=
  match exponent with
  | .ofNat e => (num, den * Nat.pow 2 e)
  | .negSucc e => (num * Nat.pow 2 (e + 1), den)

/-- The exponent at which a fraction has 53 significant bits, or the least exponent if that is
greater. -/
def exponentFor (num den : Nat) : Int :=
  let estimate : Int := (num.log2 : Int) - den.log2 - 53
  let (scaledNum, scaledDen) := scale num den estimate
  let fitted := if scaledNum / scaledDen < mantissaLimit then estimate else estimate + 1
  max fitted leastExponent

/-- The magnitude nearest to a positive fraction, or nothing if it is beyond the greatest one. -/
def nearest? (num den : Nat) : Option Magnitude :=
  let exponent := exponentFor num den
  let (scaledNum, scaledDen) := scale num den exponent
  let mantissa := roundQuotient scaledNum scaledDen
  if mantissa = mantissaLimit then ofParts? fullMantissa (exponent + 1)
  else ofParts? mantissa exponent

end Magnitude

/-- The significant bits of a magnitude over a power of two that is not above its own. -/
def Magnitude.over (magnitude : Magnitude) (exponent : Int) : Nat :=
  magnitude.mantissa * Nat.pow 2 (magnitude.exponent - exponent).toNat

/-- A double-precision number. -/
inductive Binary64 where
  /-- A finite number. -/
  | finite (negative : Bool) (magnitude : Magnitude)
  /-- An infinity. -/
  | infinite (negative : Bool)
  /-- Not a number. -/
  | notANumber
  deriving DecidableEq

namespace Binary64

/-- The number of decimal digits of a positive integer. -/
def digitCount (n : Nat) : Nat := (Nat.toDigits 10 n).length

/-- The double nearest to `digits * 10 ^ exponent`. Numbers far outside the range are told apart by
their count of digits, so no large power is computed for them. -/
def ofDecimal (negative : Bool) (digits : Nat) (exponent : Int) : Binary64 :=
  if digits = 0 then .finite negative .zero
  else
    let order := exponent + digitCount digits
    if order < -330 then .finite negative .zero
    else if 330 < order then .infinite negative
    else
      let magnitude? :=
        match exponent with
        | .ofNat e => Magnitude.nearest? (digits * Nat.pow 10 e) 1
        | .negSucc e => Magnitude.nearest? digits (Nat.pow 10 (e + 1))
      match magnitude? with
      | some magnitude => .finite negative magnitude
      | none => .infinite negative

/-- Whether a number is zero, of either sign. -/
def isZero : Binary64 → Bool
  | .finite _ magnitude => magnitude.mantissa == 0
  | _ => false

/-! ### Sums -/

/-- The number nearest to `count * 2 ^ exponent`; nothing if that is beyond the greatest one. -/
def ofScaled? (count exponent : Int) : Option Binary64 :=
  if count = 0 then some (.finite false .zero)
  else
    let (num, den) := Magnitude.scale count.natAbs 1 (-exponent)
    (Magnitude.nearest? num den).map (.finite (count < 0))

/-- The number nearest to an integer; nothing if that is beyond the greatest one. -/
def ofInt? (value : Int) : Option Binary64 := ofScaled? value 0

/-- A magnitude with its sign, over a power of two that is not above its own. -/
def signedOver (negative : Bool) (magnitude : Magnitude) (exponent : Int) : Int :=
  let count : Int := magnitude.over exponent
  if negative then -count else count

/-- The sum of two numbers. -/
def add : Binary64 → Binary64 → Binary64
  | .notANumber, _ | _, .notANumber => .notANumber
  | .infinite a, .infinite b => if a = b then .infinite a else .notANumber
  | .infinite a, .finite .. => .infinite a
  | .finite .., .infinite b => .infinite b
  | .finite a x, .finite b y =>
    let exponent := min x.exponent y.exponent
    let total := signedOver a x exponent + signedOver b y exponent
    if total = 0 then .finite (a && b) .zero
    else (ofScaled? total exponent).getD (.infinite (total < 0))

end Binary64

end HostBindings
