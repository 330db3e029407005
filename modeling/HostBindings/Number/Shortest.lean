import HostBindings.Number.Binary64

/-!
# The shortest decimal of a double

A double is written with the fewest digits that read back as the same double; of two such decimals
the nearer is taken. Positional notation is used for decimal exponents from -4 to 15, with a digit
after the point; outside that range the text has an exponent of at least two digits.

## Main definitions

* `Magnitude.shortest` — digits and decimal exponent
* `Binary64.text` — the written form
-/

namespace HostBindings

namespace Magnitude

/-- The magnitude and the ends of the interval of numbers that round to it, in quarters of the last
place: lower end, value, upper end. Below a power of two the neighbours are twice as dense. -/
def quarters (x : Magnitude) : Nat × Nat × Nat :=
  let value := 4 * x.mantissa
  let lower :=
    if x.mantissa = fullMantissa ∧ leastExponent < x.exponent then value - 1 else value - 2
  (lower, value, value + 2)

/-- Whether `digits * 10 ^ exponent` rounds to the magnitude. The ends of the interval belong to an
even mantissa. -/
def covers (x : Magnitude) (digits : Nat) (exponent : Int) : Bool :=
  let (lower, _, upper) := x.quarters
  -- both sides are scaled to integers: quarters by `unit`, the decimal by `grid`
  let unit := Nat.pow 2 (x.exponent - 2).toNat * Nat.pow 10 (-exponent).toNat
  let grid := Nat.pow 10 exponent.toNat * Nat.pow 2 (2 - x.exponent).toNat
  let point := digits * grid
  if x.mantissa % 2 = 0 then lower * unit ≤ point && point ≤ upper * unit
  else lower * unit < point && point < upper * unit

/-- The decimal exponent of the leading digit of a positive magnitude. -/
def leadingExponent (x : Magnitude) : Int :=
  match x.exponent with
  | .ofNat e => Binary64.digitCount (x.mantissa * Nat.pow 2 e) - 1
  | .negSucc e =>
    let whole := x.mantissa / Nat.pow 2 (e + 1)
    if whole = 0 then -(Binary64.digitCount (Nat.pow 2 (e + 1) / x.mantissa) : Int)
    else Binary64.digitCount whole - 1

/-- The decimal on the grid `10 ^ exponent` that rounds to the magnitude and is nearest to it, if
there is one. Only the two neighbours of the magnitude on the grid can be. -/
def onGrid? (x : Magnitude) (exponent : Int) : Option Nat :=
  let (_, value, _) := x.quarters
  let unit := Nat.pow 2 (x.exponent - 2).toNat * Nat.pow 10 (-exponent).toNat
  let grid := Nat.pow 10 exponent.toNat * Nat.pow 2 (2 - x.exponent).toNat
  let below := value * unit / grid
  let remainder := value * unit % grid
  match x.covers below exponent, x.covers (below + 1) exponent with
  -- where both neighbours round to it, the nearer one is taken, or the even one of two
  | true, true =>
    if 2 * remainder < grid then some below
    else if grid < 2 * remainder then some (below + 1)
    else some (below + below % 2)
  | true, false => some below
  | false, true => some (below + 1)
  | false, false => none

/-- The exact decimal of a magnitude. -/
def exactDecimal (x : Magnitude) : Nat × Int :=
  match x.exponent with
  | .ofNat e => (x.mantissa * Nat.pow 2 e, 0)
  | .negSucc e => (x.mantissa * Nat.pow 5 (e + 1), .negSucc e)

/-- The shortest decimal that reads back as a positive magnitude: digits and exponent. Seventeen
digits always suffice; the exact decimal closes the search. -/
def shortest (x : Magnitude) : Nat × Int :=
  let leading := x.leadingExponent
  -- coarser grids come first, so what is found has the fewest digits
  let attempts := (List.range 17).map fun (n : Nat) => leading - (n : Int)
  (attempts.findSome? fun exponent => (x.onGrid? exponent).map (·, exponent)).getD x.exactDecimal

end Magnitude

namespace Binary64

/-- A run of zeros. -/
def zeros (count : Nat) : String := String.ofList (List.replicate count '0')

/-- The exponent part of a written number: a sign and at least two digits. -/
def exponentText (exponent : Int) : String :=
  let digits := toString exponent.natAbs
  (if exponent < 0 then "e-" else "e+") ++ (if digits.length < 2 then "0" else "") ++ digits

/-- The digits of a decimal without trailing zeros. -/
def significantDigits (digits : Nat) : String :=
  String.ofList (((Nat.toDigits 10 digits).reverse.dropWhile (· == '0')).reverse)

/-- The notation of a positive decimal `digits * 10 ^ exponent`. -/
def decimalText (digits : Nat) (exponent : Int) : String :=
  let shown := significantDigits digits
  let count := shown.length
  -- the number is `0.shown` times ten to the `point`
  let point : Int := exponent + digitCount digits
  if -4 < point ∧ point ≤ 16 then
    if point ≤ 0 then "0." ++ zeros (-point).toNat ++ shown
    else
      let whole := point.toNat
      if count ≤ whole then shown ++ zeros (whole - count) ++ ".0"
      else (shown.take whole).toString ++ "." ++ (shown.drop whole).toString
  else
    let head := (shown.take 1).toString
    let tail := (shown.drop 1).toString
    head ++ (if tail.isEmpty then "" else "." ++ tail) ++ exponentText (point - 1)

/-- The written form of a double. -/
def text : Binary64 → String
  | .notANumber => "nan"
  | .infinite negative => if negative then "-inf" else "inf"
  | .finite negative magnitude =>
    let unsigned :=
      if magnitude.mantissa = 0 then "0.0"
      else
        let (digits, exponent) := magnitude.shortest
        decimalText digits exponent
    if negative then "-" ++ unsigned else unsigned

end Binary64

end HostBindings
