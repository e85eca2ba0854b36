import ObjectCatalog.Decimal.Binary64
import ObjectCatalog.Text.Numeral

/-!
# The shortest text of a number

A binary floating-point number is written with the fewest significant digits that read back as the
same number, and with those of them that are nearest to it. The search is exact: the numbers that
round to the given one form an interval (its ends belong to it when the significand is even), and
for one, two, up to seventeen digits the two neighbours on that decimal grid are tested against it.

How the digits are laid out is a second decision: positional with at least one decimal from `1e-5`
up to but not including `1e16`, otherwise one digit, the rest after a point, and a signed exponent.
-/

namespace ObjectCatalog.Decimal

/-- An interval of positive fractions around a value, over one denominator. -/
structure Neighbourhood where
  low : Nat
  value : Nat
  high : Nat
  den : Nat
  /-- Whether the ends belong to the interval. -/
  closed : Bool

namespace Neighbourhood

/-- The fractions that round to `significand · 2 ^ exponent`. Below a power of two the numbers lie
twice as dense, so there the lower half gap is half as wide. -/
def ofBinary (significand : Nat) (exponent : Int) : Neighbourhood :=
  let narrow := significand = Binary64.leadingSignificand && Binary64.leastExponent < exponent
  -- In quarters of the last place every end of the interval is a whole number.
  let shift := exponent - 2
  let (unit, den) := Binary64.scaleByTwo 1 1 shift
  { low := (4 * significand - if narrow then 1 else 2) * unit
    value := 4 * significand * unit
    high := (4 * significand + 2) * unit
    den := den
    closed := significand % 2 == 0 }

/-- The interval measured in units of `10 ^ tens`. -/
def inUnitsOf (n : Neighbourhood) (tens : Int) : Neighbourhood :=
  if 0 ≤ tens then { n with den := n.den * Nat.pow 10 tens.toNat }
  else
    let unit := Nat.pow 10 (-tens).toNat
    { n with low := n.low * unit, value := n.value * unit, high := n.high * unit }

/-- Whether a whole number of units lies in the interval. -/
def holds (n : Neighbourhood) (k : Nat) : Bool :=
  if n.closed then n.low ≤ k * n.den && k * n.den ≤ n.high
  else n.low < k * n.den && k * n.den < n.high

/-- The whole number of units in the interval that is nearest to the value, an exact tie going to
the even one; nothing if neither neighbour of the value lies in it. -/
def nearestUnit? (n : Neighbourhood) : Option Nat :=
  let below := n.value / n.den
  let gapBelow := n.value - below * n.den
  let gapAbove := (below + 1) * n.den - n.value
  match n.holds below, n.holds (below + 1) with
  | true, true =>
    if gapBelow < gapAbove then some below
    else if gapAbove < gapBelow then some (below + 1)
    else some (below + below % 2)
  | true, false => some below
  | false, true => some (below + 1)
  | false, false => none

/-- The exponent of the value's leading decimal digit. -/
def leadingDigit (n : Neighbourhood) : Int :=
  if n.den ≤ n.value then ((Nat.toDigits 10 (n.value / n.den)).length : Int) - 1
  else
    -- The inverse has `places + 1` digits before the point, so the value lies between
    -- `10 ^ -(places + 1)` and `10 ^ -places`, and is the latter only if it reaches it.
    let places := (Nat.toDigits 10 (n.den / n.value)).length - 1
    if n.den ≤ n.value * Nat.pow 10 places then -(places : Int) else -(places : Int) - 1

/-- The fewest digits that lie in the interval, with the exponent of the last of them. -/
def shortest (n : Neighbourhood) : Nat × Int :=
  let lead := n.leadingDigit
  let grids := (List.range 17).map fun (i : Nat) => lead - i
  (grids.findSome? fun tens => (n.inUnitsOf tens).nearestUnit?.map (·, tens)).getD (0, 0)

end Neighbourhood

/-- Digits without the zeros at their end, and the exponent of the last digit left. -/
def stripZeros (digits : List Char) (tens : Int) : List Char × Int :=
  let kept := (digits.reverse.dropWhile (· == '0')).reverse
  (kept, tens + ((digits.length - kept.length : Nat) : Int))

/-- Lays out significant digits of which the last has weight `10 ^ tens`. -/
def layout (digits : List Char) (tens : Int) : List Char :=
  let size := digits.length
  -- The place of the point, counted from in front of the first digit.
  let point : Int := size + tens
  if 0 ≤ tens && point ≤ 16 then digits ++ List.replicate tens.toNat '0' ++ ['.', '0']
  else if 0 < point && point ≤ 16 then digits.take point.toNat ++ '.' :: digits.drop point.toNat
  else if -5 < point && point ≤ 0 then
    ['0', '.'] ++ List.replicate (-point).toNat '0' ++ digits
  else
    let power := point - 1
    let sign := if power < 0 then '-' else '+'
    let mantissa := if size ≤ 1 then digits else digits.take 1 ++ '.' :: digits.drop 1
    mantissa ++ 'e' :: sign :: Text.Numeral.digits power.natAbs

def Binary64.text (x : Binary64) : String :=
  let sign := if x.negative then ['-'] else []
  if x.significand = 0 then String.ofList (sign ++ ['0', '.', '0'])
  else
    let (digits, tens) := (Neighbourhood.ofBinary x.significand x.exponent).shortest
    let (digits, tens) := stripZeros (Text.Numeral.digits digits) tens
    String.ofList (sign ++ layout digits tens)

end ObjectCatalog.Decimal
