/-!
# Binary floating-point numbers, exactly

A number with a fraction or an exponent that stands in a predicate is read as a 64-bit binary
floating-point number and compared as the text of that number. Both steps are exact rules about
whole numbers, so the number is kept here as sign, significand and exponent and never as a machine
float: `nearest?` rounds a decimal numeral to the closest such number, a tie going to the even
significand, and fails where the closest one would be infinite.
-/

namespace ObjectCatalog.Decimal

/-- The finite number `± significand · 2 ^ exponent`. The significand has at most 53 bits, and has
exactly 53 unless the exponent is the least one. Zero has a sign too. -/
structure Binary64 where
  negative : Bool
  significand : Nat
  exponent : Int
  deriving DecidableEq, Repr

namespace Binary64

/-- The least exponent, that of the subnormal numbers. -/
def leastExponent : Int := -1074

/-- The greatest exponent of a finite number. -/
def greatestExponent : Int := 971

/-- The least significand of 53 bits. -/
def leadingSignificand : Nat := 4503599627370496

/-- A quotient rounded to the nearest whole number, a half to the even one. -/
def roundQuotient (num den : Nat) : Nat :=
  let q := num / den
  let twice := 2 * (num % den)
  if twice < den then q
  else if den < twice then q + 1
  else q + q % 2

/-- `num / den · 2 ^ shift` as a fraction without negative powers. -/
def scaleByTwo (num den : Nat) (shift : Int) : Nat × Nat :=
  if 0 ≤ shift then (num * Nat.pow 2 shift.toNat, den) else (num, den * Nat.pow 2 (-shift).toNat)

/-- The exponent of the leading bit of a positive fraction: `2 ^ k ≤ num / den < 2 ^ (k + 1)`. -/
def leadingBit (num den : Nat) : Int :=
  -- From the two lengths alone the exponent is known up to one: it may be one less.
  let guess : Int := (num.log2 : Int) - den.log2
  let (n, d) := scaleByTwo num den (-guess)
  if n < d then guess - 1 else guess

/-- Significand and exponent of the number nearest to a positive fraction, as if exponents had no
upper bound. -/
def roundFraction (num den : Nat) : Nat × Int :=
  let exponent := max (leadingBit num den - 52) leastExponent
  let (n, d) := scaleByTwo num den (-exponent)
  let q := roundQuotient n d
  -- Rounding up all ones gives a power of two, which has one bit too many.
  if q = 2 * leadingSignificand then (leadingSignificand, exponent + 1) else (q, exponent)

/-- The number nearest to `digits · 10 ^ tens`, or nothing if it would be infinite. The first two
cases keep the powers of ten small: a numeral whose first digit stands right of the 324th decimal
place rounds to zero, one with more than 309 digits before the point is infinite. -/
def nearest? (negative : Bool) (digits : Nat) (tens : Int) : Option Binary64 :=
  let leading : Int := (Nat.toDigits 10 digits).length + tens
  if digits = 0 || leading ≤ -324 then some ⟨negative, 0, leastExponent⟩
  else if 309 < leading then none
  else
    let (num, den) :=
      if 0 ≤ tens then (digits * Nat.pow 10 tens.toNat, 1) else (digits, Nat.pow 10 (-tens).toNat)
    let (significand, exponent) := roundFraction num den
    if greatestExponent < exponent then none else some ⟨negative, significand, exponent⟩

end Binary64

end ObjectCatalog.Decimal
