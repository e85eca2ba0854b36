/-!
# Decimal numerals

Ids travel as decimal text: in cache keys, in cached rows, and in what a caller types when it asks
for an object. Writing uses the fewest digits, with a minus sign in front of a negative number.
Reading is a matter of the place: here are the parts all readers share, the value of a run of
digits and the test that a run holds digits only.

The round trip `value_digits` is the law the readers rest on, and `digits_injective` is what keeps
the cache keys of two ids apart.
-/

namespace ObjectCatalog.Text.Numeral

def signedBound : Nat := 9223372036854775808

def unsignedBound : Nat := 18446744073709551616

/-- The decimal digits of a number, most significant first; zero has the one digit `0`. -/
def digits (n : Nat) : List Char :=
  Nat.toDigits 10 n

/-- The number that a run of decimal digits denotes; leading zeros do not matter. -/
def value (cs : List Char) : Nat :=
  Nat.ofDigitChars 10 cs 0

/-- A non-empty run of ASCII digits. -/
def isRun (cs : List Char) : Bool :=
  !cs.isEmpty && cs.all Char.isDigit

/-- The number a text denotes if it is a run of digits. -/
def read? (cs : List Char) : Option Nat :=
  if isRun cs then some (value cs) else none

/-- A whole number: digits, after a minus sign if it is negative. -/
def signed : Int → List Char
  | .ofNat n => digits n
  | .negSucc n => '-' :: digits (n + 1)

def ofNat (n : Nat) : String :=
  String.ofList (digits n)

def ofInt (n : Int) : String :=
  String.ofList (signed n)

/-! ## Digits determine their number -/

@[simp] theorem value_digits (n : Nat) : value (digits n) = n :=
  Nat.ofDigitChars_toDigits (by decide) (by decide)

theorem digits_injective {m n : Nat} (h : digits m = digits n) : m = n := by
  simpa using congrArg value h

theorem isDigit_of_mem_digits {n : Nat} {c : Char} (h : c ∈ digits n) : c.isDigit = true :=
  Nat.isDigit_of_mem_toDigits (by decide) (by decide) h

theorem digits_ne_nil (n : Nat) : digits n ≠ [] := by
  unfold digits
  rw [Nat.toDigits_eq_if (by decide)]
  split <;> simp

theorem isRun_digits (n : Nat) : isRun (digits n) = true := by
  have h : (digits n).all Char.isDigit = true :=
    List.all_eq_true.2 fun c hc => isDigit_of_mem_digits hc
  simp [isRun, h, digits_ne_nil]

@[simp] theorem read?_digits (n : Nat) : read? (digits n) = some n := by
  simp [read?, isRun_digits]

/-- The first character of a negative numeral is no digit, so the sign is never read as part of a
number and two numerals agree only if their numbers do. -/
theorem signed_injective {m n : Int} (h : signed m = signed n) : m = n := by
  have minus : ∀ k : Nat, '-' ∉ digits k := fun k hk => by
    have := isDigit_of_mem_digits hk
    revert this
    decide
  cases m with
  | ofNat m =>
    cases n with
    | ofNat n => exact congrArg Int.ofNat (digits_injective h)
    | negSucc n =>
      simp only [signed] at h
      exact absurd (h ▸ List.mem_cons_self) (minus m)
  | negSucc m =>
    cases n with
    | ofNat n =>
      simp only [signed] at h
      exact absurd (h ▸ List.mem_cons_self) (minus n)
    | negSucc n =>
      simp only [signed, List.cons.injEq, true_and] at h
      have := digits_injective h
      congr 1
      omega

end ObjectCatalog.Text.Numeral
