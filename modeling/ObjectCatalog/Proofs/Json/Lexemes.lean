import Mathlib.Data.List.Forall2
import Mathlib.Data.List.TakeWhile
import ObjectCatalog.Json.Token

/-!
# How the tokens of a JSON text are written

What may stand in a text for a token is said here without the machine that reads it: strings are units
between quotes, numbers have their parts in order, and between tokens there may be blanks (`Spells`).

Of the readers only that of numbers looks at a whole lexeme at once. It takes off one part after the
other, so it reads a number exactly if these parts are there in order, and nothing besides
(`numberLiteral?_eq_some_iff`). A run of digits ends where the next part begins, because no part begins
with a digit.
-/

namespace ObjectCatalog.Json

open Text.Numeral (isRun)

/-! ## 1. What is written for a token -/

/-- The number of some hexadecimal digits, given by their values, after digits that make `value`. -/
def hexNumber (value : Nat) (digits : List Nat) : Nat :=
  digits.foldl (fun value digit => 16 * value + digit) value

/-- Characters that are the hexadecimal digits of these values, in either case. -/
abbrev HexDigits : List Char → List Nat → Prop :=
  List.Forall₂ fun c n => Text.hexValue? c = some n

/-- What is written between the quotes for a unit of a string. -/
inductive StringUnit.Written : StringUnit → List Char → Prop
  | plain {c : Char} (hquote : c ≠ '"') (hbackslash : c ≠ '\\') (hcontrol : 0x20 ≤ c.toNat) :
      Written (.char c) [c]
  | letter {letter c : Char} (h : escaped? letter = some c) : Written (.char c) ['\\', letter]
  | code {digits : List Char} {values : List Nat} (h : HexDigits digits values)
      (hlength : digits.length = 4) : Written (.code (hexNumber 0 values)) ('\\' :: 'u' :: digits)

inductive UnitsWritten : List StringUnit → List Char → Prop
  | nil : UnitsWritten [] []
  | cons {unit : StringUnit} {units : List StringUnit} {lexeme rest : List Char}
      (h : unit.Written lexeme) (hrest : UnitsWritten units rest) :
      UnitsWritten (unit :: units) (lexeme ++ rest)

inductive FractionWritten : Option (List Char) → List Char → Prop
  | absent : FractionWritten none []
  | present {digits : List Char} (h : isRun digits = true) :
      FractionWritten (some digits) ('.' :: digits)

/-- The sign of an exponent may be left out if it is not negative. -/
inductive ExponentWritten : Option (Bool × List Char) → List Char → Prop
  | absent : ExponentWritten none []
  | unsigned {mark : Char} {digits : List Char} (hmark : mark = 'e' ∨ mark = 'E')
      (h : isRun digits = true) : ExponentWritten (some (false, digits)) (mark :: digits)
  | positive {mark : Char} {digits : List Char} (hmark : mark = 'e' ∨ mark = 'E')
      (h : isRun digits = true) : ExponentWritten (some (false, digits)) (mark :: '+' :: digits)
  | negative {mark : Char} {digits : List Char} (hmark : mark = 'e' ∨ mark = 'E')
      (h : isRun digits = true) : ExponentWritten (some (true, digits)) (mark :: '-' :: digits)

/-- What follows the sign of a number. The whole part does not begin with a zero, unless it is one. -/
inductive MagnitudeWritten (negative : Bool) : NumberLiteral → List Char → Prop
  | parts {whole fractionText exponentText : List Char} {fraction : Option (List Char)}
      {exponent : Option (Bool × List Char)} (hwhole : isRun whole = true)
      (hzero : whole.head? = some '0' → whole = ['0'])
      (hfraction : FractionWritten fraction fractionText)
      (hexponent : ExponentWritten exponent exponentText) :
      MagnitudeWritten negative ⟨negative, whole, fraction, exponent⟩
        (whole ++ (fractionText ++ exponentText))

inductive NumberLiteral.Written : NumberLiteral → List Char → Prop
  | positive {l : NumberLiteral} {cs : List Char} (h : MagnitudeWritten false l cs) : Written l cs
  | negative {l : NumberLiteral} {cs : List Char} (h : MagnitudeWritten true l cs) :
      Written l ('-' :: cs)

inductive Token.Written : Token → List Char → Prop
  | mark {c : Char} {m : Mark} (h : mark? c = some m) : Written (.mark m) [c]
  | string {units : List StringUnit} {cs : List Char} (h : UnitsWritten units cs) :
      Written (.string units) ('"' :: cs ++ ['"'])
  | number {l : NumberLiteral} {cs : List Char} (h : l.Written cs) : Written (.number l) cs
  | null : Written .null ['n', 'u', 'l', 'l']
  | yes : Written (.bool true) ['t', 'r', 'u', 'e']
  | no : Written (.bool false) ['f', 'a', 'l', 's', 'e']

/-- A text of tokens in order, with any blanks in front of each and at the end. -/
inductive Spells : List Token → List Char → Prop
  | nil {blanks : List Char} (h : ∀ c ∈ blanks, isSpace c = true) : Spells [] blanks
  | cons {token : Token} {tokens : List Token} {blanks lexeme rest : List Char}
      (hblanks : ∀ c ∈ blanks, isSpace c = true) (h : token.Written lexeme)
      (hrest : Spells tokens rest) : Spells (token :: tokens) (blanks ++ (lexeme ++ rest))

/-! ## 2. Numbers -/

theorem isDigit_of_isRun {digits : List Char} (h : isRun digits = true) :
    ∀ c ∈ digits, c.isDigit = true := by
  rw [isRun, Bool.and_eq_true] at h
  exact List.all_eq_true.1 h.2

/-- Digits in front of something else are what is taken off. -/
theorem takeWhile_digits {digits rest : List Char} (h : isRun digits = true)
    (hrest : ∀ c, rest.head? = some c → c.isDigit = false) :
    (digits ++ rest).takeWhile Char.isDigit = digits ∧
      (digits ++ rest).dropWhile Char.isDigit = rest := by
  rw [List.takeWhile_append_of_pos (isDigit_of_isRun h),
    List.dropWhile_append_of_pos (isDigit_of_isRun h)]
  cases rest with
  | nil => simp
  | cons c rest => simp [hrest c rfl]

/-- What is taken off a text that begins with a digit is a run of digits. -/
theorem isRun_takeWhile {cs : List Char} (h : (cs.takeWhile Char.isDigit).isEmpty = false) :
    isRun (cs.takeWhile Char.isDigit) = true := by
  have hall : (cs.takeWhile Char.isDigit).all Char.isDigit = true :=
    List.all_eq_true.2 fun c hc => List.mem_takeWhile_imp hc
  simp [isRun, h, hall]

theorem ExponentWritten.head {exponent : Option (Bool × List Char)} {cs : List Char}
    (h : ExponentWritten exponent cs) : ∀ c, cs.head? = some c → c.isDigit = false := by
  have hmark : ∀ mark : Char, mark = 'e' ∨ mark = 'E' → mark.isDigit = false := by
    rintro mark (rfl | rfl) <;> rfl
  intro c hc
  cases h with
  | absent => cases hc
  | unsigned h _ => exact Option.some.inj hc ▸ hmark _ h
  | positive h _ => exact Option.some.inj hc ▸ hmark _ h
  | negative h _ => exact Option.some.inj hc ▸ hmark _ h

theorem exponent?_eq_some_iff {mark : Char} (hmark : mark = 'e' ∨ mark = 'E') {cs : List Char}
    {e : Bool × List Char} :
    exponent? cs = some e ↔ ExponentWritten (some e) (mark :: cs) := by
  constructor
  · intro h
    unfold exponent? at h
    split at h
    rename_i negative digits heq
    split at heq
    · obtain ⟨rfl, rfl⟩ := Prod.mk.inj heq
      obtain ⟨hrun, ⟨⟩⟩ := Option.ite_none_right_eq_some.1 h
      exact .negative hmark hrun
    · obtain ⟨rfl, rfl⟩ := Prod.mk.inj heq
      obtain ⟨hrun, ⟨⟩⟩ := Option.ite_none_right_eq_some.1 h
      exact .positive hmark hrun
    · obtain ⟨rfl, rfl⟩ := Prod.mk.inj heq
      obtain ⟨hrun, ⟨⟩⟩ := Option.ite_none_right_eq_some.1 h
      exact .unsigned hmark hrun
  · intro h
    cases h with
    | unsigned _ hrun =>
      -- A sign is no digit, so the digits are not read as a sign and more.
      have hminus : ∀ rest, cs ≠ '-' :: rest := by
        rintro rest rfl
        exact absurd (isDigit_of_isRun hrun _ List.mem_cons_self) (by decide)
      have hplus : ∀ rest, cs ≠ '+' :: rest := by
        rintro rest rfl
        exact absurd (isDigit_of_isRun hrun _ List.mem_cons_self) (by decide)
      simp [exponent?, hrun]
    | positive _ hrun => simp [exponent?, hrun]
    | negative _ hrun => simp [exponent?, hrun]

theorem exponentWritten_nil {exponent : Option (Bool × List Char)} :
    ExponentWritten exponent [] ↔ exponent = none := by
  constructor
  · rintro ⟨⟩
    rfl
  · rintro rfl
    exact .absent

theorem exponentWritten_cons {exponent : Option (Bool × List Char)} {c : Char} {power : List Char} :
    ExponentWritten exponent (c :: power) ↔
      (c == 'e' || c == 'E') = true ∧ ∃ e, exponent? power = some e ∧ exponent = some e := by
  simp only [Bool.or_eq_true, beq_iff_eq]
  constructor
  · intro h
    have hmark : c = 'e' ∨ c = 'E' := by
      cases h with
      | unsigned hmark => exact hmark
      | positive hmark => exact hmark
      | negative hmark => exact hmark
    cases exponent with
    | none => cases h
    | some e => exact ⟨hmark, e, (exponent?_eq_some_iff hmark).2 h, rfl⟩
  · rintro ⟨hmark, e, he, rfl⟩
    exact (exponent?_eq_some_iff hmark).1 he

/-- What follows the whole part of a number and is no fraction. -/
theorem numberTail?_of_head_ne {negative : Bool} {whole cs : List Char} {l : NumberLiteral}
    (hdot : cs.head? ≠ some '.') :
    numberTail? negative whole cs = some l ↔
      ∃ exponent, ExponentWritten exponent cs ∧ l = ⟨negative, whole, none, exponent⟩ := by
  cases cs with
  | nil => simp [numberTail?, exponentWritten_nil, eq_comm]
  | cons c power =>
    have hc : c ≠ '.' := fun heq => hdot (congrArg some heq)
    have htail : numberTail? negative whole (c :: power) = if (c == 'e' || c == 'E') = true then
        (exponent? power).map fun e => ⟨negative, whole, none, some e⟩ else none := by
      simp only [numberTail?]
    rw [htail, Option.ite_none_right_eq_some, Option.map_eq_some_iff]
    simp only [exponentWritten_cons]
    constructor
    · rintro ⟨hmark, e, he, rfl⟩
      exact ⟨some e, ⟨hmark, e, he, rfl⟩, rfl⟩
    · rintro ⟨_, ⟨hmark, e, he, rfl⟩, rfl⟩
      exact ⟨hmark, e, he, rfl⟩

/-- A fraction has the digits that follow the point, all of them, and an exponent may follow. -/
theorem numberTail?_dot {negative : Bool} {whole rest : List Char} {l : NumberLiteral} :
    numberTail? negative whole ('.' :: rest) = some l ↔
      isRun (rest.takeWhile Char.isDigit) = true ∧ ∃ exponent,
        ExponentWritten exponent (rest.dropWhile Char.isDigit) ∧
        l = ⟨negative, whole, some (rest.takeWhile Char.isDigit), exponent⟩ := by
  simp only [numberTail?]
  by_cases hempty : (rest.takeWhile Char.isDigit).isEmpty = true
  · rw [if_pos hempty]
    refine iff_of_false nofun ?_
    rintro ⟨hrun, -⟩
    rw [isRun, hempty] at hrun
    cases hrun
  · rw [if_neg hempty, and_iff_right (isRun_takeWhile (Bool.not_eq_true _ ▸ hempty))]
    cases rest.dropWhile Char.isDigit with
    | nil => simp [exponentWritten_nil, eq_comm]
    | cons c power =>
      simp only [exponentWritten_cons]
      rw [Option.ite_none_right_eq_some, Option.map_eq_some_iff]
      constructor
      · rintro ⟨hmark, e, he, rfl⟩
        exact ⟨some e, ⟨hmark, e, he, rfl⟩, rfl⟩
      · rintro ⟨_, ⟨hmark, e, he, rfl⟩, rfl⟩
        exact ⟨hmark, e, he, rfl⟩

theorem numberTail?_eq_some_iff {negative : Bool} {whole cs : List Char} {l : NumberLiteral} :
    numberTail? negative whole cs = some l ↔
      ∃ fraction exponent fractionText exponentText, FractionWritten fraction fractionText ∧
        ExponentWritten exponent exponentText ∧ cs = fractionText ++ exponentText ∧
        l = ⟨negative, whole, fraction, exponent⟩ := by
  by_cases hdot : cs.head? = some '.'
  · obtain ⟨rest, rfl⟩ := List.head?_eq_some_iff.1 hdot
    rw [numberTail?_dot]
    constructor
    · rintro ⟨hrun, exponent, hexponent, rfl⟩
      refine ⟨_, _, _, _, .present hrun, hexponent, ?_, rfl⟩
      rw [List.cons_append, List.takeWhile_append_dropWhile]
    · rintro ⟨fraction, exponent, fractionText, exponentText, hfraction, hexponent, hcs, rfl⟩
      cases hfraction with
      | absent =>
        -- No exponent begins with a point.
        rw [List.nil_append] at hcs
        exact absurd (exponentWritten_cons.1 (hcs ▸ hexponent)).1 (by decide)
      | @present digits hrun =>
        obtain ⟨-, rfl⟩ := List.cons.inj hcs
        obtain ⟨htake, hdrop⟩ := takeWhile_digits hrun hexponent.head
        rw [List.append_eq, htake, hdrop]
        exact ⟨hrun, exponent, hexponent, rfl⟩
  · rw [numberTail?_of_head_ne hdot]
    constructor
    · rintro ⟨exponent, hexponent, rfl⟩
      exact ⟨none, exponent, [], cs, .absent, hexponent, rfl, rfl⟩
    · rintro ⟨fraction, exponent, fractionText, exponentText, hfraction, hexponent, rfl, rfl⟩
      cases hfraction with
      | absent => exact ⟨exponent, hexponent, rfl⟩
      | present hrun => exact absurd rfl hdot

/-- Reading a number after its sign. -/
def magnitude? (negative : Bool) (cs : List Char) : Option NumberLiteral :=
  let whole := cs.takeWhile Char.isDigit
  if whole.isEmpty || (whole.head? == some '0' && 1 < whole.length) then none
  else numberTail? negative whole (cs.dropWhile Char.isDigit)

theorem numberLiteral?_minus (rest : List Char) :
    numberLiteral? ('-' :: rest) = magnitude? true rest := rfl

theorem numberLiteral?_of_head_ne {cs : List Char} (h : cs.head? ≠ some '-') :
    numberLiteral? cs = magnitude? false cs := by
  have hminus : ∀ rest, cs ≠ '-' :: rest := by
    rintro rest rfl
    exact h rfl
  simp [numberLiteral?, magnitude?]

/-- A fraction or an exponent does not begin with a digit. -/
theorem isDigit_head_tail {fraction : Option (List Char)} {exponent : Option (Bool × List Char)}
    {fractionText exponentText : List Char} (hfraction : FractionWritten fraction fractionText)
    (hexponent : ExponentWritten exponent exponentText) :
    ∀ c, (fractionText ++ exponentText).head? = some c → c.isDigit = false := by
  cases hfraction with
  | absent => exact hexponent.head
  | present _ =>
    intro c hc
    obtain rfl := Option.some.inj hc
    rfl

/-- The test of the whole part, for a run of digits: a zero in front has nothing behind it. -/
theorem whole_begins_iff {whole : List Char} (h : isRun whole = true) :
    ¬ (whole.isEmpty || (whole.head? == some '0' && decide (1 < whole.length))) = true ↔
      (whole.head? = some '0' → whole = ['0']) := by
  cases whole with
  | nil => cases h
  | cons c rest =>
    by_cases hzero : c = '0'
    · subst hzero
      simp [List.length_pos_iff]
    · simp [hzero]

theorem magnitude?_eq_some_iff {negative : Bool} {cs : List Char} {l : NumberLiteral} :
    magnitude? negative cs = some l ↔ MagnitudeWritten negative l cs := by
  constructor
  · intro h
    rw [magnitude?, Option.ite_none_left_eq_some] at h
    obtain ⟨hwhole, htail⟩ := h
    obtain ⟨fraction, exponent, fractionText, exponentText, hfraction, hexponent, hrest, rfl⟩ :=
      numberTail?_eq_some_iff.1 htail
    have hempty : (cs.takeWhile Char.isDigit).isEmpty = false := by
      rw [Bool.or_eq_true, not_or] at hwhole
      exact Bool.not_eq_true _ ▸ hwhole.1
    have hrun := isRun_takeWhile hempty
    have hcs : cs = cs.takeWhile Char.isDigit ++ (fractionText ++ exponentText) := by
      rw [← hrest, List.takeWhile_append_dropWhile]
    have hparts : MagnitudeWritten negative _ _ :=
      .parts hrun ((whole_begins_iff hrun).1 hwhole) hfraction hexponent
    rwa [← hcs] at hparts
  · intro h
    cases h with
    | parts hwhole hzero hfraction hexponent =>
      obtain ⟨htake, hdrop⟩ := takeWhile_digits hwhole (isDigit_head_tail hfraction hexponent)
      rw [magnitude?, htake, hdrop, if_neg ((whole_begins_iff hwhole).2 hzero)]
      exact numberTail?_eq_some_iff.2 ⟨_, _, _, _, hfraction, hexponent, rfl, rfl⟩

/-- A magnitude begins with a digit. -/
theorem MagnitudeWritten.exists_head {negative : Bool} {l : NumberLiteral} {cs : List Char}
    (h : MagnitudeWritten negative l cs) : ∃ c rest, cs = c :: rest ∧ c.isDigit = true := by
  cases h with
  | @parts whole _ _ _ _ hwhole =>
    cases whole with
    | nil => cases hwhole
    | cons c rest => exact ⟨c, _, rfl, isDigit_of_isRun hwhole c List.mem_cons_self⟩

theorem numberLiteral?_eq_some_iff {cs : List Char} {l : NumberLiteral} :
    numberLiteral? cs = some l ↔ l.Written cs := by
  by_cases hminus : cs.head? = some '-'
  · obtain ⟨rest, rfl⟩ := List.head?_eq_some_iff.1 hminus
    rw [numberLiteral?_minus, magnitude?_eq_some_iff]
    constructor
    · exact .negative
    · intro h
      cases h with
      | positive h =>
        obtain ⟨c, _, hcs, hdigit⟩ := h.exists_head
        obtain ⟨rfl, -⟩ := List.cons.inj hcs
        cases hdigit
      | negative h => exact h
  · rw [numberLiteral?_of_head_ne hminus, magnitude?_eq_some_iff]
    constructor
    · exact .positive
    · intro h
      cases h with
      | positive h => exact h
      | negative h => exact absurd rfl hminus

end ObjectCatalog.Json
