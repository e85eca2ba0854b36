import Mathlib.Data.List.Induction
import Mathlib.Data.Nat.Digits.Defs
import ObjectCatalog.Proofs.Text.Trimming
import ObjectCatalog.Repository.Basic

/-!
# Which texts ask for an id

A text asks for an id if it is the numeral of one, with any number of zeros in front and blanks around
it, and for a name otherwise (`Lookup.AsksId`, `Repository.load_asks`). There are two ways to say this,
and they agree: by what the text is put together from, and by what is left of it when it is trimmed,
which is then a run of digits whose value an id can have (`Lookup.ofText_eq_id_iff`).

The step between them is that a run of digits is the numeral of its value behind zeros
(`Text.Numeral.exists_zeros`). The induction is on the run from its end, since the last digit is what a
numeral adds to that of a tenth of its number.
-/

namespace ObjectCatalog

/-! ## 1. Runs of digits -/

namespace Text.Numeral

/-- A run of ASCII digits and the number that it has in the decimal system. -/
structure Denotes (cs : List Char) (n : Nat) : Prop where
  ne_nil : cs ≠ []
  digits : ∀ c ∈ cs, '0' ≤ c ∧ c ≤ '9'
  weights : Nat.ofDigits 10 (cs.reverse.map fun c => c.toNat - '0'.toNat) = n

theorem value_append_singleton (cs : List Char) (c : Char) :
    value (cs ++ [c]) = 10 * value cs + (c.toNat - '0'.toNat) := by
  rw [value, Nat.ofDigitChars, List.foldl_append]
  rfl

/-- Each digit counts by its place. -/
theorem ofDigits_eq_value (cs : List Char) :
    Nat.ofDigits 10 (cs.reverse.map fun c => c.toNat - '0'.toNat) = value cs := by
  induction cs using List.reverseRecOn with
  | nil => rfl
  | append_singleton cs c ih =>
    rw [List.reverse_append, List.reverse_singleton, List.singleton_append, List.map_cons,
      Nat.ofDigits_cons, ih, value_append_singleton]
    exact Nat.add_comm _ _

theorem isDigit_iff {c : Char} : c.isDigit = true ↔ '0' ≤ c ∧ c ≤ '9' := by
  rw [Char.isDigit, Bool.and_eq_true, decide_eq_true_iff, decide_eq_true_iff]
  rfl

theorem read?_eq_some_iff {cs : List Char} {n : Nat} : read? cs = some n ↔ Denotes cs n := by
  rw [read?]
  by_cases hrun : isRun cs = true
  · rw [if_pos hrun, Option.some.injEq]
    rw [isRun, Bool.and_eq_true, Bool.not_eq_true', List.isEmpty_eq_false_iff,
      List.all_eq_true] at hrun
    constructor
    · rintro rfl
      exact ⟨hrun.1, fun c hc => isDigit_iff.1 (hrun.2 c hc), ofDigits_eq_value cs⟩
    · intro h
      rw [← ofDigits_eq_value, h.weights]
  · rw [if_neg hrun]
    constructor
    · intro h
      cases h
    · intro h
      rw [isRun, Bool.and_eq_true, Bool.not_eq_true', List.isEmpty_eq_false_iff,
        List.all_eq_true] at hrun
      exact absurd ⟨h.ne_nil, fun c hc => isDigit_iff.2 (h.digits c hc)⟩ hrun

theorem toNat_of_isDigit {c : Char} (h : c.isDigit = true) : 48 ≤ c.toNat ∧ c.toNat ≤ 57 :=
  (isDigit_iff.1 h).imp UInt32.le_iff_toNat_le.1 UInt32.le_iff_toNat_le.1

/-- No digit is blank. -/
theorem isBlank_of_isDigit {c : Char} (h : c.isDigit = true) : isBlank c = false := by
  have hrange := toNat_of_isDigit h
  simp only [isBlank, Bool.or_eq_false_iff, Bool.and_eq_false_iff, beq_eq_false_iff_ne,
    decide_eq_false_iff_not]
  omega

/-- The digit of the value of a digit is the digit. -/
theorem digits_of_isDigit {c : Char} (h : c.isDigit = true) :
    c.toNat - '0'.toNat < 10 ∧ digits (c.toNat - '0'.toNat) = [c] := by
  have hrange := toNat_of_isDigit h
  have hzero : '0'.toNat = 48 := rfl
  have hlt : c.toNat - '0'.toNat < 10 := by omega
  refine ⟨hlt, ?_⟩
  have hchar : Nat.digitChar (c.toNat - '0'.toNat) = c := by
    apply Char.toNat_inj.1
    rw [Nat.toNat_digitChar_of_lt_ten hlt]
    omega
  rw [digits, Nat.toDigits_of_lt_base hlt, hchar]

/-- A run of digits is the numeral of its value with zeros in front. -/
theorem exists_zeros {cs : List Char} (hne : cs ≠ []) (hdigits : ∀ c ∈ cs, c.isDigit = true) :
    ∃ zeros, cs = List.replicate zeros '0' ++ digits (value cs) := by
  induction cs using List.reverseRecOn with
  | nil => exact absurd rfl hne
  | append_singleton cs c ih =>
    obtain ⟨hlt, hlast⟩ := digits_of_isDigit (hdigits c (by simp))
    rw [value_append_singleton]
    by_cases hnil : cs = []
    · refine ⟨0, ?_⟩
      have hvalue : value [] = 0 := rfl
      rw [hnil, hvalue, Nat.mul_zero, Nat.zero_add, hlast]
      rfl
    · obtain ⟨zeros, hcs⟩ := ih hnil fun d hd => hdigits d (List.mem_append_left _ hd)
      by_cases hvalue : value cs = 0
      · -- So far there were zeros only, and the numeral is that of the last digit.
        refine ⟨zeros + 1, ?_⟩
        have hzero : digits 0 = ['0'] := rfl
        rw [hvalue, hzero] at hcs
        rw [hvalue, Nat.mul_zero, Nat.zero_add, hlast, hcs, List.replicate_succ']
      · refine ⟨zeros, ?_⟩
        have happend : digits (value cs) ++ digits (c.toNat - '0'.toNat) =
            digits (10 * value cs + (c.toNat - '0'.toNat)) :=
          Nat.toDigits_append_toDigits (by decide) (Nat.pos_of_ne_zero hvalue) hlt
        rw [← happend, hlast, ← List.append_assoc, ← hcs]

theorem value_zeros_append (zeros : Nat) (cs : List Char) :
    value (List.replicate zeros '0' ++ cs) = value cs := by
  induction zeros with
  | zero => rfl
  | succ zeros ih => exact ih

end Text.Numeral

/-! ## 2. Texts that ask for an id -/

namespace Lookup

/-- A text is the numeral of an id, with any number of zeros in front and blanks around it. -/
def AsksId (raw : String) (id : Int64) : Prop :=
  0 ≤ id.toInt ∧ ∃ (before behind : String) (zeros : Nat),
    (∀ c ∈ before.toList, Text.isBlank c = true) ∧ (∀ c ∈ behind.toList, Text.isBlank c = true) ∧
    raw = before ++ (String.ofList (List.replicate zeros '0') ++ Text.Numeral.ofInt id.toInt) ++ behind

theorem ofText_eq_id_iff {raw : String} {id : Int64} :
    ofText raw = .id id ↔
      ∃ n : Nat, Text.Numeral.Denotes (Text.trim raw).toList n ∧ id.toInt = n := by
  simp only [← Text.Numeral.read?_eq_some_iff]
  rw [ofText]
  cases hread : Text.Numeral.read? (Text.trim raw).toList with
  | none => simp
  | some n =>
    simp only [Option.some.injEq, exists_eq_left']
    have hbound : Text.Numeral.signedBound = 2 ^ 63 := rfl
    by_cases hn : n < Text.Numeral.signedBound
    · rw [if_pos hn, Lookup.id.injEq]
      have htoInt : (Int64.ofNat n).toInt = n := Int64.toInt_ofNat_of_lt (by omega)
      rw [← Int64.toInt_inj, htoInt]
      exact eq_comm
    · rw [if_neg hn]
      have hle : id.toInt ≤ 2 ^ 63 - 1 := Int64.toInt_le id
      refine iff_of_false nofun ?_
      omega

theorem ofText_eq_name_iff {raw name : String} :
    ofText raw = .name name ↔ name = Text.trim raw ∧
      ¬ ∃ n : Nat, Text.Numeral.Denotes (Text.trim raw).toList n ∧ n ≤ 2 ^ 63 - 1 := by
  simp only [← Text.Numeral.read?_eq_some_iff]
  rw [ofText]
  cases hread : Text.Numeral.read? (Text.trim raw).toList with
  | none => simp [eq_comm]
  | some n =>
    simp only [Option.some.injEq, exists_eq_left']
    have hbound : Text.Numeral.signedBound = 2 ^ 63 := rfl
    by_cases hn : n < Text.Numeral.signedBound
    · rw [if_pos hn]
      refine iff_of_false nofun ?_
      omega
    · rw [if_neg hn, Lookup.name.injEq, eq_comm]
      refine (and_iff_left ?_).symm
      omega

theorem asksId_iff {raw : String} {id : Int64} : AsksId raw id ↔ ofText raw = .id id := by
  rw [ofText_eq_id_iff]
  constructor
  · rintro ⟨hpos, before, behind, zeros, hbefore, hbehind, rfl⟩
    obtain ⟨n, hn⟩ := Int.eq_ofNat_of_zero_le hpos
    have hnumeral : Text.Numeral.ofInt id.toInt = String.ofList (Text.Numeral.digits n) := by
      rw [hn]
      rfl
    have hchars : (String.ofList (List.replicate zeros '0') ++ Text.Numeral.ofInt id.toInt).toList =
        List.replicate zeros '0' ++ Text.Numeral.digits n := by
      rw [hnumeral, String.toList_append, String.toList_ofList, String.toList_ofList]
    have hdigits : ∀ c ∈ List.replicate zeros '0' ++ Text.Numeral.digits n, c.isDigit = true := by
      intro c hc
      rcases List.mem_append.1 hc with hc | hc
      · rw [List.eq_of_mem_replicate hc]
        rfl
      · exact Text.Numeral.isDigit_of_mem_digits hc
    -- There is no blank among the digits, so they are what is left when the text is trimmed.
    rw [Text.trim_surrounded _ hbefore hbehind, Text.trim_of_no_blank fun c hc =>
      Text.Numeral.isBlank_of_isDigit (hdigits c (hchars ▸ hc)), hchars]
    refine ⟨n, ⟨?_, fun c hc => Text.Numeral.isDigit_iff.1 (hdigits c hc), ?_⟩, hn⟩
    · simp [Text.Numeral.digits_ne_nil]
    · rw [Text.Numeral.ofDigits_eq_value, Text.Numeral.value_zeros_append, Text.Numeral.value_digits]
  · rintro ⟨n, hdenotes, hid⟩
    obtain ⟨before, behind, hbefore, hbehind, hraw⟩ := Text.exists_around_trim raw
    obtain ⟨zeros, hzeros⟩ := Text.Numeral.exists_zeros hdenotes.ne_nil fun c hc =>
      Text.Numeral.isDigit_iff.2 (hdenotes.digits c hc)
    rw [← Text.Numeral.ofDigits_eq_value, hdenotes.weights] at hzeros
    have htrim : Text.trim raw =
        String.ofList (List.replicate zeros '0') ++ Text.Numeral.ofInt id.toInt := by
      apply String.toList_inj.1
      rw [hzeros, hid, String.toList_append, String.toList_ofList, Text.Numeral.ofInt,
        String.toList_ofList]
      rfl
    exact ⟨by omega, before, behind, zeros, hbefore, hbehind, htrim ▸ hraw⟩

end Lookup

/-! ## 3. What is asked for is what is loaded -/

namespace Repository

/-- **Which lookup a text runs.** Let a text be trimmed. If a run of ASCII digits is left, of any length
and with any number of zeros in front, and its value is at most the greatest id, then the text asks for
the id with this value. In every other case it asks for the name that is left. So a numeral of an id
that is not negative loads what the id loads, whatever blanks are around it, and all other texts load
what they load as names. -/
theorem load_asks :
    (∀ raw : String, Text.IsTrimOf (Text.trim raw) raw) ∧
    (∀ raw inner : String, Text.IsTrimOf inner raw →
      (∀ id : Int64, Lookup.ofText raw = .id id ↔
        ∃ n : Nat, Text.Numeral.Denotes inner.toList n ∧ id.toInt = n) ∧
      ∀ name, Lookup.ofText raw = .name name ↔ name = inner ∧
        ¬ ∃ n : Nat, Text.Numeral.Denotes inner.toList n ∧ n ≤ 2 ^ 63 - 1) ∧
    (∀ (r : Repository) (raw : String) (id : Int64),
      Lookup.AsksId raw id → r.load raw = r.loadById id) ∧
    ∀ (r : Repository) (raw : String),
      (∀ id, ¬ Lookup.AsksId raw id) → r.load raw = r.loadByName raw := by
  refine ⟨fun raw => Text.isTrimOf_iff.2 rfl, fun raw inner hinner => ?_, fun r raw id hasks => ?_,
    fun r raw hasks => ?_⟩
  · obtain rfl := Text.isTrimOf_iff.1 hinner
    exact ⟨fun _ => Lookup.ofText_eq_id_iff, fun _ => Lookup.ofText_eq_name_iff⟩
  · rw [load, Lookup.asksId_iff.1 hasks, loadById]
  · cases hraw : Lookup.ofText raw with
    | id id => exact absurd (Lookup.asksId_iff.2 hraw) (hasks id)
    | name name => rw [load, hraw, (Lookup.ofText_eq_name_iff.1 hraw).1, loadByName, Lookup.ofName]

theorem load_asks_drawer :
    let drawers := ofType ⟨.sqlite, "", "", "", ""⟩ ⟨"drawer", by decide⟩
    (Text.IsTrimOf "٤٢" " ٤٢\u3000" ∧ Lookup.ofText " ٤٢\u3000" = .name "٤٢") ∧
    (Lookup.AsksId "\u3000 0042\t" 42 ∧ drawers.load "\u3000 0042\t" = drawers.loadById 42) ∧
    (∀ id, ¬ Lookup.AsksId "9223372036854775808" id) ∧
    drawers.load "9223372036854775808" = drawers.loadByName "9223372036854775808" := by
  intro drawers
  have htrim : Text.IsTrimOf "٤٢" " ٤٢\u3000" := Text.isTrimOf_iff.2 (by decide +kernel)
  have hdigits : ¬ ∃ n : Nat, Text.Numeral.Denotes "٤٢".toList n ∧ n ≤ 2 ^ 63 - 1 :=
    fun ⟨n, hdenotes, _⟩ => absurd (hdenotes.digits '٤' (by decide)) (by decide)
  have hasks : Lookup.AsksId "\u3000 0042\t" 42 := Lookup.asksId_iff.2 (by decide +kernel)
  have hlarge : Lookup.ofText "9223372036854775808" = .name "9223372036854775808" := by
    decide +kernel
  have hnone : ∀ id, ¬ Lookup.AsksId "9223372036854775808" id := fun id h =>
    nomatch (Lookup.asksId_iff.1 h).symm.trans hlarge
  exact ⟨⟨htrim, ((load_asks.2.1 _ _ htrim).2 _).2 ⟨rfl, hdigits⟩⟩,
    ⟨hasks, load_asks.2.2.1 drawers _ _ hasks⟩, hnone, load_asks.2.2.2 drawers _ hnone⟩

end Repository

end ObjectCatalog
