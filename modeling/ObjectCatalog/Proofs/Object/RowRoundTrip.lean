import ObjectCatalog.Proofs.Object.CachedForms

/-!
# A cached row reads back

What `CachedRow.print` writes, `CachedRow.parse?` reads as the same row, whatever the id and whatever
characters are in the name. So a row that comes out of the cache is the row that was put in.

The printed text is one of the texts of the row: a printed string is a string of JSON that stands for
what was printed, a printed number is a number, and the members are there once each
(`CachedRow.writtenIn_print`). What is read of any other text of the row is printed as this one.
-/

namespace ObjectCatalog

namespace Json

/-! ## 1. Strings -/

theorem hexValue?_hexDigit {n : Nat} (h : n < 16) : Text.hexValue? (hexDigit n) = some n := by
  revert n
  decide

/-- A printed control character is the code of the character. -/
theorem written_code {c : Char} (h : c.toNat < 0x20) :
    (StringUnit.code c.toNat).Written
      ['\\', 'u', '0', '0', hexDigit (c.toNat / 16), hexDigit (c.toNat % 16)] := by
  have hdigits : HexDigits ['0', '0', hexDigit (c.toNat / 16), hexDigit (c.toNat % 16)]
      [0, 0, c.toNat / 16, c.toNat % 16] :=
    .cons rfl (.cons rfl (.cons (hexValue?_hexDigit (by omega)) (.cons (hexValue?_hexDigit (by omega)) .nil)))
  have hvalue : hexNumber 0 [0, 0, c.toNat / 16, c.toNat % 16] = c.toNat := by
    simp only [hexNumber, List.foldl_cons, List.foldl_nil]
    omega
  have hwritten := StringUnit.Written.code hdigits rfl
  rwa [hvalue] at hwritten

theorem UnitsDenote.control {n : Nat} (h : n < 0x20) {units : List StringUnit} {cs : List Char}
    (hrest : UnitsDenote units cs) : UnitsDenote (.code n :: units) (Char.ofNat n :: cs) := by
  have hhigh : isHighSurrogate n = false := by
    rw [isHighSurrogate, Bool.and_eq_false_iff]
    exact .inl (decide_eq_false (by omega))
  have hlow : isLowSurrogate n = false := by
    rw [isLowSurrogate, Bool.and_eq_false_iff]
    exact .inl (decide_eq_false (by omega))
  exact .code hhigh hlow hrest

/-- A printed character is written for one unit, which stands for the character. -/
theorem exists_unit (c : Char) : ∃ unit : StringUnit, unit.Written (escape c) ∧
    ∀ {units : List StringUnit} {cs : List Char}, UnitsDenote units cs →
      UnitsDenote (unit :: units) (c :: cs) := by
  -- Some characters have an escape of their own, other control characters are written by their code,
  -- and all the rest stand for themselves.
  by_cases hletter : c = '"' ∨ c = '\\' ∨ c = '\x08' ∨ c = '\t' ∨ c = '\n' ∨ c = '\x0c' ∨ c = '\r'
  · refine ⟨.char c, ?_, .char⟩
    rcases hletter with rfl | rfl | rfl | rfl | rfl | rfl | rfl <;> exact .letter rfl
  · simp only [not_or] at hletter
    obtain ⟨hquote, hbackslash, h3, h4, h5, h6, h7⟩ := hletter
    have hescape : escape c = if c.toNat < 0x20 then
        ['\\', 'u', '0', '0', hexDigit (c.toNat / 16), hexDigit (c.toNat % 16)] else [c] := by
      simp only [escape, beq_iff_eq, hquote, hbackslash, h3, h4, h5, h6, h7, if_false]
    by_cases hcontrol : c.toNat < 0x20
    · refine ⟨.code c.toNat, ?_, fun hrest => ?_⟩
      · rw [hescape, if_pos hcontrol]
        exact written_code hcontrol
      · have hdenote := UnitsDenote.control hcontrol hrest
        rwa [Char.ofNat_toNat] at hdenote
    · refine ⟨.char c, ?_, .char⟩
      rw [hescape, if_neg hcontrol]
      exact .plain hquote hbackslash (Nat.le_of_not_lt hcontrol)

theorem exists_units (cs : List Char) :
    ∃ units, UnitsWritten units (cs.flatMap escape) ∧ UnitsDenote units cs := by
  induction cs with
  | nil => exact ⟨[], .nil, .nil⟩
  | cons c cs ih =>
    obtain ⟨unit, hunit, hdenote⟩ := exists_unit c
    obtain ⟨units, hunits, hcs⟩ := ih
    refine ⟨unit :: units, ?_, hdenote hcs⟩
    rw [List.flatMap_cons]
    exact .cons hunit hunits

/-- A printed string is written for a token that stands for the string. -/
theorem exists_string (s : String) :
    ∃ units, (Token.string units).Written (quote s) ∧ UnitsDenote units s.toList := by
  obtain ⟨units, hunits, hdenote⟩ := exists_units s.toList
  exact ⟨units, .string hunits, hdenote⟩

/-! ## 2. Numbers -/

/-- A numeral does not begin with a zero, unless it is that of zero. -/
theorem eq_zero_of_head?_digits {n : Nat} (h : (Text.Numeral.digits n).head? = some '0') : n = 0 := by
  induction n using Nat.strongRecOn with
  | ind n ih =>
    rw [Text.Numeral.digits, Nat.toDigits_eq_if (by decide)] at h
    by_cases hlt : n < 10
    · have hdigit : ∀ m < 10, Nat.digitChar m = '0' → m = 0 := by decide
      rw [if_pos hlt, List.head?_cons] at h
      exact hdigit n hlt (Option.some.inj h)
    · obtain ⟨c, cs, hcs⟩ := List.exists_cons_of_ne_nil (Text.Numeral.digits_ne_nil (n / 10))
      have hhead : (Text.Numeral.digits (n / 10)).head? = some '0' := by
        rw [if_neg hlt, ← Text.Numeral.digits, hcs, List.cons_append, List.head?_cons] at h
        rw [hcs, List.head?_cons, h]
      -- A numeral of several digits begins as that of its tenth part does, which is not zero.
      have hzero := ih (n / 10) (by omega) hhead
      omega

theorem magnitudeWritten_digits (negative : Bool) (n : Nat) :
    MagnitudeWritten negative ⟨negative, Text.Numeral.digits n, none, none⟩ (Text.Numeral.digits n) := by
  have hzero : (Text.Numeral.digits n).head? = some '0' → Text.Numeral.digits n = ['0'] := by
    intro hhead
    rw [eq_zero_of_head?_digits hhead]
    rfl
  simpa using MagnitudeWritten.parts (Text.Numeral.isRun_digits n) hzero .absent .absent

/-- A printed whole number is written for its sign and its digits. -/
theorem written_signed (n : Int) :
    NumberLiteral.Written ⟨decide (n < 0), Text.Numeral.digits n.natAbs, none, none⟩
      (Text.Numeral.signed n) := by
  cases n with
  | ofNat n =>
    have hnegative : ¬ Int.ofNat n < 0 := Int.not_lt.2 (Int.natCast_nonneg n)
    rw [decide_eq_false hnegative]
    exact .positive (magnitudeWritten_digits false n)
  | negSucc n =>
    rw [decide_eq_true (Int.negSucc_lt_zero n)]
    exact .negative (magnitudeWritten_digits true (n + 1))

end Json

namespace CachedRow

/-! ## 3. Rows -/

/-- A printed id is written for a number that stands for the id. -/
theorem exists_number (id : Int64) : ∃ literal : Json.NumberLiteral,
    literal.Written (Text.Numeral.signed id.toInt) ∧ IdWritten (.number literal) id := by
  refine ⟨_, Json.written_signed id.toInt, ?_⟩
  by_cases hnegative : id.toInt < 0
  · rw [decide_eq_true hnegative]
    refine .negative (by rw [Text.Numeral.value_digits]; omega) ?_
    rintro rfl
    exact absurd hnegative (by decide)
  · rw [decide_eq_false hnegative]
    exact .natural (by rw [Text.Numeral.value_digits]; omega)

/-- The printed text is one of the texts of the row. -/
theorem writtenIn_print (row : CachedRow) : row.WrittenIn row.print := by
  obtain ⟨idUnits, hidWritten, hid⟩ := Json.exists_string "id"
  obtain ⟨literal, hnumber, hliteral⟩ := exists_number row.id
  obtain ⟨nameUnits, hnameWritten, hname⟩ := Json.exists_string "name"
  obtain ⟨units, hwritten, hdenote⟩ := Json.exists_string row.name
  have hdistinct : ∀ {key : String} (other : String) (units : List Json.StringUnit),
      Json.UnitsDenote units key.toList → key ≠ other → ¬ Json.UnitsDenote units other.toList := by
    intro key other units hkey hne hother
    rw [← Json.decodeString?_eq_some_iff] at hkey hother
    exact hne (Option.some.inj (hkey.symm.trans hother))
  have hmark : ∀ c m, Json.mark? c = some m → Json.Spells [.mark m] [c] :=
    fun _ _ hm => (Json.Token.Written.mark hm).spells
  have hprint : row.print.toList = ['\x7b'] ++ (Json.quote "id" ++ ([':'] ++
      (Text.Numeral.signed row.id.toInt ++ ([','] ++ (Json.quote "name" ++ ([':'] ++
        (Json.quote row.name ++ ['\x7d']))))))) := by
    have hfirst : "\x7b\"id\":".toList = '\x7b' :: (Json.quote "id" ++ [':']) := by decide +kernel
    have hsecond : ",\"name\":".toList = ',' :: (Json.quote "name" ++ [':']) := by decide +kernel
    unfold print printChars
    simp only [String.toList_ofList, hfirst, hsecond, List.append_assoc, List.cons_append,
      List.nil_append]
  have hspells := (hmark '\x7b' _ rfl).append <| hidWritten.spells.append <|
    (hmark ':' _ rfl).append <| (Json.Token.Written.number hnumber).spells.append <|
    (hmark ',' _ rfl).append <| hnameWritten.spells.append <| (hmark ':' _ rfl).append <|
    hwritten.spells.append <| hmark '\x7d' _ rfl
  refine ⟨.object [(idUnits, .number literal), (nameUnits, .string units)], ?_, ?_⟩
  · rw [hprint]
    simpa [Json.Tree.tokens, Json.memberTokens] using hspells
  · have hotherId : ¬ Json.HasKey "id" (nameUnits, .string units) :=
      hdistinct "id" nameUnits hname (by decide)
    have hotherName : ¬ Json.HasKey "name" (idUnits, .number literal) :=
      hdistinct "name" idUnits hid (by decide)
    refine .object ?_ (.here hid ?_) hliteral (.later hotherName (.here hname ?_)) (.string hdenote)
    · simp only [List.forall_mem_cons, List.not_mem_nil, false_imp_iff, implies_true, and_true]
      exact ⟨⟨"id", hid⟩, ⟨"name", hname⟩⟩
    · simpa using hotherId
    · simp

/-- What is printed of a row is read as the row. -/
theorem parse?_print (row : CachedRow) : parse? row.print = some row :=
  parse?_eq_some_iff.2 (writtenIn_print row)

/-- Different rows are printed as different texts. -/
theorem print_injective {row row' : CachedRow} (h : row.print = row'.print) : row = row' := by
  have hread := parse?_print row
  rw [h, parse?_print] at hread
  exact (Option.some.inj hread).symm

/-- Rows survive the cache. A printed row is read as the row, and different rows are printed as different
texts. The texts that are read as a row are those it may be written in, and from each of them on, printing
what is read gives one and the same text. -/
theorem survives_cache :
    (∀ row : CachedRow, parse? row.print = some row) ∧
    (∀ row row' : CachedRow, row ≠ row' → row.print ≠ row'.print) ∧
    (∀ (text : String) (row : CachedRow), parse? text = some row ↔ row.WrittenIn text) ∧
    ∀ (text : String) (row : CachedRow), parse? text = some row →
      parse? row.print = some row ∧ (parse? row.print).map print = some row.print := by
  refine ⟨parse?_print, fun row row' hne hprint => hne (print_injective hprint),
    fun text row => parse?_eq_some_iff, fun text row _ => ⟨parse?_print row, ?_⟩⟩
  rw [parse?_print, Option.map_some]

theorem survives_cache_farLantern :
    let row : CachedRow := ⟨-9223372036854775808, "é😀/"⟩
    let array := " [ -9223372036854775808,\t\"\\u00E9\\ud83d\\uDE00\\/\"]\n"
    let object := "\x7b\"ids\":[\x7b\x7d,1e999,\"\\ud800\"], \"name\":\"é\\ud83d\\ude00/\",
      \"\\u0069d\":-9223372036854775808\x7d"
    (row.WrittenIn array ∧ parse? row.print = some row) ∧
    row.WrittenIn object ∧ (parse? row.print).map print = some row.print := by
  intro row array object
  have harray : parse? array = some row := by decide +kernel
  have hobject : parse? object = some row := by decide +kernel
  exact ⟨⟨(survives_cache.2.2.1 array row).1 harray, (survives_cache.2.2.2 array row harray).1⟩,
    (survives_cache.2.2.1 object row).1 hobject, (survives_cache.2.2.2 object row hobject).2⟩

end CachedRow

end ObjectCatalog
