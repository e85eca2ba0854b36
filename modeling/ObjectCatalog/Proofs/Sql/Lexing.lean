import ObjectCatalog.Identifier
import ObjectCatalog.Sql.Condition

/-!
# How conditions are cut into lexemes

A condition is written from few kinds of parts: identifiers, the marks `(`, `)`, `.` and `=`, single
blanks, and the places of arguments. The lemmas here take one such part off the front of a text, as
the database does, and leave the lexemes of the rest. What follows a word or a place has to end it,
which a blank, a dot and a closing parenthesis do (`Lexeme.Ends`).
-/

namespace ObjectCatalog.Lexeme

/-- Whether a text can follow a word or the place of an argument without becoming a part of it. -/
def Ends (rest : List Char) : Prop :=
  ∀ c, rest.head? = some c → c = ' ' ∨ c = ')' ∨ c = '.'

@[simp] theorem ends_nil : Ends [] := fun _ h => nomatch h

@[simp] theorem ends_blank (cs : List Char) : Ends (' ' :: cs) :=
  fun _ h => .inl (Option.some.inj h).symm

@[simp] theorem ends_close (cs : List Char) : Ends (')' :: cs) :=
  fun _ h => .inr (.inl (Option.some.inj h).symm)

@[simp] theorem ends_dot (cs : List Char) : Ends ('.' :: cs) :=
  fun _ h => .inr (.inr (Option.some.inj h).symm)

/-! ## Taking off what is known -/

theorem lexFrom_length_append (taken rest : List Char) :
    lexFrom taken.length (taken ++ rest) = lexFrom 0 rest := by
  induction taken with
  | nil => rfl
  | cons c cs ih => exact ih

/-- A text that is one lexeme in front of the given rest. -/
theorem lexFrom_of_scan {text : String} {c : Char} {cs rest : List Char} {kind : LexemeKind}
    (htext : text.toList = c :: cs) (h : scan c (cs ++ rest) = (some kind, cs.length)) :
    lexFrom 0 (text.toList ++ rest) = ⟨kind, text⟩ :: lexFrom 0 rest := by
  rw [htext, List.cons_append, lexFrom, h]
  simp only [List.take_left', lexFrom_length_append]
  rw [← htext, String.ofList_toList]

/-- A single blank in front of a text that begins with something else. -/
theorem lexFrom_blank {c : Char} {cs : List Char} (hhead : cs.head? = some c)
    (hc : isBlankRest c = false) : lexFrom 0 (' ' :: cs) = lexFrom 0 cs := by
  obtain ⟨rest, rfl⟩ : ∃ rest, cs = c :: rest := List.head?_eq_some_iff.1 hhead
  have hscan : scan ' ' (c :: rest) = (none, 0) := by
    show (none, runLength isBlankRest (c :: rest)) = _
    rw [runLength, List.takeWhile_cons_of_neg (by simp [hc]), List.length_nil]
  rw [lexFrom, hscan]

/-! ## Words -/

/-- A fact about the characters of an identifier is checked on the ASCII characters. -/
theorem forall_of_forall_ascii {P : Char → Prop} (h : ∀ n < 128, P (Char.ofNat n)) {c : Char}
    (hc : c.toNat < 128) : P c := by
  have := h c.toNat hc
  rwa [Char.ofNat_toNat] at this

theorem toNat_lt_of_isIdentifierRest {c : Char} (h : Text.isIdentifierRest c = true) :
    c.toNat < 128 := by
  have hparts : (decide (c.val ≥ 65 ∧ c.val ≤ 90) || decide (c.val ≥ 97) && decide (c.val ≤ 122) ||
      decide (c.val ≥ 48) && decide (c.val ≤ 57) || c == '_') = true := h
  simp only [Bool.or_eq_true, Bool.and_eq_true, decide_eq_true_eq, beq_iff_eq] at hparts
  rcases hparts with ((h | h) | h) | rfl
  · exact Nat.lt_of_le_of_lt (UInt32.le_iff_toNat_le.1 h.2) (by decide)
  · exact Nat.lt_of_le_of_lt (UInt32.le_iff_toNat_le.1 h.2) (by decide)
  · exact Nat.lt_of_le_of_lt (UInt32.le_iff_toNat_le.1 h.2) (by decide)
  · decide

theorem beq_ascii_eq_false {c d : Char} (hc : ¬ c.toNat < 128) (hd : d.toNat < 128) :
    (c == d) = false := by
  refine beq_eq_false_iff_ne.2 fun heq => hc ?_
  rwa [heq]

theorem isBlankRest_of_isNameStart {c : Char} (h : isNameStart c = true) :
    isBlankRest c = false := by
  by_cases hc : c.toNat < 128
  · revert h
    refine forall_of_forall_ascii (P := fun c => isNameStart c = true → isBlankRest c = false) ?_ hc
    decide
  · simp (disch := decide) only [isBlankRest, Text.isAsciiBlank, beq_ascii_eq_false hc,
      Bool.or_false]

/-- A character that can begin a name begins nothing else, unless it is the letter of a blob or the
byte order mark. -/
theorem scan_of_isNameStart {c : Char} {cs : List Char} (h : isNameStart c = true)
    (hbom : c ≠ '\ufeff') (hblob : cs.head? ≠ some '\'') :
    scan c cs = (some .word, runLength isNameRest cs) := by
  have hmark : (cs.head? == some '\'') = false := by simpa using hblob
  have hother : Text.isAsciiBlank c = false ∧ (c == '-') = false ∧ (c == '/') = false ∧
      (c == '\'' || c == '"' || c.toNat == 0x60) = false ∧ (c == '[') = false ∧
      c.isDigit = false ∧ (c == '.') = false ∧ (c == '?') = false ∧
      (c == '$' || c == '@' || c == ':' || c == '#') = false := by
    by_cases hc : c.toNat < 128
    · revert h
      refine forall_of_forall_ascii (P := fun c => isNameStart c = true →
        Text.isAsciiBlank c = false ∧ (c == '-') = false ∧ (c == '/') = false ∧
        (c == '\'' || c == '"' || c.toNat == 0x60) = false ∧ (c == '[') = false ∧
        c.isDigit = false ∧ (c == '.') = false ∧ (c == '?') = false ∧
        (c == '$' || c == '@' || c == ':' || c == '#') = false) ?_ hc
      decide
    · -- All the characters that begin something else are ASCII.
      have hdigit : c.isDigit = false := by
        refine Bool.eq_false_iff.2 fun hdigit => hc ?_
        exact toNat_lt_of_isIdentifierRest (by simp [Text.isIdentifierRest, Char.isAlphanum, hdigit])
      have htick : (c.toNat == 0x60) = false := beq_eq_false_iff_ne.2 fun heq => hc (by omega)
      simp (disch := decide) only [Text.isAsciiBlank, beq_ascii_eq_false hc, hdigit, htick,
        Bool.or_false, and_self]
  obtain ⟨h1, h2, h3, h4, h5, h6, h7, h8, h9⟩ := hother
  have h10 : (c == '\ufeff') = false := beq_eq_false_iff_ne.2 hbom
  unfold scan
  simp only [h, h1, h2, h3, h4, h5, h6, h7, h8, h9, h10, hmark, Bool.false_and, Bool.and_false,
    Bool.or_false, Bool.false_eq_true, if_false, if_true]

theorem isNameRest_of_isNameStart {c : Char} (h : isNameStart c = true) : isNameRest c = true := by
  rw [isNameStart, Bool.or_eq_true] at h
  rw [isNameRest]
  rcases h with h | h
  · rw [Text.isIdentifierRest_of_start h, Bool.true_or, Bool.true_or]
  · rw [h, Bool.or_true]

theorem isNameStart_of_isIdentifierStart {c : Char} (h : Text.isIdentifierStart c = true) :
    isNameStart c = true ∧ c ≠ '\ufeff' := by
  refine ⟨by rw [isNameStart, h, Bool.true_or], ?_⟩
  rintro rfl
  exact absurd h (by decide)

theorem runLength_append {test : Char → Bool} {cs rest : List Char}
    (hcs : ∀ c ∈ cs, test c = true) (hrest : ∀ c, rest.head? = some c → test c = false) :
    runLength test (cs ++ rest) = cs.length := by
  have hnone : rest.takeWhile test = [] := by
    cases rest with
    | nil => rfl
    | cons c rest => rw [List.takeWhile_cons_of_neg (by simp [hrest c rfl])]
  rw [runLength, List.takeWhile_append_of_pos hcs, hnone, List.append_nil]

theorem isNameRest_of_isIdentifierRest {c : Char} (h : Text.isIdentifierRest c = true) :
    isNameRest c = true := by
  rw [isNameRest, h, Bool.true_or, Bool.true_or]

theorem isNameRest_of_isDigit {c : Char} (h : c.isDigit = true) : isNameRest c = true := by
  apply isNameRest_of_isIdentifierRest
  rw [Text.isIdentifierRest, Char.isAlphanum, h, Bool.or_true, Bool.true_or]

theorem Ends.isNameRest_eq_false {rest : List Char} (h : Ends rest) :
    ∀ c, rest.head? = some c → isNameRest c = false := by
  intro c hc
  rcases h c hc with rfl | rfl | rfl <;> decide

/-- An identifier is one word. -/
theorem lexFrom_identifier {word : String} {rest : List Char} (h : isIdentifier word = true)
    (hrest : Ends rest) :
    lexFrom 0 (word.toList ++ rest) = ⟨.word, word⟩ :: lexFrom 0 rest := by
  rw [isIdentifier] at h
  cases hword : word.toList with
  | nil => rw [hword] at h; exact absurd h Bool.false_ne_true
  | cons c cs =>
    rw [hword, isIdentifierChars, Bool.and_eq_true, List.all_eq_true] at h
    have hcs : ∀ d ∈ cs, isNameRest d = true := fun d hd =>
      isNameRest_of_isIdentifierRest (h.2 d hd)
    -- A quotation mark right after the first letter would begin a blob. It is no character of an
    -- identifier, and none that ends one.
    have hblob : (cs ++ rest).head? ≠ some '\'' := by
      intro hhead
      cases cs with
      | nil => rcases hrest _ hhead with h | h | h <;> exact absurd h (by decide)
      | cons d ds =>
        obtain rfl : d = '\'' := Option.some.inj hhead
        exact absurd (hcs _ List.mem_cons_self) (by decide)
    obtain ⟨hstart, hbom⟩ := isNameStart_of_isIdentifierStart h.1
    have hscan : scan c (cs ++ rest) = (some .word, cs.length) := by
      rw [scan_of_isNameStart hstart hbom hblob, runLength_append hcs hrest.isNameRest_eq_false]
    rw [← hword, lexFrom_of_scan hword hscan]

/-! ## Numbers -/

/-- The one number of a condition. What follows the blank matters, since an exponent could. -/
theorem lexFrom_one (cs : List Char) :
    lexFrom 0 ('1' :: ' ' :: 'F' :: cs) = ⟨.value, "1"⟩ :: lexFrom 0 (' ' :: 'F' :: cs) := by
  have hother : Text.isAsciiBlank '1' = false ∧ ('1' == '\ufeff') = false ∧ ('1' == '-') = false ∧
      ('1' == '/') = false ∧ ('1' == '\'' || '1' == '"' || '1'.toNat == 0x60) = false ∧
      ('1' == '[') = false ∧ '1'.isDigit = true := by decide
  obtain ⟨h1, h2, h3, h4, h5, h6, h7⟩ := hother
  have hnumber : scanNumber ('1' :: ' ' :: 'F' :: cs) = (.value, 1) := rfl
  have hscan : scan '1' ([] ++ ' ' :: 'F' :: cs) = (some .value, ([] : List Char).length) := by
    rw [List.nil_append]
    unfold scan
    simp only [h1, h2, h3, h4, h5, h6, h7, hnumber, Bool.false_and, Bool.true_or,
      Bool.false_eq_true, if_false, if_true, List.length_nil]
  have htext : "1".toList = ['1'] := rfl
  exact lexFrom_of_scan htext hscan

/-! ## Places of arguments -/

theorem scanPlace_of_ends {rest : List Char} (h : Ends rest) :
    scanPlace true rest = (.value, 0) := by
  cases rest with
  | nil => rfl
  | cons c cs => rcases h c rfl with rfl | rfl | rfl <;> rfl

theorem scanPlace_digits {digits rest : List Char} (hdigits : ∀ c ∈ digits, c.isDigit = true)
    (hrest : Ends rest) : scanPlace true (digits ++ rest) = (.value, digits.length) := by
  induction digits with
  | nil => exact scanPlace_of_ends hrest
  | cons c cs ih =>
    have hc : isNameRest c = true := isNameRest_of_isDigit (hdigits c List.mem_cons_self)
    have hrec := ih fun d hd => hdigits d (List.mem_cons_of_mem c hd)
    rw [List.cons_append, scanPlace.eq_def]
    simp only [hc, if_true, hrec, List.length_cons]

theorem scanPlace_false {digits rest : List Char} (hdigits : ∀ c ∈ digits, c.isDigit = true)
    (hne : digits ≠ []) (hrest : Ends rest) :
    scanPlace false (digits ++ rest) = (.value, digits.length) := by
  obtain ⟨c, cs, rfl⟩ := List.exists_cons_of_ne_nil hne
  have hc : isNameRest c = true := isNameRest_of_isDigit (hdigits c List.mem_cons_self)
  have hrec := scanPlace_digits (fun d hd => hdigits d (List.mem_cons_of_mem c hd)) hrest
  rw [List.cons_append, scanPlace.eq_def]
  simp only [hc, if_true, hrec, List.length_cons]

/-- The place of an argument is one lexeme. -/
theorem lexFrom_placeholder (d : Dialect) (n : Nat) {rest : List Char} (hrest : Ends rest) :
    lexFrom 0 ((d.placeholder n).toList ++ rest) =
      ⟨.value, d.placeholder n⟩ :: lexFrom 0 rest := by
  have hdigits : ∀ c ∈ Text.Numeral.digits n, c.isDigit = true :=
    fun c hc => Text.Numeral.isDigit_of_mem_digits hc
  have hdigit : ∀ c, rest.head? = some c → c.isDigit = false := by
    intro c hc
    rcases hrest c hc with rfl | rfl | rfl <;> rfl
  cases d with
  | postgres =>
    have htext : (Dialect.placeholder .postgres n).toList = '$' :: Text.Numeral.digits n := by
      simp [Dialect.placeholder, Text.Numeral.ofNat]
    have hscan : scan '$' (Text.Numeral.digits n ++ rest) =
        (some .value, (Text.Numeral.digits n).length) := by
      show (some (scanPlace false _).1, (scanPlace false _).2) = _
      rw [scanPlace_false hdigits (Text.Numeral.digits_ne_nil n) hrest]
    exact lexFrom_of_scan htext hscan
  | sqlite =>
    have htext : (Dialect.placeholder .sqlite n).toList = '?' :: Text.Numeral.digits n := by
      simp [Dialect.placeholder, Text.Numeral.ofNat]
    have hscan : scan '?' (Text.Numeral.digits n ++ rest) =
        (some .value, (Text.Numeral.digits n).length) := by
      show (some LexemeKind.value, runLength Char.isDigit _) = _
      rw [runLength_append hdigits hdigit]
    exact lexFrom_of_scan htext hscan
  | mySql =>
    have hscan : scan '?' ([] ++ rest) = (some .value, ([] : List Char).length) := by
      show (some LexemeKind.value, runLength Char.isDigit _) = _
      rw [runLength_append (by simp) hdigit]
    have htext : (Dialect.placeholder .mySql n).toList = ['?'] := by simp [Dialect.placeholder]
    exact lexFrom_of_scan htext hscan

end ObjectCatalog.Lexeme
