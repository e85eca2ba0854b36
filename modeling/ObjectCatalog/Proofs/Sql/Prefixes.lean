import Mathlib.Data.List.Find
import Mathlib.Data.List.TakeWhile
import ObjectCatalog.Proofs.Sql.Lexing

/-!
# A text with a name behind it

The names of the tables of a store are put together from a prefix, which is any text, and an
identifier. What the prefix is to the database can only be seen when the two are cut into lexemes, but
it does not depend on the identifier. Either the lexemes of the prefix come first and its last
characters are the beginning of a word that the identifier ends, or a comment of the prefix hides the
identifier, or the prefix has something in it that no table has (`Continues`).

This is shown by going over the lexemes of the prefix. Each of them is inside of the prefix, or it is
the one that meets the identifier, and then it is a word, a comment, or something that is no part of a
name (`Start`).
-/

namespace ObjectCatalog.Lexeme

/-- What may stand behind a prefix: an identifier, perhaps with a blank and a parenthesis after it.
Nothing that ends a quotation or a comment is among its characters. -/
structure IsTail (tail : List Char) : Prop where
  head : ∃ c rest, tail = c :: rest ∧ Text.isIdentifierStart c = true
  all : ∀ c ∈ tail, Text.isIdentifierRest c = true ∨ c = ' ' ∨ c = '('

/-! ## Runs that meet a tail -/

section Tails

variable {cs tail : List Char} (h : IsTail tail)
include h

/-- A character that is in no tail. -/
theorem IsTail.notMem {c : Char} (hc : Text.isIdentifierRest c = false ∧ c ≠ ' ' ∧ c ≠ '(') :
    c ∉ tail := by
  intro hmem
  rcases h.all c hmem with hrest | hblank | hopen
  · rw [hc.1] at hrest
    cases hrest
  · exact hc.2.1 hblank
  · exact hc.2.2 hopen

/-- A test that fails on letters and underscores stops where the tail begins. -/
theorem IsTail.runLength_append {test : Char → Bool}
    (htest : ∀ c, Text.isIdentifierStart c = true → test c = false) :
    runLength test (cs ++ tail) = runLength test cs := by
  obtain ⟨c, rest, rfl, hc⟩ := h.head
  have hstop : (c :: rest).takeWhile test = [] := List.takeWhile_cons_of_neg (by simp [htest c hc])
  rw [runLength, runLength, List.takeWhile_append, hstop, List.append_nil]
  split
  · rename_i hall
    exact hall.symm
  · rfl

/-- What the character after the first one is, if anything else than the start of an identifier. -/
theorem IsTail.head?_beq {c : Char} (hc : Text.isIdentifierStart c = false) :
    ((cs ++ tail).head? == some c) = (cs.head? == some c) := by
  cases cs with
  | cons d ds => rfl
  | nil =>
    obtain ⟨d, rest, rfl, hd⟩ := h.head
    have hne : d ≠ c := by
      rintro rfl
      rw [hc] at hd
      cases hd
    simp [hne]

theorem IsTail.head?_isDigit :
    ((cs ++ tail).head?.map Char.isDigit).getD false = (cs.head?.map Char.isDigit).getD false := by
  cases cs with
  | cons d ds => rfl
  | nil =>
    obtain ⟨d, rest, rfl, hd⟩ := h.head
    have hdigit : d.isDigit = false := by
      have hlt := toNat_lt_of_isIdentifierRest (Text.isIdentifierRest_of_start hd)
      revert hd
      refine forall_of_forall_ascii (P := fun d => Text.isIdentifierStart d = true →
        d.isDigit = false) ?_ hlt
      decide
    simp [hdigit]

end Tails

theorem runLength_le (test : Char → Bool) (cs : List Char) : runLength test cs ≤ cs.length :=
  (List.takeWhile_sublist test).length_le

theorem runLength_eq_length_iff {test : Char → Bool} {cs : List Char} :
    runLength test cs = cs.length ↔ ∀ c ∈ cs, test c = true := by
  rw [← List.takeWhile_eq_self_iff, runLength]
  exact ⟨(List.takeWhile_sublist test).eq_of_length, congrArg List.length⟩

/-- A run up to a mark that has not been met goes on through a tail. -/
theorem runLength_bne {cs tail : List Char} {mark : Char} (hmark : mark ∉ tail)
    (hcs : runLength (· != mark) cs = cs.length) :
    runLength (· != mark) (cs ++ tail) = (cs ++ tail).length := by
  refine runLength_eq_length_iff.2 fun d hd => ?_
  rcases List.mem_append.1 hd with hd | hd
  · exact runLength_eq_length_iff.1 hcs d hd
  · exact bne_iff_ne.2 fun heq => hmark (heq ▸ hd)

/-- A run that stops inside of a text stops there whatever follows. -/
theorem runLength_of_stop {test : Char → Bool} {cs : List Char}
    (hstop : runLength test cs ≠ cs.length) (rest : List Char) :
    runLength test (cs ++ rest) = runLength test cs := by
  have hlength : (cs.takeWhile test).length ≠ cs.length := hstop
  rw [runLength, List.takeWhile_append, if_neg hlength, runLength]

/-- A quotation is not closed by a tail. -/
theorem quotationLength?_append {mark : Char} {cs tail : List Char} (hmark : mark ∉ tail) :
    quotationLength? mark (cs ++ tail) = quotationLength? mark cs := by
  have htail : quotationLength? mark tail = none := by
    induction tail with
    | nil => rfl
    | cons c tail ih =>
      rw [List.mem_cons, not_or] at hmark
      have hc : (c == mark) = false := by simpa using Ne.symm hmark.1
      simp [quotationLength?.eq_def mark (c :: tail), hc, ih hmark.2]
  fun_induction quotationLength? mark cs with
  | case1 => exact htail
  | case2 c hc d rest hd ih =>
    rw [List.cons_append, List.cons_append, quotationLength?.eq_def]
    simp only [hc, hd, if_true, ih]
  | case3 c hc d rest hd =>
    rw [List.cons_append, List.cons_append, quotationLength?.eq_def]
    simp only [hc, hd, if_true, Bool.false_eq_true, if_false]
  | case4 c hc =>
    rw [List.cons_append, quotationLength?.eq_def]
    cases tail with
    | nil => simp only [hc, if_true, List.nil_append]
    | cons d tail =>
      rw [List.mem_cons, not_or] at hmark
      have hd : (d == mark) = false := by simpa using Ne.symm hmark.1
      simp only [hc, hd, if_true, List.nil_append, Bool.false_eq_true, if_false]
  | case5 c cs hc ih =>
    rw [List.cons_append, quotationLength?.eq_def]
    simp only [hc, Bool.false_eq_true, if_false, ih]

theorem quotationLength?_le {mark : Char} {cs : List Char} {n : Nat}
    (h : quotationLength? mark cs = some n) : n ≤ cs.length := by
  fun_induction quotationLength? mark cs generalizing n with
  | case1 => cases h
  | case2 c hc d rest hd ih =>
    obtain ⟨m, hm, rfl⟩ := Option.map_eq_some_iff.1 h
    exact Nat.add_le_add_right (ih hm) 2
  | case3 c hc d rest hd =>
    cases h
    exact Nat.le_add_left 1 _
  | case4 c hc =>
    cases h
    exact Nat.le_refl 1
  | case5 c cs hc ih =>
    obtain ⟨m, hm, rfl⟩ := Option.map_eq_some_iff.1 h
    exact Nat.add_le_add_right (ih hm) 1

/-- A comment is closed inside of the prefix, or not at all. -/
theorem commentLength_append (cs : List Char) :
    (∃ n ≤ cs.length, ∀ tail, '/' ∉ tail → commentLength (cs ++ tail) = n) ∨
      ∀ tail, '/' ∉ tail → commentLength (cs ++ tail) = (cs ++ tail).length := by
  have hcons : ∀ {c cs}, (c = '*' → cs.head? ≠ some '/') →
      commentLength (c :: cs) = commentLength cs + 1 := by
    intro c cs hc
    rw [commentLength.eq_def]
    split
    · rename_i heq
      cases heq
    · rename_i heq
      cases heq
      exact absurd rfl (hc rfl)
    · rename_i heq
      cases heq
      rfl
  induction cs with
  | nil =>
    refine .inr fun tail htail => ?_
    rw [List.nil_append]
    induction tail with
    | nil => rfl
    | cons c tail ih =>
      rw [List.mem_cons, not_or] at htail
      rw [hcons, ih htail.2, List.length_cons]
      exact fun _ hhead => htail.2 (List.mem_of_mem_head? hhead)
  | cons c cs ih =>
    by_cases hclose : c = '*' ∧ cs.head? = some '/'
    · obtain ⟨rfl, hhead⟩ := hclose
      obtain ⟨rest, rfl⟩ := List.head?_eq_some_iff.1 hhead
      exact .inl ⟨2, Nat.le_add_left 2 _, fun _ _ => rfl⟩
    · have hstep : ∀ tail, '/' ∉ tail →
          commentLength (c :: cs ++ tail) = commentLength (cs ++ tail) + 1 := by
        intro tail htail
        refine hcons fun hc hhead => ?_
        cases cs with
        | nil => exact htail (List.mem_of_mem_head? hhead)
        | cons d ds => exact hclose ⟨hc, hhead⟩
      rcases ih with ⟨n, hn, hin⟩ | hout
      · refine .inl ⟨n + 1, Nat.add_le_add_right hn 1, fun tail htail => ?_⟩
        rw [hstep tail htail, hin tail htail]
      · refine .inr fun tail htail => ?_
        rw [hstep tail htail, hout tail htail]
        rfl

/-- The marks are found as they are without a tail, since no letter and no underscore is in them. -/
theorem scanMark_append {cs tail : List Char} (h : IsTail tail) :
    scanMark (cs ++ tail) = scanMark cs := by
  obtain ⟨c, rest, htail, hc⟩ := h.head
  have hmark : ∀ mark ∈ marks, mark.isPrefixOf (cs ++ tail) = mark.isPrefixOf cs := by
    intro mark hmem
    have hletters : marks.all (·.all fun d => !Text.isIdentifierStart d) = true := by decide
    rw [Bool.eq_iff_iff, List.isPrefixOf_iff_prefix, List.isPrefixOf_iff_prefix]
    refine ⟨fun hprefix => ?_, fun hprefix => hprefix.trans (List.prefix_append _ _)⟩
    rcases List.prefix_or_prefix_of_prefix hprefix (List.prefix_append cs tail) with hin | hout
    · exact hin
    -- A mark that went on behind the prefix would go on with the first character of the tail.
    obtain ⟨more, rfl⟩ := hout
    cases more with
    | nil => simp
    | cons d more =>
      have hmore : d :: more <+: tail := (List.prefix_append_right_inj cs).1 hprefix
      rw [htail] at hmore
      obtain ⟨rfl, -⟩ := List.cons_prefix_cons.1 hmore
      have hd := List.all_eq_true.1 (List.all_eq_true.1 hletters _ hmem) d
        (List.mem_append_right _ List.mem_cons_self)
      rw [hc] at hd
      cases hd
  rw [scanMark, scanMark, List.find?_congr hmark]

theorem scanMark_le (c : Char) (cs : List Char) : (scanMark (c :: cs)).2 - 1 ≤ cs.length := by
  unfold scanMark
  split
  · rename_i mark hmark
    have hfound := List.find?_some hmark
    have hprefix : mark <+: c :: cs := List.isPrefixOf_iff_prefix.1 hfound
    have hlength := hprefix.length_le
    rw [List.length_cons] at hlength
    exact Nat.sub_le_of_le_add hlength
  · exact Nat.zero_le _

/-! ## What begins in the prefix -/

theorem scanNumber_kind (cs : List Char) :
    (scanNumber cs).1 = .value ∨ (scanNumber cs).1 = .illegal := by
  unfold scanNumber
  simp only
  split
  · exact .inl rfl
  · split
    · exact .inl rfl
    · exact .inr rfl

theorem scanBlob_kind (cs : List Char) :
    (scanBlob cs).1 = .value ∨ (scanBlob cs).1 = .illegal := by
  unfold scanBlob
  simp only
  split
  · exact .inl rfl
  · exact .inr rfl

theorem scanPlace_kind (named : Bool) (cs : List Char) :
    (scanPlace named cs).1 = .value ∨ (scanPlace named cs).1 = .illegal := by
  have hend : ∀ named : Bool, (if named then LexemeKind.value else .illegal) = .value ∨
      (if named then LexemeKind.value else .illegal) = .illegal := by decide
  fun_induction scanPlace named cs with
  | case1 named => exact hend named
  | case2 named c cs more hc ih => exact ih
  | case3 => exact .inl rfl
  | case4 => exact .inr rfl
  | case5 named more rest hc hopen ih => exact ih
  | case6 named => exact hend named

/-- What begins at a character of a prefix, if an identifier follows the prefix. -/
inductive Start (c : Char) (cs : List Char) : Prop
  /-- It is over when the identifier begins. -/
  | inside (kind : Option LexemeKind) (n : Nat) (hn : n ≤ cs.length)
      (h : ∀ tail, IsTail tail → scan c (cs ++ tail) = (kind, n))
  /-- A word that the identifier ends. -/
  | word (hc : isNameStart c = true) (hcs : ∀ d ∈ cs, isNameRest d = true)
      (h : ∀ tail, IsTail tail →
        scan c (cs ++ tail) = (some .word, runLength isNameRest (cs ++ tail)))
  /-- A comment that hides the identifier. -/
  | comment (hc : c = '-' ∨ c = '/')
      (h : ∀ tail, IsTail tail → scan c (cs ++ tail) = (none, (cs ++ tail).length))
  /-- Something that no name has in it. -/
  | spoiled (h : ∀ tail, IsTail tail →
      ∃ kind, (scan c (cs ++ tail)).1 = some kind ∧ (kind = .value ∨ kind = .illegal))

section Starts

variable {c : Char} {cs : List Char}

theorem start_of_line (hc : c = '-')
    (hscan : ∀ tail, IsTail tail →
      scan c (cs ++ tail) = (none, runLength (· != '\n') (cs ++ tail))) : Start c cs := by
  by_cases hline : runLength (· != '\n') cs = cs.length
  · refine .comment (.inl hc) fun tail h => ?_
    rw [hscan tail h, runLength_bne (h.notMem (by decide)) hline]
  · refine .inside none _ (runLength_le (· != '\n') cs) fun tail h => ?_
    rw [hscan tail h, runLength_of_stop hline]

theorem start_of_block {ds : List Char} (hc : c = '/') (hcs : cs = '*' :: ds)
    (hscan : ∀ tail, IsTail tail → scan c (cs ++ tail) = (none, commentLength (ds ++ tail) + 1)) :
    Start c cs := by
  have hslash : ∀ {tail}, IsTail tail → '/' ∉ tail := fun h => h.notMem (by decide)
  subst hcs
  rcases commentLength_append ds with ⟨n, hn, hin⟩ | hout
  · refine .inside none (n + 1) (Nat.add_le_add_right hn 1) fun tail h => ?_
    rw [hscan tail h, hin tail (hslash h)]
  · refine .comment (.inr hc) fun tail h => ?_
    rw [hscan tail h, hout tail (hslash h)]
    rfl

theorem start_of_quotation (hc : ∀ tail, IsTail tail → c ∉ tail)
    (hscan : ∀ tail, IsTail tail → scan c (cs ++ tail) =
      (some (scanQuotation c (cs ++ tail)).1, (scanQuotation c (cs ++ tail)).2)) : Start c cs := by
  rcases hlength : quotationLength? c cs with _ | n
  · refine .spoiled fun tail h => ⟨.illegal, ?_, .inr rfl⟩
    rw [hscan tail h, scanQuotation, quotationLength?_append (hc tail h), hlength]
  · refine .inside (some .quotation) n (quotationLength?_le hlength) fun tail h => ?_
    rw [hscan tail h, scanQuotation, quotationLength?_append (hc tail h), hlength]

theorem start_of_brackets (hscan : ∀ tail, IsTail tail →
    scan c (cs ++ tail) = (some (scanBrackets (cs ++ tail)).1, (scanBrackets (cs ++ tail)).2)) :
    Start c cs := by
  by_cases hinner : runLength (· != ']') cs = cs.length
  · refine .spoiled fun tail h => ⟨.illegal, ?_, .inr rfl⟩
    have hall := runLength_bne (h.notMem (by decide)) hinner
    rw [hscan tail h, scanBrackets, hall, if_neg (Nat.lt_irrefl _)]
  · have hlt : runLength (· != ']') cs < cs.length :=
      Nat.lt_of_le_of_ne (runLength_le _ _) hinner
    refine .inside (some .quotation) _ hlt fun tail h => ?_
    have hin : runLength (· != ']') cs < (cs ++ tail).length := by
      rw [List.length_append]
      exact Nat.lt_add_right _ hlt
    rw [hscan tail h, scanBrackets, runLength_of_stop hinner, if_pos hin]

theorem start_of_word (hc : isNameStart c = true) (hscan : ∀ tail, IsTail tail →
    scan c (cs ++ tail) = (some .word, runLength isNameRest (cs ++ tail))) : Start c cs := by
  by_cases hall : runLength isNameRest cs = cs.length
  · exact .word hc (runLength_eq_length_iff.1 hall) hscan
  · refine .inside (some .word) _ (runLength_le isNameRest cs) fun tail h => ?_
    rw [hscan tail h, runLength_of_stop hall]

end Starts

theorem start (c : Char) (cs : List Char) : Start c cs := by
  -- The cases are those of `scan`, in its order: each knows that the ones before it are not met.
  by_cases hblank : Text.isAsciiBlank c = true
  · refine .inside none (runLength isBlankRest cs) (runLength_le _ _) fun tail h => ?_
    unfold scan
    simp only [hblank, if_true]
    rw [h.runLength_append fun c hc =>
      isBlankRest_of_isNameStart (isNameStart_of_isIdentifierStart hc).1]
  by_cases hbom : (c == '\ufeff') = true
  · refine .inside none 0 (Nat.zero_le _) fun tail h => ?_
    unfold scan
    simp only [hblank, hbom, if_true, Bool.false_eq_true, if_false]
  by_cases hline : (c == '-' && cs.head? == some '-') = true
  · have hc : c = '-' := beq_iff_eq.1 (Bool.and_eq_true_iff.1 hline).1
    refine start_of_line hc fun tail h => ?_
    simp (disch := decide) only [scan, h.head?_beq, hblank, hbom, hline, if_true, if_false,
      Bool.false_eq_true]
  by_cases hblock : (c == '/' && cs.head? == some '*') = true
  · have hc : c = '/' := beq_iff_eq.1 (Bool.and_eq_true_iff.1 hblock).1
    obtain ⟨ds, rfl⟩ := List.head?_eq_some_iff.1 (beq_iff_eq.1 (Bool.and_eq_true_iff.1 hblock).2)
    refine start_of_block hc rfl fun tail h => ?_
    have hlength : 1 < ('*' :: ds ++ tail).length := by
      obtain ⟨d, rest, rfl, -⟩ := h.head
      simp only [List.length_append, List.length_cons]
      omega
    simp (disch := decide) only [scan, h.head?_beq, hblank, hbom, hline, hblock, hlength,
      decide_true, Bool.and_true, if_true, if_false, Bool.false_eq_true]
    rfl
  by_cases hquote : (c == '\'' || c == '"' || c.toNat == 0x60) = true
  · refine start_of_quotation (fun tail h => ?_) fun tail h => ?_
    · rw [Bool.or_eq_true, Bool.or_eq_true, beq_iff_eq, beq_iff_eq, beq_iff_eq] at hquote
      rcases hquote with (rfl | rfl) | hquote
      · exact h.notMem (by decide)
      · exact h.notMem (by decide)
      · obtain rfl : c = Char.ofNat 0x60 := by rw [← hquote, Char.ofNat_toNat]
        exact h.notMem (by decide)
    · simp (disch := decide) only [scan, h.head?_beq, hblank, hbom, hline, hblock, hquote,
        Bool.false_and, if_true, if_false, Bool.false_eq_true]
  by_cases hbracket : (c == '[') = true
  · refine start_of_brackets fun tail h => ?_
    simp (disch := decide) only [scan, h.head?_beq, hblank, hbom, hline, hblock, hquote, hbracket,
      Bool.false_and, if_true, if_false, Bool.false_eq_true]
  by_cases hnumber : (c.isDigit || (c == '.' && (cs.head?.map Char.isDigit).getD false)) = true
  · refine .spoiled fun tail h => ⟨_, ?_, scanNumber_kind (c :: (cs ++ tail))⟩
    simp (disch := decide) only [scan, h.head?_beq, h.head?_isDigit, hblank, hbom, hline, hblock,
      hquote, hbracket, hnumber, Bool.false_and, if_true, if_false, Bool.false_eq_true]
  by_cases hquestion : (c == '?') = true
  · refine .spoiled fun tail h => ⟨_, ?_, .inl rfl⟩
    simp (disch := decide) only [scan, h.head?_beq, h.head?_isDigit, hblank, hbom, hline, hblock,
      hquote, hbracket, hnumber, hquestion, Bool.false_and, if_true, if_false, Bool.false_eq_true]
  by_cases hplace : (c == '$' || c == '@' || c == ':' || c == '#') = true
  · refine .spoiled fun tail h => ⟨_, ?_, scanPlace_kind false (cs ++ tail)⟩
    simp (disch := decide) only [scan, h.head?_beq, h.head?_isDigit, hblank, hbom, hline, hblock,
      hquote, hbracket, hnumber, hquestion, hplace, Bool.false_and, if_true, if_false,
      Bool.false_eq_true]
  by_cases hblob : ((c == 'x' || c == 'X') && cs.head? == some '\'') = true
  · refine .spoiled fun tail h => ⟨_, ?_, scanBlob_kind ((cs ++ tail).drop 1)⟩
    simp (disch := decide) only [scan, h.head?_beq, h.head?_isDigit, hblank, hbom, hline, hblock,
      hquote, hbracket, hnumber, hquestion, hplace, hblob, Bool.false_and, if_true, if_false,
      Bool.false_eq_true]
  by_cases hword : isNameStart c = true
  · refine start_of_word hword fun tail h => ?_
    simp (disch := decide) only [scan, h.head?_beq, h.head?_isDigit, hblank, hbom, hline, hblock,
      hquote, hbracket, hnumber, hquestion, hplace, hblob, hword, Bool.false_and, if_true,
      if_false, Bool.false_eq_true]
  · refine .inside (some (scanMark (c :: cs)).1) _ (scanMark_le c cs) fun tail h => ?_
    simp (disch := decide) only [scan, h.head?_beq, h.head?_isDigit, hblank, hbom, hline, hblock,
      hquote, hbracket, hnumber, hquestion, hplace, hblob, hword, Bool.false_and, if_false,
      Bool.false_eq_true]
    rw [← List.cons_append, scanMark_append h]

/-! ## What a prefix is -/

/-- How the lexemes of a text go on if an identifier follows it. -/
inductive Continues (cs : List Char) : Prop
  /-- The last characters of the text begin a word that the identifier ends. -/
  | word (front : List Lexeme) (begun : List Char) (hbegun : ∀ d ∈ begun, isNameRest d = true)
      (h : ∀ tail, IsTail tail → (∀ d ∈ tail, isNameRest d = true) →
        lexFrom 0 (cs ++ tail) = front ++ [⟨.word, String.ofList (begun ++ tail)⟩])
  /-- A comment hides the identifier. -/
  | hidden (front : List Lexeme) (hcs : '-' ∈ cs ∨ '/' ∈ cs)
      (h : ∀ tail, IsTail tail → lexFrom 0 (cs ++ tail) = front)
  /-- There is something that no name has in it. -/
  | spoiled (h : ∀ tail, IsTail tail →
      ∃ lexeme ∈ lexFrom 0 (cs ++ tail), lexeme.kind = .value ∨ lexeme.kind = .illegal)

theorem lexFrom_of_le {cs : List Char} {n : Nat} (hn : n ≤ cs.length) (rest : List Char) :
    lexFrom n (cs ++ rest) = lexFrom 0 (cs.drop n ++ rest) := by
  have htaken := lexFrom_length_append (cs.take n) (cs.drop n ++ rest)
  rwa [List.length_take_of_le hn, ← List.append_assoc, List.take_append_drop] at htaken

theorem lexFrom_length (cs : List Char) : lexFrom cs.length cs = [] := by
  have htaken := lexFrom_length_append cs []
  rwa [List.append_nil] at htaken

/-- A word up to the end of a text. -/
theorem lexFrom_of_word {c : Char} {cs : List Char} (hcs : ∀ d ∈ cs, isNameRest d = true)
    (hscan : scan c cs = (some .word, runLength isNameRest cs)) :
    lexFrom 0 (c :: cs) = [⟨.word, String.ofList (c :: cs)⟩] := by
  rw [runLength_eq_length_iff.2 hcs] at hscan
  rw [lexFrom, hscan]
  simp only [List.take_length, lexFrom_length]

/-- A blank, a comment or a lexeme that is over before the identifier begins. -/
theorem Continues.of_inside {c : Char} {cs : List Char} {kind : Option LexemeKind} {n : Nat}
    (hn : n ≤ cs.length) (hscan : ∀ tail, IsTail tail → scan c (cs ++ tail) = (kind, n))
    (hrest : Continues (cs.drop n)) : Continues (c :: cs) := by
  let first : List Lexeme := match kind with
    | none => []
    | some kind => [⟨kind, String.ofList (c :: cs.take n)⟩]
  have hlex : ∀ tail, IsTail tail →
      lexFrom 0 (c :: cs ++ tail) = first ++ lexFrom 0 (cs.drop n ++ tail) := by
    intro tail h
    rw [List.cons_append, lexFrom, hscan tail h]
    cases kind with
    | none => exact lexFrom_of_le hn tail
    | some kind =>
      simp only [lexFrom_of_le hn tail, List.take_append_of_le_length hn]
      rfl
  cases hrest with
  | word front begun hbegun h =>
    refine .word (first ++ front) begun hbegun fun tail htail hall => ?_
    rw [hlex tail htail, h tail htail hall, List.append_assoc]
  | hidden front hcs h =>
    have hmem : ∀ {d}, d ∈ cs.drop n → d ∈ c :: cs :=
      fun hd => List.mem_cons_of_mem c (List.mem_of_mem_drop hd)
    refine .hidden (first ++ front) (hcs.imp hmem hmem) fun tail htail => ?_
    rw [hlex tail htail, h tail htail]
  | spoiled h =>
    refine .spoiled fun tail htail => ?_
    obtain ⟨lexeme, hmem, hkind⟩ := h tail htail
    exact ⟨lexeme, hlex tail htail ▸ List.mem_append_right _ hmem, hkind⟩

/-- The recursion goes over the lexemes, as the reading does. -/
theorem continues : (cs : List Char) → Continues cs
  | [] => by
    refine .word [] [] (by simp) fun tail h hall => ?_
    obtain ⟨c, rest, rfl, hc⟩ := h.head
    obtain ⟨hstart, hbom⟩ := isNameStart_of_isIdentifierStart hc
    have hrest : ∀ d ∈ rest, isNameRest d = true := fun d hd => hall d (List.mem_cons_of_mem c hd)
    refine lexFrom_of_word hrest (scan_of_isNameStart hstart hbom fun hhead => ?_)
    exact absurd (hrest _ (List.mem_of_mem_head? hhead)) (by decide)
  | c :: cs => by
    cases start c cs with
    | inside kind n hn h => exact .of_inside hn h (continues (cs.drop n))
    | word hc hcs h =>
      refine .word [] (c :: cs) (fun d hd => ?_) fun tail htail hall => ?_
      · rcases List.mem_cons.1 hd with rfl | hd
        · exact isNameRest_of_isNameStart hc
        · exact hcs d hd
      · refine lexFrom_of_word (fun d hd => ?_) (h tail htail)
        exact (List.mem_append.1 hd).elim (hcs d) (hall d)
    | comment hc h =>
      refine .hidden [] ?_ fun tail htail => ?_
      · rcases hc with rfl | rfl
        · exact .inl List.mem_cons_self
        · exact .inr List.mem_cons_self
      · rw [List.cons_append, lexFrom, h tail htail]
        exact lexFrom_length _
    | spoiled h =>
      refine .spoiled fun tail htail => ?_
      obtain ⟨kind, hscan, hkind⟩ := h tail htail
      rw [List.cons_append, lexFrom]
      rcases hfound : scan c (cs ++ tail) with ⟨found, n⟩
      rw [hfound] at hscan
      obtain rfl : found = some kind := hscan
      exact ⟨_, List.mem_cons_self, hkind⟩
termination_by cs => cs.length
decreasing_by
  rw [List.length_cons, List.length_drop]
  omega

end ObjectCatalog.Lexeme
