import Mathlib.Data.List.Chain
import ObjectCatalog.Proofs.Json.Lexemes

/-!
# Cutting a JSON text into its tokens

The machine reads the texts that spell its tokens and no others (`tokens?_eq_some_iff`), as long as no
two tokens stand next to each other that could run into one.

Both directions go by what the machine has read of the token it stands in (`Mode.Read`). With one more
character this is a part of the text that spells the tokens that ended, and what is read of the next
(`Mode.Read.step`); this is the invariant of a run, so what was read at the end spells all tokens. The
other way round, the characters of a token take the machine over it and leave the rest
(`tokensFrom_token`), because what follows does not continue it.
-/

namespace ObjectCatalog.Json

open Text.Numeral (isRun)

/-! ## 1. What is written is read -/

/-- A character within a token: the machine only changes its mode. -/
theorem tokensFrom_of_step {mode next : Mode} {c : Char} (h : mode.step c = some ([], next))
    (done : List Token) (cs : List Char) :
    tokensFrom done mode (c :: cs) = tokensFrom done next cs := by
  rw [tokensFrom, h]
  rfl

/-- A character that is the end of a token. -/
theorem tokensFrom_of_token {mode : Mode} {c : Char} {token : Token}
    (h : mode.step c = some ([token], .between)) (done : List Token) (cs : List Char) :
    tokensFrom done mode (c :: cs) = tokensFrom (token :: done) .between cs := by
  rw [tokensFrom, h]
  rfl

/-- The digits of a code that are still to come, by induction on them: the last is the fourth. -/
theorem tokensFrom_code {digits : List Char} {values : List Nat} (h : HexDigits digits values)
    (hne : digits ≠ []) {count : Nat} (hcount : count + digits.length = 4) (done : List Token)
    (read : List StringUnit) (value : Nat) (rest : List Char) :
    tokensFrom done (.code read value count) (digits ++ rest) =
      tokensFrom done (.string (.code (hexNumber value values) :: read)) rest := by
  induction h generalizing value count with
  | nil => exact absurd rfl hne
  | @cons c n digits values hc h ih =>
    have hstep : (Mode.code read value count).step c = some ([], if count = 3 then
        .string (.code (16 * value + n) :: read) else .code read (16 * value + n) (count + 1)) := by
      by_cases hlast : count = 3 <;> simp [Mode.step, hc, hlast]
    rw [List.cons_append, tokensFrom_of_step hstep]
    by_cases hlast : count = 3
    · obtain rfl : digits = [] := by
        simp only [List.length_cons] at hcount
        exact List.length_eq_zero_iff.1 (by omega)
      cases h
      simp [hlast, hexNumber]
    · have hmore : digits ≠ [] := by
        rintro rfl
        simp only [List.length_cons, List.length_nil] at hcount
        omega
      rw [if_neg hlast]
      refine ih hmore ?_ _
      simp only [List.length_cons] at hcount
      omega

/-- What is written for a unit takes the machine over it. -/
theorem tokensFrom_unit {unit : StringUnit} {lexeme : List Char} (h : unit.Written lexeme)
    (done : List Token) (read : List StringUnit) (rest : List Char) :
    tokensFrom done (.string read) (lexeme ++ rest) =
      tokensFrom done (.string (unit :: read)) rest := by
  cases h with
  | @plain c hquote hbackslash hcontrol =>
    have hstep : (Mode.string read).step c = some ([], .string (.char c :: read)) := by
      simp [Mode.step, hquote, hbackslash, hcontrol]
    rw [List.singleton_append, tokensFrom_of_step hstep]
  | @letter letter c h =>
    have hbackslash : (Mode.string read).step '\\' = some ([], .escape read) := rfl
    have hletter : (Mode.escape read).step letter = some ([], .string (.char c :: read)) := by
      have hne : letter ≠ 'u' := by
        rintro rfl
        cases h
      simp [Mode.step, hne, h]
    rw [List.cons_append, List.singleton_append, tokensFrom_of_step hbackslash,
      tokensFrom_of_step hletter]
  | @code digits values h hlength =>
    have hbackslash : (Mode.string read).step '\\' = some ([], .escape read) := rfl
    have hcode : (Mode.escape read).step 'u' = some ([], .code read 0 0) := rfl
    have hne : digits ≠ [] := by
      rintro rfl
      cases hlength
    rw [List.cons_append, List.cons_append, tokensFrom_of_step hbackslash, tokensFrom_of_step hcode]
    exact tokensFrom_code h hne (by omega) done read 0 rest

theorem tokensFrom_units {units : List StringUnit} {cs : List Char} (h : UnitsWritten units cs)
    (done : List Token) (read : List StringUnit) (rest : List Char) :
    tokensFrom done (.string read) (cs ++ rest) =
      tokensFrom done (.string (units.reverse ++ read)) rest := by
  induction h generalizing read with
  | nil => rfl
  | @cons unit units lexeme cs h _ ih =>
    rw [List.append_assoc, tokensFrom_unit h, ih, List.reverse_cons, List.append_assoc,
      List.singleton_append]

/-- A character of a number begins one. -/
theorem start_of_isNumberPart {c : Char} (h : isNumberPart c = true) :
    start c = some ([], .number [c]) := by
  have hspace : isSpace c = false := by
    rw [Bool.eq_false_iff]
    intro hs
    simp only [isSpace, Bool.or_eq_true, beq_iff_eq] at hs
    rcases hs with ((rfl | rfl) | rfl) | rfl <;> exact absurd h (by decide)
  have hquote : (c == '"') = false := by
    rw [beq_eq_false_iff_ne]
    rintro rfl
    exact absurd h (by decide)
  simp only [start, hspace, hquote, h, Bool.false_eq_true, if_false, if_true]

/-- The characters of a number go on with it. -/
theorem tokensFrom_numberParts {cs : List Char} (h : ∀ c ∈ cs, isNumberPart c = true)
    (done : List Token) (read rest : List Char) :
    tokensFrom done (.number read) (cs ++ rest) =
      tokensFrom done (.number (cs.reverse ++ read)) rest := by
  induction cs generalizing read with
  | nil => rfl
  | cons c cs ih =>
    have hstep : (Mode.number read).step c = some ([], .number (c :: read)) := by
      rw [Mode.step, if_pos (h c List.mem_cons_self)]
    rw [List.cons_append, tokensFrom_of_step hstep, List.reverse_cons, List.append_assoc,
      List.singleton_append]
    exact ih (fun d hd => h d (List.mem_cons_of_mem c hd)) (c :: read)

theorem isNumberPart_of_isRun {digits : List Char} (h : isRun digits = true) :
    ∀ c ∈ digits, isNumberPart c = true := by
  intro c hc
  simp [isNumberPart, isDigit_of_isRun h c hc]

theorem FractionWritten.isNumberPart {fraction : Option (List Char)} {cs : List Char}
    (h : FractionWritten fraction cs) : ∀ c ∈ cs, isNumberPart c = true := by
  cases h with
  | absent => simp
  | present h => exact List.forall_mem_cons.2 ⟨rfl, isNumberPart_of_isRun h⟩

theorem ExponentWritten.isNumberPart {exponent : Option (Bool × List Char)} {cs : List Char}
    (h : ExponentWritten exponent cs) : ∀ c ∈ cs, isNumberPart c = true := by
  have hmark : ∀ mark : Char, mark = 'e' ∨ mark = 'E' → Json.isNumberPart mark = true := by
    rintro mark (rfl | rfl) <;> rfl
  cases h with
  | absent => simp
  | unsigned h hrun => exact List.forall_mem_cons.2 ⟨hmark _ h, isNumberPart_of_isRun hrun⟩
  | positive h hrun =>
    exact List.forall_mem_cons.2 ⟨hmark _ h, List.forall_mem_cons.2 ⟨rfl, isNumberPart_of_isRun hrun⟩⟩
  | negative h hrun =>
    exact List.forall_mem_cons.2 ⟨hmark _ h, List.forall_mem_cons.2 ⟨rfl, isNumberPart_of_isRun hrun⟩⟩

theorem MagnitudeWritten.isNumberPart {negative : Bool} {l : NumberLiteral} {cs : List Char}
    (h : MagnitudeWritten negative l cs) : ∀ c ∈ cs, isNumberPart c = true := by
  cases h with
  | parts hwhole _ hfraction hexponent =>
    simp only [List.forall_mem_append]
    exact ⟨isNumberPart_of_isRun hwhole, hfraction.isNumberPart, hexponent.isNumberPart⟩

/-- A number is made of the characters of numbers, and has at least one. -/
theorem NumberLiteral.Written.isNumberPart {l : NumberLiteral} {cs : List Char} (h : l.Written cs) :
    cs ≠ [] ∧ ∀ c ∈ cs, isNumberPart c = true := by
  cases h with
  | positive h =>
    obtain ⟨c, rest, hcs, -⟩ := h.exists_head
    exact ⟨hcs ▸ List.cons_ne_nil c rest, h.isNumberPart⟩
  | negative h => exact ⟨List.cons_ne_nil _ _, List.forall_mem_cons.2 ⟨rfl, h.isNumberPart⟩⟩

/-- A token ends where the text does, or before a character that does not continue it. -/
theorem tokensFrom_finish {mode : Mode} {token : Token} (hfinish : mode.finish = some [token])
    {rest : List Char} (hstep : ∀ c, rest.head? = some c → mode.step c = do
      let ended ← mode.finish
      let (begun, next) ← start c
      pure (ended ++ begun, next)) (done : List Token) :
    tokensFrom done mode rest = tokensFrom (token :: done) .between rest := by
  cases rest with
  | nil =>
    have hbetween : Mode.between.finish = some [] := rfl
    simp [tokensFrom, hfinish, hbetween]
  | cons c rest =>
    have hbetween : Mode.between.step c = start c := rfl
    rw [tokensFrom, tokensFrom, hstep c rfl, hfinish, hbetween]
    cases start c with
    | none => rfl
    | some begun => simp

/-- Characters that go on with a number or a word. -/
def continues (c : Char) : Bool :=
  isNumberPart c || c.isAlpha

theorem mem_of_mark? {c : Char} {m : Mark} (h : mark? c = some m) :
    c ∈ ['\x7b', '\x7d', '[', ']', ':', ','] := by
  by_contra hc
  simp only [List.mem_cons, List.not_mem_nil, or_false, not_or] at hc
  simp [mark?, hc] at h

/-- A mark is a token by itself, and goes on with no other. -/
theorem start_of_mark? {c : Char} {m : Mark} (h : mark? c = some m) :
    start c = some ([.mark m], .between) ∧ continues c = false := by
  have hcases := mem_of_mark? h
  simp only [List.mem_cons, List.not_mem_nil, or_false] at hcases
  rcases hcases with rfl | rfl | rfl | rfl | rfl | rfl <;> obtain rfl := Option.some.inj h <;>
    exact ⟨rfl, rfl⟩

theorem tokensFrom_number {l : NumberLiteral} {cs : List Char} (h : l.Written cs) {rest : List Char}
    (hrest : ∀ c, rest.head? = some c → isNumberPart c = false) (done : List Token) :
    tokensFrom done .between (cs ++ rest) = tokensFrom (.number l :: done) .between rest := by
  obtain ⟨hne, hparts⟩ := h.isNumberPart
  obtain ⟨c, cs, rfl⟩ := List.exists_cons_of_ne_nil hne
  have hfirst : Mode.between.step c = some ([], .number [c]) :=
    start_of_isNumberPart (hparts c List.mem_cons_self)
  have hfinish : (Mode.number (cs.reverse ++ [c])).finish = some [.number l] := by
    rw [Mode.finish, List.reverse_append, List.reverse_reverse, List.reverse_singleton,
      List.singleton_append, numberLiteral?_eq_some_iff.2 h]
    rfl
  rw [List.cons_append, tokensFrom_of_step hfirst,
    tokensFrom_numberParts fun d hd => hparts d (List.mem_cons_of_mem c hd)]
  refine tokensFrom_finish hfinish (fun d hd => ?_) done
  simp [Mode.step, hrest d hd]

theorem tokensFrom_word {token : Token} (read : List Char)
    (hword : word? read.reverse = some token) {rest : List Char}
    (hrest : ∀ c, rest.head? = some c → c.isAlpha = false) (done : List Token) :
    tokensFrom done (.word read) rest = tokensFrom (token :: done) .between rest := by
  have hfinish : (Mode.word read).finish = some [token] := by simp [Mode.finish, hword]
  refine tokensFrom_finish hfinish (fun c hc => ?_) done
  simp [Mode.step, hrest c hc]

/-- What is written for a token takes the machine over it, if what follows does not go on with it. -/
theorem tokensFrom_token {token : Token} {lexeme : List Char} (h : token.Written lexeme)
    {rest : List Char} (hrest : (∃ m, token = .mark m) ∨
      ∀ c, rest.head? = some c → continues c = false) (done : List Token) :
    tokensFrom done .between (lexeme ++ rest) = tokensFrom (token :: done) .between rest := by
  have hends : (¬ ∃ m, token = .mark m) → (∀ c, rest.head? = some c → isNumberPart c = false) ∧
      ∀ c, rest.head? = some c → c.isAlpha = false := by
    intro hmark
    have hall := hrest.resolve_left hmark
    simp only [continues, Bool.or_eq_false_iff] at hall
    exact ⟨fun c hc => (hall c hc).1, fun c hc => (hall c hc).2⟩
  cases h with
  | @mark c m h =>
    have hstep : Mode.between.step c = some ([.mark m], .between) := (start_of_mark? h).1
    rw [List.singleton_append, tokensFrom_of_token hstep]
  | @string units cs h =>
    have hopen : Mode.between.step '"' = some ([], .string []) := rfl
    have hclose : (Mode.string (units.reverse ++ [])).step '"' = some ([.string units], .between) := by
      simp [Mode.step]
    rw [List.append_assoc, List.cons_append, tokensFrom_of_step hopen, tokensFrom_units h,
      List.singleton_append, tokensFrom_of_token hclose]
  | number h => exact tokensFrom_number h (hends nofun).1 done
  | null => exact tokensFrom_word ['l', 'l', 'u', 'n'] rfl (hends nofun).2 done
  | yes => exact tokensFrom_word ['e', 'u', 'r', 't'] rfl (hends nofun).2 done
  | no => exact tokensFrom_word ['e', 's', 'l', 'a', 'f'] rfl (hends nofun).2 done

/-! ### Between tokens -/

theorem start_of_isSpace {c : Char} (h : isSpace c = true) :
    start c = some ([], .between) ∧ continues c = false := by
  refine ⟨by simp [start, h], ?_⟩
  simp only [isSpace, Bool.or_eq_true, beq_iff_eq] at h
  rcases h with ((rfl | rfl) | rfl) | rfl <;> rfl

theorem tokensFrom_blanks {blanks : List Char} (h : ∀ c ∈ blanks, isSpace c = true)
    (done : List Token) (rest : List Char) :
    tokensFrom done .between (blanks ++ rest) = tokensFrom done .between rest := by
  induction blanks with
  | nil => rfl
  | cons c blanks ih =>
    have hstep : Mode.between.step c = some ([], .between) :=
      (start_of_isSpace (h c List.mem_cons_self)).1
    rw [List.cons_append, tokensFrom_of_step hstep]
    exact ih fun d hd => h d (List.mem_cons_of_mem c hd)

/-- Tokens of which no two stand side by side that could run into one. -/
def Separated (tokens : List Token) : Prop :=
  tokens.IsChain fun a b => (∃ m, a = .mark m) ∨ ∃ m, b = .mark m

/-- Tokens that begin with a mark begin with a character that goes on with no token, and so does the
end of a text. -/
theorem Spells.head_stops {tokens : List Token} {cs : List Char} (h : Spells tokens cs)
    (hmark : ∀ token, tokens.head? = some token → ∃ m, token = .mark m) :
    ∀ c, cs.head? = some c → continues c = false := by
  have hblank : ∀ {blanks rest : List Char}, (∀ c ∈ blanks, isSpace c = true) →
      (∀ c, rest.head? = some c → continues c = false) →
      ∀ c, (blanks ++ rest).head? = some c → continues c = false := by
    intro blanks rest hblanks hrest
    cases blanks with
    | nil => exact hrest
    | cons b blanks =>
      rintro c ⟨⟩
      exact (start_of_isSpace (hblanks _ List.mem_cons_self)).2
  cases h with
  | nil hblanks =>
    rw [← List.append_nil cs]
    exact hblank hblanks (by simp)
  | cons hblanks h hrest =>
    refine hblank hblanks ?_
    obtain ⟨m, rfl⟩ := hmark _ rfl
    cases h with
    | mark h =>
      rintro c ⟨⟩
      exact (start_of_mark? h).2

/-- What is written for tokens is read as them, by induction on the tokens. -/
theorem Spells.tokensFrom {tokens : List Token} {cs : List Char} (h : Spells tokens cs)
    (hseparated : Separated tokens) (done : List Token) :
    tokensFrom done .between cs = some (done.reverse ++ tokens) := by
  induction h generalizing done with
  | @nil blanks hblanks =>
    have hread := tokensFrom_blanks hblanks done []
    rw [List.append_nil] at hread
    rw [hread]
    rfl
  | @cons token tokens blanks lexeme rest hblanks h hrest ih =>
    obtain ⟨hneighbour, htokens⟩ := List.isChain_cons.1 hseparated
    have hnext : (∃ m, token = .mark m) ∨ ∀ c, rest.head? = some c → continues c = false := by
      by_cases hmark : ∃ m, token = .mark m
      · exact .inl hmark
      · exact .inr (hrest.head_stops fun next hnext => (hneighbour next hnext).resolve_left hmark)
    rw [tokensFrom_blanks hblanks, tokensFrom_token h hnext, ih htokens, List.reverse_cons,
      List.append_assoc, List.singleton_append]

/-! ## 2. What is read was written -/

/-- What was read of the token the machine stands in. -/
inductive Mode.Read : Mode → List Char → Prop
  | between : Read .between []
  | number (read : List Char) : Read (.number read) read.reverse
  | word (read : List Char) : Read (.word read) read.reverse
  | string {read : List StringUnit} {cs : List Char} (h : UnitsWritten read.reverse cs) :
      Read (.string read) ('"' :: cs)
  | escape {read : List StringUnit} {cs : List Char} (h : UnitsWritten read.reverse cs) :
      Read (.escape read) ('"' :: cs ++ ['\\'])
  | code {read : List StringUnit} {cs digits : List Char} {values : List Nat}
      (h : UnitsWritten read.reverse cs) (hdigits : HexDigits digits values)
      (hlength : digits.length < 4) :
      Read (.code read (hexNumber 0 values) digits.length) ('"' :: cs ++ '\\' :: 'u' :: digits)

theorem UnitsWritten.snoc {units : List StringUnit} {cs : List Char} (h : UnitsWritten units cs)
    {unit : StringUnit} {lexeme : List Char} (hunit : unit.Written lexeme) :
    UnitsWritten (units ++ [unit]) (cs ++ lexeme) := by
  induction h with
  | nil => simpa using UnitsWritten.cons hunit .nil
  | cons hfirst _ ih =>
    rw [List.append_assoc]
    exact .cons hfirst ih

theorem Spells.append {tokens tokens' : List Token} {cs cs' : List Char} (h : Spells tokens cs)
    (h' : Spells tokens' cs') : Spells (tokens ++ tokens') (cs ++ cs') := by
  induction h with
  | @nil blanks hblanks =>
    -- The blanks at the end of the one text stand in front of the first token of the other.
    cases h' with
    | nil hblanks' => exact .nil (List.forall_mem_append.2 ⟨hblanks, hblanks'⟩)
    | cons hblanks' hfirst hrest =>
      rw [← List.append_assoc]
      exact .cons (List.forall_mem_append.2 ⟨hblanks, hblanks'⟩) hfirst hrest
  | cons hblanks hfirst _ ih =>
    rw [List.append_assoc, List.append_assoc]
    exact .cons hblanks hfirst ih

/-- A token with nothing around it. -/
theorem Token.Written.spells {token : Token} {lexeme : List Char} (h : token.Written lexeme) :
    Spells [token] lexeme := by
  have hblanks : ∀ c ∈ ([] : List Char), isSpace c = true := by simp
  simpa using Spells.cons hblanks h (.nil hblanks)

theorem word?_written {cs : List Char} {token : Token} (h : word? cs = some token) :
    token.Written cs := by
  simp only [word?, beq_iff_eq] at h
  split_ifs at h with hnull hyes hno <;> obtain rfl := Option.some.inj h
  · exact hnull ▸ .null
  · exact hyes ▸ .yes
  · exact hno ▸ .no

/-- A token that ends is spelled by what was read of it. -/
theorem Mode.Read.finish {mode : Mode} {pre : List Char} (h : mode.Read pre) {ended : List Token}
    (hfinish : mode.finish = some ended) : Spells ended pre := by
  cases h with
  | between =>
    obtain rfl := Option.some.inj hfinish
    exact .nil (by simp)
  | number read =>
    obtain ⟨l, hl, rfl⟩ := Option.map_eq_some_iff.1 hfinish
    exact (Token.Written.number (numberLiteral?_eq_some_iff.1 hl)).spells
  | word read =>
    obtain ⟨token, htoken, rfl⟩ := Option.map_eq_some_iff.1 hfinish
    exact (word?_written htoken).spells
  | string _ => cases hfinish
  | escape _ => cases hfinish
  | code _ _ _ => cases hfinish

/-- What was read, taken apart: the tokens that ended, and what was read of the next. -/
def ReadAs (pre : List Char) (ended : List Token) (next : Mode) : Prop :=
  ∃ front back, pre = front ++ back ∧ Spells ended front ∧ next.Read back

/-- No token has ended. -/
theorem Mode.Read.readAs {mode : Mode} {pre : List Char} (h : mode.Read pre) : ReadAs pre [] mode :=
  ⟨[], pre, rfl, .nil (by simp), h⟩

/-- A character read between tokens. -/
theorem start_readAs {c : Char} {begun : List Token} {next : Mode}
    (h : start c = some (begun, next)) : ReadAs [c] begun next := by
  simp only [start, beq_iff_eq] at h
  split_ifs at h with hspace hquote hnumber halpha
  · obtain ⟨⟩ := h
    exact ⟨[c], [], rfl, .nil (by simpa using hspace), .between⟩
  · obtain ⟨⟩ := h
    subst hquote
    exact (@Mode.Read.string [] [] .nil).readAs
  · obtain ⟨⟩ := h
    exact (Mode.Read.number [c]).readAs
  · obtain ⟨⟩ := h
    exact (Mode.Read.word [c]).readAs
  · obtain ⟨m, hm, heq⟩ := Option.map_eq_some_iff.1 h
    obtain ⟨rfl, rfl⟩ := Prod.mk.inj heq
    exact ⟨[c], [], rfl, (Token.Written.mark hm).spells, .between⟩

/-- A character that ends a number or a word and begins the next token. -/
theorem Mode.Read.finish_start {mode : Mode} {pre : List Char} (h : mode.Read pre) {c : Char}
    {ended : List Token} {next : Mode}
    (hstep : (do
      let ended ← mode.finish
      let (begun, next) ← start c
      pure (ended ++ begun, next)) = some (ended, next)) : ReadAs (pre ++ [c]) ended next := by
  obtain ⟨before, hbefore, hstart⟩ := Option.bind_eq_some_iff.1 hstep
  obtain ⟨⟨begun, mode'⟩, hbegun, heq⟩ := Option.bind_eq_some_iff.1 hstart
  obtain ⟨⟩ := heq
  obtain ⟨front, back, hc, hfront, hback⟩ := start_readAs hbegun
  refine ⟨pre ++ front, back, by rw [hc, List.append_assoc], (h.finish hbefore).append hfront, hback⟩

/-- A unit that ends within a string. -/
theorem readAs_unit {read : List StringUnit} {cs : List Char} (h : UnitsWritten read.reverse cs)
    {unit : StringUnit} {lexeme : List Char} (hunit : unit.Written lexeme) :
    ReadAs ('"' :: cs ++ lexeme) [] (.string (unit :: read)) := by
  have hunits : UnitsWritten (unit :: read).reverse (cs ++ lexeme) := by
    rw [List.reverse_cons]
    exact h.snoc hunit
  exact (Mode.Read.string hunits).readAs

/-- A character in a string closes it, begins an escape or stands for itself. -/
theorem readAs_string {read : List StringUnit} {cs : List Char} (h : UnitsWritten read.reverse cs)
    {c : Char} {ended : List Token} {next : Mode}
    (hstep : (Mode.string read).step c = some (ended, next)) :
    ReadAs ('"' :: cs ++ [c]) ended next := by
  simp only [Mode.step, beq_iff_eq] at hstep
  split_ifs at hstep with hquote hbackslash hcontrol
  · obtain ⟨⟩ := hstep
    subst hquote
    exact ⟨'"' :: cs ++ ['"'], [], by simp, (Token.Written.string h).spells, .between⟩
  · obtain ⟨⟩ := hstep
    subst hbackslash
    exact (Mode.Read.escape h).readAs
  · obtain ⟨⟩ := hstep
    exact readAs_unit h (.plain hquote hbackslash (Nat.le_of_not_lt hcontrol))

theorem readAs_escape {read : List StringUnit} {cs : List Char} (h : UnitsWritten read.reverse cs)
    {c : Char} {ended : List Token} {next : Mode}
    (hstep : (Mode.escape read).step c = some (ended, next)) :
    ReadAs ('"' :: cs ++ ['\\', c]) ended next := by
  simp only [Mode.step, beq_iff_eq] at hstep
  split_ifs at hstep with hcode
  · obtain ⟨⟩ := hstep
    subst hcode
    exact (Mode.Read.code h (.nil : HexDigits [] []) (by simp)).readAs
  · obtain ⟨d, hd, heq⟩ := Option.map_eq_some_iff.1 hstep
    obtain ⟨rfl, rfl⟩ := Prod.mk.inj heq
    exact readAs_unit h (.letter hd)

/-- A digit of a code. The fourth makes the code a unit. -/
theorem readAs_code {read : List StringUnit} {cs digits : List Char} {values : List Nat}
    (h : UnitsWritten read.reverse cs) (hdigits : HexDigits digits values) (hlength : digits.length < 4)
    {c : Char} {ended : List Token} {next : Mode}
    (hstep : (Mode.code read (hexNumber 0 values) digits.length).step c = some (ended, next)) :
    ReadAs ('"' :: cs ++ '\\' :: 'u' :: (digits ++ [c])) ended next := by
  obtain ⟨d, hd, heq⟩ := Option.map_eq_some_iff.1 hstep
  have hmore : HexDigits (digits ++ [c]) (values ++ [d]) := List.rel_append hdigits (.cons hd .nil)
  have hcount : (digits ++ [c]).length = digits.length + 1 := List.length_append
  have hvalue : 16 * hexNumber 0 values + d = hexNumber 0 (values ++ [d]) := by
    simp [hexNumber]
  rw [hvalue] at heq
  by_cases hlast : digits.length = 3
  · simp only [hlast, beq_self_eq_true, if_true] at heq
    obtain ⟨⟩ := heq
    exact readAs_unit h (.code hmore (by omega))
  · simp only [beq_iff_eq, hlast, if_false] at heq
    obtain ⟨⟩ := heq
    rw [← hcount]
    exact (Mode.Read.code h hmore (by omega)).readAs

/-- One step of the machine, by cases on where it stands. -/
theorem Mode.Read.step {mode : Mode} {pre : List Char} (h : mode.Read pre) {c : Char}
    {ended : List Token} {next : Mode} (hstep : mode.step c = some (ended, next)) :
    ReadAs (pre ++ [c]) ended next := by
  cases h with
  | between => exact start_readAs hstep
  | number read =>
    by_cases hpart : isNumberPart c = true
    · rw [Mode.step, if_pos hpart] at hstep
      obtain ⟨⟩ := hstep
      rw [← List.reverse_cons]
      exact (Mode.Read.number (c :: read)).readAs
    · rw [Mode.step, if_neg hpart] at hstep
      exact (Mode.Read.number read).finish_start hstep
  | word read =>
    by_cases halpha : c.isAlpha = true
    · rw [Mode.step, if_pos halpha] at hstep
      obtain ⟨⟩ := hstep
      rw [← List.reverse_cons]
      exact (Mode.Read.word (c :: read)).readAs
    · rw [Mode.step, if_neg halpha] at hstep
      exact (Mode.Read.word read).finish_start hstep
  | string h => exact readAs_string h hstep
  | escape h =>
    rw [List.append_assoc]
    exact readAs_escape h hstep
  | code h hdigits hlength =>
    rw [List.append_assoc]
    exact readAs_code h hdigits hlength hstep

/-- What is read from a mode on spells the tokens it gives, by induction on the characters. -/
theorem Mode.Read.tokensFrom {mode : Mode} {pre : List Char} (h : mode.Read pre) {cs : List Char}
    {done tokens : List Token} (hread : tokensFrom done mode cs = some tokens) :
    ∃ later, tokens = done.reverse ++ later ∧ Spells later (pre ++ cs) := by
  induction cs generalizing mode pre done with
  | nil =>
    obtain ⟨later, hlater, rfl⟩ := Option.map_eq_some_iff.1 hread
    rw [List.append_nil]
    exact ⟨later, rfl, h.finish hlater⟩
  | cons c cs ih =>
    rw [Json.tokensFrom] at hread
    split at hread
    · cases hread
    · rename_i ended next hstep
      obtain ⟨front, back, hpre, hfront, hback⟩ := h.step hstep
      obtain ⟨later, rfl, hlater⟩ := ih hback hread
      refine ⟨ended ++ later, by simp, ?_⟩
      rw [← List.singleton_append, ← List.append_assoc, hpre, List.append_assoc]
      exact hfront.append hlater

/-- The tokens of a text. -/
theorem spells_of_tokens? {text : String} {tokens : List Token} (h : tokens? text = some tokens) :
    Spells tokens text.toList := by
  obtain ⟨later, rfl, hlater⟩ := Mode.Read.between.tokensFrom h
  simpa using hlater

theorem tokens?_eq_some_iff {text : String} {tokens : List Token} (h : Separated tokens) :
    tokens? text = some tokens ↔ Spells tokens text.toList := by
  constructor
  · exact spells_of_tokens?
  · intro hspells
    rw [tokens?, hspells.tokensFrom h]
    rfl

end ObjectCatalog.Json
