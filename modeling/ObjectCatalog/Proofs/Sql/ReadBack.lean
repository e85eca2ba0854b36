import ObjectCatalog.Proofs.Predicate.PlanShape
import ObjectCatalog.Proofs.Sql.Formula
import ObjectCatalog.Proofs.Sql.Lexing

/-!
# A condition reads back as its plan

What `Plan.condition` writes is read by `Plan.read?` as the plan it was written from, in every
dialect and after any number of placeholders. So a text and its arguments determine the plan.

The proof is one induction over the node, and what carries it is that a node can be read anywhere:
wherever an operand may stand, its text takes the reader to the state in which the formula of the
node is the operand that was read, and neither the parentheses that are open nor what was read in
front of it matter (`read?_node`). The formula of a node is then recognised as the node
(`ofFormula?_formula`).
-/

namespace ObjectCatalog

open Lexeme

/-! ## What stands in a condition -/

def KeyFilter.nameFormula (filter : KeyFilter) : Formula :=
  .test ⟨rowAlias filter.position, "name"⟩ .exact (.text filter.key)

def ValueTest.formula (position : Nat) (test : ValueTest) : Formula :=
  .test ⟨rowAlias position, "value"⟩ test.comparison (.text test.operand)

/-- Alternatives, grouped from the left. -/
def alternativesFormula (position : Nat) (before : Formula) (tests : List ValueTest) : Formula :=
  tests.foldl (fun before test => .join before .or (test.formula position)) before

/-- The condition on the value of a row: a test, or several in parentheses. -/
def testsFormula (position : Nat) (first : ValueTest) : List ValueTest → Formula
  | [] => first.formula position
  | rest => .group (alternativesFormula position (first.formula position) rest)

/-- The condition on a row, joined to what is before it. -/
def KeyFilter.formula (before : Option Formula) (filter : KeyFilter) : Formula :=
  let name := joinTo before .and filter.nameFormula
  match filter.tests with
  | [] => name
  | first :: rest => .join name .and (testsFormula filter.position first rest)

def tieFormula (position : Nat) : Formula :=
  .same ⟨rowAlias position, "object"⟩ ⟨rowAlias 0, "object"⟩

/-- A node over the given metadata table, as it is written. -/
def Node.formula (relation : String) : Node → Formula
  | .base filter => .group (filter.formula none)
  | .related filter =>
    .related relation (rowAlias filter.position)
      (filter.formula (some (tieFormula filter.position)))
  | .combine left connector right =>
    .group (.join (left.formula relation) connector (right.formula relation))

/-! ## Symbols of the parts -/

/-- A text that does not begin with a blank. -/
def Starts (cs : List Char) : Prop :=
  ∃ c, cs.head? = some c ∧ isBlankRest c = false

theorem starts_append {text : String} {c : Char} (h : text.toList.head? = some c)
    (hc : isBlankRest c = false) (rest : List Char) : Starts (text.toList ++ rest) :=
  ⟨c, by rw [List.head?_append, h]; rfl, hc⟩

theorem toList_rowAlias (position : Nat) :
    (rowAlias position).toList = 'm' :: Text.Numeral.digits position := by
  simp [rowAlias, Text.Numeral.ofNat]

theorem isIdentifier_rowAlias (position : Nat) : isIdentifier (rowAlias position) = true := by
  rw [isIdentifier, toList_rowAlias, isIdentifierChars, Bool.and_eq_true, List.all_eq_true]
  refine ⟨by decide, fun c hc => ?_⟩
  rw [Text.isIdentifierRest, Char.isAlphanum, Text.Numeral.isDigit_of_mem_digits hc, Bool.or_true,
    Bool.true_or]

/-- No keyword begins like the alias of a row. -/
theorem ofText?_rowAlias (position : Nat) : Keyword.ofText? (rowAlias position) = none := by
  refine List.lookup_eq_none_iff.2 fun pair hpair => ?_
  -- Keywords are compared by their folded text, whose first letter is enough to tell.
  have hkeyword : pair.1.toList.head? ≠ some 'm' := by
    revert pair
    decide +kernel
  have hfold : (Text.foldCase (rowAlias position)).toList.head? = some 'm' := by
    rw [Text.toList_foldCase, toList_rowAlias, List.map_cons, List.head?_cons]
    rfl
  have hne : Text.foldCase (rowAlias position) ≠ pair.1 := by
    intro heq
    rw [heq] at hfold
    exact hkeyword hfold
  exact bne_iff_ne.2 hne

theorem starts_identifier {word : String} (h : isIdentifier word = true) (rest : List Char) :
    Starts (word.toList ++ rest) := by
  rw [isIdentifier] at h
  cases hword : word.toList with
  | nil => rw [hword] at h; exact absurd h Bool.false_ne_true
  | cons c cs =>
    rw [hword, isIdentifierChars, Bool.and_eq_true] at h
    exact ⟨c, rfl, isBlankRest_of_isNameStart (isNameStart_of_isIdentifierStart h.1).1⟩

theorem starts_placeholder (d : Dialect) (n : Nat) (rest : List Char) :
    Starts ((d.placeholder n).toList ++ rest) := by
  cases d with
  | postgres => exact starts_append (c := '$') (by simp [Dialect.placeholder]) (by decide) rest
  | sqlite => exact starts_append (c := '?') (by simp [Dialect.placeholder]) (by decide) rest
  | mySql => exact starts_append (c := '?') (by simp [Dialect.placeholder]) (by decide) rest

theorem lexFrom_blank_of_starts {cs : List Char} (h : Starts cs) :
    lexFrom 0 (' ' :: cs) = lexFrom 0 cs := by
  obtain ⟨c, hhead, hc⟩ := h
  exact lexFrom_blank hhead hc

theorem isPlace_placeholder (d : Dialect) (n : Nat) :
    Lexeme.isPlace ⟨.value, d.placeholder n⟩ = true := by
  cases d <;> simp [Lexeme.isPlace, Dialect.placeholder]

theorem symbols?_word {text : String} {keyword : Option Keyword}
    (h : Keyword.ofText? text = keyword) (rest : List Lexeme) (args : List Arg) :
    symbols? (⟨.word, text⟩ :: rest) args = (symbols? rest args).map (.word keyword text :: ·) := by
  rw [← h]
  rfl

theorem symbols?_place (d : Dialect) (n : Nat) (rest : List Lexeme) (arg : Arg)
    (args : List Arg) :
    symbols? (⟨.value, d.placeholder n⟩ :: rest) (arg :: args) =
      (symbols? rest args).map (.argument arg :: ·) := by
  rw [symbols?, if_pos (isPlace_placeholder d n)]

/-! ## Reading the parts -/

/-- One step of the reader: the front of a text is one item, which fits. -/
theorem read?_item {m next : Assembling} {item : Item} (symbols : List Symbol)
    {cs rest : List Char} {args more : List Arg}
    (hsymbols : symbols? (lexFrom 0 cs) args =
      (symbols? (lexFrom 0 rest) more).map (symbols ++ ·))
    (hitems : ∀ xs, items? (symbols ++ xs) = (items? xs).map (item :: ·))
    (hstep : m.step? item = some next) : m.read? cs args = next.read? rest more := by
  rw [Assembling.read?, Assembling.read?, hsymbols]
  cases symbols? (lexFrom 0 rest) more with
  | none => rfl
  | some xs =>
    rw [Option.map_some, Option.bind_some, Option.bind_some, hitems]
    cases items? xs with
    | none => rfl
    | some items => simp only [Option.map_some, Option.bind_some, Assembling.run, hstep]

theorem read?_opening (levels : List (Opening × Before)) (before : Before) (cs : List Char)
    (args : List Arg) :
    Assembling.read? ⟨levels, .operand before⟩ ("(".toList ++ cs) args =
      Assembling.read? ⟨(.group, before) :: levels, .operand .nothing⟩ cs args :=
  read?_item [.opening] rfl (fun _ => rfl) rfl

theorem read?_closing (levels : List (Opening × Before)) (what : Opening) (outer before : Before)
    (operand : Formula) (cs : List Char) (args : List Arg) :
    Assembling.read? ⟨(what, outer) :: levels, .connective before operand⟩ (")".toList ++ cs)
        args =
      Assembling.read? ⟨levels, .connective outer (what.close (before.whole operand))⟩ cs args :=
  read?_item [.closing] rfl (fun _ => rfl) rfl

theorem read?_connector (levels : List (Opening × Before)) (before : Before) (operand : Formula)
    (c : Connector) {cs : List Char} (hcs : Starts cs) (args : List Arg) :
    Assembling.read? ⟨levels, .connective before operand⟩
        (" ".toList ++ (c.keyword.toList ++ (" ".toList ++ cs))) args =
      Assembling.read? ⟨levels, .operand (before.connect operand c)⟩ cs args := by
  have hblank : lexFrom 0 (" ".toList ++ cs) = lexFrom 0 cs := lexFrom_blank_of_starts hcs
  cases c with
  | and =>
    have hlex : lexFrom 0 (" ".toList ++ (Connector.and.keyword.toList ++ (" ".toList ++ cs))) =
        ⟨.word, "AND"⟩ :: lexFrom 0 (" ".toList ++ cs) := rfl
    have hkeyword : Keyword.ofText? "AND" = some .and := by decide +kernel
    refine read?_item [.word (some .and) "AND"] ?_ (fun _ => rfl) rfl
    rw [hlex, hblank, symbols?_word hkeyword]
    rfl
  | or =>
    have hlex : lexFrom 0 (" ".toList ++ (Connector.or.keyword.toList ++ (" ".toList ++ cs))) =
        ⟨.word, "OR"⟩ :: lexFrom 0 (" ".toList ++ cs) := rfl
    have hkeyword : Keyword.ofText? "OR" = some .or := by decide +kernel
    refine read?_item [.word (some .or) "OR"] ?_ (fun _ => rfl) rfl
    rw [hlex, hblank, symbols?_word hkeyword]
    rfl

def Comparison.lexeme : Comparison → Lexeme
  | .exact => ⟨.mark, "="⟩
  | .like => ⟨.word, "LIKE"⟩

/-- A comparison of a column of a row with an argument is an operand. The text between the row and
the place of the argument is given by its lexemes. -/
theorem read?_test (levels : List (Opening × Before)) (before : Before) (position : Nat)
    (lead : List Char) {name : String} {comparison : Comparison}
    (hlead : ∀ cs, lexFrom 0 ('.' :: (lead ++ cs)) =
      ⟨.mark, "."⟩ :: ⟨.word, name⟩ :: comparison.lexeme :: lexFrom 0 (' ' :: cs))
    (hname : Keyword.ofText? name = none) (d : Dialect) (n : Nat) {rest : List Char}
    (hrest : Ends rest) (arg : Arg) (args : List Arg) :
    Assembling.read? ⟨levels, .operand before⟩
        ((rowAlias position).toList ++ ('.' :: (lead ++ ((d.placeholder n).toList ++ rest))))
        (arg :: args) =
      Assembling.read?
        ⟨levels, .connective before (.test ⟨rowAlias position, name⟩ comparison arg)⟩ rest args := by
  have hlex : lexFrom 0 ((rowAlias position).toList ++
        ('.' :: (lead ++ ((d.placeholder n).toList ++ rest)))) =
      ⟨.word, rowAlias position⟩ :: ⟨.mark, "."⟩ :: ⟨.word, name⟩ :: comparison.lexeme ::
        ⟨.value, d.placeholder n⟩ :: lexFrom 0 rest := by
    rw [lexFrom_identifier (isIdentifier_rowAlias position) (ends_dot _), hlead,
      lexFrom_blank_of_starts (starts_placeholder d n rest), lexFrom_placeholder d n hrest]
  have hrow := symbols?_word (ofText?_rowAlias position)
  have hdot : ∀ rest args, symbols? (⟨.mark, "."⟩ :: rest) args =
      (symbols? rest args).map (.dot :: ·) := fun _ _ => rfl
  cases comparison with
  | exact =>
    have hequals : ∀ rest args, symbols? (Comparison.exact.lexeme :: rest) args =
        (symbols? rest args).map (.equals :: ·) := fun _ _ => rfl
    refine read?_item [.word none (rowAlias position), .dot, .word none name, .equals,
      .argument arg] ?_ (fun _ => rfl) rfl
    rw [hlex, hrow, hdot, symbols?_word hname, hequals, symbols?_place]
    simp only [Option.map_map, Function.comp_def, List.cons_append, List.nil_append]
  | like =>
    have hlike : Keyword.ofText? "LIKE" = some .like := by decide +kernel
    refine read?_item [.word none (rowAlias position), .dot, .word none name,
      .word (some .like) "LIKE", .argument arg] ?_ (fun _ => rfl) rfl
    rw [hlex, hrow, hdot, symbols?_word hname, Comparison.lexeme, symbols?_word hlike,
      symbols?_place]
    simp only [Option.map_map, Function.comp_def, List.cons_append, List.nil_append]

theorem read?_name (levels : List (Opening × Before)) (before : Before) (filter : KeyFilter)
    (d : Dialect) (n : Nat) {rest : List Char} (hrest : Ends rest) (args : List Arg) :
    Assembling.read? ⟨levels, .operand before⟩
        ((rowAlias filter.position).toList ++ (".name = ".toList ++
          ((d.placeholder n).toList ++ rest))) (.text filter.key :: args) =
      Assembling.read? ⟨levels, .connective before filter.nameFormula⟩ rest args :=
  read?_test levels before filter.position "name = ".toList (fun _ => rfl)
    (by decide +kernel) d n hrest (.text filter.key) args

theorem read?_value (levels : List (Opening × Before)) (before : Before) (position : Nat)
    (test : ValueTest) (d : Dialect) (taken : Nat) {rest : List Char} (hrest : Ends rest)
    (args : List Arg) :
    Assembling.read? ⟨levels, .operand before⟩
        ((Template.textFrom d taken (test.template position)).toList ++ rest)
        (.text test.operand :: args) =
      Assembling.read? ⟨levels, .connective before (test.formula position)⟩ rest args := by
  have hvalue : Keyword.ofText? "value" = none := by decide +kernel
  have hlead : ∀ cs, lexFrom 0 ('.' ::
        (("value ".toList ++ (test.comparison.operator.toList ++ " ".toList)) ++ cs)) =
      ⟨.mark, "."⟩ :: ⟨.word, "value"⟩ :: test.comparison.lexeme :: lexFrom 0 (' ' :: cs) := by
    intro cs
    cases test.comparison <;> rfl
  have hread := read?_test levels before position _ hlead hvalue d (taken + 1) hrest
    (.text test.operand) args
  simp only [ValueTest.template, Template.textFrom, String.toList_append, List.append_assoc]
    at hread ⊢
  exact hread

/-- The tie of a row to the starting row is an operand. -/
theorem read?_tie (levels : List (Opening × Before)) (before : Before) (position : Nat)
    {rest : List Char} (hrest : Ends rest) (args : List Arg) :
    Assembling.read? ⟨levels, .operand before⟩
        ((rowAlias position).toList ++ (".object = ".toList ++ ((rowAlias 0).toList ++
          (".object".toList ++ rest)))) args =
      Assembling.read? ⟨levels, .connective before (tieFormula position)⟩ rest args := by
  have hobject : isIdentifier "object" = true := by decide +kernel
  have hname : Keyword.ofText? "object" = none := by decide +kernel
  have hfirst : ∀ cs, lexFrom 0 (".object = ".toList ++ cs) =
      ⟨.mark, "."⟩ :: ⟨.word, "object"⟩ :: ⟨.mark, "="⟩ :: lexFrom 0 (' ' :: cs) := fun _ => rfl
  have hsecond : ∀ cs, lexFrom 0 (".object".toList ++ cs) =
      ⟨.mark, "."⟩ :: lexFrom 0 ("object".toList ++ cs) := fun _ => rfl
  have hends : ∀ cs, Ends (".object = ".toList ++ cs) := fun _ => ends_dot _
  have hends' : ∀ cs, Ends (".object".toList ++ cs) := fun _ => ends_dot _
  have hlex : lexFrom 0 ((rowAlias position).toList ++ (".object = ".toList ++
        ((rowAlias 0).toList ++ (".object".toList ++ rest)))) =
      ⟨.word, rowAlias position⟩ :: ⟨.mark, "."⟩ :: ⟨.word, "object"⟩ :: ⟨.mark, "="⟩ ::
        ⟨.word, rowAlias 0⟩ :: ⟨.mark, "."⟩ :: ⟨.word, "object"⟩ :: lexFrom 0 rest := by
    rw [lexFrom_identifier (isIdentifier_rowAlias position) (hends _), hfirst,
      lexFrom_blank_of_starts (starts_identifier (isIdentifier_rowAlias 0) _),
      lexFrom_identifier (isIdentifier_rowAlias 0) (hends' _), hsecond,
      lexFrom_identifier hobject hrest]
  have hdot : ∀ rest args, symbols? (⟨.mark, "."⟩ :: rest) args =
      (symbols? rest args).map (.dot :: ·) := fun _ _ => rfl
  have hequals : ∀ rest args, symbols? (⟨.mark, "="⟩ :: rest) args =
      (symbols? rest args).map (.equals :: ·) := fun _ _ => rfl
  refine read?_item [.word none (rowAlias position), .dot, .word none "object", .equals,
    .word none (rowAlias 0), .dot, .word none "object"] ?_ (fun _ => rfl) rfl
  rw [hlex, symbols?_word (ofText?_rowAlias position), hdot, symbols?_word hname, hequals,
    symbols?_word (ofText?_rowAlias 0), hdot, symbols?_word hname]
  simp only [Option.map_map, Function.comp_def, List.cons_append, List.nil_append]

theorem lexFrom_head (cs : List Char) :
    lexFrom 0 ("EXISTS (SELECT 1 FROM ".toList ++ cs) = ⟨.word, "EXISTS"⟩ :: ⟨.mark, "("⟩ ::
      ⟨.word, "SELECT"⟩ :: ⟨.value, "1"⟩ :: ⟨.word, "FROM"⟩ :: lexFrom 0 (' ' :: cs) := by
  have hsplit : "EXISTS (SELECT 1 FROM ".toList ++ cs = "EXISTS".toList ++ (' ' :: '(' ::
      ("SELECT".toList ++ (' ' :: '1' :: ' ' :: ("FROM".toList ++ (' ' :: cs))))) := rfl
  have hopening : ∀ rest, lexFrom 0 ('(' :: rest) = ⟨.mark, "("⟩ :: lexFrom 0 rest := fun _ => rfl
  have hone : ∀ rest, lexFrom 0 ('1' :: ' ' :: ("FROM".toList ++ rest)) =
      ⟨.value, "1"⟩ :: lexFrom 0 (' ' :: ("FROM".toList ++ rest)) := fun _ => lexFrom_one _
  have hexists : isIdentifier "EXISTS" = true := by decide +kernel
  have hselect : isIdentifier "SELECT" = true := by decide +kernel
  have hfrom : isIdentifier "FROM" = true := by decide +kernel
  rw [hsplit, lexFrom_identifier hexists (ends_blank _), lexFrom_blank rfl (by decide), hopening,
    lexFrom_identifier hselect (ends_blank _), lexFrom_blank rfl (by decide), hone,
    lexFrom_blank rfl (by decide), lexFrom_identifier hfrom (ends_blank _)]

/-- The head of a condition on a related row opens a parenthesis. -/
theorem read?_related (levels : List (Opening × Before)) (before : Before) {relation : String}
    (hrelation : isIdentifier relation = true) (position : Nat) {rest : List Char}
    (hrest : Starts rest) (args : List Arg) :
    Assembling.read? ⟨levels, .operand before⟩
        ("EXISTS (SELECT 1 FROM ".toList ++ (relation.toList ++ (" ".toList ++
          ((rowAlias position).toList ++ (" WHERE ".toList ++ rest))))) args =
      Assembling.read?
        ⟨(.related relation (rowAlias position), before) :: levels, .operand .nothing⟩ rest
        args := by
  have hwhere : ∀ cs, lexFrom 0 (" WHERE ".toList ++ cs) =
      ⟨.word, "WHERE"⟩ :: lexFrom 0 (' ' :: cs) := fun _ => rfl
  have hblank : ∀ cs, lexFrom 0 (" ".toList ++ cs) = lexFrom 0 (' ' :: cs) := fun _ => rfl
  have hends : ∀ cs, Ends (" ".toList ++ cs) := fun _ => ends_blank _
  have hends' : ∀ cs, Ends (" WHERE ".toList ++ cs) := fun _ => ends_blank _
  have hlex : lexFrom 0 ("EXISTS (SELECT 1 FROM ".toList ++ (relation.toList ++ (" ".toList ++
        ((rowAlias position).toList ++ (" WHERE ".toList ++ rest))))) =
      ⟨.word, "EXISTS"⟩ :: ⟨.mark, "("⟩ :: ⟨.word, "SELECT"⟩ :: ⟨.value, "1"⟩ ::
        ⟨.word, "FROM"⟩ :: ⟨.word, relation⟩ :: ⟨.word, rowAlias position⟩ ::
        ⟨.word, "WHERE"⟩ :: lexFrom 0 rest := by
    rw [lexFrom_head, lexFrom_blank_of_starts (starts_identifier hrelation _),
      lexFrom_identifier hrelation (hends _), hblank,
      lexFrom_blank_of_starts (starts_identifier (isIdentifier_rowAlias position) _),
      lexFrom_identifier (isIdentifier_rowAlias position) (hends' _), hwhere,
      lexFrom_blank_of_starts hrest]
  have hexists : Keyword.ofText? "EXISTS" = some .exists := by decide +kernel
  have hselect : Keyword.ofText? "SELECT" = some .select := by decide +kernel
  have hfrom : Keyword.ofText? "FROM" = some .from := by decide +kernel
  have hwhere : Keyword.ofText? "WHERE" = some .where := by decide +kernel
  have hopening : ∀ rest args, symbols? (⟨.mark, "("⟩ :: rest) args =
      (symbols? rest args).map (.opening :: ·) := fun _ _ => rfl
  have hone : ∀ rest args, symbols? (⟨.value, "1"⟩ :: rest) args =
      (symbols? rest args).map (.one :: ·) := fun _ _ => rfl
  -- The table may have the name of a keyword.
  obtain ⟨keyword, hkeyword⟩ : ∃ keyword, Keyword.ofText? relation = keyword := ⟨_, rfl⟩
  have hitems : ∀ xs, items? ([.word (some .exists) "EXISTS", .opening,
        .word (some .select) "SELECT", .one, .word (some .from) "FROM", .word keyword relation,
        .word none (rowAlias position), .word (some .where) "WHERE"] ++ xs) =
      (items? xs).map (.opening (.related relation (rowAlias position)) :: ·) := fun _ => rfl
  refine read?_item _ ?_ hitems rfl
  rw [hlex, symbols?_word hexists, hopening, symbols?_word hselect, hone, symbols?_word hfrom,
    symbols?_word hkeyword, symbols?_word (ofText?_rowAlias position), symbols?_word hwhere]
  simp only [Option.map_map, Function.comp_def, List.cons_append, List.nil_append]

/-! ## Reading a node -/

theorem alternatives_cons_cons (position : Nat) (test next : ValueTest) (tests : List ValueTest) :
    alternatives position (test :: next :: tests) =
      test.template position ++ .text " OR " :: alternatives position (next :: tests) := by
  rw [alternatives]
  exact List.cons_ne_nil next tests

theorem starts_alternatives (position : Nat) (test : ValueTest) (tests : List ValueTest)
    (d : Dialect) (taken : Nat) (rest : List Char) :
    Starts ((Template.textFrom d taken (alternatives position (test :: tests))).toList ++ rest) := by
  have hfront : ∃ t, alternatives position (test :: tests) = test.template position ++ t := by
    cases tests with
    | nil => exact ⟨[], by rw [alternatives, List.append_nil]⟩
    | cons next tests => exact ⟨_, alternatives_cons_cons position test next tests⟩
  obtain ⟨t, ht⟩ := hfront
  rw [ht, Template.textFrom_append]
  simp only [ValueTest.template, Template.textFrom, String.toList_append, List.append_assoc]
  exact starts_identifier (isIdentifier_rowAlias position) _

/-- Alternatives, and the parenthesis that closes them. What is read in front of an alternative is
the alternatives before it, so the induction is over any such. -/
theorem read?_alternatives (levels : List (Opening × Before)) (outer : Before)
    (before : Option Formula) (position : Nat) (test : ValueTest) (tests : List ValueTest)
    (d : Dialect) (taken : Nat) (rest : List Char) (more : List Arg) :
    Assembling.read? ⟨(.group, outer) :: levels, .operand ⟨before, none⟩⟩
        ((Template.textFrom d taken (alternatives position (test :: tests))).toList ++
          (")".toList ++ rest))
        (Template.args (alternatives position (test :: tests)) ++ more) =
      Assembling.read? ⟨levels, .connective outer (.group
        (alternativesFormula position (joinTo before .or (test.formula position)) tests))⟩
        rest more := by
  induction tests generalizing test before taken with
  | nil =>
    have hends : Ends (")".toList ++ rest) := ends_close rest
    have hargs : Template.args (test.template position) ++ more =
        .text test.operand :: more := rfl
    rw [alternatives, hargs, read?_value _ _ _ _ _ _ hends, read?_closing]
    rfl
  | cons next tests ih =>
    have hargs : (alternatives position (test :: next :: tests)).args ++ more =
        .text test.operand :: ((alternatives position (next :: tests)).args ++ more) := by
      rw [alternatives_cons_cons, Template.args_append]
      rfl
    have hor : ∀ cs, " OR ".toList ++ cs =
        " ".toList ++ (Connector.or.keyword.toList ++ (" ".toList ++ cs)) := fun _ => rfl
    have hends : ∀ cs, Ends (" OR ".toList ++ cs) := fun _ => ends_blank _
    rw [hargs, alternatives_cons_cons, Template.textFrom_append]
    simp only [Template.textFrom, String.toList_append, List.append_assoc]
    rw [read?_value _ _ _ _ _ _ (hends _), hor,
      read?_connector _ _ _ _ (starts_alternatives position next tests d _ _)]
    -- The alternative that was read and the connective are now in front of the others.
    exact ih _ next _

def KeyFilter.testsTemplate (filter : KeyFilter) : Template :=
  let tests := alternatives filter.position filter.tests
  if 1 < filter.tests.length then .text "(" :: tests ++ [.text ")"] else tests

theorem KeyFilter.template_eq (filter : KeyFilter) :
    filter.template = .text (rowAlias filter.position ++ ".name = ") :: .hole (.text filter.key) ::
      .text " AND " :: filter.testsTemplate := rfl

theorem starts_testsTemplate (filter : KeyFilter) (hne : filter.tests ≠ []) (d : Dialect)
    (taken : Nat) (rest : List Char) :
    Starts ((Template.textFrom d taken filter.testsTemplate).toList ++ rest) := by
  obtain ⟨first, others, htests⟩ := List.exists_cons_of_ne_nil hne
  rw [KeyFilter.testsTemplate, htests]
  split
  · exact starts_append (c := '(') (by simp [Template.textFrom]) (by decide) rest
  · exact starts_alternatives filter.position first others d taken rest

/-- The tests of a filter are an operand. -/
theorem read?_tests (levels : List (Opening × Before)) (outer : Before) (filter : KeyFilter)
    {first : ValueTest} {others : List ValueTest} (htests : filter.tests = first :: others)
    (d : Dialect) (taken : Nat) {rest : List Char} (hrest : Ends rest) (more : List Arg) :
    Assembling.read? ⟨levels, .operand outer⟩
        ((Template.textFrom d taken filter.testsTemplate).toList ++ rest)
        (Template.args filter.testsTemplate ++ more) =
      Assembling.read? ⟨levels, .connective outer (testsFormula filter.position first others)⟩
        rest more := by
  cases others with
  | nil =>
    have hsingle : filter.testsTemplate = first.template filter.position := by
      rw [KeyFilter.testsTemplate, htests]
      rfl
    have hargs : Template.args (first.template filter.position) ++ more =
        .text first.operand :: more := rfl
    rw [hsingle, hargs, read?_value _ _ _ _ _ _ hrest]
    rfl
  | cons next others =>
    have hmany : filter.testsTemplate =
        .text "(" :: (alternatives filter.position (first :: next :: others) ++ [.text ")"]) := by
      rw [KeyFilter.testsTemplate, htests]
      exact if_pos (by simp)
    have hargs : Template.args filter.testsTemplate ++ more =
        (alternatives filter.position (first :: next :: others)).args ++ more := by
      rw [hmany, Template.args, Template.args_append]
      simp only [Template.args, List.append_nil]
    rw [hargs, hmany]
    simp only [Template.textFrom, Template.textFrom_append, String.toList_append, List.append_assoc,
      String.append_empty]
    rw [read?_opening]
    exact read?_alternatives levels outer none filter.position first (next :: others) d _ rest more

theorem starts_filter (filter : KeyFilter) (d : Dialect) (taken : Nat) (rest : List Char) :
    Starts ((Template.textFrom d taken filter.template).toList ++ rest) := by
  rw [KeyFilter.template_eq]
  simp only [Template.textFrom, String.toList_append, List.append_assoc]
  exact starts_identifier (isIdentifier_rowAlias filter.position) _

/-- A filter and the parenthesis that closes it, joined to what is in front of it. -/
theorem read?_filter (levels : List (Opening × Before)) (what : Opening) (outer : Before)
    (lead : Option Formula) (filter : KeyFilter) (hne : filter.tests ≠ []) (d : Dialect)
    (taken : Nat) (rest : List Char) (more : List Arg) :
    Assembling.read? ⟨(what, outer) :: levels, .operand ⟨none, lead⟩⟩
        ((Template.textFrom d taken filter.template).toList ++ (")".toList ++ rest))
        (Template.args filter.template ++ more) =
      Assembling.read? ⟨levels, .connective outer (what.close (filter.formula lead))⟩ rest more := by
  obtain ⟨first, others, htests⟩ := List.exists_cons_of_ne_nil hne
  have hand : ∀ cs, " AND ".toList ++ cs =
      " ".toList ++ (Connector.and.keyword.toList ++ (" ".toList ++ cs)) := fun _ => rfl
  have hends : ∀ cs, Ends (" AND ".toList ++ cs) := fun _ => ends_blank _
  have hclose : Ends (")".toList ++ rest) := ends_close rest
  have hformula : filter.formula lead = .join (joinTo lead .and filter.nameFormula) .and
      (testsFormula filter.position first others) := by
    rw [KeyFilter.formula, htests]
  rw [KeyFilter.template_eq]
  simp only [Template.textFrom, Template.args, String.toList_append, List.append_assoc,
    List.cons_append]
  rw [read?_name _ _ _ _ _ (hends _), hand,
    read?_connector _ _ _ _ (starts_testsTemplate filter hne d _ _),
    read?_tests _ _ filter htests _ _ hclose, read?_closing, hformula]
  rfl

/-- Whether a node can be the root of a plan: the starting row has place 0, and no filter is without
tests. -/
def Node.IsPlanned : Node → Prop
  | .base filter => filter.position = 0 ∧ filter.tests ≠ []
  | .related filter => filter.tests ≠ []
  | .combine left _ right => left.IsPlanned ∧ right.IsPlanned

theorem starts_node (relation : String) (node : Node) (d : Dialect) (taken : Nat)
    (rest : List Char) :
    Starts ((Template.textFrom d taken (node.template relation)).toList ++ rest) := by
  cases node with
  | base filter =>
    exact starts_append (c := '(') (by simp [Node.template, Template.textFrom]) (by decide) rest
  | related filter =>
    exact starts_append (c := 'E') (by simp [Node.template, Template.textFrom]) (by decide) rest
  | combine left connector right =>
    exact starts_append (c := '(') (by simp [Node.template, Template.textFrom]) (by decide) rest

/-- A node is an operand, wherever it stands. -/
theorem read?_node {relation : String} (hrelation : isIdentifier relation = true) {node : Node}
    (hnode : node.IsPlanned) (d : Dialect) (taken : Nat) (levels : List (Opening × Before))
    (before : Before) {rest : List Char} (hrest : Ends rest) (more : List Arg) :
    Assembling.read? ⟨levels, .operand before⟩
        ((Template.textFrom d taken (node.template relation)).toList ++ rest)
        (Template.args (node.template relation) ++ more) =
      Assembling.read? ⟨levels, .connective before (node.formula relation)⟩ rest more := by
  -- The left node of a combination is followed by a connective and the right one by a parenthesis,
  -- and both stand one level deeper, so the induction is over all that surrounds a node.
  induction node generalizing taken levels before rest more with
  | base filter =>
    simp only [Node.template, Template.textFrom, Template.textFrom_append, Template.args,
      Template.args_append, String.toList_append, List.append_assoc, List.cons_append,
      List.nil_append, String.append_empty]
    rw [read?_opening]
    exact read?_filter levels .group before none filter hnode.2 d taken rest more
  | related filter =>
    have hand : ∀ cs, ".object AND ".toList ++ cs =
        ".object".toList ++ (" ".toList ++ (Connector.and.keyword.toList ++ (" ".toList ++ cs))) :=
      fun _ => rfl
    have hends : ∀ cs, Ends (" ".toList ++ cs) := fun _ => ends_blank _
    simp only [Node.template, Template.textFrom, Template.textFrom_append, Template.args,
      Template.args_append, String.toList_append, List.append_assoc, List.cons_append,
      List.nil_append, String.append_empty]
    rw [read?_related _ _ hrelation _ (starts_identifier (isIdentifier_rowAlias _) _), hand,
      read?_tie _ _ _ (hends _), read?_connector _ _ _ _ (starts_filter filter _ _ _)]
    exact read?_filter levels (.related relation (rowAlias filter.position)) before
      (some (tieFormula filter.position)) filter hnode d taken rest more
  | combine left connector right ihl ihr =>
    have hends : ∀ cs, Ends (" ".toList ++ cs) := fun _ => ends_blank _
    have hclose : Ends (")".toList ++ rest) := ends_close rest
    simp only [Node.template, Template.textFrom, Template.textFrom_append, Template.args,
      Template.args_append, String.toList_append, List.append_assoc, List.cons_append,
      List.nil_append, String.append_empty]
    -- A combination is written as it is read: parenthesis, left, connective, right, parenthesis.
    rw [read?_opening, ihl hnode.1 _ _ _ (hends _), read?_connector _ _ _ _ (starts_node _ _ _ _ _),
      ihr hnode.2 _ _ _ hclose, read?_closing]
    cases connector <;> rfl

/-! ## Recognising a node -/

theorem positionOf?_rowAlias (position : Nat) : positionOf? (rowAlias position) = some position := by
  rw [positionOf?, toList_rowAlias]
  simp only [Text.Numeral.read?_digits, if_true]

theorem ofFormula?_valueFormula (position : Nat) (test : ValueTest) :
    ValueTest.ofFormula? (rowAlias position) (test.formula position) = some test := by
  rw [ValueTest.formula, ValueTest.ofFormula?, if_pos rfl]

theorem alternativesOf?_formula (position : Nat) {before : Formula} {tests : List ValueTest}
    (hbefore : alternativesOf? (rowAlias position) before = some tests) (more : List ValueTest) :
    alternativesOf? (rowAlias position) (alternativesFormula position before more) =
      some (tests ++ more) := by
  induction more generalizing before tests with
  | nil => rw [alternativesFormula, List.foldl_nil, hbefore, List.append_nil]
  | cons test more ih =>
    have hstep : alternativesOf? (rowAlias position) (.join before .or (test.formula position)) =
        some (tests ++ [test]) := by
      rw [alternativesOf?, hbefore, ofFormula?_valueFormula]
    rw [alternativesFormula, List.foldl_cons, ← alternativesFormula, ih hstep, List.append_assoc]
    rfl

theorem testsOf?_formula (position : Nat) (first : ValueTest) (others : List ValueTest) :
    testsOf? (rowAlias position) (testsFormula position first others) = some (first :: others) := by
  cases others with
  | nil =>
    show (ValueTest.ofFormula? _ (first.formula position)).map ([·]) = _
    rw [ofFormula?_valueFormula, Option.map_some]
  | cons next others =>
    have hfirst : alternativesOf? (rowAlias position) (first.formula position) = some [first] := by
      show (ValueTest.ofFormula? _ (first.formula position)).map ([·]) = _
      rw [ofFormula?_valueFormula, Option.map_some]
    have hall := alternativesOf?_formula position hfirst (next :: others)
    show testsOf? (rowAlias position)
      (.group (alternativesFormula position (first.formula position) (next :: others))) = _
    rw [testsOf?, hall]
    exact if_pos (by simp)

theorem ofFormulas?_filter {filter : KeyFilter} {first : ValueTest} {others : List ValueTest}
    (htests : filter.tests = first :: others) :
    KeyFilter.ofFormulas? (rowAlias filter.position) filter.nameFormula
      (testsFormula filter.position first others) = some filter := by
  unfold KeyFilter.ofFormulas?
  rw [positionOf?_rowAlias, testsOf?_formula, KeyFilter.nameFormula]
  simp only [if_true]
  rw [← htests]

/-- The formula of a node is no test, so a combination is not mistaken for a filter. -/
theorem formula_ne_test (relation : String) (node : Node) (column : Column)
    (comparison : Comparison) (operand : Arg) :
    node.formula relation ≠ .test column comparison operand := by
  cases node <;> exact Formula.noConfusion

/-- The formula of a node that can be the root of a plan is recognised as the node. -/
theorem ofFormula?_formula (relation : String) {node : Node} (hnode : node.IsPlanned) :
    Node.ofFormula? relation (node.formula relation) = some node := by
  induction node with
  | base filter =>
    obtain ⟨first, others, htests⟩ := List.exists_cons_of_ne_nil hnode.2
    have hformula : filter.formula none = .join filter.nameFormula .and
        (testsFormula filter.position first others) := by
      rw [KeyFilter.formula, htests]
      rfl
    have hfilter := ofFormulas?_filter htests
    rw [KeyFilter.nameFormula] at hformula hfilter
    rw [Node.formula, hformula, Node.ofFormula?, ← hnode.1, hfilter]
  | related filter =>
    obtain ⟨first, others, htests⟩ := List.exists_cons_of_ne_nil hnode
    have hformula : filter.formula (some (tieFormula filter.position)) =
        .join (.join (tieFormula filter.position) .and filter.nameFormula) .and
          (testsFormula filter.position first others) := by
      rw [KeyFilter.formula, htests]
      rfl
    have htie : (decide (relation = relation) && decide (tieFormula filter.position =
        .same ⟨rowAlias filter.position, "object"⟩ ⟨rowAlias 0, "object"⟩)) = true := by
      rw [tieFormula, decide_eq_true rfl, decide_eq_true rfl, Bool.and_self]
    rw [Node.formula, hformula, Node.ofFormula?, if_pos htie, ofFormulas?_filter htests]
    rfl
  | combine left connector right ihl ihr =>
    -- A base filter is a group of a join as well, but one whose left side is a test.
    rw [Node.formula, Node.ofFormula?, ihl hnode.1, ihr hnode.2]
    intro column comparison operand heq
    exact absurd heq (formula_ne_test relation left column comparison operand)

/-! ## Plans -/

theorem Node.isPlanned_comb {before : Node} (hbefore : before.IsPlanned) (position : Nat)
    {clauses : List Clause} (hclauses : ∀ c ∈ clauses, c.value.values ≠ []) :
    (before.comb position clauses).IsPlanned := by
  induction clauses generalizing before position with
  | nil => exact hbefore
  | cons c rest ih =>
    have hc : (KeyFilter.forClause position c).tests ≠ [] := by
      rw [KeyFilter.forClause, ne_eq, List.map_eq_nil_iff]
      exact hclauses c List.mem_cons_self
    have hjoined : (Node.combine before c.connector
        (.related (.forClause position c))).IsPlanned := And.intro hbefore hc
    exact ih hjoined (position + 1) fun d hd => hclauses d (List.mem_cons_of_mem c hd)

/-- The root of every plan of a predicate can be read. -/
theorem isPlanned_of_ofPredicate {relation : String} {p : Predicate} {plan : Plan}
    (h : Plan.ofPredicate relation p = .ok plan) :
    plan.relation = relation ∧ plan.root.IsPlanned := by
  obtain ⟨first, rest, hp, hvalues, rfl⟩ := Plan.ofPredicate_eq_ok_iff.1 h
  rw [hp] at hvalues
  have hfirst : (KeyFilter.forClause 0 first).tests ≠ [] := by
    rw [KeyFilter.forClause, ne_eq, List.map_eq_nil_iff]
    exact hvalues first List.mem_cons_self
  have hbase : (Node.base (.forClause 0 first)).IsPlanned := And.intro rfl hfirst
  exact ⟨rfl, Node.isPlanned_comb hbase 1 fun c hc =>
    hvalues c (List.mem_cons_of_mem first hc)⟩

/-- The condition of a plan is read as the formula of its root. -/
theorem Formula.read?_condition {plan : Plan} (hrelation : isIdentifier plan.relation = true)
    (hroot : plan.root.IsPlanned) (d : Dialect) (taken : Nat) :
    Formula.read? (plan.condition d taken).text (plan.condition d taken).args =
      some (plan.root.formula plan.relation) := by
  have hread := read?_node hrelation hroot d taken [] .nothing ends_nil []
  rw [List.append_nil, List.append_nil] at hread
  exact hread

/-- The plan of a predicate is read from its condition. -/
theorem Plan.read?_condition {relation : String} (hrelation : isIdentifier relation = true)
    {p : Predicate} {plan : Plan} (hplan : Plan.ofPredicate relation p = .ok plan) (d : Dialect)
    (taken : Nat) :
    Plan.read? relation (plan.condition d taken).text (plan.condition d taken).args =
      some plan := by
  obtain ⟨rfl, hroot⟩ := isPlanned_of_ofPredicate hplan
  rw [Plan.read?, Formula.read?_condition hrelation hroot]
  simp only [ofFormula?_formula plan.relation hroot, Option.map_some]

/-- The condition of a plan, whatever the dialect and however many placeholders are taken, is read as
the formula that the left comb of the clauses is, and this as the plan. So no other plan over the
same table is written with the same text and the same arguments. -/
theorem Plan.condition_reads_back {relation : String} (hrelation : isIdentifier relation = true)
    {p : Predicate} {plan : Plan} (hplan : Plan.ofPredicate relation p = .ok plan) (d : Dialect)
    (taken : Nat) :
    (∃ first rest, p.clauses = first :: rest ∧ plan.root = Node.ofClauses first rest) ∧
    Formula.read? (plan.condition d taken).text (plan.condition d taken).args =
      some (plan.root.formula relation) ∧
    Plan.read? relation (plan.condition d taken).text (plan.condition d taken).args = some plan ∧
    ∀ q other d' taken', Plan.ofPredicate relation q = .ok other →
      (other.condition d' taken').text = (plan.condition d taken).text →
      (other.condition d' taken').args = (plan.condition d taken).args → other = plan := by
  obtain ⟨hplanRelation, hroot⟩ := isPlanned_of_ofPredicate hplan
  refine ⟨?_, ?_, Plan.read?_condition hrelation hplan d taken, ?_⟩
  · obtain ⟨first, rest, hp, -, rfl⟩ := Plan.ofPredicate_eq_ok_iff.1 hplan
    exact ⟨first, rest, hp, rfl⟩
  · subst hplanRelation
    exact Formula.read?_condition hrelation hroot d taken
  · intro q other d' taken' hother htext hargs
    have hread := Plan.read?_condition hrelation hother d' taken'
    rw [htext, hargs, Plan.read?_condition hrelation hplan d taken] at hread
    exact (Option.some.inj hread).symm

/-- A pattern or a text for one key, and one text for another, without numbers at the placeholders
and after two that are taken. -/
theorem Plan.condition_reads_back_two_clauses :
    isIdentifier "lamp_meta" = true ∧
    Plan.ofPredicate "lamp_meta"
        ((Predicate.matching "color" (.anyOf ["*red", "blue"])).join .and "size" (.one "3")) =
      .ok ⟨"lamp_meta", .ofClauses ⟨.or, "color", .anyOf ["*red", "blue"]⟩
        [⟨.and, "size", .one "3"⟩]⟩ ∧
    Plan.read? "lamp_meta"
        ((Plan.mk "lamp_meta" (.ofClauses ⟨.or, "color", .anyOf ["*red", "blue"]⟩
          [⟨.and, "size", .one "3"⟩])).condition .mySql 2).text
        ((Plan.mk "lamp_meta" (.ofClauses ⟨.or, "color", .anyOf ["*red", "blue"]⟩
          [⟨.and, "size", .one "3"⟩])).condition .mySql 2).args =
      some ⟨"lamp_meta", .ofClauses ⟨.or, "color", .anyOf ["*red", "blue"]⟩
        [⟨.and, "size", .one "3"⟩]⟩ := by
  have hrelation : isIdentifier "lamp_meta" = true := by decide +kernel
  have hplan : Plan.ofPredicate "lamp_meta"
        ((Predicate.matching "color" (.anyOf ["*red", "blue"])).join .and "size" (.one "3")) =
      .ok ⟨"lamp_meta", .ofClauses ⟨.or, "color", .anyOf ["*red", "blue"]⟩
        [⟨.and, "size", .one "3"⟩]⟩ := rfl
  exact ⟨hrelation, hplan, (Plan.condition_reads_back hrelation hplan .mySql 2).2.2.1⟩

end ObjectCatalog
