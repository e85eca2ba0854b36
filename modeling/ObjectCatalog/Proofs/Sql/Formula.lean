import ObjectCatalog.Predicate.Plan
import ObjectCatalog.Sql.Lexeme
import ObjectCatalog.Sql.Condition

/-!
# Reading a condition

The grammar of the conditions that are put in front of the database, as a reader of texts. It knows
nothing of plans and of how they are written. A condition is built from comparisons of a column with
an argument or with another column; from parentheses; from `EXISTS (SELECT 1 FROM t r WHERE ..)`;
and from AND and OR, of which AND binds tighter and both group from the left.

The reader goes in three steps. The lexemes of the text become symbols, and each place of an
argument takes the next argument of the list (`symbols?`). Symbols that belong together become one
item (`items?`). The items are assembled by a stack machine (`Assembling`), so the whole reader is
a recursion over its input. The formula keeps the parentheses of the text, so it tells where they
were written and not only what they mean.
-/

namespace ObjectCatalog

inductive Keyword where
  | and
  | or
  | like
  | exists
  | select
  | from
  | where
  deriving DecidableEq, Repr

/-- The word a text is, whatever its case. -/
def Keyword.ofText? (text : String) : Option Keyword :=
  [("and", and), ("or", or), ("like", like), ("exists", .exists), ("select", select),
    ("from", .from), ("where", .where)].lookup (Text.foldCase text)

/-- A symbol of a condition whose arguments are filled in. A word that is a keyword may still be a
name, where only a name can stand. -/
inductive Symbol where
  | word (keyword : Option Keyword) (text : String)
  | opening
  | closing
  | dot
  | equals
  | one
  | argument (arg : Arg)
  deriving DecidableEq

structure Column where
  row : String
  name : String
  deriving DecidableEq, Repr

inductive Formula where
  | test (column : Column) (comparison : Comparison) (operand : Arg)
  | same (left right : Column)
  | group (body : Formula)
  /-- Some row of a table passes the body. -/
  | related (relation row : String) (body : Formula)
  | join (left : Formula) (connector : Connector) (right : Formula)
  deriving DecidableEq

/-! ## Symbols -/

def Lexeme.isPlace (lexeme : Lexeme) : Bool :=
  let first := lexeme.text.toList.head?
  lexeme.kind == .value && (first == some '?' || first == some '$')

/-- The symbol that a lexeme is, if it is no place of an argument. -/
def Symbol.ofLexeme? (lexeme : Lexeme) : Option Symbol :=
  match lexeme.kind with
  | .word => some (.word (Keyword.ofText? lexeme.text) lexeme.text)
  | .mark =>
    [("(", opening), (")", closing), (".", dot), ("=", equals)].lookup lexeme.text
  | .value => if lexeme.text == "1" then some .one else none
  | .quotation | .illegal => none

/-- The symbols of lexemes, with each place filled by the next argument. There have to be as many
arguments as places. -/
def symbols? : List Lexeme → List Arg → Option (List Symbol)
  | [], [] => some []
  | [], _ :: _ => none
  | lexeme :: rest, args =>
    if lexeme.isPlace then
      match args with
      | [] => none
      | arg :: args => (symbols? rest args).map (.argument arg :: ·)
    else
      match Symbol.ofLexeme? lexeme with
      | none => none
      | some symbol => (symbols? rest args).map (symbol :: ·)

/-! ## Items -/

/-- What a closing parenthesis closes. -/
inductive Opening where
  | group
  | related (relation row : String)
  deriving DecidableEq, Repr

inductive Item where
  | comparison (formula : Formula)
  | opening (what : Opening)
  | closing
  | connective (connector : Connector)
  deriving DecidableEq

def items? : List Symbol → Option (List Item)
  | [] => some []
  | .opening :: rest => (items? rest).map (.opening .group :: ·)
  | .closing :: rest => (items? rest).map (.closing :: ·)
  | .word (some .and) _ :: rest => (items? rest).map (.connective .and :: ·)
  | .word (some .or) _ :: rest => (items? rest).map (.connective .or :: ·)
  | .word (some .exists) _ :: .opening :: .word (some .select) _ :: .one :: .word (some .from) _ ::
      .word _ relation :: .word none row :: .word (some .where) _ :: rest =>
    (items? rest).map (.opening (.related relation row) :: ·)
  | .word none row :: .dot :: .word none name :: .equals :: .argument arg :: rest =>
    (items? rest).map (.comparison (.test ⟨row, name⟩ .exact arg) :: ·)
  | .word none row :: .dot :: .word none name :: .word (some .like) _ :: .argument arg :: rest =>
    (items? rest).map (.comparison (.test ⟨row, name⟩ .like arg) :: ·)
  | .word none row :: .dot :: .word none name :: .equals :: .word none row' :: .dot ::
      .word none name' :: rest =>
    (items? rest).map (.comparison (.same ⟨row, name⟩ ⟨row', name'⟩) :: ·)
  | _ => none

/-! ## Assembly -/

/-- What the next operand is joined to: the operands of AND before it, and in front of those the
alternatives before them. -/
structure Before where
  alternatives : Option Formula
  factors : Option Formula

def Before.nothing : Before := ⟨none, none⟩

/-- A formula joined to what is before it, if there is something. -/
def joinTo (before : Option Formula) (connector : Connector) (formula : Formula) : Formula :=
  match before with
  | none => formula
  | some left => .join left connector formula

/-- An operand with the operands of AND before it. -/
def Before.factor (before : Before) (operand : Formula) : Formula :=
  joinTo before.factors .and operand

/-- All that was read in one pair of parentheses, when the operand is its last. -/
def Before.whole (before : Before) (operand : Formula) : Formula :=
  joinTo before.alternatives .or (before.factor operand)

/-- What the next operand is joined to when a connector follows an operand. -/
def Before.connect (before : Before) (operand : Formula) : Connector → Before
  | .and => ⟨before.alternatives, some (before.factor operand)⟩
  | .or => ⟨some (before.whole operand), none⟩

/-- What a pair of parentheses is with its body. -/
def Opening.close : Opening → Formula → Formula
  | .group, body => .group body
  | .related relation row, body => .related relation row body

inductive Awaited where
  | operand (before : Before)
  /-- An operand is complete: a connector may follow, or the end of what is open. -/
  | connective (before : Before) (operand : Formula)

/-- The machine between two items, with the parentheses that are open, innermost first. -/
structure Assembling where
  levels : List (Opening × Before)
  awaited : Awaited

def Assembling.step? : Assembling → Item → Option Assembling
  | ⟨levels, .operand before⟩, .comparison formula => some ⟨levels, .connective before formula⟩
  | ⟨levels, .operand before⟩, .opening what =>
    some ⟨(what, before) :: levels, .operand .nothing⟩
  | ⟨levels, .connective before operand⟩, .connective c =>
    some ⟨levels, .operand (before.connect operand c)⟩
  | ⟨(what, outer) :: levels, .connective before operand⟩, .closing =>
    some ⟨levels, .connective outer (what.close (before.whole operand))⟩
  | _, _ => none

/-- The formula that is complete when the items end here. -/
def Assembling.finish? : Assembling → Option Formula
  | ⟨[], .connective before operand⟩ => some (before.whole operand)
  | _ => none

def Assembling.run (m : Assembling) : List Item → Option Formula
  | [] => m.finish?
  | item :: rest =>
    match m.step? item with
    | none => none
    | some next => next.run rest

def Assembling.start : Assembling := ⟨[], .operand .nothing⟩

/-- Reads the rest of a text with the rest of the arguments. -/
def Assembling.read? (m : Assembling) (cs : List Char) (args : List Arg) : Option Formula :=
  ((symbols? (Lexeme.lexFrom 0 cs) args).bind items?).bind m.run

/-- The condition that a text is with the given arguments. The whole text and all of the arguments
are used up. -/
def Formula.read? (text : String) (args : List Arg) : Option Formula :=
  Assembling.start.read? text.toList args

example : Formula.read? "a.x = ?1 OR (b.y LIKE ?2) AND a.x = b.y" [.int 1, .text "t"] =
    some (.join (.test ⟨"a", "x"⟩ .exact (.int 1)) .or
      (.join (.group (.test ⟨"b", "y"⟩ .like (.text "t"))) .and (.same ⟨"a", "x"⟩ ⟨"b", "y"⟩))) := by
  decide +kernel

/-! ## The plan of a condition -/

/-- The place in a plan whose row variable has the given name. -/
def positionOf? (row : String) : Option Nat :=
  match row.toList with
  | 'm' :: digits =>
    match Text.Numeral.read? digits with
    | some position => if row = rowAlias position then some position else none
    | none => none
  | _ => none

/-- The test of a row's value that a formula is. -/
def ValueTest.ofFormula? (row : String) : Formula → Option ValueTest
  | .test column comparison (.text operand) =>
    if column = ⟨row, "value"⟩ then some ⟨comparison, operand⟩ else none
  | _ => none

/-- The tests of which a formula is the alternative. -/
def alternativesOf? (row : String) : Formula → Option (List ValueTest)
  | .join left .or right =>
    match alternativesOf? row left, ValueTest.ofFormula? row right with
    | some tests, some test => some (tests ++ [test])
    | _, _ => none
  | formula => (ValueTest.ofFormula? row formula).map ([·])

/-- The tests of a filter: one without parentheses, or several in one pair of them. -/
def testsOf? (row : String) : Formula → Option (List ValueTest)
  | .group body =>
    match alternativesOf? row body with
    | some tests => if 1 < tests.length then some tests else none
    | none => none
  | formula => (ValueTest.ofFormula? row formula).map ([·])

/-- The filter of a row: the test of its name, then those of its value. -/
def KeyFilter.ofFormulas? (row : String) (name tests : Formula) : Option KeyFilter :=
  match positionOf? row, name, testsOf? row tests with
  | some position, .test column .exact (.text key), some tests =>
    if column = ⟨row, "name"⟩ then some ⟨position, key, tests⟩ else none
  | _, _, _ => none

/-- The node over a metadata table that a formula is. A filter of the starting row and a combination
stand in parentheses; the alias of the starting row is that of place 0, and a related row is tied to
it by its object. -/
def Node.ofFormula? (relation : String) : Formula → Option Node
  | .group (.join (.test column comparison operand) .and tests) =>
    match KeyFilter.ofFormulas? (rowAlias 0) (.test column comparison operand) tests with
    | some filter => some (.base filter)
    | none => none
  | .group (.join left connector right) =>
    match ofFormula? relation left, ofFormula? relation right with
    | some left, some right => some (.combine left connector right)
    | _, _ => none
  | .related table row (.join (.join tie .and name) .and tests) =>
    if table = relation && tie = .same ⟨row, "object"⟩ ⟨rowAlias 0, "object"⟩ then
      (KeyFilter.ofFormulas? row name tests).map .related
    else none
  | _ => none

/-- The plan over a metadata table that a text is with the given arguments. -/
def Plan.read? (relation : String) (text : String) (args : List Arg) : Option Plan :=
  match Formula.read? text args with
  | none => none
  | some formula => (Node.ofFormula? relation formula).map (Plan.mk relation)

end ObjectCatalog
