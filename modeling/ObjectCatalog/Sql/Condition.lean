import ObjectCatalog.Predicate.Plan
import ObjectCatalog.Sql.Template

/-!
# Conditions

A plan as a condition of a statement. The starting row has the alias `m0`; the clause in place `i`
speaks of the alias `mi`, tied to the starting row by its object. The metadata of an object is any
number of rows, so a later clause is an `EXISTS` over its own alias and the number of clauses is
not limited by a number of joins.

Several tests for one key are alternatives, and the key binds tighter than they do, so they stand
in parentheses; a single test does not need them. Every combination stands in parentheses of its
own, which is what makes the connectors group from the left.
-/

namespace ObjectCatalog

def rowAlias (position : Nat) : String :=
  "m" ++ Text.Numeral.ofNat position

def Comparison.operator : Comparison → String
  | .exact => "="
  | .like => "LIKE"

def ValueTest.template (position : Nat) (test : ValueTest) : Template :=
  [.text (rowAlias position ++ ".value " ++ test.comparison.operator ++ " "),
    .hole (.text test.operand)]

def alternatives (position : Nat) : List ValueTest → Template
  | [] => []
  | [test] => test.template position
  | test :: rest => test.template position ++ .text " OR " :: alternatives position rest

/-- A filter on a row: its key, and one of the tests of its value. -/
def KeyFilter.template (filter : KeyFilter) : Template :=
  let tests := alternatives filter.position filter.tests
  .text (rowAlias filter.position ++ ".name = ") :: .hole (.text filter.key) :: .text " AND " ::
    if 1 < filter.tests.length then .text "(" :: tests ++ [.text ")"] else tests

def Node.template (relation : String) : Node → Template
  | .base filter => .text "(" :: filter.template ++ [.text ")"]
  | .related filter =>
    let row := rowAlias filter.position
    .text "EXISTS (SELECT 1 FROM " :: .table .named relation ::
      .text (" " ++ row ++ " WHERE " ++ row ++ ".object = " ++ rowAlias 0 ++ ".object AND ") ::
      filter.template ++ [.text ")"]
  | .combine left connector right =>
    .text "(" :: left.template relation ++ .text (" " ++ connector.keyword ++ " ") ::
      right.template relation ++ [.text ")"]

def Plan.template (plan : Plan) : Template :=
  plan.root.template plan.relation

/-- A condition as it stands in a statement, with its arguments and the number of placeholders
that are taken after it. -/
structure Condition where
  text : String
  args : List Arg
  taken : Nat
  deriving DecidableEq

/-- Writes a plan after `taken` placeholders. -/
def Plan.condition (plan : Plan) (d : Dialect) (taken : Nat) : Condition :=
  let template := plan.template
  ⟨template.textFrom d taken, template.args, taken + template.args.length⟩

end ObjectCatalog
