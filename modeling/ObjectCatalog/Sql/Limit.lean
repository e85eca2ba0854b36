import ObjectCatalog.Sql.Statement

/-!
# Limits of statements

A database reads statements up to a certain size. Most statements are nowhere near it, but a
metadata search grows with its predicate in three ways: every clause opens one more parenthesis in
front, every value of a clause is one more alternative, and every key and value is an argument.

The reader of the database keeps what it cannot finish yet on a stack, and the deepest point is
either inside the first clause, behind all the parentheses, or inside the query of a later one. The
height of a condition is counted as that of its tree, and to it adds the height of the query that
is highest, because a query is read within the condition around it.
-/

namespace ObjectCatalog

inductive Limit where
  | nesting
  | height
  | arguments
  deriving DecidableEq, Repr

namespace Limit

def bound : Limit → Nat
  | .nesting => 99
  | .height => 1000
  | .arguments => 32766

/-- What the database says of a statement beyond the limit. -/
def message : Limit → String
  | .nesting => "parser stack overflow"
  | .height => "Expression tree is too large (maximum depth 1000)"
  | .arguments => "too many SQL variables"

end Limit

/-! ## Nesting -/

/-- The most symbols that are open within a filter. Alternatives stand in parentheses. -/
def KeyFilter.openSymbols (filter : KeyFilter) : Nat :=
  if 1 < filter.tests.length then 8 else 5

/-- The most symbols that are open within a node: what is before the part that is read counts. -/
def Node.openSymbols : Node → Nat
  | .base filter => 1 + filter.openSymbols
  -- A query is open from its `EXISTS` to its condition.
  | .related filter => 7 + filter.openSymbols
  | .combine left _ right => 1 + max left.openSymbols (2 + right.openSymbols)

/-- The most symbols that are open within a metadata search. -/
def Plan.openSymbols (plan : Plan) : Nat :=
  5 + plan.root.openSymbols

/-! ## Height -/

/-- The height of the tests of a filter: a comparison of a column has three levels, and each
further alternative puts one above. -/
def KeyFilter.testsHeight (filter : KeyFilter) : Nat :=
  max 3 (filter.tests.length + 2)

/-- The height of the condition in the query of a related row: the object, the key, the tests. -/
def KeyFilter.queryHeight (filter : KeyFilter) : Nat :=
  max 4 filter.testsHeight + 1

def Node.height : Node → Nat
  | .base filter => filter.testsHeight + 1
  | .related filter => filter.queryHeight + 1
  | .combine left _ right => max left.height right.height + 1

def Node.queryHeight : Node → Nat
  | .base _ => 0
  | .related filter => filter.queryHeight
  | .combine left _ right => max left.queryHeight right.queryHeight

/-- The height of a metadata search. The condition is joined to that of the join. -/
def Plan.height (plan : Plan) : Nat :=
  plan.root.height + 1 + plan.root.queryHeight

/-! ## Statements -/

namespace Statement

def plan? : Statement → Option Plan
  | .countMatches _ plan | .listMatches _ plan _ _ _ => some plan
  | _ => none

/-- How much of something a statement has, where it could be too much. -/
def amount (s : Statement) (limit : Limit) : Nat :=
  match s.plan? with
  | none => 0
  | some plan =>
    match limit with
    | .nesting => plan.openSymbols
    | .height => plan.height
    | .arguments => (s.args .sqlite).length

def exceeded? (s : Statement) : Option Limit :=
  [Limit.nesting, .height, .arguments].find? fun limit => limit.bound < s.amount limit

end Statement

end ObjectCatalog
