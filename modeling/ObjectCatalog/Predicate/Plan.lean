import ObjectCatalog.Error
import ObjectCatalog.Predicate.Basic

/-!
# Plans

Before a predicate becomes a condition in a statement it becomes a plan: a tree over one metadata
table in which every clause has its place. The first clause is a filter on the row the search
starts from; every later clause asks whether a related row exists, one of the same object. Clause
number `i` speaks of its own row variable `i`, so no two clauses share one.

Values are turned into tests here. A value that begins with `*` is a pattern in which every `*`
stands for any run of characters; all other values are compared as they are.
-/

namespace ObjectCatalog

inductive Comparison where
  | exact
  | like
  deriving DecidableEq, Repr

structure ValueTest where
  comparison : Comparison
  operand : String
  deriving DecidableEq, Repr

/-- A key together with the tests of which one has to pass, on row variable `position`. -/
structure KeyFilter where
  position : Nat
  key : String
  tests : List ValueTest
  deriving DecidableEq, Repr

/-- A condition on the row the search starts from. -/
inductive Node where
  /-- The starting row passes the filter. -/
  | base (filter : KeyFilter)
  /-- Some row of the same object passes the filter. -/
  | related (filter : KeyFilter)
  | combine (left : Node) (connector : Connector) (right : Node)
  deriving DecidableEq, Repr

structure Plan where
  relation : String
  root : Node
  deriving DecidableEq, Repr

/-- The mark of a pattern, and of any run of characters in it. -/
def wildcard : Char := '*'

/-- A pattern in the notation of statements. -/
def ValueTest.patternChar (c : Char) : Char :=
  if c == wildcard then '%' else c

/-- The test a value asks for. -/
def ValueTest.ofRaw (raw : String) : ValueTest :=
  if raw.toList.head? == some wildcard then ⟨.like, raw.map patternChar⟩ else ⟨.exact, raw⟩

/-- The filter of the clause in the given place; a clause without values has none. -/
def KeyFilter.ofClause (position : Nat) (clause : Clause) : Except ArgumentFault KeyFilter :=
  match clause.value.values with
  | [] => .error (.emptyValueSet clause.key)
  | values => .ok ⟨position, clause.key, values.map ValueTest.ofRaw⟩

/-- Joins the remaining clauses, of which the first has the given place, to what is before them. -/
def Node.joinClauses (before : Node) (position : Nat) : List Clause → Except ArgumentFault Node
  | [] => .ok before
  | clause :: rest =>
    match KeyFilter.ofClause position clause with
    | .error fault => .error fault
    | .ok filter =>
      joinClauses (.combine before clause.connector (.related filter)) (position + 1) rest

/-- The plan of a predicate over a metadata table. -/
def Plan.ofPredicate (relation : String) (p : Predicate) : Except ArgumentFault Plan :=
  match p.clauses with
  | [] => .error .emptyPredicate
  | first :: rest =>
    match KeyFilter.ofClause 0 first with
    | .error fault => .error fault
    | .ok filter => (Node.joinClauses (.base filter) 1 rest).map (Plan.mk relation)

end ObjectCatalog
