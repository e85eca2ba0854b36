import ObjectCatalog.Text.Ascii
import ObjectCatalog.Text.Blank

/-!
# Metadata predicates

A predicate selects objects by their metadata. It is a list of clauses, each of which asks for a
key with one of some values, and the clauses are combined from the left: every clause after the
first is joined to the whole before it, narrowing it with AND or widening it with OR. There is no
precedence among connectors, and the connector of the first clause has nothing to join.
-/

namespace ObjectCatalog

/-- How a clause is joined to the clauses before it. -/
inductive Connector where
  | and
  | or
  deriving DecidableEq, Repr

/-- What a clause asks of a value: to match one text, or any of several. -/
inductive ValueMatch where
  | one (value : String)
  | anyOf (values : List String)
  deriving DecidableEq, Repr

structure Clause where
  connector : Connector
  key : String
  value : ValueMatch
  deriving DecidableEq, Repr

/-- A condition on the metadata of an object. -/
structure Predicate where
  clauses : List Clause
  deriving DecidableEq, Repr

/-- The connector a word names: `and` in any case and with any blanks around it, and OR for
everything else. -/
def Connector.ofWord (word : String) : Connector :=
  if Text.sameFolded (Text.trim word) "and" then .and else .or

/-- The connector as it stands in a statement. -/
def Connector.keyword : Connector → String
  | .and => "AND"
  | .or => "OR"

/-- The texts of which one has to match. -/
def ValueMatch.values : ValueMatch → List String
  | .one value => [value]
  | .anyOf values => values

namespace Predicate

def empty : Predicate := ⟨[]⟩

def join (p : Predicate) (connector : Connector) (key : String) (value : ValueMatch) : Predicate :=
  ⟨p.clauses ++ [⟨connector, key, value⟩]⟩

def matching (key : String) (value : ValueMatch) : Predicate :=
  empty.join .or key value

def isEmpty (p : Predicate) : Bool :=
  p.clauses.isEmpty

end Predicate

end ObjectCatalog
