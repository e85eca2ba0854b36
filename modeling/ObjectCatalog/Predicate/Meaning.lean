import ObjectCatalog.Predicate.Plan
import ObjectCatalog.Sql.Like

/-!
# What a predicate means

A predicate speaks of the metadata entries of one object. A clause holds if some entry has its key
and a value that one of its values matches; the clauses are folded from the left, each with its own
connector. This is the meaning a search has to have, whatever statement it sends: it looks at one
object at a time and at all of its entries at once.
-/

namespace ObjectCatalog

def Connector.holds : Connector → Bool → Bool → Bool
  | .and, a, b => a && b
  | .or, a, b => a || b

def ValueTest.accepts (test : ValueTest) (value : String) : Bool :=
  match test.comparison with
  | .exact => value == test.operand
  | .like => Like.matchesText none test.operand value

/-- Whether a clause holds of an object with the given entries. -/
def Clause.holdsOf (entries : List (String × String)) (clause : Clause) : Bool :=
  entries.any fun (key, value) =>
    key == clause.key &&
      clause.value.values.any fun raw => (ValueTest.ofRaw raw).accepts value

/-- Whether a predicate holds of an object with the given entries. The empty predicate asks for
nothing that an object could have, so it holds of none. -/
def Predicate.holdsOf (entries : List (String × String)) (p : Predicate) : Bool :=
  match p.clauses with
  | [] => false
  | first :: rest =>
    rest.foldl (fun before clause => clause.connector.holds before (clause.holdsOf entries))
      (first.holdsOf entries)

end ObjectCatalog
