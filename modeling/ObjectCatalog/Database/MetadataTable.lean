import ObjectCatalog.Predicate.Meaning
import Std.Data.ExtTreeSet

/-!
# Metadata tables

A metadata table is a list of rows without a key of its own: rows may repeat, and a row may belong
to an object that is not there. A plan is evaluated here row by row, as a statement does it: the
base filter looks at the starting row alone, a related filter at all rows of the same object, and
the objects found are those of the starting rows that pass.

A condition is evaluated from left to right and no further than it takes to know its truth: a
connective whose first half decides leaves out the second, the alternatives of a filter are tried up
to the first that passes, and so are the rows of an object. How far an evaluation goes does not show
in what is found, but a value that is held against a pattern that is too long ends the statement.
-/

namespace ObjectCatalog

structure MetadataRow where
  object : Int64
  key : String
  value : String
  deriving DecidableEq

def KeyFilter.accepts (filter : KeyFilter) (row : MetadataRow) : Bool :=
  row.key == filter.key && filter.tests.any fun test => test.accepts row.value

/-- Whether a starting row satisfies a node. -/
def Node.accepts (rows : List MetadataRow) (start : MetadataRow) : Node → Bool
  | .base filter => filter.accepts start
  | .related filter => rows.any fun row => row.object == start.object && filter.accepts row
  | .combine left connector right =>
    connector.holds (left.accepts rows start) (right.accepts rows start)

/-! ## Patterns that are too long -/

/-- Whether no value can be held against a test. -/
def ValueTest.isTooLong (test : ValueTest) : Bool :=
  test.comparison == .like && Like.longestPattern < test.operand.utf8ByteSize

/-- Whether a row is held against a test of the filter that is too long: the tests are tried in turn
up to the first that passes. -/
def KeyFilter.reachesLong (filter : KeyFilter) (row : MetadataRow) : Bool :=
  row.key == filter.key &&
    (filter.tests.find? fun test => test.isTooLong || test.accepts row.value).any (·.isTooLong)

/-- Whether the truth of the first half of a connective decides. -/
def Connector.isDecided : Connector → Bool → Bool
  | .and, before => !before
  | .or, before => before

/-- Whether evaluating a node for a starting row comes to a test that is too long. -/
def Node.reachesLong (rows : List MetadataRow) (start : MetadataRow) : Node → Bool
  | .base filter => filter.reachesLong start
  | .related filter =>
    -- The rows of the object are tried in turn up to the first that passes.
    ((rows.filter (·.object == start.object)).find? fun row =>
      filter.reachesLong row || filter.accepts row).any filter.reachesLong
  | .combine left connector right =>
    left.reachesLong rows start ||
      !connector.isDecided (left.accepts rows start) && right.reachesLong rows start

namespace MetadataTable

/-- The rows of an object, sorted by key and then by value. -/
def entriesOf (rows : List MetadataRow) (object : Int64) : List (String × String) :=
  ((rows.filter (·.object == object)).map fun row => (row.key, row.value)).mergeSort
    fun a b => a.1 < b.1 || (a.1 == b.1 && a.2 ≤ b.2)

def withoutObject (rows : List MetadataRow) (object : Int64) : List MetadataRow :=
  rows.filter (·.object != object)

/-- The rows without those of an object under a key. -/
def withoutEntry (rows : List MetadataRow) (object : Int64) (key : String) : List MetadataRow :=
  rows.filter fun row => !(row.object == object && row.key == key)

/-- The starting rows that satisfy a node, each joined with the object it belongs to: the ids of
the objects found, once for every such row. -/
def matchedIds (rows : List MetadataRow) (objects : List (Int64 × String)) (root : Node) :
    List Int64 :=
  -- The join: a starting row without an object contributes nothing.
  rows.flatMap fun start =>
    (objects.filter fun object => object.1 == start.object && root.accepts rows start).map
      fun _ => start.object

/-- Whether finding the starting rows that satisfy a node comes to a test that is too long. Every row
is a starting row, also one without an object: the join is made after the test. -/
def reachesLong (rows : List MetadataRow) (root : Node) : Bool :=
  rows.any (root.reachesLong rows)

/-- The objects found, each once, in the order of their ids. -/
def found (rows : List MetadataRow) (objects : List (Int64 × String)) (root : Node) :
    Std.ExtTreeSet Int64 :=
  Std.ExtTreeSet.ofList (matchedIds rows objects root)

end MetadataTable

end ObjectCatalog
