import ObjectCatalog.Error
import ObjectCatalog.Json.Basic
import ObjectCatalog.Predicate.Basic

/-!
# Predicates from JSON

A predicate in JSON is an array with an entry per clause. An entry either is the body of the
clause, recognised by its member `key`, and is joined with OR; or it is a wrapper, an object of one
member whose name is the connector and whose value is the body. A body has a scalar `key` and a
`value` that is a scalar or an array of scalars, and scalars stand for their text.

Entries are read in order and the first malformed one is reported, with the first check it fails.
-/

namespace ObjectCatalog

/-- The connector and the body of an entry. -/
def Clause.unwrap : Json → Except ClauseFault (Connector × Json)
  | entry@(.object members) =>
    -- A member `key` makes the entry a body, however many other members there are.
    match Json.lookup "key" members, members with
    | some _, _ => .ok (.or, entry)
    | none, [(connector, body)] => .ok (Connector.ofWord connector, body)
    | none, _ => .error .noConnector
  | _ => .error .notObject

def Clause.keyOf (body : Json) : Except ClauseFault String :=
  match (body.field? "key").bind Json.scalarText? with
  | some key => .ok key
  | none => .error .noKey

/-- The text of a scalar that stands for a value. -/
def Clause.valueText (value : Json) : Except ClauseFault String :=
  match value.scalarText? with
  | some text => .ok text
  | none => .error .nonScalarValue

/-- The value or values of a body. -/
def Clause.matchOf (body : Json) : Except ClauseFault ValueMatch :=
  match body.field? "value" with
  | none => .error .noValue
  | some (.array items) => (items.mapM valueText).map .anyOf
  | some value => (valueText value).map .one

def Clause.ofJson (entry : Json) : Except ClauseFault Clause := do
  let (connector, body) ← unwrap entry
  let key ← keyOf body
  let value ← matchOf body
  pure ⟨connector, key, value⟩

/-- The clauses of entries of which the first has the given index. -/
def Predicate.clausesOfJson (index : Nat) : List Json → Except ArgumentFault (List Clause)
  | [] => .ok []
  | entry :: rest =>
    match Clause.ofJson entry with
    | .error fault => .error (.clause index fault)
    | .ok clause => (clausesOfJson (index + 1) rest).map (clause :: ·)

def Predicate.ofJson : Json → Except ArgumentFault Predicate
  | .array entries => (clausesOfJson 0 entries).map Predicate.mk
  | _ => .error .predicateNotArray

end ObjectCatalog
