import ObjectCatalog.Json.Basic
import ObjectCatalog.Predicate.Basic

/-!
# Predicates as JSON

Every predicate has a written form: an array in which each clause is wrapped in its connector. The
form without a wrapper is left to people, because it has no place for the connector AND. What is
written has no number in it and no object with a key twice, so it is a value that a text can have.
-/

namespace ObjectCatalog

def ValueMatch.toJson : ValueMatch → Json
  | .one value => .string value
  | .anyOf values => .array (values.map .string)

def Clause.toJson (clause : Clause) : Json :=
  .object [(clause.connector.keyword,
    .object [("key", .string clause.key), ("value", clause.value.toJson)])]

theorem ValueMatch.wellFormed_toJson (value : ValueMatch) : value.toJson.WellFormed := by
  cases value with
  | one value => exact .string value
  | anyOf values =>
    refine .array fun item hitem => ?_
    obtain ⟨value, -, rfl⟩ := List.mem_map.1 hitem
    exact .string value

theorem Clause.wellFormed_toJson (clause : Clause) : clause.toJson.WellFormed := by
  have hbody : (Json.object [("key", .string clause.key), ("value", clause.value.toJson)]).WellFormed :=
    .object (by simp)
      (List.forall_mem_cons.2 ⟨.string clause.key,
        List.forall_mem_singleton.2 clause.value.wellFormed_toJson⟩)
  exact .object (by simp) (List.forall_mem_singleton.2 hbody)

def Predicate.toJson (p : Predicate) : Json.Value where
  json := .array (p.clauses.map Clause.toJson)
  wellFormed := by
    refine .array fun entry hentry => ?_
    obtain ⟨clause, -, rfl⟩ := List.mem_map.1 hentry
    exact clause.wellFormed_toJson

end ObjectCatalog
