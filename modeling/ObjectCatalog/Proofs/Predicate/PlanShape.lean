import ObjectCatalog.Predicate.Plan

/-!
# The shape of a plan

A predicate has a plan exactly when it has clauses and each of them has values, and then the plan is
the left comb of its clauses: the first clause is the base, on row variable 0, and the clause in
place `i` is a related filter on row variable `i`, joined with its own connector to all that is
before it. Everything that is shown of plans is shown of combs.
-/

namespace ObjectCatalog

/-- The filter of a clause that has values. -/
def KeyFilter.forClause (position : Nat) (clause : Clause) : KeyFilter :=
  ⟨position, clause.key, clause.value.values.map ValueTest.ofRaw⟩

/-- Joins clauses to a node, each at the next position. -/
def Node.comb (before : Node) (position : Nat) : List Clause → Node
  | [] => before
  | c :: rest =>
    comb (.combine before c.connector (.related (.forClause position c))) (position + 1) rest

theorem KeyFilter.ofClause_eq_ok {position : Nat} {clause : Clause}
    (h : clause.value.values ≠ []) :
    KeyFilter.ofClause position clause = .ok (.forClause position clause) := by
  unfold KeyFilter.ofClause KeyFilter.forClause
  split
  · contradiction
  · rfl

/-- Clauses are joined as a left comb, if all of them have values. -/
theorem Node.joinClauses_eq_ok_iff {before : Node} {position : Nat} {clauses : List Clause}
    {root : Node} :
    Node.joinClauses before position clauses = .ok root ↔
      (∀ c ∈ clauses, c.value.values ≠ []) ∧ root = before.comb position clauses := by
  induction clauses generalizing before position with
  | nil =>
    rw [Node.joinClauses, Node.comb, Except.ok.injEq]
    exact ⟨fun e => ⟨fun c hc => absurd hc List.not_mem_nil, e.symm⟩, fun e => e.2.symm⟩
  | cons c rest ih =>
    rw [Node.joinClauses]
    by_cases h : c.value.values = []
    · simp [KeyFilter.ofClause, h]
    · rw [KeyFilter.ofClause_eq_ok h]
      simp only [ih, Node.comb, List.forall_mem_cons]
      exact ⟨fun e => ⟨⟨h, e.1⟩, e.2⟩, fun e => ⟨e.1.2, e.2⟩⟩

/-- The root of the plan of clauses: the first is the base, the others are joined to it. -/
def Node.ofClauses (first : Clause) (rest : List Clause) : Node :=
  (Node.base (.forClause 0 first)).comb 1 rest

/-- A predicate has a plan exactly when it has clauses and each of them has values, and the plan is
the left comb of its clauses. -/
theorem Plan.ofPredicate_eq_ok_iff {relation : String} {p : Predicate} {plan : Plan} :
    Plan.ofPredicate relation p = .ok plan ↔
      ∃ first rest, p.clauses = first :: rest ∧ (∀ c ∈ p.clauses, c.value.values ≠ []) ∧
        plan = ⟨relation, .ofClauses first rest⟩ := by
  unfold Plan.ofPredicate
  cases hp : p.clauses with
  | nil => simp
  | cons first rest =>
    by_cases h : first.value.values = []
    · simp [KeyFilter.ofClause, h]
    · have hjoin : (Node.joinClauses (.base (.forClause 0 first)) 1 rest).map (Plan.mk relation) =
          .ok plan ↔ ∃ root, Node.joinClauses (.base (.forClause 0 first)) 1 rest = .ok root ∧
            plan = ⟨relation, root⟩ := by
        cases Node.joinClauses (.base (.forClause 0 first)) 1 rest <;> simp [Except.map, eq_comm]
      simp only [KeyFilter.ofClause_eq_ok h, hjoin, Node.joinClauses_eq_ok_iff]
      constructor
      · rintro ⟨root, ⟨hrest, rfl⟩, rfl⟩
        exact ⟨first, rest, rfl, List.forall_mem_cons.2 ⟨h, hrest⟩, rfl⟩
      · rintro ⟨first', rest', heq, hall, rfl⟩
        obtain ⟨rfl, rfl⟩ := List.cons.inj heq
        exact ⟨_, ⟨(List.forall_mem_cons.1 hall).2, rfl⟩, rfl⟩

end ObjectCatalog
