import ObjectCatalog.Proofs.Predicate.PlanShape
import ObjectCatalog.Sql.Statement

/-!
# Statements without their data

A bare template has the same pieces as a template, with nothing in its holes. It has the same text, since
a hole is written as a placeholder whatever is bound there, and the template can be had back from it and
the arguments (`Template.fill_bare`). So what has the same bare form has the same text, and differs in
its arguments alone.

Of a predicate the bare form of its condition keeps how many clauses there are, how they are joined, and
of every value whether it begins with the mark of a pattern. This is its shape (`Predicate.shape`), and
two predicates of one shape have one text (`Plan.bare_eq_ofShape`).
-/

namespace ObjectCatalog

/-! ## 1. Templates -/

/-- A piece with nothing in it, if it is a hole. -/
def Piece.bare : Piece → Piece
  | .hole (.int _) => .hole (.int 0)
  | .hole (.text _) => .hole (.text "")
  | piece => piece

namespace Template

def bare (t : Template) : Template :=
  t.map Piece.bare

/-- Puts arguments into the holes, in their order, as far as there are any. -/
def fill : Template → List Arg → Template
  | [], _ => []
  | .hole _ :: rest, arg :: args => .hole arg :: fill rest args
  | piece :: rest, args => piece :: fill rest args

theorem textFrom_bare (d : Dialect) (taken : Nat) (t : Template) :
    t.bare.textFrom d taken = t.textFrom d taken := by
  induction t generalizing taken with
  | nil => rfl
  | cons piece rest ih =>
    have hrest : ∀ n, textFrom d n (rest.map Piece.bare) = textFrom d n rest := fun n => ih n
    cases piece with
    | text s => exact congrArg (s ++ ·) (hrest taken)
    | table place name => exact congrArg (name ++ ·) (hrest taken)
    | hole arg =>
      cases arg with
      | int n => exact congrArg (d.placeholder (taken + 1) ++ ·) (hrest (taken + 1))
      | text s => exact congrArg (d.placeholder (taken + 1) ++ ·) (hrest (taken + 1))

theorem length_args_bare (t : Template) : t.bare.args.length = t.args.length := by
  induction t with
  | nil => rfl
  | cons piece rest ih =>
    cases piece with
    | text s => exact ih
    | table place name => exact ih
    | hole arg =>
      cases arg with
      | int n => exact congrArg (· + 1) ih
      | text s => exact congrArg (· + 1) ih

theorem fault?_bare (d : Dialect) (t : Template) : t.bare.fault? d = t.fault? d := by
  induction t with
  | nil => rfl
  | cons piece rest ih =>
    cases piece with
    | text s => exact ih
    | table place name =>
      have hcons : bare (.table place name :: rest) = .table place name :: bare rest := rfl
      rw [hcons, fault?, fault?, textFrom_bare, ih]
    | hole arg =>
      cases arg with
      | int n => exact ih
      | text s => exact ih

/-- With its arguments put back a bare template is what it was made of. -/
theorem fill_bare (t : Template) : t.bare.fill t.args = t := by
  induction t with
  | nil => rfl
  | cons piece rest ih =>
    cases piece with
    | text s => exact congrArg (.text s :: ·) ih
    | table place name => exact congrArg (.table place name :: ·) ih
    | hole arg =>
      cases arg with
      | int n => exact congrArg (.hole (.int n) :: ·) ih
      | text s => exact congrArg (.hole (.text s) :: ·) ih

theorem bare_append (s t : Template) : (s ++ t).bare = s.bare ++ t.bare :=
  List.map_append

theorem bare_cons (piece : Piece) (t : Template) : bare (piece :: t) = piece.bare :: t.bare := rfl

end Template

/-! ## 2. Plans -/

def ValueTest.bare (test : ValueTest) : ValueTest :=
  { test with operand := "" }

def KeyFilter.bare (filter : KeyFilter) : KeyFilter :=
  ⟨filter.position, "", filter.tests.map ValueTest.bare⟩

def Node.bare : Node → Node
  | .base filter => .base filter.bare
  | .related filter => .related filter.bare
  | .combine left connector right => .combine left.bare connector right.bare

def Plan.bare (plan : Plan) : Plan :=
  ⟨plan.relation, plan.root.bare⟩

/-- The induction is on the tests, of which the last has nothing after it. -/
theorem bare_alternatives (position : Nat) (tests : List ValueTest) :
    Template.bare (alternatives position tests) =
      alternatives position (tests.map ValueTest.bare) := by
  induction tests with
  | nil => rfl
  | cons test rest ih =>
    cases rest with
    | nil => rfl
    | cons next rest =>
      rw [alternatives, Template.bare_append, Template.bare_cons, ih]
      · rfl
      · exact List.cons_ne_nil _ _

theorem KeyFilter.template_bare (filter : KeyFilter) :
    filter.bare.template = Template.bare filter.template := by
  unfold template
  simp only [bare, List.length_map, ← bare_alternatives]
  split
  · rw [Template.bare_cons, Template.bare_cons, Template.bare_cons, Template.bare_append]
    rfl
  · rfl

theorem Node.template_bare (relation : String) (node : Node) :
    node.bare.template relation = Template.bare (node.template relation) := by
  induction node with
  | base filter =>
    rw [bare, template, template, KeyFilter.template_bare, Template.bare_append, Template.bare_cons]
    rfl
  | related filter =>
    rw [bare, template, template, KeyFilter.template_bare, Template.bare_append, Template.bare_cons]
    rfl
  | combine left connector right ihleft ihright =>
    rw [bare, template, template, ihleft, ihright, Template.bare_append, Template.bare_append]
    rfl

theorem Plan.template_bare (plan : Plan) : plan.bare.template = Template.bare plan.template :=
  plan.root.template_bare plan.relation

/-! ## 3. The shape of a predicate -/

/-- Of every value of a clause, whether it begins with the mark of a pattern. -/
def Clause.shape (clause : Clause) : List Bool :=
  clause.value.values.map fun raw => raw.toList.head? == some wildcard

/-- What of a predicate can be seen in the text of its condition: the shapes of its clauses, and the
connectors of all clauses but the first. -/
structure PredicateShape where
  clauses : List (List Bool)
  connectors : List Connector
  deriving DecidableEq

def Predicate.shape (p : Predicate) : PredicateShape :=
  ⟨p.clauses.map Clause.shape, p.clauses.tail.map (·.connector)⟩

/-- The bare filter of a clause with the given shape. -/
def KeyFilter.ofShape (position : Nat) (values : List Bool) : KeyFilter :=
  ⟨position, "", values.map fun marked => ⟨if marked then .like else .exact, ""⟩⟩

/-- Joins bare filters to a node, each at the next position. -/
def Node.combShape (before : Node) (position : Nat) : List (List Bool) → List Connector → Node
  | values :: clauses, connector :: connectors =>
    combShape (.combine before connector (.related (.ofShape position values))) (position + 1)
      clauses connectors
  | _, _ => before

/-- The bare plan of the predicates of a shape. Without clauses there is no plan, and the node that
stands here is that of a clause without values. -/
def Plan.ofShape (relation : String) (shape : PredicateShape) : Plan :=
  match shape.clauses with
  | [] => ⟨relation, .base (.ofShape 0 [])⟩
  | first :: rest => ⟨relation, (Node.base (.ofShape 0 first)).combShape 1 rest shape.connectors⟩

theorem ValueTest.bare_ofRaw (raw : String) :
    (ofRaw raw).bare = ⟨if raw.toList.head? == some wildcard then .like else .exact, ""⟩ := by
  unfold ofRaw bare
  split <;> rfl

theorem KeyFilter.bare_forClause (position : Nat) (clause : Clause) :
    (forClause position clause).bare = ofShape position clause.shape := by
  rw [forClause, bare, ofShape, Clause.shape, List.map_map, List.map_map]
  congr 1
  exact List.map_congr_left fun raw _ => ValueTest.bare_ofRaw raw

/-- The induction is on the clauses that are still to be joined. -/
theorem Node.bare_comb (before : Node) (position : Nat) (clauses : List Clause) :
    (before.comb position clauses).bare =
      before.bare.combShape position (clauses.map Clause.shape) (clauses.map (·.connector)) := by
  induction clauses generalizing before position with
  | nil => rfl
  | cons clause rest ih =>
    rw [comb, ih, bare, bare, KeyFilter.bare_forClause]
    rfl

/-- The bare plan of a predicate is that of its shape. -/
theorem Plan.bare_eq_ofShape {relation : String} {p : Predicate} {plan : Plan}
    (h : ofPredicate relation p = .ok plan) : plan.bare = ofShape relation p.shape := by
  obtain ⟨first, rest, hp, -, rfl⟩ := ofPredicate_eq_ok_iff.1 h
  rw [bare, Node.ofClauses, Node.bare_comb, Node.bare, KeyFilter.bare_forClause, Predicate.shape, hp]
  rfl

/-- Whether a predicate has a plan is for its shape to say. -/
theorem Plan.exists_ofPredicate_iff {relation : String} {p : Predicate} :
    (∃ plan, ofPredicate relation p = .ok plan) ↔
      p.shape.clauses ≠ [] ∧ ∀ values ∈ p.shape.clauses, values ≠ [] := by
  have hvalues : ∀ clause : Clause, clause.shape ≠ [] ↔ clause.value.values ≠ [] :=
    fun _ => not_congr List.map_eq_nil_iff
  have hclauses : p.shape.clauses = p.clauses.map Clause.shape := rfl
  simp only [hclauses, List.forall_mem_map, ne_eq, List.map_eq_nil_iff, hvalues]
  constructor
  · rintro ⟨plan, h⟩
    obtain ⟨first, rest, hp, hall, -⟩ := ofPredicate_eq_ok_iff.1 h
    exact ⟨hp ▸ List.cons_ne_nil first rest, hall⟩
  · rintro ⟨hne, hall⟩
    obtain ⟨first, rest, hp⟩ := List.exists_cons_of_ne_nil hne
    exact ⟨_, ofPredicate_eq_ok_iff.2 ⟨first, rest, hp, hall, rfl⟩⟩

/-- Two predicates of one shape have plans with one text, if one of them has a plan. -/
theorem Plan.exists_of_shape_eq {relation : String} {p q : Predicate} {plan : Plan}
    (hshape : p.shape = q.shape) (h : ofPredicate relation p = .ok plan) :
    ∃ plan', ofPredicate relation q = .ok plan' ∧ plan'.bare = plan.bare := by
  obtain ⟨plan', h'⟩ : ∃ plan', ofPredicate relation q = .ok plan' := by
    rw [exists_ofPredicate_iff, ← hshape]
    exact exists_ofPredicate_iff.1 ⟨plan, h⟩
  exact ⟨plan', h', by rw [bare_eq_ofShape h', bare_eq_ofShape h, hshape]⟩

/-- What can be seen of a condition depends on the bare plan alone. -/
theorem Plan.condition_of_bare {plan plan' : Plan} (h : plan'.bare = plan.bare) (d : Dialect)
    (taken : Nat) : (plan'.condition d taken).text = (plan.condition d taken).text ∧
      (plan'.condition d taken).taken = (plan.condition d taken).taken := by
  have htemplate : Template.bare plan'.template = Template.bare plan.template := by
    rw [← template_bare, ← template_bare, h]
  constructor
  · show plan'.template.textFrom d taken = plan.template.textFrom d taken
    rw [← Template.textFrom_bare, htemplate, Template.textFrom_bare]
  · show taken + plan'.template.args.length = taken + plan.template.args.length
    rw [← Template.length_args_bare, htemplate, Template.length_args_bare]

/-! ## 4. Statements -/

namespace Statement

/-- A statement with the same tables, settings and order, and without the values that it was made
for. -/
def bare : Statement → Statement
  | .createObjects table options => .createObjects table options
  | .createMetadata table options => .createMetadata table options
  | .createIndex table column => .createIndex table column
  | .insertObject table _ => .insertObject table ""
  | .insertReturning table _ => .insertReturning table ""
  | .lastInsertId => .lastInsertId
  | .renameObject table _ _ => .renameObject table "" 0
  | .deleteObject table _ => .deleteObject table 0
  | .storedName table _ => .storedName table 0
  | .findObject table (.id _) => .findObject table (.id 0)
  | .findObject table (.name _) => .findObject table (.name "")
  | .countObjects table pattern => .countObjects table (pattern.map fun _ => "")
  | .listObjects table pattern field direction _ _ =>
    .listObjects table (pattern.map fun _ => "") field direction 0 0
  | .deleteMetadata table _ => .deleteMetadata table 0
  | .deleteEntry table _ _ => .deleteEntry table 0 ""
  | .insertEntry table _ _ _ => .insertEntry table 0 "" ""
  | .listMetadata table _ => .listMetadata table 0
  | .countMatches table plan => .countMatches table plan.bare
  | .listMatches table plan direction _ _ => .listMatches table plan.bare direction 0 0

theorem bare_namesLike (pattern : Option String) :
    Template.bare (namesLike pattern) = namesLike (pattern.map fun _ => "") := by
  cases pattern <;> rfl

/-- A statement without its data has the template without its data. -/
theorem template_bare (s : Statement) (d : Dialect) :
    s.bare.template d = Template.bare (s.template d) := by
  cases s with
  | findObject table lookup => cases lookup <;> rfl
  | countObjects table pattern =>
    rw [template, Template.bare_cons, Template.bare_cons, bare_namesLike]
    rfl
  | listObjects table pattern field direction limit offset =>
    rw [template, Template.bare_append, Template.bare_cons, Template.bare_cons, bare_namesLike]
    rfl
  | countMatches table plan =>
    rw [template, Template.bare_append, ← plan.template_bare]
    rfl
  | listMatches table plan direction limit offset =>
    rw [template, Template.bare_append, Template.bare_append, ← plan.template_bare]
    rfl
  | _ => rfl

theorem text_bare (s : Statement) (d : Dialect) : s.bare.text d = s.text d := by
  rw [text, template_bare]
  exact Template.textFrom_bare d 0 _

end Statement

end ObjectCatalog
