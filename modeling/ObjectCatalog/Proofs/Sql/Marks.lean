import Mathlib.Algebra.GroupWithZero.Nat
import Mathlib.Data.List.Forall2
import ObjectCatalog.Proofs.Predicate.PlanShape
import ObjectCatalog.Sql.Statement

/-!
# The marks in a text

A database finds the arguments of a statement by the marks in its text, and it knows nothing of the
pieces that the text was made of. So the marks are looked for here as it has to look for them: from left
to right, a sign with all the digits that follow it (`Text.marks`).

What is found are the placeholders of the holes, in their order and nothing else, if no other text has a
sign in it and no digit follows a hole (`Template.marks_textFrom`). All texts that a template is written
with are of this kind, and table names are if they have no sign in them. For a condition it is said what
stands before each mark and what is bound there: the key of a clause after its column `name`, and each of
its values after its column `value` (`Plan.marks_condition`).
-/

namespace ObjectCatalog

/-! ## 1. Finding marks -/

/-- The characters that marks begin with. -/
def isMarkSign (c : Char) : Bool :=
  c == '?' || c == '$'

/-- A mark in a text, with all that stands before it. -/
structure Mark where
  before : String
  token : String
  deriving DecidableEq

/-- The mark stands right after a text. -/
def Mark.Follows (mark : Mark) (text : String) : Prop :=
  text.toList <:+ mark.before.toList

/-- The marks of a text from left to right, given what was passed already. A mark is a sign with all
digits that follow it. -/
def marksFrom (passed : List Char) : List Char → List Mark
  | [] => []
  | c :: rest =>
    if isMarkSign c then
      ⟨String.ofList passed, String.ofList (c :: rest.takeWhile Char.isDigit)⟩ ::
        marksFrom (passed ++ [c]) rest
    else marksFrom (passed ++ [c]) rest

def Text.marks (text : String) : List Mark :=
  marksFrom [] text.toList

/-- A text in which no mark begins. -/
def markFree (text : String) : Bool :=
  text.toList.all fun c => !isMarkSign c

theorem isMarkSign_of_isDigit {c : Char} (h : c.isDigit = true) : isMarkSign c = false := by
  rw [isMarkSign, Bool.or_eq_false_iff, beq_eq_false_iff_ne, beq_eq_false_iff_ne]
  constructor
  · rintro rfl
    revert h
    decide
  · rintro rfl
    revert h
    decide

/-- Text without signs is passed. The induction is on this text. -/
theorem marksFrom_append {passed cs : List Char} (h : cs.all (fun c => !isMarkSign c) = true)
    (rest : List Char) : marksFrom passed (cs ++ rest) = marksFrom (passed ++ cs) rest := by
  induction cs generalizing passed with
  | nil => rw [List.nil_append, List.append_nil]
  | cons c cs ih =>
    rw [List.all_cons, Bool.and_eq_true, Bool.not_eq_true'] at h
    rw [List.cons_append, marksFrom, if_neg (by rw [h.1]; exact Bool.false_ne_true), ih h.2,
      List.append_assoc, List.singleton_append]

/-- A sign and digits are one mark, if no other digit follows. -/
theorem marksFrom_mark {passed digits rest : List Char} {sign : Char} (hsign : isMarkSign sign = true)
    (hdigits : ∀ c ∈ digits, c.isDigit = true) (hrest : ∀ c ∈ rest.head?, c.isDigit = false) :
    marksFrom passed (sign :: digits ++ rest) =
      ⟨String.ofList passed, String.ofList (sign :: digits)⟩ ::
        marksFrom (passed ++ sign :: digits) rest := by
  have htoken : (digits ++ rest).takeWhile Char.isDigit = digits := by
    rw [List.takeWhile_append_of_pos hdigits]
    cases rest with
    | nil => rw [List.takeWhile_nil, List.append_nil]
    | cons c rest =>
      rw [List.takeWhile_cons_of_neg (by rw [hrest c rfl]; exact Bool.false_ne_true), List.append_nil]
  have hfree : digits.all (fun c => !isMarkSign c) = true := by
    rw [List.all_eq_true]
    intro c hc
    rw [isMarkSign_of_isDigit (hdigits c hc)]
    rfl
  rw [List.cons_append, marksFrom, if_pos hsign, htoken, marksFrom_append hfree, List.append_assoc,
    List.singleton_append]

/-! ## 2. The marks of a template -/

namespace Template

/-- Nothing that begins with a digit comes next: nothing at all, or text. -/
def breaks : Template → Bool
  | [] => true
  | .text s :: _ => s.toList.head?.any fun c => !c.isDigit
  | .table _ _ :: _ | .hole _ :: _ => false

/-- There are no marks in the texts, and every hole ends where its placeholder does. -/
def spaced : Template → Bool
  | [] => true
  | .text s :: rest => markFree s && spaced rest
  | .table _ _ :: rest => spaced rest
  | .hole _ :: rest => breaks rest && spaced rest

theorem breaks_append {s t : Template} (hs : s.breaks = true) (ht : t.breaks = true) :
    breaks (s ++ t) = true := by
  cases s with
  | nil => exact ht
  | cons piece rest =>
    cases piece with
    | text text => exact hs
    | table place name => cases hs
    | hole arg => cases hs

theorem spaced_append {s t : Template} (hs : s.spaced = true) (ht : t.spaced = true)
    (hbreaks : t.breaks = true) : spaced (s ++ t) = true := by
  induction s with
  | nil => exact ht
  | cons piece rest ih =>
    cases piece with
    | text text =>
      rw [spaced, Bool.and_eq_true] at hs
      rw [List.cons_append, spaced, hs.1, ih hs.2]
      rfl
    | table place name => exact ih hs
    | hole arg =>
      rw [spaced, Bool.and_eq_true] at hs
      rw [List.cons_append, spaced, breaks_append hs.1 hbreaks, ih hs.2]
      rfl

/-- The marks that the holes are written as. -/
def holes (d : Dialect) (passed : List Char) (taken : Nat) : Template → List Mark
  | [] => []
  | .text s :: rest => holes d (passed ++ s.toList) taken rest
  | .table _ name :: rest => holes d (passed ++ name.toList) taken rest
  | .hole _ :: rest =>
    let mark := d.placeholder (taken + 1)
    ⟨String.ofList passed, mark⟩ :: holes d (passed ++ mark.toList) (taken + 1) rest

end Template

/-- A placeholder is a sign and digits, in the third dialect none. -/
theorem Dialect.exists_placeholder_eq (d : Dialect) (n : Nat) :
    ∃ sign digits, isMarkSign sign = true ∧ (∀ c ∈ digits, c.isDigit = true) ∧
      d.placeholder n = String.ofList (sign :: digits) := by
  have hdigits : ∀ c ∈ Text.Numeral.digits n, c.isDigit = true :=
    fun _ => Text.Numeral.isDigit_of_mem_digits
  cases d with
  | postgres =>
    refine ⟨'$', Text.Numeral.digits n, rfl, hdigits, ?_⟩
    rw [← List.singleton_append, String.ofList_append]
    rfl
  | sqlite =>
    refine ⟨'?', Text.Numeral.digits n, rfl, hdigits, ?_⟩
    rw [← List.singleton_append, String.ofList_append]
    rfl
  | mySql => exact ⟨'?', [], rfl, fun _ hc => absurd hc List.not_mem_nil, rfl⟩

namespace Template

theorem head?_textFrom_of_breaks {t : Template} (h : t.breaks = true) (d : Dialect) (taken : Nat) :
    ∀ c ∈ (t.textFrom d taken).toList.head?, c.isDigit = false := by
  intro c hc
  cases t with
  | nil => cases hc
  | cons piece rest =>
    cases piece with
    | text s =>
      rw [textFrom, String.toList_append] at hc
      rw [breaks] at h
      cases hchars : s.toList with
      | nil =>
        rw [hchars] at h
        cases h
      | cons first others =>
        rw [hchars] at h hc
        cases hc
        simpa using h
    | table place name => cases h
    | hole arg => cases h

/-- **The marks in the text of a template are its holes.** The induction is on the pieces. -/
theorem marksFrom_textFrom {t : Template} (hspaced : t.spaced = true)
    (htables : ∀ name ∈ t.tables, markFree name = true) (d : Dialect) (passed : List Char)
    (taken : Nat) : marksFrom passed (t.textFrom d taken).toList = t.holes d passed taken := by
  induction t generalizing passed taken with
  | nil => rfl
  | cons piece rest ih =>
    cases piece with
    | text s =>
      rw [spaced, Bool.and_eq_true] at hspaced
      rw [textFrom, String.toList_append, marksFrom_append hspaced.1, ih hspaced.2 htables]
      rfl
    | table place name =>
      rw [textFrom, String.toList_append, marksFrom_append (htables name List.mem_cons_self),
        ih hspaced fun other hother => htables other (List.mem_cons_of_mem _ hother)]
      rfl
    | hole arg =>
      rw [spaced, Bool.and_eq_true] at hspaced
      obtain ⟨sign, digits, hsign, hdigits, hmark⟩ := d.exists_placeholder_eq (taken + 1)
      rw [textFrom, String.toList_append, hmark, String.toList_ofList,
        marksFrom_mark hsign hdigits (head?_textFrom_of_breaks hspaced.1 d _), ih hspaced.2 htables,
        holes, hmark, String.toList_ofList]

theorem marks_textFrom {t : Template} (hspaced : t.spaced = true)
    (htables : ∀ name ∈ t.tables, markFree name = true) (d : Dialect) (taken : Nat) :
    Text.marks (t.textFrom d taken) = t.holes d [] taken :=
  marksFrom_textFrom hspaced htables d [] taken

/-- The marks are numbered on. -/
theorem map_token_holes (t : Template) (d : Dialect) (passed : List Char) (taken : Nat) :
    (t.holes d passed taken).map (·.token) =
      (List.range t.args.length).map fun i => d.placeholder (taken + 1 + i) := by
  induction t generalizing passed taken with
  | nil => rfl
  | cons piece rest ih =>
    cases piece with
    | text s => exact ih _ _
    | table place name => exact ih _ _
    | hole arg =>
      rw [holes, List.map_cons, ih, args, List.length_cons, List.range_succ_eq_map, List.map_cons,
        List.map_map, Nat.add_zero]
      congr 1
      refine List.map_congr_left fun i _ => ?_
      rw [Function.comp_apply, Nat.succ_eq_add_one, Nat.add_right_comm (taken + 1) 1 i, Nat.add_assoc]

/-! ## 3. What is bound where -/

/-- Every argument with the piece before its hole, where `last` is the piece before the first. -/
def boundFrom (last : String) : Template → List (String × Arg)
  | [] => []
  | .text s :: rest => boundFrom s rest
  | .table _ name :: rest => boundFrom name rest
  | .hole arg :: rest => (last, arg) :: boundFrom "" rest

theorem map_boundFrom (t : Template) (last : String) : (t.boundFrom last).map (·.2) = t.args := by
  induction t generalizing last with
  | nil => rfl
  | cons piece rest ih =>
    cases piece with
    | text s => exact ih s
    | table place name => exact ih name
    | hole arg => exact congrArg (arg :: ·) (ih "")

theorem boundFrom_append (s t : Template) (last text : String) :
    boundFrom last (s ++ .text text :: t) = boundFrom last s ++ boundFrom text t := by
  induction s generalizing last with
  | nil => rfl
  | cons piece rest ih =>
    cases piece with
    | text s => exact ih s
    | table place name => exact ih name
    | hole arg => exact congrArg ((last, arg) :: ·) (ih "")

/-- The piece before a hole stands right before its mark. -/
theorem forall₂_holes (t : Template) (d : Dialect) {passed : List Char} {last : String}
    (h : last.toList <:+ passed) (taken : Nat) :
    List.Forall₂ (fun mark bound => mark.Follows bound.1) (t.holes d passed taken)
      (t.boundFrom last) := by
  induction t generalizing passed last taken with
  | nil => exact .nil
  | cons piece rest ih =>
    cases piece with
    | text s => exact ih (List.suffix_append _ _) taken
    | table place name => exact ih (List.suffix_append _ _) taken
    | hole arg =>
      have hnone : "".toList <:+ passed ++ (d.placeholder (taken + 1)).toList := List.nil_suffix
      refine .cons ?_ (ih hnone (taken + 1))
      rw [Mark.Follows, String.toList_ofList]
      exact h

end Template

/-! ## 4. Conditions -/

theorem markFree_append {s t : String} (hs : markFree s = true) (ht : markFree t = true) :
    markFree (s ++ t) = true := by
  rw [markFree, String.toList_append, List.all_append, Bool.and_eq_true]
  exact ⟨hs, ht⟩

theorem markFree_rowAlias (position : Nat) : markFree (rowAlias position) = true := by
  refine markFree_append rfl ?_
  rw [markFree, Text.Numeral.ofNat, String.toList_ofList, List.all_eq_true]
  intro c hc
  rw [isMarkSign_of_isDigit (Text.Numeral.isDigit_of_mem_digits hc)]
  rfl

/-- What begins with a row alias begins with no digit. -/
theorem breaks_rowAlias (position : Nat) (text : String) (rest : Template) :
    Template.breaks (.text (rowAlias position ++ text) :: rest) = true := by
  rw [Template.breaks, rowAlias, String.toList_append, String.toList_append]
  rfl

/-- What is bound for a test, and what stands before it. -/
def ValueTest.bound (position : Nat) (test : ValueTest) : String × Arg :=
  (rowAlias position ++ ".value " ++ test.comparison.operator ++ " ", .text test.operand)

def KeyFilter.bound (filter : KeyFilter) : List (String × Arg) :=
  (rowAlias filter.position ++ ".name = ", .text filter.key) ::
    filter.tests.map (·.bound filter.position)

def Node.bound : Node → List (String × Arg)
  | .base filter | .related filter => filter.bound
  | .combine left _ right => left.bound ++ right.bound

/-- What is the same for every test: its template is well spaced, and what is bound in it. -/
theorem ValueTest.spaced_template (position : Nat) (test : ValueTest) :
    Template.spaced (test.template position) = true ∧
      Template.breaks (test.template position) = true := by
  have hfree : markFree (rowAlias position ++ ".value " ++ test.comparison.operator ++ " ") = true := by
    refine markFree_append (markFree_append (markFree_append (markFree_rowAlias _) rfl) ?_) rfl
    cases test.comparison <;> rfl
  constructor
  · rw [template, Template.spaced, hfree]
    rfl
  · rw [template, String.append_assoc, String.append_assoc]
    exact breaks_rowAlias _ _ _

/-- The induction is on the tests, of which the last has nothing after it. -/
theorem spaced_alternatives (position : Nat) (tests : List ValueTest) :
    Template.spaced (alternatives position tests) = true ∧
      Template.breaks (alternatives position tests) = true := by
  induction tests with
  | nil => exact ⟨rfl, rfl⟩
  | cons test rest ih =>
    cases rest with
    | nil => exact test.spaced_template position
    | cons next rest =>
      obtain ⟨hspaced, hbreaks⟩ := test.spaced_template position
      rw [alternatives]
      · refine ⟨Template.spaced_append hspaced ?_ rfl, Template.breaks_append hbreaks rfl⟩
        rw [Template.spaced, ih.1]
        rfl
      · exact List.cons_ne_nil _ _

theorem boundFrom_alternatives (position : Nat) (tests : List ValueTest) (last : String) :
    Template.boundFrom last (alternatives position tests) = tests.map (·.bound position) := by
  induction tests generalizing last with
  | nil => rfl
  | cons test rest ih =>
    cases rest with
    | nil => rfl
    | cons next rest =>
      rw [alternatives, Template.boundFrom_append, ih]
      · rfl
      · exact List.cons_ne_nil _ _

namespace KeyFilter

theorem spaced_template (filter : KeyFilter) :
    Template.spaced filter.template = true ∧ Template.breaks filter.template = true := by
  obtain ⟨hspaced, hbreaks⟩ := spaced_alternatives filter.position filter.tests
  have hfree : markFree (rowAlias filter.position ++ ".name = ") = true :=
    markFree_append (markFree_rowAlias _) rfl
  refine ⟨?_, breaks_rowAlias _ _ _⟩
  rw [template, Template.spaced, hfree, Template.spaced, Template.spaced]
  split
  · rw [List.cons_append, Template.spaced, Template.spaced_append hspaced rfl rfl]
    rfl
  · rw [hspaced]
    rfl

theorem boundFrom_template (filter : KeyFilter) (last : String) :
    Template.boundFrom last filter.template = filter.bound := by
  rw [template, Template.boundFrom, Template.boundFrom, Template.boundFrom, bound]
  split
  · rw [List.cons_append, Template.boundFrom, Template.boundFrom_append, boundFrom_alternatives,
      Template.boundFrom, List.append_nil]
  · rw [boundFrom_alternatives]

theorem tables_template (filter : KeyFilter) : Template.tables filter.template = [] := by
  have htests : ∀ tests, Template.tables (alternatives filter.position tests) = [] := by
    intro tests
    induction tests with
    | nil => rfl
    | cons test rest ih =>
      cases rest with
      | nil => rfl
      | cons next rest =>
        rw [alternatives, Template.tables_append, Template.tables, ih]
        · rfl
        · exact List.cons_ne_nil _ _
  rw [template, Template.tables, Template.tables, Template.tables]
  split
  · rw [List.cons_append, Template.tables, Template.tables_append, htests]
    rfl
  · exact htests _

end KeyFilter

namespace Node

theorem spaced_template (relation : String) (node : Node) :
    Template.spaced (node.template relation) = true ∧
      Template.breaks (node.template relation) = true := by
  induction node with
  | base filter =>
    refine ⟨?_, rfl⟩
    rw [template, List.cons_append, Template.spaced,
      Template.spaced_append filter.spaced_template.1 rfl rfl]
    rfl
  | related filter =>
    refine ⟨?_, rfl⟩
    have hfree : markFree (" " ++ rowAlias filter.position ++ " WHERE " ++ rowAlias filter.position ++
        ".object = " ++ rowAlias 0 ++ ".object AND ") = true := by
      have halias := markFree_rowAlias filter.position
      exact markFree_append (markFree_append (markFree_append (markFree_append (markFree_append
        (markFree_append rfl halias) rfl) halias) rfl) (markFree_rowAlias 0)) rfl
    rw [template, List.cons_append, List.cons_append, List.cons_append, Template.spaced,
      Template.spaced, Template.spaced, hfree,
      Template.spaced_append filter.spaced_template.1 rfl rfl]
    rfl
  | combine left connector right ihleft ihright =>
    refine ⟨?_, rfl⟩
    have hfree : markFree (" " ++ connector.keyword ++ " ") = true := by cases connector <;> rfl
    rw [template, List.append_assoc, List.cons_append, List.cons_append, Template.spaced]
    have hrest : Template.spaced (.text (" " ++ connector.keyword ++ " ") ::
        (right.template relation ++ [.text ")"])) = true := by
      rw [Template.spaced, hfree, Template.spaced_append ihright.1 rfl rfl]
      rfl
    have hbreaks : Template.breaks (.text (" " ++ connector.keyword ++ " ") ::
        (right.template relation ++ [.text ")"])) = true := by cases connector <;> rfl
    rw [Template.spaced_append ihleft.1 hrest hbreaks]
    rfl

theorem boundFrom_template (relation : String) (node : Node) (last : String) :
    Template.boundFrom last (node.template relation) = node.bound := by
  induction node generalizing last with
  | base filter =>
    rw [template, List.cons_append, Template.boundFrom, Template.boundFrom_append,
      filter.boundFrom_template, Template.boundFrom, List.append_nil]
    rfl
  | related filter =>
    rw [template, List.cons_append, List.cons_append, List.cons_append, Template.boundFrom,
      Template.boundFrom, Template.boundFrom, Template.boundFrom_append, filter.boundFrom_template,
      Template.boundFrom, List.append_nil]
    rfl
  | combine left connector right ihleft ihright =>
    rw [template, List.append_assoc, List.cons_append, Template.boundFrom, List.cons_append,
      Template.boundFrom_append, ihleft, Template.boundFrom_append, ihright, Template.boundFrom,
      List.append_nil]
    rfl

/-- The only table in a condition is the one with the metadata. -/
theorem tables_template (relation : String) (node : Node) :
    ∀ name ∈ Template.tables (node.template relation), name = relation := by
  induction node with
  | base filter =>
    rw [template, List.cons_append, Template.tables, Template.tables_append, filter.tables_template]
    exact fun name hname => absurd hname List.not_mem_nil
  | related filter =>
    rw [template, List.cons_append, List.cons_append, List.cons_append, Template.tables,
      Template.tables, Template.tables, Template.tables_append, filter.tables_template]
    exact fun name hname => List.mem_singleton.1 hname
  | combine left connector right ihleft ihright =>
    rw [template, List.append_assoc, List.cons_append, Template.tables, List.cons_append,
      Template.tables_append, Template.tables, Template.tables_append]
    intro name hname
    rcases List.mem_append.1 hname with hname | hname
    · exact ihleft name hname
    · exact ihright name ((List.mem_append.1 hname).resolve_right List.not_mem_nil)

end Node

/-! ## 5. Predicates -/

/-- What a clause binds in the given place, and what stands before it: its key, and then each of its
values. A value that begins with the mark of a pattern is bound with all of these marks changed. -/
def Clause.bindings (position : Nat) (clause : Clause) : List (String × Arg) :=
  (rowAlias position ++ ".name = ", .text clause.key) ::
    clause.value.values.map fun raw =>
      if raw.toList.head? = some '*' then
        (rowAlias position ++ ".value LIKE ", .text (raw.map fun c => if c = '*' then '%' else c))
      else (rowAlias position ++ ".value = ", .text raw)

/-- What a predicate binds, clause by clause. -/
def Predicate.bindings (p : Predicate) : List (String × Arg) :=
  p.clauses.zipIdx.flatMap fun (clause, position) => clause.bindings position

theorem ValueTest.bound_ofRaw (position : Nat) (raw : String) :
    (ofRaw raw).bound position =
      if raw.toList.head? = some '*' then
        (rowAlias position ++ ".value LIKE ", .text (raw.map fun c => if c = '*' then '%' else c))
      else (rowAlias position ++ ".value = ", .text raw) := by
  have hchar : patternChar = fun c => if c = '*' then '%' else c := by
    funext c
    simp [patternChar, wildcard]
  have hoperator : ∀ operator : String,
      rowAlias position ++ ".value " ++ operator ++ " " =
        rowAlias position ++ (".value " ++ operator ++ " ") := by
    intro operator
    rw [String.append_assoc, String.append_assoc, String.append_assoc]
  unfold ofRaw
  by_cases hraw : raw.toList.head? = some '*'
  · rw [if_pos (by simpa [wildcard] using hraw), if_pos hraw, bound, hchar, hoperator]
    rfl
  · rw [if_neg (by simpa [wildcard] using hraw), if_neg hraw, bound, hoperator]
    rfl

theorem KeyFilter.bound_forClause (position : Nat) (clause : Clause) :
    (forClause position clause).bound = clause.bindings position := by
  rw [bound, Clause.bindings, forClause, List.map_map]
  congr 1
  exact List.map_congr_left fun raw _ => ValueTest.bound_ofRaw position raw

/-- The induction is on the clauses that are still to be joined. -/
theorem Node.bound_comb (before : Node) (position : Nat) (clauses : List Clause) :
    (before.comb position clauses).bound =
      before.bound ++
        (clauses.zipIdx position).flatMap fun (clause, position) => clause.bindings position := by
  induction clauses generalizing before position with
  | nil => exact (List.append_nil _).symm
  | cons clause rest ih =>
    rw [comb, ih, bound, bound, KeyFilter.bound_forClause, List.zipIdx_cons, List.flatMap_cons,
      List.append_assoc]

/-- A clause binds its key and each of its values. The induction is on the clauses, from any place. -/
theorem Predicate.length_bindings (p : Predicate) :
    p.bindings.length = (p.clauses.map fun clause => 1 + clause.value.values.length).sum := by
  have hlength : ∀ (clauses : List Clause) (position : Nat),
      ((clauses.zipIdx position).flatMap fun (clause, position) => clause.bindings position).length =
        (clauses.map fun clause => 1 + clause.value.values.length).sum := by
    intro clauses
    induction clauses with
    | nil => exact fun _ => rfl
    | cons clause rest ih =>
      intro position
      have hclause : (clause.bindings position).length = 1 + clause.value.values.length := by
        rw [Clause.bindings, List.length_cons, List.length_map, Nat.add_comm]
      rw [List.zipIdx_cons, List.flatMap_cons, List.length_append, ih, List.map_cons, List.sum_cons,
        ← hclause]
  exact hlength p.clauses 0

namespace Plan

variable {relation : String} {p : Predicate} {plan : Plan}

theorem bound_ofPredicate (h : ofPredicate relation p = .ok plan) : plan.root.bound = p.bindings := by
  obtain ⟨first, rest, hp, -, rfl⟩ := ofPredicate_eq_ok_iff.1 h
  rw [Node.ofClauses, Node.bound_comb, Node.bound, KeyFilter.bound_forClause, Predicate.bindings, hp,
    List.zipIdx_cons, List.flatMap_cons]

/-- **The marks of a condition are the placeholders of its arguments.** They are as many as there are
keys and values, they are numbered on from those that were taken before, and each stands where its
argument belongs. -/
theorem marks_condition (h : ofPredicate relation p = .ok plan) (hrelation : markFree relation = true)
    (d : Dialect) (taken : Nat) :
    (Text.marks (plan.condition d taken).text).map (·.token) =
      (List.range (plan.condition d taken).args.length).map (fun i => d.placeholder (taken + 1 + i)) ∧
    (plan.condition d taken).args = p.bindings.map (·.2) ∧
    List.Forall₂ (fun mark bound => mark.Follows bound.1) (Text.marks (plan.condition d taken).text)
      p.bindings := by
  have hrel : plan.relation = relation := by
    obtain ⟨first, rest, -, -, rfl⟩ := ofPredicate_eq_ok_iff.1 h
    rfl
  have hbound : Template.boundFrom "" plan.template = p.bindings :=
    (plan.root.boundFrom_template plan.relation "").trans (bound_ofPredicate h)
  have hmarks : Text.marks (plan.condition d taken).text = plan.template.holes d [] taken := by
    refine Template.marks_textFrom (plan.root.spaced_template _).1 (fun name hname => ?_) d taken
    rw [plan.root.tables_template _ name hname, hrel, hrelation]
  have hnone : "".toList <:+ [] := List.nil_suffix
  rw [hmarks, ← hbound]
  exact ⟨plan.template.map_token_holes d [] taken, (plan.template.map_boundFrom "").symm,
    plan.template.forall₂_holes d hnone taken⟩

end Plan

end ObjectCatalog
