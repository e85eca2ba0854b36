import ObjectCatalog.Proofs.Predicate.Wildcards
import ObjectCatalog.Proofs.Repository.Failures
import ObjectCatalog.Proofs.Search.ObjectLevel
import ObjectCatalog.Proofs.Sql.Bare

/-!
# The metadata search

A metadata search asks twice, for the number of matches and for the ids of a page, and both statements
have the same condition. What they answer is what satisfies the predicate
(`MetadataTable.toList_found`), if the database takes them.

Over tables that are there two things can keep it from that. It reads statements up to certain limits,
and a predicate of many clauses goes beyond them, whatever the tables hold
(`Statement.textRefusal?_of_many`). And it refuses to hold a value against a pattern that is too long.
That depends on the rows, since a condition is evaluated no further than it takes: a pattern that is too
long does no harm where no row has its key. `Plan.Taken` says that neither is the case, and then and only
then is a search answered (`Repository.metaSearch_finds_satisfying`).
-/

namespace ObjectCatalog

/-! ## 1. Patterns that are too long -/

/-- A character takes a byte or more. -/
theorem Text.length_le_utf8ByteSize (cs : List Char) :
    cs.length ≤ (String.ofList cs).utf8ByteSize := by
  induction cs with
  | nil => exact Nat.zero_le _
  | cons c cs ih =>
    rw [String.ofList_cons, String.utf8ByteSize_append, String.utf8ByteSize_singleton,
      List.length_cons]
    have hpos := c.utf8Size_pos
    omega

namespace ValueTest

/-- A star and the run that it becomes take a byte each. -/
theorem utf8ByteSize_map_patternChar (raw : String) :
    (raw.map patternChar).utf8ByteSize = raw.utf8ByteSize := by
  have hsize : ∀ c : Char, (patternChar c).utf8Size = c.utf8Size := by
    intro c
    by_cases hstar : c = wildcard
    · subst hstar
      rfl
    · rw [patternChar_of_ne hstar]
  have hlist : ∀ cs : List Char,
      (String.ofList (cs.map patternChar)).utf8ByteSize = (String.ofList cs).utf8ByteSize := by
    intro cs
    induction cs with
    | nil => rfl
    | cons c cs ih =>
      rw [List.map_cons, String.ofList_cons, String.ofList_cons, String.utf8ByteSize_append,
        String.utf8ByteSize_append, String.utf8ByteSize_singleton, String.utf8ByteSize_singleton,
        hsize, ih]
  have hraw := hlist raw.toList
  rw [← String.toList_map, String.ofList_toList, String.ofList_toList] at hraw
  exact hraw

/-- A value makes a pattern that is too long if it begins with a star and is too long itself. -/
theorem isTooLong_ofRaw {raw : String} :
    (ofRaw raw).isTooLong = true ↔
      raw.toList.head? = some wildcard ∧ Like.longestPattern < raw.utf8ByteSize := by
  unfold ofRaw
  split
  · rename_i hstar
    rw [isTooLong, utf8ByteSize_map_patternChar]
    simpa using fun _ => hstar
  · rename_i hstar
    simpa [isTooLong] using fun h => absurd h (by simpa using hstar)

theorem isTooLong_stars {count : Nat} (h : Like.longestPattern < count) :
    (ofRaw (stars count)).isTooLong = true := by
  rw [isTooLong_ofRaw]
  constructor
  · obtain ⟨rest, rfl⟩ := Nat.exists_eq_succ_of_ne_zero (Nat.ne_zero_of_lt h)
    rw [stars, String.toList_ofList]
    rfl
  · have hsize := Text.length_le_utf8ByteSize (.replicate count wildcard)
    rw [List.length_replicate] at hsize
    exact Nat.lt_of_lt_of_le h hsize

end ValueTest

/-- No value of a clause makes a pattern that is too long. -/
def Clause.IsShort (c : Clause) : Prop :=
  ∀ raw ∈ c.value.values, raw.toList.head? = some wildcard → raw.utf8ByteSize ≤ Like.longestPattern

theorem KeyFilter.reachesLong_forClause {c : Clause} (h : c.IsShort) (position : Nat)
    (row : MetadataRow) : (KeyFilter.forClause position c).reachesLong row = false := by
  have htests : ∀ test ∈ (KeyFilter.forClause position c).tests, test.isTooLong = false := by
    intro test htest
    obtain ⟨raw, hraw, rfl⟩ := List.mem_map.1 htest
    rw [← Bool.not_eq_true, ValueTest.isTooLong_ofRaw]
    exact fun hlong => Nat.not_le.2 hlong.2 (h raw hraw hlong.1)
  rw [reachesLong, Bool.and_eq_false_iff]
  refine .inr ?_
  cases hfound : (KeyFilter.forClause position c).tests.find? _ with
  | none => rfl
  | some test => exact htests test (List.mem_of_find?_eq_some hfound)

namespace Node

variable {rows : List MetadataRow} {start : MetadataRow} {before : Node} {clauses : List Clause}

/-- Clauses without long values do not lead to a pattern that is too long. The induction is on the
clauses that are still to be joined. -/
theorem reachesLong_comb_eq_false (hbefore : before.reachesLong rows start = false)
    (hclauses : ∀ c ∈ clauses, c.IsShort) (position : Nat) :
    (before.comb position clauses).reachesLong rows start = false := by
  induction clauses generalizing before position with
  | nil => exact hbefore
  | cons c rest ih =>
    obtain ⟨hc, hrest⟩ := List.forall_mem_cons.1 hclauses
    refine ih ?_ hrest (position + 1)
    have hrelated : (Node.related (.forClause position c)).reachesLong rows start = false := by
      rw [reachesLong]
      cases List.find? _ (rows.filter (·.object == start.object)) with
      | none => rfl
      | some row => exact KeyFilter.reachesLong_forClause hc position row
    rw [reachesLong, hbefore, hrelated, Bool.and_false, Bool.or_false]

/-- What is come to at the left end of a comb is come to. -/
theorem reachesLong_comb (hbefore : before.reachesLong rows start = true) (position : Nat) :
    (before.comb position clauses).reachesLong rows start = true := by
  induction clauses generalizing before position with
  | nil => exact hbefore
  | cons c rest ih =>
    refine ih ?_ (position + 1)
    rw [reachesLong, hbefore, Bool.true_or]

end Node

namespace MetadataTable

variable {rows : List MetadataRow} {row : MetadataRow} {first : Clause} {rest : List Clause}

theorem reachesLong_ofClauses_eq_false (h : ∀ c ∈ first :: rest, c.IsShort) :
    reachesLong rows (.ofClauses first rest) = false := by
  obtain ⟨hfirst, hrest⟩ := List.forall_mem_cons.1 h
  rw [reachesLong, List.any_eq_false]
  intro start _
  have hbase : (Node.base (.forClause 0 first)).reachesLong rows start = false :=
    KeyFilter.reachesLong_forClause hfirst 0 start
  rw [Bool.not_eq_true]
  exact Node.reachesLong_comb_eq_false hbase hrest 1

/-- If the first value of the first clause is too long, it is enough that some row has the key. -/
theorem reachesLong_ofClauses {raw : String} {others : List String}
    (hvalues : first.value.values = raw :: others) (hlong : (ValueTest.ofRaw raw).isTooLong = true)
    (hrow : row ∈ rows) (hkey : row.key = first.key) :
    reachesLong rows (.ofClauses first rest) = true := by
  rw [reachesLong, List.any_eq_true]
  refine ⟨row, hrow, Node.reachesLong_comb ?_ 1⟩
  rw [Node.reachesLong, KeyFilter.reachesLong, KeyFilter.forClause, hvalues, List.map_cons,
    List.find?_cons_of_pos (by rw [hlong, Bool.true_or]), Option.any_some, hlong, Bool.and_true]
  exact beq_iff_eq.2 hkey

end MetadataTable

/-! ## 2. Statements that are too large -/

/-- Every clause that is joined to a node opens one more parenthesis in front of it. -/
theorem Node.length_le_openSymbols_comb (before : Node) (position : Nat) (clauses : List Clause) :
    clauses.length + before.openSymbols ≤ (before.comb position clauses).openSymbols := by
  induction clauses generalizing before position with
  | nil => exact Nat.le_of_eq (Nat.zero_add _)
  | cons c rest ih =>
    have hrest := ih (.combine before c.connector (.related (.forClause position c))) (position + 1)
    rw [Node.openSymbols] at hrest
    rw [Node.comb, List.length_cons]
    omega

namespace Database

/-- What has too much of something is refused. -/
theorem textRefusal?_of_exceeds {s : Statement} (limit : Limit) (h : limit.bound < s.amount limit) :
    textRefusal? s ≠ none := by
  have hexceeded : s.exceeded? ≠ none := by
    rw [Statement.exceeded?, ne_eq, List.find?_eq_none]
    intro hnone
    have hmem : limit ∈ [Limit.nesting, .height, .arguments] := by cases limit <;> decide
    exact hnone limit hmem (decide_eq_true h)
  obtain ⟨exceeded, hsome⟩ := Option.ne_none_iff_exists'.1 hexceeded
  rw [textRefusal?, hsome]
  exact Option.some_ne_none _

/-- A predicate of a hundred clauses is nested too deep, whatever the clauses are. -/
theorem textRefusal?_of_many {name relation : String} {first : Clause} {rest : List Clause}
    (hmany : Limit.nesting.bound ≤ rest.length) :
    textRefusal? (.countMatches name ⟨relation, .ofClauses first rest⟩) ≠ none := by
  have hopen := Node.length_le_openSymbols_comb (.base (.forClause 0 first)) 1 rest
  refine textRefusal?_of_exceeds .nesting ?_
  show Limit.nesting.bound < 5 + (Node.ofClauses first rest).openSymbols
  rw [Node.ofClauses]
  omega

/-- Statements that differ in their data alone are both refused for their texts or not at all. -/
theorem textRefusal?_congr {s s' : Statement} (hplan : s.plan? = s'.plan?) (hbare : s.bare = s'.bare) :
    textRefusal? s = textRefusal? s' := by
  have htemplate : Template.bare (s.template .sqlite) = Template.bare (s'.template .sqlite) := by
    rw [← Statement.template_bare, ← Statement.template_bare, hbare]
  have hargs : (s.args .sqlite).length = (s'.args .sqlite).length := by
    rw [Statement.args, Statement.args, ← Template.length_args_bare, htemplate,
      Template.length_args_bare]
  have hamount : s.amount = s'.amount := by
    funext limit
    rw [Statement.amount, Statement.amount, hplan, hargs]
  rw [textRefusal?, textRefusal?, Statement.exceeded?, Statement.exceeded?, hamount,
    ← Template.fault?_bare, htemplate, Template.fault?_bare]

theorem textRefusal?_listMatches (table : String) (plan : Plan) (direction : SortDirection)
    (limit offset : Int64) :
    textRefusal? (.listMatches table plan direction limit offset) =
      textRefusal? (.listMatches table plan direction 0 0) :=
  textRefusal?_congr rfl rfl

end Database

/-! ## 3. What the database takes -/

/-- The database takes a metadata search over these rows: it reads both statements, whichever page is
asked for, and holds no value against a pattern that is too long. -/
structure Plan.Taken (table : String) (plan : Plan) (direction : SortDirection)
    (rows : List MetadataRow) : Prop where
  count : Database.textRefusal? (.countMatches table plan) = none
  list : Database.textRefusal? (.listMatches table plan direction 0 0) = none
  short : MetadataTable.reachesLong rows plan.root = false

namespace Repository

variable {r : Repository} {b : Backend} {t : ObjectTable} {rows : List MetadataRow} {p : Predicate}
  {plan : Plan}

/-- What a search does, if its predicate has a plan. -/
theorem metaSearch_of_plan (hplan : Plan.ofPredicate r.metaTable p = .ok plan)
    (options : MetadataSearchOptions) :
    r.metaSearch p options = (do
      let total ← Backend.send (.countMatches r.table plan)
      let ids ← Backend.send (.listMatches r.table plan options.direction (max options.limit 0)
        (max options.offset 0))
      let page ← r.loadAll ids
      pure ⟨total, page⟩) := by
  obtain ⟨first, rest, hp, -⟩ := Plan.ofPredicate_eq_ok_iff.1 hplan
  have hsome : ¬ p.isEmpty = true := by
    rw [Predicate.isEmpty, hp]
    exact Bool.false_ne_true
  unfold metaSearch
  rw [if_neg hsome]
  simp only [hplan]

/-- A search that the database takes answers how many objects satisfy its predicate, and loads the page
of them that it was asked for. -/
theorem metaSearch_of_taken (hrows : b.database.metadata r.metaTable = .ok rows)
    (htable : b.database.objects r.table = .ok t)
    (hplan : Plan.ofPredicate r.metaTable p = .ok plan) (options : MetadataSearchOptions)
    (htaken : plan.Taken r.table options.direction rows) :
    r.metaSearch p options b =
      (SearchResult.mk (t.satisfying rows p).length <$>
        r.loadAll (options.page (t.satisfying rows p)))
      ((b.record (.statement (.countMatches r.table plan) true)).record
        (.statement (.listMatches r.table plan options.direction (max options.limit 0)
          (max options.offset 0)) true)) := by
  obtain ⟨hcount, hlist, hshort⟩ := htaken
  rw [metaSearch_of_plan hplan]
  obtain ⟨first, rest, hp, -, rfl⟩ := Plan.ofPredicate_eq_ok_iff.1 hplan
  have hpage := (Database.textRefusal?_listMatches r.table ⟨r.metaTable, .ofClauses first rest⟩
    options.direction (max options.limit 0) (max options.offset 0)).trans hlist
  -- The journal is all that the first statement changes, so the second finds the same tables.
  rw [Action.bind_of_ok (Backend.send_of_carryOut hcount
    (Database.carryOut_countMatches hp hrows htable hshort))]
  exact Action.bind_of_ok (Backend.send_of_carryOut (b := b.record _) hpage
    (Database.carryOut_listMatches hp hrows htable hshort options))

/-- A search whose count is refused asks for nothing more. -/
theorem metaSearch_of_count_refused (hplan : Plan.ofPredicate r.metaTable p = .ok plan)
    (options : MetadataSearchOptions) {refusal : Refusal}
    (hrun : b.database.run (.countMatches r.table plan) = .error refusal) :
    r.metaSearch p options b =
      (.error (.storage (.database refusal.report)),
        b.record (.statement (.countMatches r.table plan) refusal.wasPrepared)) := by
  rw [metaSearch_of_plan hplan]
  exact Action.bind_of_error (Backend.send_of_error hrun)

/-- One whose list is refused loads nothing. -/
theorem metaSearch_of_list_refused (hrows : b.database.metadata r.metaTable = .ok rows)
    (htable : b.database.objects r.table = .ok t)
    (hplan : Plan.ofPredicate r.metaTable p = .ok plan) (options : MetadataSearchOptions)
    (hcount : Database.textRefusal? (.countMatches r.table plan) = none)
    (hshort : MetadataTable.reachesLong rows plan.root = false) {refusal : Refusal}
    (hlist : Database.textRefusal? (.listMatches r.table plan options.direction 0 0) = some refusal) :
    r.metaSearch p options b =
      (.error (.storage (.database refusal.report)),
        (b.record (.statement (.countMatches r.table plan) true)).record
          (.statement (.listMatches r.table plan options.direction (max options.limit 0)
            (max options.offset 0)) refusal.wasPrepared)) := by
  rw [metaSearch_of_plan hplan]
  obtain ⟨first, rest, hp, -, rfl⟩ := Plan.ofPredicate_eq_ok_iff.1 hplan
  have hpage := (Database.textRefusal?_listMatches r.table ⟨r.metaTable, .ofClauses first rest⟩
    options.direction (max options.limit 0) (max options.offset 0)).trans hlist
  rw [Action.bind_of_ok (Backend.send_of_carryOut hcount
    (Database.carryOut_countMatches hp hrows htable hshort))]
  refine Action.bind_of_error (Backend.send_of_error ?_)
  rw [Database.run, hpage]

/-- A search that it does not take fails, and nothing has changed. -/
theorem metaSearch_of_not_taken (hrows : b.database.metadata r.metaTable = .ok rows)
    (htable : b.database.objects r.table = .ok t)
    (hplan : Plan.ofPredicate r.metaTable p = .ok plan) (options : MetadataSearchOptions)
    (htaken : ¬ plan.Taken r.table options.direction rows) :
    ∃ refusal c, b.SameState c ∧
      r.metaSearch p options b = (.error (.storage (.database (Refusal.report refusal))), c) := by
  cases hcount : Database.textRefusal? (.countMatches r.table plan) with
  | some refusal =>
    have hrun : b.database.run (.countMatches r.table plan) = .error refusal := by
      rw [Database.run, hcount]
    refine ⟨refusal, _, ?_, metaSearch_of_count_refused hplan options hrun⟩
    exact ⟨rfl, rfl⟩
  | none =>
    cases hshort : MetadataTable.reachesLong rows plan.root with
    | true =>
      have hrun : b.database.run (.countMatches r.table plan) = .error .longPattern := by
        obtain ⟨first, rest, -, -, rfl⟩ := Plan.ofPredicate_eq_ok_iff.1 hplan
        rw [Database.run, hcount]
        exact Database.carryOut_countMatches_of_reachesLong hrows htable hshort
      refine ⟨.longPattern, _, ?_, metaSearch_of_count_refused hplan options hrun⟩
      exact ⟨rfl, rfl⟩
    | false =>
      cases hlist : Database.textRefusal? (.listMatches r.table plan options.direction 0 0) with
      | some refusal =>
        refine ⟨refusal, _, ?_,
          metaSearch_of_list_refused hrows htable hplan options hcount hshort hlist⟩
        exact ⟨rfl, rfl⟩
      | none => exact absurd ⟨hcount, hlist, hshort⟩ htaken

end Repository

/-! ## 4. The search -/

/-- **A metadata search finds what satisfies its predicate.** Whatever the tables hold, the count
and the page that the two statements of a search answer are those of the list of all objects that
are there and of which the clauses hold, folded from the left, if evaluating their condition does not
come to a pattern that is too long. It does not if no value is too long. If the database takes the
search, it answers this count and loads this page, and otherwise it fails and nothing has changed. -/
theorem Repository.metaSearch_finds_satisfying (r : Repository) (p : Predicate)
    (options : MetadataSearchOptions) (b : Backend) (rows : List MetadataRow) (table : ObjectTable)
    (hclauses : p.clauses ≠ []) (hvalues : ∀ c ∈ p.clauses, c.value.values ≠ [])
    (hrows : b.database.metadata r.metaTable = .ok rows)
    (htable : b.database.objects r.table = .ok table) :
    (∀ id, id ∈ table.satisfying rows p ↔
      id ∈ table.rows ∧ p.holdsOf (MetadataTable.entriesOf rows id) = true) ∧
    (table.satisfying rows p).Pairwise (· < ·) ∧
    ∃ plan, Plan.ofPredicate r.metaTable p = .ok plan ∧
      let count := Statement.countMatches r.table plan
      let list := Statement.listMatches r.table plan options.direction (max options.limit 0)
        (max options.offset 0)
      ((∀ c ∈ p.clauses, c.IsShort) → MetadataTable.reachesLong rows plan.root = false) ∧
      (MetadataTable.reachesLong rows plan.root = false →
        b.database.carryOut count = .ok ((table.satisfying rows p).length, b.database) ∧
        b.database.carryOut list = .ok (options.page (table.satisfying rows p), b.database)) ∧
      (plan.Taken r.table options.direction rows →
        r.metaSearch p options b =
          (SearchResult.mk (table.satisfying rows p).length <$>
            r.loadAll (options.page (table.satisfying rows p)))
          ((b.record (.statement count true)).record (.statement list true))) ∧
      (¬ plan.Taken r.table options.direction rows →
        ∃ refusal later, b.SameState later ∧ r.metaSearch p options b =
          (.error (.storage (.database (Refusal.report refusal))), later)) := by
  refine ⟨fun id => ObjectTable.mem_satisfying, table.pairwise_satisfying rows p, ?_⟩
  obtain ⟨first, rest, hp⟩ := List.exists_cons_of_ne_nil hclauses
  have hplan : Plan.ofPredicate r.metaTable p = .ok ⟨r.metaTable, .ofClauses first rest⟩ :=
    Plan.ofPredicate_eq_ok_iff.2 ⟨first, rest, hp, hvalues, rfl⟩
  refine ⟨_, hplan, fun hshort => ?_, fun hshort => ⟨?_, ?_⟩,
    metaSearch_of_taken hrows htable hplan options,
    metaSearch_of_not_taken hrows htable hplan options⟩
  · rw [hp] at hshort
    exact MetadataTable.reachesLong_ofClauses_eq_false hshort
  · exact Database.carryOut_countMatches hp hrows htable hshort
  · exact Database.carryOut_listMatches hp hrows htable hshort options

/-! ## 5. Predicates with too much of something

Stars ask for all values of a key, however many they are, and a clause that is joined to itself asks for
what it asks for alone. With too many of them the database takes neither. -/

namespace Predicate

variable {entries : List (String × String)} {key value : String} {clause : Clause}

/-- Asks for any value of a key. -/
def starred (key : String) (count : Nat) : Predicate :=
  .matching key (.one (ValueTest.stars count))

/-- A clause over and over. -/
def repeated (clause : Clause) (count : Nat) : Predicate :=
  ⟨.replicate count clause⟩

theorem holdsOf_starred (h : (key, value) ∈ entries) (count : Nat) :
    (starred key (count + 1)).holdsOf entries = true := by
  show Clause.holdsOf entries _ = true
  rw [Clause.holdsOf, List.any_eq_true]
  refine ⟨_, h, ?_⟩
  rw [Bool.and_eq_true, beq_iff_eq]
  refine ⟨rfl, ?_⟩
  show [ValueTest.stars (count + 1)].any _ = true
  rw [List.any_cons, ValueTest.accepts_stars, Bool.true_or]

/-- A clause holds as often as one likes. -/
theorem holdsOf_repeated (h : clause.holdsOf entries = true) (count : Nat) :
    (repeated clause (count + 1)).holdsOf entries = true := by
  show (List.replicate count clause).foldl _ (clause.holdsOf entries) = true
  rw [h]
  induction count with
  | zero => rfl
  | succ count ih =>
    have hclause : clause.connector.holds true (clause.holdsOf entries) = true := by
      rw [h]
      cases clause.connector <;> rfl
    rw [List.replicate_succ, List.foldl_cons, hclause]
    exact ih

end Predicate

theorem Plan.ofPredicate_starred (relation key : String) (count : Nat) :
    Plan.ofPredicate relation (.starred key count) =
      .ok ⟨relation, .ofClauses ⟨.or, key, .one (ValueTest.stars count)⟩ []⟩ :=
  Plan.ofPredicate_eq_ok_iff.2
    ⟨_, [], rfl, List.forall_mem_singleton.2 (List.cons_ne_nil _ _), rfl⟩

theorem Plan.ofPredicate_repeated {clause : Clause} (hvalues : clause.value.values ≠ [])
    (relation : String) (count : Nat) :
    Plan.ofPredicate relation (.repeated clause (count + 1)) =
      .ok ⟨relation, .ofClauses clause (.replicate count clause)⟩ := by
  refine Plan.ofPredicate_eq_ok_iff.2 ⟨clause, _, rfl, fun c hc => ?_, rfl⟩
  rw [List.eq_of_mem_replicate hc]
  exact hvalues

namespace Repository

variable {r : Repository} {b : Backend} {t : ObjectTable} {rows : List MetadataRow} {key : String}
  {clause : Clause} {count : Nat}

/-- Too many stars have no answer where there is a value to be found. -/
theorem metaSearch_starred (hrows : b.database.metadata r.metaTable = .ok rows)
    (htable : b.database.objects r.table = .ok t) {row : MetadataRow} (hrow : row ∈ rows)
    (hkey : row.key = key) (hlong : Like.longestPattern < count) (options : MetadataSearchOptions) :
    ∃ refusal later, b.SameState later ∧ r.metaSearch (.starred key count) options b =
      (.error (.storage (.database (Refusal.report refusal))), later) := by
  refine metaSearch_of_not_taken hrows htable (Plan.ofPredicate_starred _ key count) options
    fun htaken => ?_
  exact Bool.false_ne_true (htaken.short.symm.trans
    (MetadataTable.reachesLong_ofClauses rfl (ValueTest.isTooLong_stars hlong) hrow hkey))

/-- Too many clauses have no answer, whatever is there. -/
theorem metaSearch_repeated (hrows : b.database.metadata r.metaTable = .ok rows)
    (htable : b.database.objects r.table = .ok t) (hvalues : clause.value.values ≠ [])
    (hmany : Limit.nesting.bound < count) (options : MetadataSearchOptions) :
    ∃ refusal later, b.SameState later ∧ r.metaSearch (.repeated clause count) options b =
      (.error (.storage (.database (Refusal.report refusal))), later) := by
  obtain ⟨others, rfl⟩ := Nat.exists_eq_succ_of_ne_zero (Nat.ne_zero_of_lt hmany)
  refine metaSearch_of_not_taken hrows htable (Plan.ofPredicate_repeated hvalues _ others) options
    fun htaken => ?_
  refine Database.textRefusal?_of_many ?_ htaken.count
  rw [List.length_replicate]
  exact Nat.le_of_lt_succ hmany

end Repository

/-! ## 6. A small store

Three lamps, of which the first has two colours and the last has no metadata, and a red row that
belongs to no lamp. A search for any colour at all has no answer if it is asked for with too many stars,
and one for a blue lamp has none if it is asked for too often. -/

namespace Lamps

def repository : Repository := .ofType ⟨.sqlite, "", "", "", ""⟩ ⟨"lamp", by decide⟩

def objects : ObjectTable :=
  ⟨.binary, .ofList [((1 : Int64), "desk"), (2, "hall"), (3, "attic")], 3⟩

def rows : List MetadataRow :=
  [⟨1, "color", "blue"⟩, ⟨1, "color", "red"⟩, ⟨2, "size", "XL"⟩, ⟨9, "color", "red"⟩]

def backend : Backend :=
  .start ((Database.empty.setTable "lamp" (.objects objects)).setTable "lamp_meta" (.metadata rows))
    .memory

def redOrLarge : Predicate := (Predicate.matching "color" (.one "red")).join .or "size" (.one "*l")

def plan : Plan :=
  ⟨"lamp_meta", .combine (.base ⟨0, "color", [⟨.exact, "red"⟩]⟩) .or
    (.related ⟨1, "size", [⟨.like, "%l"⟩]⟩)⟩

end Lamps

open Lamps in
theorem Repository.metaSearch_finds_satisfying_lamps :
    redOrLarge.clauses ≠ [] ∧ (∀ c ∈ redOrLarge.clauses, c.value.values ≠ []) ∧
    backend.database.metadata repository.metaTable = .ok rows ∧
    backend.database.objects repository.table = .ok objects ∧
    Plan.ofPredicate repository.metaTable redOrLarge = .ok plan ∧
    plan.Taken repository.table .descending rows ∧
    backend.database.carryOut (.countMatches "lamp" plan) = .ok (2, backend.database) ∧
    backend.database.carryOut (.listMatches "lamp" plan .descending 50 0) =
      .ok ([2, 1], backend.database) ∧
    repository.metaSearch redOrLarge {} backend =
      (SearchResult.mk 2 <$> repository.loadAll [2, 1])
        ((backend.record (.statement (.countMatches "lamp" plan) true)).record
          (.statement (.listMatches "lamp" plan .descending 50 0) true)) := by
  have hclauses : redOrLarge.clauses ≠ [] := by decide
  have hvalues : ∀ c ∈ redOrLarge.clauses, c.value.values ≠ [] := by decide
  have hrows : backend.database.metadata repository.metaTable = .ok rows := by decide +kernel
  have hobjects : backend.database.objects repository.table = .ok objects := by decide +kernel
  have hfound : objects.satisfying rows redOrLarge = [1, 2] := by
    rw [← MetadataTable.toList_found rows objects (p := redOrLarge) rfl]
    decide +kernel
  have hplan : Plan.ofPredicate repository.metaTable redOrLarge = .ok plan := by decide +kernel
  have htaken : plan.Taken repository.table .descending rows :=
    ⟨by decide +kernel, by decide +kernel, by decide +kernel⟩
  obtain ⟨-, -, plan', hplan', -, hanswers, hsearch, -⟩ :=
    metaSearch_finds_satisfying repository redOrLarge {} backend rows objects hclauses hvalues
      hrows hobjects
  obtain rfl : plan = plan' := Except.ok.inj (hplan.symm.trans hplan')
  rw [hfound] at hanswers hsearch
  obtain ⟨hcount, hlist⟩ := hanswers htaken.short
  exact ⟨hclauses, hvalues, hrows, hobjects, hplan, htaken, hcount, hlist, hsearch htaken⟩

open Lamps in
/-- The desk lamp has a colour and is blue, and it is not selected. -/
theorem Repository.blue_lamp_not_selected :
    backend.database.metadata repository.metaTable = .ok rows ∧
    backend.database.objects repository.table = .ok objects ∧
    ∀ p ∈ [Predicate.starred "color" 50001, .repeated ⟨.or, "color", .one "blue"⟩ 1100],
      p.clauses ≠ [] ∧ (∀ c ∈ p.clauses, c.value.values ≠ []) ∧ 1 ∈ objects.satisfying rows p ∧
      ∀ options result later, repository.metaSearch p options backend ≠ (.ok result, later) := by
  have hrows : backend.database.metadata repository.metaTable = .ok rows := by decide +kernel
  have hobjects : backend.database.objects repository.table = .ok objects := by decide +kernel
  have hdesk : (1 : Int64) ∈ objects.rows := by decide +kernel
  have hlong : Like.longestPattern < 50001 := by decide
  have hmany : Limit.nesting.bound < 1100 := by decide
  have hvalues : (⟨.or, "color", .one "blue"⟩ : Clause).value.values ≠ [] := List.cons_ne_nil _ _
  have hblue : ("color", "blue") ∈ MetadataTable.entriesOf rows 1 :=
    MetadataTable.mem_entriesOf.2 ⟨⟨1, "color", "blue"⟩, List.mem_cons_self, rfl, rfl⟩
  refine ⟨hrows, hobjects, List.forall_mem_cons.2 ⟨⟨?_, ?_, ?_, ?_⟩,
    List.forall_mem_singleton.2 ⟨?_, ?_, ?_, ?_⟩⟩⟩
  · exact List.cons_ne_nil _ _
  · exact List.forall_mem_singleton.2 (List.cons_ne_nil _ _)
  · exact ObjectTable.mem_satisfying.2 ⟨hdesk, Predicate.holdsOf_starred hblue 50000⟩
  · intro options result later hanswered
    obtain ⟨_, _, -, hrefused⟩ := metaSearch_starred hrows hobjects
      (List.mem_cons_self : ⟨1, "color", "blue"⟩ ∈ rows) rfl hlong options
    cases hanswered.symm.trans hrefused
  · exact List.cons_ne_nil _ _
  · intro c hc
    rw [List.eq_of_mem_replicate hc]
    exact hvalues
  · have hclause : Clause.holdsOf (MetadataTable.entriesOf rows 1) ⟨.or, "color", .one "blue"⟩ = true :=
      List.any_eq_true.2 ⟨_, hblue, by decide +kernel⟩
    exact ObjectTable.mem_satisfying.2 ⟨hdesk, Predicate.holdsOf_repeated hclause 1099⟩
  · intro options result later hanswered
    obtain ⟨_, _, -, hrefused⟩ := metaSearch_repeated hrows hobjects hvalues hmany options
    cases hanswered.symm.trans hrefused

end ObjectCatalog
