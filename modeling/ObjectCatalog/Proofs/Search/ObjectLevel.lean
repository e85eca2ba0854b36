import ObjectCatalog.Proofs.Predicate.PlanShape
import ObjectCatalog.Proofs.Repository.Action

/-!
# What a metadata search finds

The query of a metadata search is evaluated row by row. The first clause looks at the starting row
and at nothing else, the later clauses look at all rows of its object, and an object is found once
for every starting row that passes. The meaning of a predicate (`Predicate.holdsOf`) looks at one
object at a time and at all of its entries at once. Here the two are shown to agree, whatever the
tables hold: keys with several rows, objects without metadata, rows without an object.

What makes them agree is that the starting row occurs once in the condition, at the far left of the
comb, and that both connectives are monotone. So an object is found by some starting row exactly
when it would be found by a row that passes the first clause, if it has one, and by any row at all,
if it has none (`exists_row_foldl_holds`).
-/

namespace ObjectCatalog

/-! ## Folds of connectives -/

/-- Both connectives are monotone on the left. -/
theorem Connector.holds_mono (c : Connector) {a a' : Bool} (h : a = true → a' = true) (b : Bool)
    (hb : c.holds a b = true) : c.holds a' b = true := by
  cases c with
  | and =>
    rw [Connector.holds, Bool.and_eq_true] at hb ⊢
    exact ⟨h hb.1, hb.2⟩
  | or =>
    rw [Connector.holds, Bool.or_eq_true] at hb ⊢
    exact hb.imp_left h

/-- A fold of connectives is monotone in what it starts from. -/
theorem foldl_holds_mono (clauses : List Clause) (truth : Clause → Bool) {a a' : Bool}
    (h : a = true → a' = true)
    (ha : clauses.foldl (fun before c => c.connector.holds before (truth c)) a = true) :
    clauses.foldl (fun before c => c.connector.holds before (truth c)) a' = true := by
  induction clauses generalizing a a' with
  | nil => exact h ha
  | cons c rest ih =>
    rw [List.foldl_cons] at ha ⊢
    exact ih (fun hc => c.connector.holds_mono h (truth c) hc) ha

/-- A fold of connectives over clauses of which none holds, from something that does not hold. -/
theorem foldl_holds_false (clauses : List Clause) :
    clauses.foldl (fun before c => c.connector.holds before false) false = false := by
  induction clauses with
  | nil => rfl
  | cons c rest ih =>
    have hc : c.connector.holds false false = false := by cases c.connector <;> rfl
    rw [List.foldl_cons, hc]
    exact ih

/-- A fold that starts from a test of one row holds for some row exactly when the fold that starts
from "some row passes" holds. If there are no rows the fold must not hold by itself. -/
theorem exists_row_foldl_holds {α : Type} (rows : List α) (test : α → Bool) (clauses : List Clause)
    (truth : Clause → Bool) (hnone : rows = [] → ∀ c, truth c = false) :
    (∃ row ∈ rows,
      clauses.foldl (fun before c => c.connector.holds before (truth c)) (test row) = true) ↔
    clauses.foldl (fun before c => c.connector.holds before (truth c)) (rows.any test) = true := by
  constructor
  · rintro ⟨row, hrow, hfold⟩
    refine foldl_holds_mono clauses truth (fun htest => ?_) hfold
    exact List.any_eq_true.2 ⟨row, hrow, htest⟩
  · intro hfold
    -- If some row passes, it is the one to start from; if none does, any row will do.
    by_cases hany : rows.any test = true
    · obtain ⟨row, hrow, htest⟩ := List.any_eq_true.1 hany
      refine ⟨row, hrow, ?_⟩
      rw [hany] at hfold
      rw [htest]
      exact hfold
    · have hfalse : rows.any test = false := by simpa using hany
      cases rows with
      | nil =>
        -- Without rows no clause holds, so neither does their fold.
        have htruth : truth = fun _ => false := funext fun c => hnone rfl c
        rw [htruth, List.any_nil, foldl_holds_false] at hfold
        exact absurd hfold Bool.false_ne_true
      | cons row rest =>
        refine ⟨row, List.mem_cons_self, ?_⟩
        rw [List.any_cons, Bool.or_eq_false_iff] at hfalse
        rw [hfalse.1]
        rw [List.any_cons, hfalse.1, hfalse.2] at hfold
        exact hfold

/-! ## Rows and entries -/

theorem KeyFilter.accepts_forClause (position : Nat) (c : Clause) (row : MetadataRow) :
    (KeyFilter.forClause position c).accepts row = c.holdsOf [(row.key, row.value)] := by
  simp only [accepts, forClause, Clause.holdsOf, List.any_map, List.any_cons, List.any_nil,
    Bool.or_false, Function.comp_def]

theorem MetadataTable.mem_entriesOf {rows : List MetadataRow} {object : Int64}
    {entry : String × String} :
    entry ∈ entriesOf rows object ↔
      ∃ row ∈ rows, row.object = object ∧ (row.key, row.value) = entry := by
  simp [entriesOf, List.mem_mergeSort, and_assoc]

/-- A clause holds of an object exactly when it holds of one of its rows. -/
theorem Clause.holdsOf_entriesOf (rows : List MetadataRow) (object : Int64) (c : Clause) :
    c.holdsOf (MetadataTable.entriesOf rows object) =
      (rows.filter (·.object == object)).any fun row => c.holdsOf [(row.key, row.value)] := by
  rw [Bool.eq_iff_iff, Clause.holdsOf, List.any_eq_true, List.any_eq_true]
  constructor
  · rintro ⟨entry, hentry, hc⟩
    obtain ⟨row, hrow, hobject, rfl⟩ := MetadataTable.mem_entriesOf.1 hentry
    refine ⟨row, List.mem_filter.2 ⟨hrow, beq_iff_eq.2 hobject⟩, ?_⟩
    rw [Clause.holdsOf, List.any_cons, hc, Bool.true_or]
  · rintro ⟨row, hrow, hc⟩
    obtain ⟨hmem, hobject⟩ := List.mem_filter.1 hrow
    rw [Clause.holdsOf, List.any_cons, List.any_nil, Bool.or_false] at hc
    exact ⟨_, MetadataTable.mem_entriesOf.2 ⟨row, hmem, beq_iff_eq.1 hobject, rfl⟩, hc⟩

/-- A comb is a fold: only what it starts from looks at the starting row itself. -/
theorem Node.accepts_comb (rows : List MetadataRow) (start : MetadataRow) (before : Node)
    (position : Nat) (clauses : List Clause) :
    (before.comb position clauses).accepts rows start =
      clauses.foldl (fun b c => c.connector.holds b
        (c.holdsOf (MetadataTable.entriesOf rows start.object))) (before.accepts rows start) := by
  induction clauses generalizing before position with
  | nil => rfl
  | cons c rest ih =>
    have hrelated : (Node.related (.forClause position c)).accepts rows start =
        c.holdsOf (MetadataTable.entriesOf rows start.object) := by
      rw [Clause.holdsOf_entriesOf, List.any_filter, Node.accepts]
      simp only [KeyFilter.accepts_forClause]
    rw [Node.comb, ih, List.foldl_cons, Node.accepts, hrelated]

/-- **The row-wise query agrees with the meaning.** Some starting row of an object passes the plan
exactly when the predicate holds of the object's entries. -/
theorem exists_accepts_ofClauses_iff (rows : List MetadataRow) (object : Int64) {p : Predicate}
    {first : Clause} {rest : List Clause} (hp : p.clauses = first :: rest) :
    (∃ start ∈ rows, start.object = object ∧
      (Node.ofClauses first rest).accepts rows start = true) ↔
    p.holdsOf (MetadataTable.entriesOf rows object) = true := by
  -- Clauses after the first look at all rows of the object, whichever row is the starting one. So
  -- the fold can be taken over the object's own rows, with one truth value for each clause.
  let own := rows.filter (·.object == object)
  let truth (c : Clause) := c.holdsOf (MetadataTable.entriesOf rows object)
  have hown : ∀ start, start ∈ own ↔ start ∈ rows ∧ start.object = object := fun start => by
    rw [List.mem_filter, beq_iff_eq]
  have hnone : own = [] → ∀ c, truth c = false := fun h c => by
    show c.holdsOf (MetadataTable.entriesOf rows object) = false
    rw [Clause.holdsOf_entriesOf, show rows.filter (·.object == object) = [] from h, List.any_nil]
  have hfold := exists_row_foldl_holds own (fun row => first.holdsOf [(row.key, row.value)]) rest
    truth hnone
  have hfirst : own.any (fun row => first.holdsOf [(row.key, row.value)]) = truth first :=
    (Clause.holdsOf_entriesOf rows object first).symm
  rw [hfirst] at hfold
  rw [Predicate.holdsOf, hp]
  refine Iff.trans ?_ hfold
  constructor
  · rintro ⟨start, hstart, rfl, haccepts⟩
    refine ⟨start, (hown start).2 ⟨hstart, rfl⟩, ?_⟩
    rw [Node.ofClauses, Node.accepts_comb, Node.accepts, KeyFilter.accepts_forClause] at haccepts
    exact haccepts
  · rintro ⟨start, hstart, haccepts⟩
    obtain ⟨hmem, rfl⟩ := (hown start).1 hstart
    refine ⟨start, hmem, rfl, ?_⟩
    rw [Node.ofClauses, Node.accepts_comb, Node.accepts, KeyFilter.accepts_forClause]
    exact haccepts

/-! ## The join, DISTINCT and the order -/

/-- The ids of the objects of which a predicate holds, in increasing order. -/
def ObjectTable.satisfying (table : ObjectTable) (rows : List MetadataRow) (p : Predicate) :
    List Int64 :=
  table.rows.keys.filter fun id => p.holdsOf (MetadataTable.entriesOf rows id)

theorem ObjectTable.mem_satisfying {table : ObjectTable} {rows : List MetadataRow} {p : Predicate}
    {id : Int64} :
    id ∈ table.satisfying rows p ↔
      id ∈ table.rows ∧ p.holdsOf (MetadataTable.entriesOf rows id) = true := by
  rw [satisfying, List.mem_filter, Std.ExtTreeMap.mem_keys]

theorem ObjectTable.pairwise_satisfying (table : ObjectTable) (rows : List MetadataRow)
    (p : Predicate) : (table.satisfying rows p).Pairwise (· < ·) := by
  have hkeys : table.rows.keys.Pairwise (· < ·) :=
    table.rows.ordered_keys.imp fun h => Std.compare_eq_lt.1 h
  exact hkeys.filter _

/-- The join keeps the starting rows of objects that are there. -/
theorem MetadataTable.mem_matchedIds {rows : List MetadataRow} {objects : List (Int64 × String)}
    {root : Node} {id : Int64} :
    id ∈ matchedIds rows objects root ↔
      (∃ name, (id, name) ∈ objects) ∧
        ∃ start ∈ rows, start.object = id ∧ root.accepts rows start = true := by
  simp only [matchedIds, List.mem_flatMap, List.mem_map, List.mem_filter, Bool.and_eq_true,
    beq_iff_eq]
  constructor
  · rintro ⟨start, hstart, ⟨i, name⟩, ⟨hobject, hid, haccepts⟩, rfl⟩
    exact ⟨⟨name, hid ▸ hobject⟩, start, hstart, rfl, haccepts⟩
  · rintro ⟨⟨name, hobject⟩, start, hstart, rfl, haccepts⟩
    exact ⟨start, hstart, (start.object, name), ⟨hobject, rfl, haccepts⟩, rfl⟩

/-- What the plan of a predicate finds is what satisfies the predicate, in the same order: both
lists are strictly increasing and have the same members. -/
theorem MetadataTable.toList_found (rows : List MetadataRow) (table : ObjectTable) {p : Predicate}
    {first : Clause} {rest : List Clause} (hp : p.clauses = first :: rest) :
    (found rows table.toList (.ofClauses first rest)).toList = table.satisfying rows p := by
  have hfound : (found rows table.toList (.ofClauses first rest)).toList.Pairwise (· < ·) :=
    Std.ExtTreeSet.ordered_toList.imp fun h => Std.compare_eq_lt.1 h
  have hsatisfying := table.pairwise_satisfying rows p
  have hmem : ∀ id, id ∈ (found rows table.toList (.ofClauses first rest)).toList ↔
      id ∈ table.satisfying rows p := fun id => by
    rw [Std.ExtTreeSet.mem_toList, found, Std.ExtTreeSet.mem_ofList, List.contains_iff_mem,
      mem_matchedIds, ObjectTable.mem_satisfying, exists_accepts_ofClauses_iff rows id hp]
    refine and_congr_left' ?_
    simp only [ObjectTable.toList, Std.ExtTreeMap.mem_toList_iff_getElem?_eq_some,
      ← Option.isSome_iff_exists, Std.ExtTreeMap.isSome_getElem?_iff_mem]
  -- Strictly increasing lists have no entry twice, so the same members make them permutations of
  -- each other, and the same order makes them equal.
  have hperm := (List.perm_ext_iff_of_nodup (hfound.imp Int64.ne_of_lt) (hsatisfying.imp Int64.ne_of_lt)).2 hmem
  exact hperm.eq_of_pairwise (fun a b _ _ hab hba => absurd hab (Int64.lt_asymm hba)) hfound hsatisfying

/-! ## The two statements of a search -/

/-- The page that the options of a metadata search ask for, out of all ids found: in their order,
after the offset, up to the limit. A negative number counts as zero. -/
def MetadataSearchOptions.page (options : MetadataSearchOptions) (ids : List Int64) : List Int64 :=
  let ordered :=
    match options.direction with
    | .ascending => ids
    | .descending => ids.reverse
  (ordered.drop (max options.offset 0).toInt.toNat).take (max options.limit 0).toInt.toNat

theorem window_max {α : Type} (limit offset : Int64) (items : List α) :
    window (max limit 0) offset items =
      (items.drop offset.toInt.toNat).take (max limit 0).toInt.toNat := by
  have hlimit : ¬ max limit 0 < 0 := by
    show ¬ (if limit ≤ 0 then 0 else limit) < 0
    split
    · exact Int64.lt_irrefl
    · rename_i h
      exact fun hlt => h (Int64.le_of_lt hlt)
  rw [window, if_neg hlimit]

section Statements

variable {db : Database} {rows : List MetadataRow} {table : ObjectTable} {name relation : String}
  {p : Predicate} {first : Clause} {rest : List Clause}

/-- What a metadata search over tables that are there finds, or that it is refused. -/
theorem Database.found_eq (root : Node) (hrows : db.metadata relation = .ok rows)
    (htable : db.objects name = .ok table) :
    db.found name ⟨relation, root⟩ =
      if MetadataTable.reachesLong rows root then .error .longPattern
      else .ok (MetadataTable.found rows table.toList root) := by
  unfold Database.found
  rw [hrows, htable]
  rfl

theorem Database.found_ofClauses (hp : p.clauses = first :: rest)
    (hrows : db.metadata relation = .ok rows) (htable : db.objects name = .ok table)
    (hshort : MetadataTable.reachesLong rows (.ofClauses first rest) = false) :
    ∃ ids, db.found name ⟨relation, .ofClauses first rest⟩ = .ok ids ∧
      ids.toList = table.satisfying rows p := by
  refine ⟨MetadataTable.found rows table.toList (.ofClauses first rest), ?_,
    MetadataTable.toList_found rows table hp⟩
  rw [found_eq _ hrows htable, hshort, if_neg Bool.false_ne_true]

theorem Database.carryOut_countMatches (hp : p.clauses = first :: rest)
    (hrows : db.metadata relation = .ok rows) (htable : db.objects name = .ok table)
    (hshort : MetadataTable.reachesLong rows (.ofClauses first rest) = false) :
    db.carryOut (.countMatches name ⟨relation, .ofClauses first rest⟩) =
      .ok ((table.satisfying rows p).length, db) := by
  obtain ⟨ids, hids, hlist⟩ := found_ofClauses hp hrows htable hshort
  rw [← hlist, Std.ExtTreeSet.length_toList]
  rw [Database.carryOut, hids]
  rfl

theorem Database.carryOut_listMatches (hp : p.clauses = first :: rest)
    (hrows : db.metadata relation = .ok rows) (htable : db.objects name = .ok table)
    (hshort : MetadataTable.reachesLong rows (.ofClauses first rest) = false)
    (options : MetadataSearchOptions) :
    db.carryOut (.listMatches name ⟨relation, .ofClauses first rest⟩ options.direction
      (max options.limit 0) (max options.offset 0)) =
      .ok (options.page (table.satisfying rows p), db) := by
  obtain ⟨ids, hids, hlist⟩ := found_ofClauses hp hrows htable hshort
  rw [← hlist, MetadataSearchOptions.page, ← window_max]
  rw [Database.carryOut, hids]
  rfl

/-- A value that is held against a pattern that is too long ends the count. -/
theorem Database.carryOut_countMatches_of_reachesLong {root : Node}
    (hrows : db.metadata relation = .ok rows) (htable : db.objects name = .ok table)
    (hlong : MetadataTable.reachesLong rows root = true) :
    db.carryOut (.countMatches name ⟨relation, root⟩) = .error .longPattern := by
  rw [Database.carryOut, found_eq root hrows htable, hlong, if_pos rfl]
  rfl

end Statements

end ObjectCatalog
