import ObjectCatalog.Proofs.Repository.Others
import ObjectCatalog.Proofs.Search.ByName
import ObjectCatalog.Proofs.Search.Listing
import ObjectCatalog.Proofs.Sql.Bare
import ObjectCatalog.Proofs.Text.Trimming

/-!
# The pages of a search

A search answers a page at a time: an offset and a limit select a part of a list, and the objects of this
part are loaded. Here it is shown that all pages of a search are parts of one list
(`Repository.Pages`), so they can be put together again: pages of one size, one after another, are a part
of the list as well, and enough of them are the whole list (`Repository.Pages.readPages_eq`).

A page is loaded object by object, and each of these lookups may answer from the cache. What it answers
is in the tables all the same (`Repository.loadAll_eq`), and it leaves a repository that serves. So the
list does not depend on what the cache holds, and the page after it is of the same list.

Which page is asked for makes no difference to whether a search is answered. A pattern can be too long
for the database and a predicate can have too many clauses, and then no page is answered
(`Repository.search_of_not_takes`, and for metadata `Repository.metaSearch_of_not_taken`).
-/

namespace ObjectCatalog

/-! ## 1. Pages -/

/-- The pages of a search from an offset on, one after another: this many, of this size. -/
def readPages (search : Int64 → Int64 → Action SearchResult) (size : Int64) :
    Nat → Int64 → Action (List NamedObject)
  | 0, _ => pure []
  | count + 1, offset => do
    let result ← search offset size
    let others ← readPages search size count (offset + size)
    pure (result.page ++ others)

/-- All pages of a search are parts of one list, whatever the cache holds, and to answer one leaves the
database and all that a repository needs to serve. -/
def Repository.Pages (r : Repository) (db : Database) (t : ObjectTable) (rows : List MetadataRow)
    (search : Int64 → Int64 → Action SearchResult) (listed : List NamedObject) : Prop :=
  ∀ {b : Backend}, r.Serves b t rows → b.database = db → ∀ offset limit, ∃ c,
    search offset limit b = (.ok ⟨listed.length, part offset limit listed⟩, c) ∧
    r.Serves c t rows ∧ c.database = db

namespace Repository

variable {r : Repository} {b : Backend} {db : Database} {t : ObjectTable} {rows : List MetadataRow}
  {search : Int64 → Int64 → Action SearchResult} {listed : List NamedObject} {size offset : Int64}

/-- A search that loads parts of a list of ids has pages, if all of them are there. -/
theorem pages_of_ids {ids : List Int64} (hthere : ∀ id ∈ ids, t.Has id)
    (h : ∀ {b : Backend}, r.Serves b t rows → b.database = db → ∀ offset limit, ∃ c,
      search offset limit b = (.ok ⟨ids.length, t.load rows (part offset limit ids)⟩, c) ∧
      r.Serves c t rows ∧ c.database = b.database) :
    r.Pages db t rows search (t.load rows ids) := by
  intro b hserves hdb offset limit
  obtain ⟨c, hsearch, hserves', hdb'⟩ := h hserves hdb offset limit
  refine ⟨c, ?_, hserves', hdb'.trans hdb⟩
  have hlength : (t.load rows ids).length = ids.length := by
    rw [ObjectTable.load_eq_map hthere, List.length_map]
  rw [hsearch, hlength, ObjectTable.load_part hthere]

/-- **Pages of one size, put one after another, are a part of the list.** The induction is on the pages
that are still to be read. The offset behind the last of them is not needed, so it can be too large to be
one. -/
theorem Pages.readPages_eq (h : r.Pages db t rows search listed) {k : Nat} (hsize : size.toInt = k)
    (count : Nat) {n : Nat} (hserves : r.Serves b t rows) (hdb : b.database = db)
    (hoffset : offset.toInt = n)
    (hfits : ∀ i < count, ((n + i * k : Nat) : Int) ≤ Int64.maxValue.toInt) :
    ∃ c, readPages search size count offset b = (.ok ((listed.drop n).take (count * k)), c) ∧
      c.database = db := by
  induction count generalizing b offset n with
  | zero =>
    refine ⟨b, ?_, hdb⟩
    rw [Nat.zero_mul, List.take_zero]
    rfl
  | succ count ih =>
    obtain ⟨c, hpage, hserves', hdb'⟩ := h hserves hdb offset size
    rw [part_of_toInt_eq hoffset hsize] at hpage
    by_cases hlast : count = 0
    · subst hlast
      refine ⟨c, ?_, hdb'⟩
      rw [Nat.zero_add, Nat.one_mul, readPages, Action.bind_of_ok hpage]
      show (Except.ok (_ ++ []), c) = _
      rw [List.append_nil]
    · have hsecond := hfits 1 (by omega)
      rw [Nat.one_mul] at hsecond
      have hrest : ∀ i < count, ((n + k + i * k : Nat) : Int) ≤ Int64.maxValue.toInt := by
        intro i hi
        have hfit := hfits (i + 1) (by omega)
        rwa [Nat.succ_mul, Nat.add_comm (i * k), ← Nat.add_assoc] at hfit
      obtain ⟨d, hpages, hdb''⟩ := ih hserves' hdb' (toInt_add_eq hoffset hsize hsecond) hrest
      refine ⟨d, ?_, hdb''⟩
      rw [readPages, Action.bind_of_ok hpage, Action.bind_of_ok hpages]
      -- The rest of the list begins where the first page ends.
      rw [Nat.succ_mul, Nat.add_comm (count * k), List.take_add, List.drop_drop]
      rfl

end Repository

/-! ## 2. Patterns that are too long -/

namespace Like

theorem length_le_flatMap_escapeChar (cs : List Char) :
    cs.length ≤ (cs.flatMap escapeChar).length := by
  induction cs with
  | nil => exact Nat.zero_le _
  | cons c cs ih =>
    have hpos : 0 < (escapeChar c).length := by
      unfold escapeChar
      split
      · exact Nat.succ_pos _
      · exact Nat.succ_pos _
    rw [List.flatMap_cons, List.length_append, List.length_cons]
    omega

/-- The pattern of a text has two more characters than the text, and one more for each that is
escaped. -/
theorem length_add_two_le_containing (text : String) :
    text.toList.length + 2 ≤ (containing text).utf8ByteSize := by
  refine Nat.le_trans ?_ (Text.length_le_utf8ByteSize _)
  have hescaped := length_le_flatMap_escapeChar text.toList
  rw [List.length_append, List.length_cons, List.length_singleton]
  omega

end Like

/-- A text that is too long makes a pattern that is too long, if there is a row to match. -/
theorem ObjectTable.not_takes_of_long {t : ObjectTable} {query : String} (hrows : t.rows.size ≠ 0)
    (hlong : Like.longestPattern < (Text.trim query).toList.length + 2) :
    ¬ t.Takes (Repository.namePattern query) := by
  rintro (hnone | hshort)
  · exact hrows hnone
  have hpattern : Repository.namePattern query = some (Like.containing (Text.trim query)) := by
    refine if_neg fun hempty => ?_
    rw [hempty] at hlong
    exact absurd hlong (by decide)
  have hsize := Like.length_add_two_le_containing (Text.trim query)
  exact absurd (hshort _ hpattern) (by omega)

/-! ## 3. A search by a part of the name -/

namespace Repository

variable {r : Repository} {b : Backend} {db : Database} {t : ObjectTable} {rows : List MetadataRow}
  {query : String}

/-- The ids that a name search lists, in the order of its sort. -/
def namedIds (t : ObjectTable) (query : String) (field : SortField) (direction : SortDirection) :
    List Int64 :=
  (ObjectTable.sorted t.collation field direction (t.finding (Text.trim query))).map (·.1)

theorem mem_sorted_finding {field : SortField} {direction : SortDirection} {part : String}
    {row : Int64 × String} :
    row ∈ ObjectTable.sorted t.collation field direction (t.finding part) ↔
      t.rows[row.1]? = some row.2 ∧ Like.Finds part row.2 := by
  rw [ObjectTable.sorted, List.mem_mergeSort, ObjectTable.finding, List.mem_filter,
    ObjectTable.mem_toList, decide_eq_true_iff]

theorem mem_namedIds {field : SortField} {direction : SortDirection} {id : Int64} :
    id ∈ namedIds t query field direction ↔
      ∃ name, t.rows[id]? = some name ∧ Like.Finds (Text.trim query) name := by
  rw [namedIds, List.mem_map]
  constructor
  · rintro ⟨row, hrow, rfl⟩
    exact ⟨row.2, mem_sorted_finding.1 hrow⟩
  · rintro ⟨name, hfound⟩
    exact ⟨(id, name), mem_sorted_finding.2 hfound, rfl⟩

theorem has_of_mem_namedIds {field : SortField} {direction : SortDirection} {id : Int64}
    (h : id ∈ namedIds t query field direction) : t.Has id := by
  obtain ⟨name, hrow, -⟩ := mem_namedIds.1 h
  exact ⟨name, hrow⟩

/-- A name search is answered if the database takes its pattern. -/
theorem search_eq (h : r.Serves b t rows) (htakes : t.Takes (namePattern query))
    (options : SearchOptions) :
    ∃ c, r.search query options b =
        (.ok ⟨(t.finding (Text.trim query)).length,
          t.load rows (options.page t.collation (t.finding (Text.trim query)))⟩, c) ∧
      r.Serves c t rows ∧ c.database = b.database := by
  let count := Statement.countObjects r.table (namePattern query)
  let list := Statement.listObjects r.table (namePattern query) options.field options.direction
    (max options.limit 0) (max options.offset 0)
  let counted := b.record (.statement count true)
  let listed := counted.record (.statement list true)
  have hcount := Database.carryOut_countObjects h.ready.objects (namePattern query)
  have hlist := Database.carryOut_listObjects h.ready.objects (namePattern query) options
  rw [ObjectTable.matching_namePattern, Database.checkPattern_of_takes htakes] at hcount hlist
  have htotal : Backend.send count b = (.ok _, counted) :=
    Backend.send_of_carryOut (h.ready.readable count rfl id) hcount
  have hids : Backend.send list counted = (.ok _, listed) :=
    Backend.send_of_carryOut (h.ready.readable list rfl id) hlist
  have hserves : r.Serves listed t rows :=
    h.of_database rfl ((h.coherent.record _).record _) h.works
  obtain ⟨c, hpage, hserves', hdb⟩ :=
    loadAll_eq hserves (options.page t.collation (t.finding (Text.trim query)))
  refine ⟨c, ?_, hserves', hdb⟩
  unfold search
  rw [Action.bind_of_ok htotal, Action.bind_of_ok hids, Action.bind_of_ok hpage]
  rfl

/-- Otherwise it fails at its first statement, and nothing has changed. -/
theorem search_of_not_takes (h : r.Ready b.database t rows) (hlong : ¬ t.Takes (namePattern query))
    (options : SearchOptions) :
    ∃ c, b.SameState c ∧
      r.search query options b = (.error (.storage (.database Refusal.longPattern.report)), c) := by
  let count := Statement.countObjects r.table (namePattern query)
  have hcount := Database.carryOut_countObjects h.objects (namePattern query)
  rw [Database.checkPattern_of_not_takes hlong] at hcount
  have hrun : b.database.run count = .error .longPattern :=
    (Database.run_of_readable h.readable rfl id).trans hcount
  exact ⟨_, Backend.sameState_of_send_error (Backend.send_of_error hrun),
    Action.bind_of_error (Backend.send_of_error hrun)⟩

theorem pages_search (htakes : t.Takes (namePattern query)) (field : SortField)
    (direction : SortDirection) :
    r.Pages db t rows (fun offset limit => r.search query ⟨offset, limit, field, direction⟩)
      (t.load rows (namedIds t query field direction)) := by
  refine pages_of_ids (fun id => has_of_mem_namedIds) ?_
  intro b hserves hdb offset limit
  have hlength : (namedIds t query field direction).length =
      (t.finding (Text.trim query)).length := by
    rw [namedIds, List.length_map, ObjectTable.sorted, List.length_mergeSort]
  rw [hlength]
  exact search_eq hserves htakes ⟨offset, limit, field, direction⟩

end Repository

/-! ## 4. A search by metadata -/

namespace Repository

variable {r : Repository} {b : Backend} {db : Database} {t : ObjectTable}
  {rows searched : List MetadataRow} {p : Predicate} {plan : Plan} {direction : SortDirection}

/-- The ids that a metadata search lists, in its direction. -/
def selectedIds (t : ObjectTable) (rows : List MetadataRow) (p : Predicate) :
    SortDirection → List Int64
  | .ascending => t.satisfying rows p
  | .descending => (t.satisfying rows p).reverse

theorem mem_selectedIds {id : Int64} :
    id ∈ selectedIds t rows p direction ↔ id ∈ t.satisfying rows p := by
  cases direction with
  | ascending => exact Iff.rfl
  | descending => exact List.mem_reverse

theorem has_of_mem_selectedIds {id : Int64} (h : id ∈ selectedIds t rows p direction) : t.Has id :=
  exists_row_of_mem_satisfying (mem_selectedIds.1 h)

theorem pages_metaSearch (hmeta : db.metadata r.metaTable = .ok searched)
    (hplan : Plan.ofPredicate r.metaTable p = .ok plan)
    (htaken : plan.Taken r.table direction searched) :
    r.Pages db t rows (fun offset limit => r.metaSearch p ⟨offset, limit, direction⟩)
      (t.load rows (selectedIds t searched p direction)) := by
  refine pages_of_ids (fun id => has_of_mem_selectedIds) ?_
  intro b hserves hdb offset limit
  obtain ⟨c, hsearch, hserves', hdb'⟩ :=
    metaSearch_eq hserves (hdb ▸ hmeta) hplan ⟨offset, limit, direction⟩ htaken
  refine ⟨c, ?_, hserves', hdb'⟩
  cases direction with
  | ascending => exact hsearch
  | descending =>
    rw [selectedIds, List.length_reverse]
    exact hsearch

end Repository

/-! ## 5. Pages tile the result -/

namespace Repository

variable {r : Repository} {b : Backend} {db : Database} {t : ObjectTable}
  {rows searched : List MetadataRow} {search : Int64 → Int64 → Action SearchResult}
  {listed : List NamedObject} {p : Predicate} {plan : Plan} {desk : Desk}

/-- A list of every object that is selected, once and in a strict order, each with the name and the
metadata that the tables have for it. -/
structure Lists (t : ObjectTable) (rows : List MetadataRow) (selects : Int64 → String → Prop)
    (before : Int64 × String → Int64 × String → Prop) (listed : List NamedObject) : Prop where
  mem : ∀ object, object ∈ listed ↔
    ∃ id name, t.rows[id]? = some name ∧ selects id name ∧ object = .stored rows (id, name)
  once : (listed.map (·.id)).Nodup
  ordered : listed.Pairwise fun a b => before (a.id, a.name) (b.id, b.name)

/-- Whether the offsets of so many pages of one size are all numbers that an offset can be. -/
def OffsetsFit (size : Int64) (count : Nat) : Prop :=
  ∀ i < count, i * size.toInt ≤ Int64.maxValue.toInt

instance (size : Int64) (count : Nat) : Decidable (OffsetsFit size count) :=
  inferInstanceAs (Decidable (∀ i < count, i * size.toInt ≤ Int64.maxValue.toInt))

/-- A search answers the parts of a list, with the length of the whole list, and pages of any size make
up its beginning, and with enough of them all of it. -/
structure Tiles (search : Int64 → Int64 → Action SearchResult) (b : Backend)
    (listed : List NamedObject) : Prop where
  page : ∀ offset limit, ∃ page later, search offset limit b = (.ok ⟨listed.length, page⟩, later) ∧
    page = (listed.drop (max offset 0).toInt.toNat).take (max limit 0).toInt.toNat ∧
    (page.length : Int) = min (max limit.toInt 0) (max (listed.length - max offset.toInt 0) 0)
  pages : ∀ size, 0 < size → ∀ count, OffsetsFit size count → ∃ later,
    readPages search size count 0 b = (.ok (listed.take (count * size.toInt.toNat)), later)
  all : ∀ size, 0 < size → ∃ count, OffsetsFit size count ∧ ∃ later,
    readPages search size count 0 b = (.ok listed, later)

theorem Pages.tiles (h : r.Pages b.database t rows search listed) (hserves : r.Serves b t rows)
    (hlength : (listed.length : Int) ≤ Int64.maxValue.toInt) : Tiles search b listed := by
  have hpages : ∀ size, 0 < size → ∀ count, OffsetsFit size count → ∃ later,
      readPages search size count 0 b =
        (.ok (listed.take (count * size.toInt.toNat)), later) := by
    intro size hsize count hfit
    obtain ⟨k, hk⟩ := Int.eq_ofNat_of_zero_le (Int.le_of_lt (Int64.lt_iff_toInt_lt.1 hsize))
    have hfits : ∀ i < count, ((0 + i * k : Nat) : Int) ≤ Int64.maxValue.toInt := by
      intro i hi
      have hoffset := hfit i hi
      rw [hk] at hoffset
      rw [Nat.zero_add]
      exact_mod_cast hoffset
    obtain ⟨later, hread, -⟩ := h.readPages_eq hk count hserves rfl Int64.toInt_zero hfits
    rw [hk]
    exact ⟨later, hread⟩
  refine ⟨fun offset limit => ?_, hpages, fun size hsize => ?_⟩
  · obtain ⟨later, hpage, -⟩ := h hserves rfl offset limit
    exact ⟨_, later, hpage, rfl, length_part offset limit listed⟩
  · -- The last page is the one that the end of the list is on.
    let whole := listed.length / size.toInt.toNat
    have hpos : 0 < size.toInt := Int64.lt_iff_toInt_lt.1 hsize
    have hfit : OffsetsFit size (whole + 1) := by
      intro i hi
      have hle : i * size.toInt.toNat ≤ listed.length :=
        Nat.le_trans (Nat.mul_le_mul_right _ (Nat.le_of_lt_succ hi)) (Nat.div_mul_le_self _ _)
      rw [← Int.toNat_of_nonneg (Int.le_of_lt hpos)]
      exact_mod_cast Int.le_trans (Int.ofNat_le.2 hle) hlength
    have hall : listed.length ≤ (whole + 1) * size.toInt.toNat :=
      Nat.le_of_lt ((Nat.div_lt_iff_lt_mul (by omega)).1 (Nat.lt_succ_self whole))
    obtain ⟨later, hread⟩ := hpages size hsize (whole + 1) hfit
    rw [List.take_of_length_le hall] at hread
    exact ⟨whole + 1, hfit, later, hread⟩

/-- What is listed once is not more than can be counted, so its pages tile it. -/
theorem Lists.tiles {selects : Int64 → String → Prop}
    {before : Int64 × String → Int64 × String → Prop} {ids : List Int64}
    (h : Lists t rows selects before (t.load rows ids)) (hserves : r.Serves b t rows)
    (hpositive : t.Positive) (hthere : ∀ id ∈ ids, t.Has id)
    (hpages : r.Pages b.database t rows search (t.load rows ids)) :
    Tiles search b (t.load rows ids) := by
  have honce := h.once
  rw [ObjectTable.ids_load hthere] at honce
  refine hpages.tiles hserves ?_
  rw [ObjectTable.load_eq_map hthere, List.length_map]
  exact hpositive.length_le honce hthere

/-- A name search lists the objects whose names it finds. -/
theorem lists_namedIds (h : t.Sound) (query : String) (field : SortField)
    (direction : SortDirection) :
    Lists t rows (fun _ name => Like.Finds (Text.trim query) name)
      (field.Before t.collation direction) (t.load rows (namedIds t query field direction)) := by
  have hdiffer : (t.finding (Text.trim query)).Pairwise (ObjectTable.Differ t.collation) :=
    h.pairwise_differ.sublist List.filter_sublist
  refine ⟨fun object => ?_, ?_, ?_⟩
  · rw [ObjectTable.mem_load]
    refine exists_congr fun id => exists_congr fun name => and_congr_right fun hrow => ?_
    refine and_congr_left' ?_
    rw [mem_namedIds, hrow]
    simp only [Option.some.injEq, exists_eq_left']
  · rw [ObjectTable.ids_load fun id => has_of_mem_namedIds, namedIds, List.Nodup, List.pairwise_map]
    exact (ObjectTable.pairwise_differ_sorted hdiffer field direction).imp fun hne => hne.1
  · rw [namedIds, ObjectTable.load_map_fst fun row hrow => (mem_sorted_finding.1 hrow).1,
      List.pairwise_map]
    exact ObjectTable.pairwise_sorted hdiffer field direction

/-- A metadata search lists the objects of which its predicate holds. -/
theorem lists_selectedIds (t : ObjectTable) (rows searched : List MetadataRow) (p : Predicate)
    (direction : SortDirection) :
    Lists t rows (fun id _ => p.holdsOf (MetadataTable.entriesOf searched id) = true)
      (SortField.id.Before t.collation direction)
      (t.load rows (selectedIds t searched p direction)) := by
  have hthere : ∀ id ∈ selectedIds t searched p direction, t.Has id :=
    fun id => has_of_mem_selectedIds
  -- This order looks at ids alone, so any name will do.
  have hids : (selectedIds t searched p direction).Pairwise
      fun a b => SortField.id.Before t.collation direction (a, "") (b, "") := by
    have hincreasing := t.pairwise_satisfying searched p
    cases direction with
    | ascending => exact hincreasing
    | descending => exact List.pairwise_reverse.2 hincreasing
  have hordered := hids
  rw [← ObjectTable.ids_load hthere, List.pairwise_map] at hordered
  refine ⟨fun object => ?_, ?_, ?_⟩
  · rw [ObjectTable.mem_load]
    refine exists_congr fun id => exists_congr fun name => and_congr_right fun hrow => ?_
    have hmem : id ∈ t.rows := by
      rw [← Std.ExtTreeMap.isSome_getElem?_iff_mem, hrow]
      rfl
    rw [mem_selectedIds, ObjectTable.mem_satisfying, and_iff_right hmem]
  · rw [ObjectTable.ids_load hthere]
    cases direction with
    | ascending => exact hids.imp Int64.ne_of_lt
    | descending => exact hids.imp fun hlt => (Int64.ne_of_lt hlt).symm
  · cases direction with
    | ascending => exact hordered
    | descending => exact hordered

/-- **The pages of a search tile its result.** At every desk that a program comes to, with any cache, the
pages of a name search, by any text and in any order, are the parts of one list: of all objects whose
names the text finds, each once, with the name and the metadata they have in the tables, in the strict
order of the sort. Each page has the length that is left to it, and with the pages of one size, one after
another, the whole list is read. The same is true of a metadata search by any predicate that has a plan,
of the objects of which the predicate holds. The database can refuse a search for its size, a predicate
of many clauses or a long pattern that a name or a value is held against, and then it does so for every
page: the search fails, and nothing has changed. -/
theorem pages_tile {db : Database} {cache : Cache} (hdb : r.StartsEmpty db)
    (hcache : cache = .memory ∨ cache = .null)
    (hmoves : Relation.ReflTransGen r.Moves ⟨.start db cache, ∅⟩ desk) (hworks : desk.backend.Works)
    (hready : r.Ready desk.backend.database t rows) :
    (∀ query field direction,
      let search offset limit := r.search query ⟨offset, limit, field, direction⟩
      (t.Takes (namePattern query) → ∃ listed,
        Lists t rows (fun _ name => Like.Finds (Text.trim query) name)
          (field.Before t.collation direction) listed ∧
        Tiles search desk.backend listed) ∧
      (¬ t.Takes (namePattern query) → ∀ offset limit, ∃ later, desk.backend.SameState later ∧
        search offset limit desk.backend =
          (.error (.storage (.database Refusal.longPattern.report)), later))) ∧
    (∀ searched, desk.backend.database.metadata r.metaTable = .ok searched →
      ∀ p plan direction, Plan.ofPredicate r.metaTable p = .ok plan →
        let search offset limit := r.metaSearch p ⟨offset, limit, direction⟩
        (plan.Taken r.table direction searched → ∃ listed,
          Lists t rows (fun id _ => p.holdsOf (MetadataTable.entriesOf searched id) = true)
            (SortField.id.Before t.collation direction) listed ∧
          Tiles search desk.backend listed) ∧
        (¬ plan.Taken r.table direction searched → ∀ offset limit, ∃ refusal later,
          desk.backend.SameState later ∧ search offset limit desk.backend =
            (.error (.storage (.database (Refusal.report refusal))), later))) := by
  have hserves : r.Serves desk.backend t rows :=
    ⟨hready, coherent_of_moves hdb hcache hmoves, hworks⟩
  have hpositive : t.Positive :=
    (leadsTo_of_moves hdb hmoves).objects? ObjectTable.positive_empty ObjectTable.Changes.positive
      hready.objects?
  refine ⟨fun query field direction => ⟨fun htakes => ?_, fun hlong offset limit => ?_⟩,
    fun searched hmeta p plan direction hplan =>
      ⟨fun htaken => ?_, fun hrefused offset limit => ?_⟩⟩
  · have hlists : Lists t rows _ _ _ := lists_namedIds hserves.sound query field direction
    exact ⟨_, hlists, hlists.tiles hserves hpositive (fun id => has_of_mem_namedIds)
      (pages_search htakes field direction)⟩
  · exact search_of_not_takes hready hlong ⟨offset, limit, field, direction⟩
  · have hlists := lists_selectedIds t rows searched p direction
    exact ⟨_, hlists, hlists.tiles hserves hpositive (fun id => has_of_mem_selectedIds)
      (pages_metaSearch hmeta hplan htaken)⟩
  · exact metaSearch_of_not_taken hmeta hready.objects hplan ⟨offset, limit, direction⟩ hrefused

end Repository

/-! ## 6. Three chairs

The pages hold two chairs, so the last one is half empty. A text of many letters and a value of many
stars are refused on every page. -/

namespace ThreeChairs

def repository : Repository := .ofType ⟨.sqlite, "", "", "", ""⟩ ⟨"chair", by decide⟩

def requests : List Request :=
  [.install, .create "oak" "first", .setMeta "first" "seat" "cane", .update "first",
    .create "elm" "second", .setMeta "second" "seat" "cane", .update "second",
    .create "ash" "third", .setMeta "third" "seat" "cane", .update "third"]

def desk : Desk := repository.runAll ⟨.start .empty .memory, ∅⟩ requests

def objects : ObjectTable := ⟨.binary, .ofList [((1 : Int64), "oak"), (2, "elm"), (3, "ash")], 3⟩

def rows : List MetadataRow := [⟨1, "seat", "cane"⟩, ⟨2, "seat", "cane"⟩, ⟨3, "seat", "cane"⟩]

def oak : NamedObject := .stored rows (1, "oak")

def elm : NamedObject := .stored rows (2, "elm")

def ash : NamedObject := .stored rows (3, "ash")

def named (query : String) (offset limit : Int64) : Action SearchResult :=
  repository.search query ⟨offset, limit, .name, .ascending⟩

def caned (offset limit : Int64) : Action SearchResult :=
  repository.metaSearch (.matching "seat" (.one "cane")) ⟨offset, limit, .descending⟩

def plan : Plan := ⟨repository.metaTable, .base ⟨0, "seat", [⟨.exact, "cane"⟩]⟩⟩

/-- A text of one letter over and over. -/
def letters (count : Nat) : String := .ofList (.replicate count 'a')

theorem trim_letters (count : Nat) : Text.trim (letters count) = letters count := by
  refine Text.trim_of_no_blank fun c hc => ?_
  rw [letters, String.toList_ofList] at hc
  rw [List.eq_of_mem_replicate hc]
  decide

theorem not_takes_letters {count : Nat} (h : Like.longestPattern < count + 2) :
    ¬ objects.Takes (Repository.namePattern (letters count)) := by
  refine ObjectTable.not_takes_of_long (by decide +kernel) ?_
  rw [trim_letters, letters, String.toList_ofList, List.length_replicate]
  exact h

theorem moves_desk : Relation.ReflTransGen repository.Moves ⟨.start .empty .memory, ∅⟩ desk :=
  Repository.moves_runAll ⟨nofun, nofun, nofun, nofun, nofun, nofun, nofun, nofun, nofun, nofun,
    trivial⟩

theorem ready_desk : repository.Ready desk.backend.database objects rows :=
  .of_isPlainName (by decide +kernel) (by decide +kernel) (by decide +kernel) (by decide +kernel)

end ThreeChairs

open ThreeChairs in
theorem Repository.pages_tile_threeChairs :
    objects.Takes (namePattern "LM") ∧ plan.Taken repository.table .descending rows ∧
    (∃ later, readPages (named "LM") 2 1 0 desk.backend = (.ok [elm], later)) ∧
    ∃ later, readPages caned 2 2 0 desk.backend = (.ok [ash, elm, oak], later) := by
  have htakes : objects.Takes (namePattern "LM") := .inr (by decide +kernel)
  have htaken : plan.Taken repository.table .descending rows :=
    ⟨by decide +kernel, by decide +kernel, by decide +kernel⟩
  have hplan : Plan.ofPredicate repository.metaTable (.matching "seat" (.one "cane")) = .ok plan := by
    decide +kernel
  have hmeta : desk.backend.database.metadata repository.metaTable = .ok rows := by decide +kernel
  obtain ⟨hnamed, hselected⟩ := pages_tile startsEmpty_empty (.inl rfl) moves_desk
    (works_runAll fun _ _ => rfl) ready_desk
  -- A page that has room for everything shows what the list is.
  have hshown : ∀ {search listed found}, Tiles search desk.backend listed →
      (search 0 50 desk.backend).1 = .ok ⟨found.length, found⟩ → found.length ≤ 50 →
      listed = found := by
    intro search listed found htiles hfound hfew
    obtain ⟨page, later, hsearch, hpage, -⟩ := htiles.page 0 50
    rw [hsearch] at hfound
    obtain ⟨hlength, rfl⟩ := SearchResult.mk.inj (Except.ok.inj hfound)
    rw [hpage]
    exact (List.take_of_length_le (hlength ▸ hfew)).symm
  refine ⟨htakes, htaken, ?_, ?_⟩
  · -- One chair is found, and its page has room for two.
    obtain ⟨listed, -, htiles⟩ := (hnamed "LM" .name .ascending).1 htakes
    have hlisted : listed = [elm] := hshown htiles (by decide +kernel) (by decide)
    obtain ⟨later, hread⟩ := htiles.pages 2 (by decide) 1 (by decide)
    rw [hlisted] at hread
    exact ⟨later, hread⟩
  · obtain ⟨listed, -, htiles⟩ := (hselected rows hmeta _ plan .descending hplan).1 htaken
    have hlisted : listed = [ash, elm, oak] := hshown htiles (by decide +kernel) (by decide)
    obtain ⟨later, hread⟩ := htiles.pages 2 (by decide) 2 (by decide)
    rw [hlisted] at hread
    exact ⟨later, hread⟩

open ThreeChairs in
/-- No page of these searches is answered, at a desk that a program comes to. -/
theorem Repository.letters_and_stars_have_no_page :
    repository.StartsEmpty .empty ∧
    Relation.ReflTransGen repository.Moves ⟨.start .empty .memory, ∅⟩ desk ∧ desk.backend.Works ∧
    repository.Ready desk.backend.database objects rows ∧
    ∀ offset limit result later,
      repository.search (letters 50000) ⟨offset, limit, .name, .ascending⟩ desk.backend ≠
        (.ok result, later) ∧
      repository.metaSearch (.starred "seat" 50001) ⟨offset, limit, .descending⟩ desk.backend ≠
        (.ok result, later) := by
  refine ⟨startsEmpty_empty, moves_desk, works_runAll fun _ _ => rfl, ready_desk, ?_⟩
  intro offset limit result later
  constructor
  · intro hanswered
    have hlong : Like.longestPattern < 50000 + 2 := by decide
    obtain ⟨c, -, hrefused⟩ := search_of_not_takes ready_desk (not_takes_letters hlong)
      ⟨offset, limit, .name, .ascending⟩
    cases hanswered.symm.trans hrefused
  · intro hanswered
    have hlong : Like.longestPattern < 50001 := by decide
    have hmeta : desk.backend.database.metadata repository.metaTable = .ok rows := by decide +kernel
    obtain ⟨_, _, -, hrefused⟩ := metaSearch_starred hmeta ready_desk.objects
      (List.mem_cons_self : ⟨1, "seat", "cane"⟩ ∈ rows) rfl hlong ⟨offset, limit, .descending⟩
    cases hanswered.symm.trans hrefused

end ObjectCatalog
