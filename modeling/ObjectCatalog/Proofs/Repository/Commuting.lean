import ObjectCatalog.Proofs.Repository.Writes

/-!
# Writes of different objects

Two writes through objects of different ids share the constraint on names, the metadata table and the
cache. They can be done in either order if no name that one of them is to give is the same as the name
that the other is to give, or as the name of the other's row (`Repository.writes_commute`).

The constraint is where the condition is needed. A write changes no row but that of its object, so what
another one is refused for can change only through this row, and the condition says that neither its old
name nor its new one is in the way (`ObjectTable.refuses_table`). So the second write has the ending that
it would have had as the first. The rest needs no condition: each of the tables is determined by the rows
of one object and those of the others, and each entry of the cache is gone if one of the two took it out.
-/

namespace ObjectCatalog

/-! ## 1. Object tables -/

namespace ObjectTable

variable {t t' : ObjectTable} {id id' : Int64} {name : String}

theorem ext_rows (hcollation : t.collation = t'.collation) (hhighest : t.highestId = t'.highestId)
    (hrows : ∀ id : Int64, t.rows[id]? = t'.rows[id]?) : t = t' := by
  obtain ⟨c, rows, highest⟩ := t
  obtain ⟨c', rows', highest'⟩ := t'
  obtain rfl : c = c' := hcollation
  obtain rfl : highest = highest' := hhighest
  obtain rfl : rows = rows' := Std.ExtTreeMap.ext_getElem? fun k => hrows k
  rfl

/-- Rows of different ids can be written in either order. -/
theorem write_comm (hne : id ≠ id') (t : ObjectTable) (after after' : Option String) :
    (t.write id after).write id' after' = (t.write id' after').write id after := by
  have hfirst := setsRow_write t id after
  have hsecond := setsRow_write t id' after'
  have hthen := setsRow_write (t.write id after) id' after'
  have hthen' := setsRow_write (t.write id' after') id after
  refine ext_rows (by simp) (by simp) fun k => ?_
  by_cases hk : k = id
  · subst hk
    rw [hthen.others hne, hthen'.row, hfirst.row, hsecond.others hne]
  by_cases hk' : k = id'
  · subst hk'
    rw [hthen'.others (Ne.symm hne), hthen.row, hsecond.row, hfirst.others (Ne.symm hne)]
  · rw [hthen.others hk', hthen'.others hk, hfirst.others hk, hsecond.others hk']

end ObjectTable

theorem Ending.table_comm {id id' : Int64} (hne : id ≠ id') (t : ObjectTable) (e e' : Ending) :
    e'.table (e.table t id) id' = e.table (e'.table t id') id := by
  cases e with
  | wrote after =>
    cases e' with
    | wrote after' => exact ObjectTable.write_comm hne t after after'
    | _ => rfl
  | _ => cases e' <;> rfl

/-! ## 2. Names that are to be given -/

namespace Write

variable {t : ObjectTable} {write other : Write} {object object' : NamedObject} {name : String}

/-- The name that a write is to give is neither that of the other's row nor the one that the other is to
give. -/
def Clear (t : ObjectTable) (write : Write) (object : NamedObject) (other : Write)
    (object' : NamedObject) : Prop :=
  ∀ name, write.target? object = some name →
    (∀ old, t.rows[object'.id]? = some old → t.collation.same old name = false) ∧
    ∀ name', other.target? object' = some name' → t.collation.same name' name = false

/-- An ending depends on the table only in whether the target is refused. -/
theorem ending_congr {t' : ObjectTable}
    (h : ∀ name, write.target? object = some name →
      t'.refuses object.id name = t.refuses object.id name) :
    write.ending t' object = write.ending t object := by
  cases htarget : write.target? object with
  | none => rw [ending_of_no_target htarget, ending_of_no_target htarget]
  | some name => rw [ending_of_target htarget, ending_of_target htarget, h name htarget]

/-- What becomes of the object depends on the table only by the ending. -/
theorem handle_congr {t' : ObjectTable} (h : write.ending t' object = write.ending t object) :
    write.handle t' object = write.handle t object := by
  simp only [handle, h]

end Write

/-! ## 3. What is refused after another write -/

namespace Write

variable {t : ObjectTable} {write other : Write} {object object' : NamedObject} {name : String}

/-- A row that a write was done to is not in the way of a clear name, neither before nor after. -/
theorem not_same_of_clear (hclear : other.Clear t object' write object)
    (htarget : other.target? object' = some name) {old : String}
    (hrow : t.rows[object.id]? = some old ∨
      ((write.ending t object).table t object.id).rows[object.id]? = some old) :
    t.collation.same old name = false := by
  obtain ⟨hbefore, hafter⟩ := hclear name htarget
  rcases hrow with hrow | hrow
  · exact hbefore old hrow
  rcases Ending.rows_table_self hrow with hrow | hwrote
  · exact hbefore old hrow
  · obtain habsurd | ⟨given, hgiven, hgives, -⟩ := target?_of_wrote hwrote
    · cases habsurd
    · cases hgiven
      exact hafter old hgives

/-- **A write does not change what a clear name is refused for.** -/
theorem refuses_table (hids : object.id ≠ object'.id) (hclear : other.Clear t object' write object)
    (htarget : other.target? object' = some name) :
    ((write.ending t object).table t object.id).refuses object'.id name =
      t.refuses object'.id name := by
  let after := (write.ending t object).table t object.id
  have hothers : ∀ {id : Int64}, id ≠ object.id → after.rows[id]? = t.rows[id]? :=
    fun hne => Ending.rows_table_of_ne hne _
  have hcollation : after.collation = t.collation := Ending.collation_table _ _ _
  rw [Bool.eq_iff_iff, ObjectTable.refuses_iff, ObjectTable.refuses_iff, hothers (Ne.symm hids)]
  refine and_congr_right fun _ => ?_
  -- A row that takes the name is not that of the object, and it is the same in both tables.
  constructor
  · rintro ⟨id, old, hrow, hne, hsame⟩
    rw [hcollation] at hsame
    by_cases hid : id = object.id
    · subst hid
      rw [not_same_of_clear hclear htarget (.inr hrow)] at hsame
      cases hsame
    · exact ⟨id, old, (hothers hid).symm.trans hrow, hne, hsame⟩
  · rintro ⟨id, old, hrow, hne, hsame⟩
    by_cases hid : id = object.id
    · subst hid
      rw [not_same_of_clear hclear htarget (.inl hrow)] at hsame
      cases hsame
    · exact ⟨id, old, (hothers hid).trans hrow, hne, hcollation ▸ hsame⟩

/-- A write has the same ending after another one as before it. -/
theorem ending_table (hids : object.id ≠ object'.id) (hclear : other.Clear t object' write object) :
    other.ending ((write.ending t object).table t object.id) object' = other.ending t object' :=
  ending_congr fun _ htarget => refuses_table hids hclear htarget

end Write

/-! ## 4. Metadata tables -/

namespace MetadataTable

variable {rows rows' : List MetadataRow} {id id' : Int64}

theorem under_withoutObject_self (rows : List MetadataRow) (id : Int64) (key : String) :
    under (withoutObject rows id) id key = [] := by
  rw [under, withoutObject, List.filter_filter, List.filter_eq_nil_iff]
  intro row _
  by_cases hid : row.object = id
  · simp [hid]
  · simp [hid]

theorem under_withoutObject_of_ne (hne : id' ≠ id) (rows : List MetadataRow) (key : String) :
    under (withoutObject rows id) id' key = under rows id' key := by
  rw [under, withoutObject, List.filter_filter, under]
  refine List.filter_congr fun row _ => ?_
  by_cases hid : row.object = id'
  · simp [hid, hne]
  · simp [hid]

/-- A table is determined up to its order by the rows of all objects, key by key. -/
theorem perm_of_forall_under (h : ∀ id key, under rows id key = under rows' id key) :
    rows.Perm rows' := by
  rw [List.perm_iff_count]
  intro row
  have hown : ∀ l : List MetadataRow, (under l row.object row.key).count row = l.count row :=
    fun _ => List.count_filter (by simp)
  rw [← hown rows, ← hown rows', h]

end MetadataTable

namespace Write

open MetadataTable (under)

variable {rows rows' : List MetadataRow} {object object' : NamedObject} {key : String}

/-- The rows of other objects stay. -/
theorem under_rows_of_ne {id : Int64} (hne : id ≠ object.id) (rows : List MetadataRow)
    (write : Write) (key : String) : under (write.rows rows object) id key = under rows id key := by
  rw [← MetadataTable.under_withoutObject_of_ne hne, withoutObject_rows,
    MetadataTable.under_withoutObject_of_ne hne]

/-- What the object has under a key afterwards depends only on what it had under it. -/
theorem under_rows_congr (write : Write) (h : under rows object.id key = under rows' object.id key) :
    under (write.rows rows object) object.id key = under (write.rows rows' object) object.id key := by
  cases write with
  | delete =>
    exact (MetadataTable.under_withoutObject_self _ _ _).trans
      (MetadataTable.under_withoutObject_self _ _ _).symm
  | update =>
    have hrows := MetadataTable.merged_afterSave object rows
    have hrows' := MetadataTable.merged_afterSave object rows'
    by_cases hkey : key ∈ object.metadataDelta.keys
    · exact hrows.under_eq hrows' hkey
    · exact (hrows.under_of_not_mem hkey).trans (h.trans (hrows'.under_of_not_mem hkey).symm)

theorem rows_comm (hids : object.id ≠ object'.id) (rows : List MetadataRow) (write other : Write) :
    (other.rows (write.rows rows object) object').Perm
      (write.rows (other.rows rows object') object) := by
  refine MetadataTable.perm_of_forall_under fun id key => ?_
  by_cases hid : id = object.id
  · subst hid
    rw [under_rows_of_ne hids]
    exact under_rows_congr write (under_rows_of_ne hids rows other key).symm
  by_cases hid' : id = object'.id
  · subst hid'
    rw [under_rows_of_ne (Ne.symm hids)]
    exact under_rows_congr other (under_rows_of_ne (Ne.symm hids) rows write key)
  · rw [under_rows_of_ne hid', under_rows_of_ne hid, under_rows_of_ne hid, under_rows_of_ne hid']

end Write

/-! ## 5. Caches -/

namespace Cache

variable {gone gone' : String → Prop} {start c c' d d' : Cache}

theorem ext_get? (hkeeps : c.keeps = c'.keeps) (hfault : c.fault = c'.fault)
    (h : ∀ key, c.get? key = c'.get? key) : c = c' := by
  obtain ⟨keeps, entries, fault⟩ := c
  obtain ⟨keeps', entries', fault'⟩ := c'
  obtain rfl : keeps = keeps' := hkeeps
  obtain rfl : fault = fault' := hfault
  obtain rfl : entries = entries' := Std.ExtTreeMap.ext_getElem? fun key => h key
  rfl

/-- After two losses the entries of both are gone. -/
theorem Loses.trans (h : start.Loses gone c) (h' : c.Loses gone' d) :
    start.Loses (fun key => gone key ∨ gone' key) d := by
  refine ⟨fun key hkey => ?_, fun key hkey => ?_⟩
  · exact (h'.1 key fun hgone => hkey (.inr hgone)).trans (h.1 key fun hgone => hkey (.inl hgone))
  · by_cases hgone' : gone' key
    · exact h'.2 key hgone'
    · rw [h'.1 key hgone']
      exact h.2 key (hkey.resolve_right hgone')

/-- What a cache has after a loss is determined. -/
theorem Loses.get?_eq (h : start.Loses gone c) (h' : start.Loses gone d) (key : String) :
    c.get? key = d.get? key := by
  by_cases hgone : gone key
  · rw [h.2 key hgone, h'.2 key hgone]
  · rw [h.1 key hgone, h'.1 key hgone]

theorem Shrinks.trans (h : start.Shrinks c) (h' : c.Shrinks d) : start.Shrinks d := by
  refine ⟨fun key => ?_, h'.fault.trans h.fault, h'.keeps.trans h.keeps⟩
  rcases h'.entries key with heq | hnone
  · rw [heq]
    exact h.entries key
  · exact .inr hnone

end Cache

/-! ## 6. Both orders -/

namespace Repository

variable {r : Repository} {b : Backend} {t : ObjectTable} {rows : List MetadataRow}
  {write other : Write} {object object' : NamedObject}

/-- One write after another, in terms of the endings that both would have as the first. -/
structure DoneAfter (r : Repository) (write : Write) (object : NamedObject) (other : Write)
    (object' : NamedObject) (t : ObjectTable) (rows : List MetadataRow) (b : Backend)
    (done : (Except Error Unit × NamedObject) × Backend) : Prop where
  answer : done.1 = ((other.ending t object').answer, other.handle t object')
  ready : r.Ready done.2.database
    ((other.ending t object').table ((write.ending t object).table t object.id) object'.id)
    (other.rows (write.rows rows object) object')
  shrinks : b.cache.Shrinks done.2.cache
  loses : b.cache.Loses (fun key => r.Told t object (write.ending t object) key ∨
    r.Told t object' (other.ending t object') key) done.2.cache

theorem done_after (hready : r.Ready b.database t rows)
    (hdeletes : ∀ key, b.cache.fault .delete key = none) (hids : object.id ≠ object'.id)
    (hclear : other.Clear t object' write object) :
    r.DoneAfter write object other object' t rows b
      (other.run r object' (write.run r object b).2) := by
  have hfirst := write_done hready write object
  have hsecond := write_done hfirst.ready other object'
  -- The second write ends as it would have ended before the first, and its row is what it was.
  have hending := Write.ending_table hids hclear
  have hrow : ((write.ending t object).table t object.id).rows[object'.id]? = t.rows[object'.id]? :=
    Ending.rows_table_of_ne (Ne.symm hids) _
  have htold : r.Told ((write.ending t object).table t object.id) object' (other.ending t object') =
      r.Told t object' (other.ending t object') := by
    funext key
    rw [Told, Told, hrow]
  obtain ⟨hanswer, hloses⟩ := hsecond.exact (hfirst.shrinks.fault ▸ hdeletes)
  have hafter := hsecond.ready
  rw [hending] at hafter hloses hanswer
  rw [htold] at hloses
  rw [Write.handle_congr hending] at hanswer
  exact ⟨hanswer, hafter, hfirst.shrinks.trans hsecond.shrinks,
    (hfirst.exact hdeletes).2.trans hloses⟩

/-- Two writes can be done in either order: each answers the same and leaves its object the same, and the
tables and the cache have the same in them afterwards. -/
structure Commute (r : Repository) (b : Backend) (write : Write) (object : NamedObject)
    (other : Write) (object' : NamedObject) : Prop where
  first : (write.run r object (other.run r object' b).2).1 = (write.run r object b).1
  second : (other.run r object' (write.run r object b).2).1 = (other.run r object' b).1
  tables : ∃ t rows rows',
    r.Ready (other.run r object' (write.run r object b).2).2.database t rows ∧
    r.Ready (write.run r object (other.run r object' b).2).2.database t rows' ∧ rows.Perm rows'
  cache : (other.run r object' (write.run r object b).2).2.cache =
    (write.run r object (other.run r object' b).2).2.cache

theorem commute (hready : r.Ready b.database t rows)
    (hdeletes : ∀ key, b.cache.fault .delete key = none) (hids : object.id ≠ object'.id)
    (hclear : write.Clear t object other object') (hclear' : other.Clear t object' write object) :
    r.Commute b write object other object' := by
  have hthen := done_after hready hdeletes hids hclear'
  have hthen' := done_after hready hdeletes (Ne.symm hids) hclear
  have htable := Ending.table_comm hids t (write.ending t object) (other.ending t object')
  refine ⟨?_, ?_, ?_, Cache.ext_get? ?_ ?_ ?_⟩
  · rw [hthen'.answer, ((write_done hready write object).exact hdeletes).1]
  · rw [hthen.answer, ((write_done hready other object').exact hdeletes).1]
  · exact ⟨_, _, _, hthen.ready, htable ▸ hthen'.ready, Write.rows_comm hids rows write other⟩
  · rw [hthen.shrinks.keeps, hthen'.shrinks.keeps]
  · rw [hthen.shrinks.fault, hthen'.shrinks.fault]
  · exact hthen.loses.get?_eq (hthen'.loses.congr fun key => or_comm)

/-- What a write answers if it is not the cache that fails. A name can be taken only by a row that is
neither that of its object nor that of the other. -/
inductive AnswersBeside (t : ObjectTable) (id id' : Int64) : Except Error Unit → Prop
  | ok : AnswersBeside t id id' (.ok ())
  | blank : AnswersBeside t id id' (.error (.invalidArgument .emptyName))
  | taken {third : Int64} {old name : String} (hid : third ≠ id) (hid' : third ≠ id')
      (hrow : t.rows[third]? = some old) (hsame : t.collation.same old name = true) :
      AnswersBeside t id id' (.error (.duplicateName name))

theorem answersBeside (hclear : write.Clear t object other object') :
    AnswersBeside t object.id object'.id (write.ending t object).answer := by
  cases hending : write.ending t object with
  | sameName | wrote => exact .ok
  | blankName => exact .blank
  | takenName name =>
    obtain ⟨htarget, third, old, hrow, hid, hsame⟩ := Write.isTakenBeside_of_takenName hending
    refine .taken hid ?_ hrow hsame
    rintro rfl
    rw [(hclear name htarget).1 old hrow] at hsame
    cases hsame

/-- **Writes of different objects commute.** In a repository whose tables are there and whose cache
deletes what it is told to, let two objects of different ids be updated or deleted, stale or not, such
that no name that one of them is to give is, as the column compares names, the one that the other is to
give or the name of the other's row. Then both orders give each of them the same answer and the same
object, and leave the same rows in both tables and the same entries in the cache. Each is answered, or
its name is blank, or a third row has it. -/
theorem writes_commute (hready : r.Ready b.database t rows)
    (hdeletes : ∀ key, b.cache.fault .delete key = none) (hids : object.id ≠ object'.id)
    (hclear : write.Clear t object other object') (hclear' : other.Clear t object' write object) :
    r.Commute b write object other object' ∧
    AnswersBeside t object.id object'.id (write.run r object b).1.1 ∧
    AnswersBeside t object'.id object.id (other.run r object' b).1.1 := by
  refine ⟨commute hready hdeletes hids hclear hclear', ?_, ?_⟩
  · rw [((write_done hready write object).exact hdeletes).1]
    exact answersBeside hclear
  · rw [((write_done hready other object').exact hdeletes).1]
    exact answersBeside hclear'

/-! ## 7. A board of keys

The key of the hall was once called that of the attic, and one holder still has it under that name. She
calls it the key of the loft now. The key that is called so today is to be called after the cellar, but
there is a key of the cellar. -/

namespace KeyBoard

def repository : Repository := .ofType ⟨.sqlite, "", "", "", ""⟩ ⟨"hook", by decide⟩

def keys : ObjectTable :=
  ⟨.binary, .ofList [((1 : Int64), "hall"), (2, "attic"), (3, "cellar")], 3⟩

def colours : List MetadataRow := [⟨1, "colour", "red"⟩, ⟨2, "colour", "blue"⟩]

def backend : Backend :=
  .start ((Database.empty.setTable "hook" (.objects keys)).setTable "hook_meta" (.metadata colours))
    (Cache.memory.put (repository.nameKey "attic") (CachedRow.mk 2 "attic").print)

def hallKey : NamedObject :=
  ⟨1, " Loft ", .ofList [("colour", "green")], "attic", .ofList [("colour", "red")]⟩

def atticKey : NamedObject :=
  ⟨2, "cellar ", .ofList [("colour", "black")], "attic", .ofList [("colour", "blue")]⟩

end KeyBoard

open KeyBoard in
theorem writes_commute_keyBoard :
    repository.Ready backend.database keys colours ∧
    repository.Commute backend .update hallKey .update atticKey ∧
    (Write.update.run repository hallKey backend).1.1 = .ok () ∧
    (Write.update.run repository atticKey backend).1.1 = .error (.duplicateName "cellar") ∧
    AnswersBeside keys 2 1 (.error (.duplicateName "cellar")) := by
  have hready : repository.Ready backend.database keys colours :=
    .of_isPlainName (by decide +kernel) (by decide +kernel) (by decide +kernel) (by decide +kernel)
  have hhall : keys.rows[(1 : Int64)]? = some "hall" := by decide +kernel
  have hattic : keys.rows[(2 : Int64)]? = some "attic" := by decide +kernel
  have hloft : Write.update.target? hallKey = some "Loft" := by decide +kernel
  have hcellar : Write.update.target? atticKey = some "cellar" := by decide +kernel
  have hclear : Write.update.Clear keys hallKey .update atticKey := by
    intro name hname
    cases hloft.symm.trans hname
    refine ⟨fun old hold => ?_, fun name' hname' => ?_⟩
    · cases hattic.symm.trans hold
      decide +kernel
    · cases hcellar.symm.trans hname'
      decide +kernel
  have hclear' : Write.update.Clear keys atticKey .update hallKey := by
    intro name hname
    cases hcellar.symm.trans hname
    refine ⟨fun old hold => ?_, fun name' hname' => ?_⟩
    · cases hhall.symm.trans hold
      decide +kernel
    · cases hloft.symm.trans hname'
      decide +kernel
  have hdeletes : ∀ key, backend.cache.fault .delete key = none := fun _ => rfl
  have hids : hallKey.id ≠ atticKey.id := by decide
  obtain ⟨hcommute, -, hanswer⟩ := writes_commute hready hdeletes hids hclear hclear'
  have hrefused : (Write.update.run repository atticKey backend).1.1 =
      .error (.duplicateName "cellar") := by decide +kernel
  exact ⟨hready, hcommute, by decide +kernel, hrefused, hrefused ▸ hanswer⟩

end Repository

end ObjectCatalog
