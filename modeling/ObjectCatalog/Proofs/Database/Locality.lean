import ObjectCatalog.Proofs.Database.Effects

/-!
# What a statement can see

A statement looks at the tables and indexes that it names, and at whether anything may be put in. Two
databases in which these are the same refuse it for the same reason or answer it alike, and are alike
in the same names afterwards (`Database.AgreesOn.run`). The one statement that looks at something else
asks for the id that was last assigned, and names nothing.

And what a statement changes are tables and indexes that it names, so whatever has other keys stays as
it is (`Database.agreesOn_of_run`). Together the two say that users of different tables do not notice
each other.
-/

namespace ObjectCatalog

/-! ## Parts that end alike -/

/-- Two parts of a statement were refused for the same reason, or ended in values of which `S`
holds. -/
inductive EndAlike {α : Type} (S : α → α → Prop) : Except Refusal α → Except Refusal α → Prop
  | ok {x x' : α} (h : S x x') : EndAlike S (.ok x) (.ok x')
  | refused (refusal : Refusal) : EndAlike S (.error refusal) (.error refusal)

namespace EndAlike

variable {α β : Type} {T : β → β → Prop} {f f' : α → Except Refusal β}

theorem bind {S : α → α → Prop} {x x' : Except Refusal α} (h : EndAlike S x x')
    (hf : ∀ a a', S a a' → EndAlike T (f a) (f' a')) : EndAlike T (x >>= f) (x' >>= f') := by
  cases h with
  | ok h => exact hf _ _ h
  | refused refusal => exact .refused refusal

theorem mono {S S' : α → α → Prop} {x x' : Except Refusal α} (h : EndAlike S x x')
    (hS : ∀ a a', S a a' → S' a a') : EndAlike S' x x' := by
  cases h with
  | ok h => exact .ok (hS _ _ h)
  | refused refusal => exact .refused refusal

/-- Parts that begin with the same look. -/
theorem of_look {look look' : Except Refusal α} (hlook : look' = look)
    (hf : ∀ a, EndAlike T (f a) (f' a)) : EndAlike T (look >>= f) (look' >>= f') := by
  subst hlook
  cases look' with
  | error refusal => exact .refused refusal
  | ok a => exact hf a

end EndAlike

namespace Database

variable {names : List String} {db db' : Database} {name : String}

/-- Databases that are the same as far as some names go. -/
structure AgreesOn (names : List String) (db db' : Database) : Prop where
  table? : ∀ name ∈ names, db'.table? name = db.table? name
  isIndex : ∀ name ∈ names,
    db'.indexes.contains (TableRef.key name) = db.indexes.contains (TableRef.key name)
  readOnly : db'.readOnly = db.readOnly

/-- An answer twice, with databases that agree. -/
structure SameAnswer {α : Type} (names : List String) (done done' : α × Database) : Prop where
  answer : done'.1 = done.1
  database : AgreesOn names done.2 done'.2

namespace AgreesOn

theorem refl (names : List String) (db : Database) : AgreesOn names db db :=
  ⟨fun _ _ => rfl, fun _ _ => rfl, rfl⟩

theorem trans {db'' : Database} (h : AgreesOn names db db') (h' : AgreesOn names db' db'') :
    AgreesOn names db db'' where
  table? name hname := (h'.table? name hname).trans (h.table? name hname)
  isIndex name hname := (h'.isIndex name hname).trans (h.isIndex name hname)
  readOnly := h'.readOnly.trans h.readOnly

variable (h : AgreesOn names db db')
include h

/-! ## Looking -/

theorem objects (hname : name ∈ names) : db'.objects name = db.objects name := by
  rw [Database.objects, Database.objects, h.table? name hname]

theorem metadata (hname : name ∈ names) : db'.metadata name = db.metadata name := by
  rw [Database.metadata, Database.metadata, h.table? name hname]

theorem countNames (hname : name ∈ names) (pattern : Option String) :
    db'.countNames name pattern = db.countNames name pattern := by
  rw [Database.countNames, Database.countNames, h.table? name hname]

theorem found {plan : Plan} (hname : name ∈ names) (hplan : plan.relation ∈ names) :
    db'.found name plan = db.found name plan := by
  rw [Database.found, Database.found, h.metadata hplan, h.objects hname]

theorem answer {α : Type} (x : α) : EndAlike (SameAnswer names) (pure (x, db)) (pure (x, db')) :=
  .ok ⟨rfl, h⟩

/-! ## Changing -/

theorem setTable (name : String) (table : Table) :
    AgreesOn names (db.setTable name table) (db'.setTable name table) where
  table? other hother := by
    rw [table?_setTable, table?_setTable, h.table? other hother]
  isIndex := h.isIndex
  readOnly := h.readOnly

theorem setIndex (key owner : String) :
    AgreesOn names { db with indexes := db.indexes.insert key owner }
      { db' with indexes := db'.indexes.insert key owner } where
  table? := h.table?
  isIndex other hother := by
    rw [Std.ExtTreeMap.contains_insert, Std.ExtTreeMap.contains_insert, h.isIndex other hother]
  readOnly := h.readOnly

theorem addTable (hname : name ∈ names) (table : Table) :
    EndAlike (AgreesOn names) (db.addTable name table) (db'.addTable name table) := by
  refine EndAlike.of_look rfl fun ref => ?_
  rw [h.isIndex name hname, h.readOnly]
  split
  · exact .refused _
  · split
    · exact .refused _
    · split
      · exact .refused _
      · exact .ok (h.setTable name table)

theorem ensureTable (hname : name ∈ names) (table : Table) :
    EndAlike (AgreesOn names) (db.ensureTable name table) (db'.ensureTable name table) := by
  rw [Database.ensureTable, Database.ensureTable, h.table? name hname]
  cases db.table? name with
  | some _ => exact .ok h
  | none => exact h.addTable hname table

theorem ensureIndex {column : IndexedColumn} (hname : name ∈ names)
    (hindex : column.indexName name ∈ names) :
    EndAlike (AgreesOn names) (db.ensureIndex name column) (db'.ensureIndex name column) := by
  rw [Database.ensureIndex, Database.ensureIndex, h.table? name hname]
  cases db.table? name with
  | none => exact .refused _
  | some table =>
    simp only
    rw [h.table? _ hindex, h.isIndex _ hindex]
    split
    · exact .refused _
    · split
      · exact .ok h
      · split
        · exact .refused _
        · exact .ok (h.setIndex _ _)

/-- The id that was last assigned is none of the names. -/
theorem setLast (last : Int64) : AgreesOn names db { db' with lastInsertId := last } :=
  ⟨h.table?, h.isIndex, h.readOnly⟩

/-- Afterwards the id that was last assigned is the same too. -/
theorem insertObject (hname : name ∈ names) (value : String) :
    EndAlike (fun done done' => SameAnswer names done done' ∧
        done'.2.lastInsertId = done.2.lastInsertId)
      (db.insertObject name value) (db'.insertObject name value) := by
  refine EndAlike.of_look (h.objects hname) fun t => ?_
  refine EndAlike.of_look rfl fun (id, t) => ?_
  have hset := h.setTable name (.objects t)
  exact .ok ⟨⟨rfl, hset.table?, hset.isIndex, hset.readOnly⟩, rfl⟩

theorem updateObjects (hname : name ∈ names)
    (change : ObjectTable → Except Refusal ObjectTable) :
    EndAlike (AgreesOn names) (db.updateObjects name change) (db'.updateObjects name change) :=
  EndAlike.of_look (h.objects hname) fun _ =>
    EndAlike.of_look rfl fun _ => .ok (h.setTable name _)

theorem updateMetadata (hname : name ∈ names)
    (change : List MetadataRow → List MetadataRow) :
    EndAlike (AgreesOn names) (db.updateMetadata name change) (db'.updateMetadata name change) :=
  EndAlike.of_look (h.metadata hname) fun _ => .ok (h.setTable name _)

end AgreesOn

/-! ## Statements -/

/-- A part that changes the database and answers nothing. -/
theorem sameAnswer_of_change {change change' : Except Refusal Database}
    (h : EndAlike (AgreesOn names) change change') :
    EndAlike (SameAnswer names) (change >>= fun next => pure ((), next))
      (change' >>= fun next => pure ((), next)) :=
  h.bind fun _ _ hnext => .ok ⟨rfl, hnext⟩

/-- A statement is carried out alike in databases that agree on all it names. -/
theorem AgreesOn.run {s : Statement} (hs : ∀ name ∈ s.names, name ∈ names) (hnames : s.names ≠ [])
    (h : AgreesOn names db db') : EndAlike (SameAnswer names) (db.run s) (db'.run s) := by
  unfold Database.run
  cases textRefusal? s with
  | some refusal => exact .refused refusal
  | none =>
    simp only
    cases s with
    | createObjects table options | createMetadata table options =>
      exact sameAnswer_of_change (h.ensureTable (hs table List.mem_cons_self) _)
    | createIndex table column =>
      have hindex : column.indexName table ∈ names :=
        hs _ (List.mem_cons_of_mem _ List.mem_cons_self)
      exact sameAnswer_of_change (h.ensureIndex (hs table List.mem_cons_self) hindex)
    | insertObject table value =>
      have htable : table ∈ names := hs table List.mem_cons_self
      rw [carryOut, carryOut, h.table? table htable]
      split
      · exact .refused _
      · exact (h.insertObject htable value).bind fun _ _ hdone => .ok ⟨rfl, hdone.1.database⟩
    | insertReturning table value =>
      exact (h.insertObject (hs table List.mem_cons_self) value).mono fun _ _ hdone => hdone.1
    | lastInsertId => exact absurd rfl hnames
    | renameObject table value id | deleteObject table id =>
      exact sameAnswer_of_change (h.updateObjects (hs table List.mem_cons_self) _)
    | deleteMetadata table id | deleteEntry table id key | insertEntry table id key value =>
      exact sameAnswer_of_change (h.updateMetadata (hs table List.mem_cons_self) _)
    | storedName table id | findObject table lookup =>
      exact EndAlike.of_look (h.objects (hs table List.mem_cons_self)) fun _ => h.answer _
    | listMetadata table id =>
      exact EndAlike.of_look (h.metadata (hs table List.mem_cons_self)) fun _ => h.answer _
    | countObjects table pattern =>
      exact EndAlike.of_look (h.countNames (hs table List.mem_cons_self) pattern) fun _ => h.answer _
    | listObjects table pattern field direction limit offset =>
      exact EndAlike.of_look (h.objects (hs table List.mem_cons_self)) fun _ =>
        EndAlike.of_look rfl fun _ => h.answer _
    | countMatches table plan | listMatches table plan direction limit offset =>
      have hplan : plan.relation ∈ names := hs _ (List.mem_cons_of_mem _ List.mem_cons_self)
      exact EndAlike.of_look (h.found (hs table List.mem_cons_self) hplan) fun _ => h.answer _

/-! ## The rest of the database -/

/-- What has other keys than the tables and indexes of a statement stays as it is. -/
theorem agreesOn_of_run {s : Statement} {answer : s.Answer} (h : db.run s = .ok (answer, db'))
    (hapart : ∀ name ∈ names, ∀ other ∈ s.names, TableRef.key other ≠ TableRef.key name) :
    AgreesOn names db db' := by
  have hset : ∀ {other : String}, other ∈ s.names → ∀ table,
      AgreesOn names db (db.setTable other table) := by
    intro other hother table
    refine ⟨fun name hname => ?_, fun _ _ => rfl, rfl⟩
    rw [table?_setTable, if_neg (hapart name hname other hother)]
  cases run_effect h with
  | nothing hdb => exact hdb ▸ .refl names db
  | creation hother _ _ hadd =>
    obtain ⟨-, rfl⟩ := addTable_eq_ok hadd
    exact hset hother _
  | objects hother _ _ hdb =>
    subst hdb
    exact (hset hother _).setLast _
  | metadata hother _ _ hdb =>
    subst hdb
    exact hset hother _
  | index _ hindex _ hdb =>
    subst hdb
    refine ⟨fun _ _ => rfl, fun name hname => ?_, rfl⟩
    simp only [Std.ExtTreeMap.contains_insert]
    have hne := mt Std.compare_eq_iff_eq.1 (hapart name hname _ hindex)
    rw [beq_eq_false_iff_ne.2 hne, Bool.false_or]

end Database

end ObjectCatalog
