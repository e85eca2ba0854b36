import ObjectCatalog.Proofs.Repository.Calls
import ObjectCatalog.Proofs.Repository.Editing

/-!
# How a call ended, and what it did

How a rename, an update or a deletion ended tells what it did. If it was answered, the row was changed
and the cache was told of all its keys. If a deletion in the cache failed, the row was changed as well,
and the cache was told of the key of the id and of the known name at most: the stored name is told
last, and a call is over when it is (`Repository.rename_eq`, `Repository.delete_eq`). Any other error
is one of the database, which is met before the cache is.

A sequence is taken apart here by its outcome: it ended where its first part failed, or it went on.
-/

namespace ObjectCatalog

variable {α β : Type} {b b' : Backend}

/-! ## Sequences -/

theorem Action.exists_of_bind_eq {a : Action α} {f : α → Action β} {result : Except Error β}
    (h : (a >>= f) b = (result, b')) :
    (∃ e, a b = (.error e, b') ∧ result = .error e) ∨
      ∃ x c, a b = (.ok x, c) ∧ f x c = (result, b') := by
  rcases hab : a b with ⟨e | x, c⟩
  · rw [bind_of_error hab] at h
    cases h
    exact .inl ⟨e, rfl, rfl⟩
  · rw [bind_of_ok hab] at h
    exact .inr ⟨x, c, rfl, h⟩

theorem Editing.exists_of_bind_eq {e : Editing α} {f : α → Editing β} {result : Except Error β}
    {object object' : NamedObject} (h : (e >>= f) object b = ((result, object'), b')) :
    (∃ error, e object b = ((.error error, object'), b') ∧ result = .error error) ∨
      ∃ x o c, e object b = ((.ok x, o), c) ∧ f x o c = ((result, object'), b') := by
  have hbind : (e >>= f) object b =
      ExceptT.bindCont f (e object b).1.1 (e object b).1.2 (e object b).2 := rfl
  rw [hbind] at h
  revert h
  rcases e object b with ⟨⟨error | x, o⟩, c⟩
  · rintro ⟨⟩
    exact .inl ⟨error, rfl, rfl⟩
  · exact fun h => .inr ⟨x, o, c, rfl, h⟩

theorem Action.editing_eq {a : Action α} {result : Except Error α} {object object' : NamedObject}
    (h : a.editing object b = ((result, object'), b')) : a b = (result, b') ∧ object' = object := by
  unfold editing at h
  simp only [ExceptT.mk] at h
  revert h
  rcases a b with ⟨answer, c⟩
  rintro ⟨⟩
  exact ⟨rfl, rfl⟩

/-! ## Statements and deletions in the cache -/

/-- Whether an error comes from the cache. -/
def Error.OfCache : Error → Prop
  | .cache _ => True
  | _ => False

namespace Backend

theorem send_eq {s : Statement} {result : Except Error s.Answer} (h : send s b = (result, b')) :
    b'.cache = b.cache ∧
    ((∃ e, result = .error e ∧ ¬ e.OfCache) ∨
      ∃ answer, result = .ok answer ∧ b.database.run s = .ok (answer, b'.database)) := by
  rcases hrun : b.database.run s with refusal | ⟨answer, db⟩
  · rw [send_of_error hrun] at h
    cases h
    exact ⟨rfl, .inl ⟨_, rfl, fun h => h⟩⟩
  · rw [send_of_ok hrun] at h
    cases h
    exact ⟨rfl, .inr ⟨answer, rfl, rfl⟩⟩

/-- A sequence that begins with a statement: it was refused, or the rest goes on from what it did. -/
theorem exists_of_send_bind {s : Statement} {f : s.Answer → Action β} {result : Except Error β}
    (h : (send s >>= f) b = (result, b')) :
    (∃ e, result = .error e ∧ ¬ e.OfCache) ∨
      ∃ answer c, c.cache = b.cache ∧ b.database.run s = .ok (answer, c.database) ∧
        f answer c = (result, b') := by
  rcases Action.exists_of_bind_eq h with ⟨e, hsend, rfl⟩ | ⟨answer, c, hsend, hrest⟩
  · obtain ⟨-, ⟨e', he, hdatabase⟩ | ⟨_, habsurd, -⟩⟩ := send_eq hsend
    · cases he
      exact .inl ⟨e, rfl, hdatabase⟩
    · cases habsurd
  · obtain ⟨hcache, ⟨_, habsurd, -⟩ | ⟨answer', hanswer, hrun⟩⟩ := send_eq hsend
    · cases habsurd
    · cases hanswer
      exact .inr ⟨answer, c, hcache, hrun, hrest⟩

theorem exists_of_adapt_send_bind {s : Statement} {g : Error → Error} {f : s.Answer → Action β}
    {result : Except Error β} (hg : ∀ e, ¬ e.OfCache → ¬ (g e).OfCache)
    (h : ((ExceptT.adapt g (send s) : Action s.Answer) >>= f) b = (result, b')) :
    (∃ e, result = .error e ∧ ¬ e.OfCache) ∨
      ∃ answer c, c.cache = b.cache ∧ b.database.run s = .ok (answer, c.database) ∧
        f answer c = (result, b') := by
  rcases hsend : send s b with ⟨e | answer, c⟩
  · rw [Action.bind_of_error (Action.adapt_of_error hsend)] at h
    cases h
    obtain ⟨-, ⟨e', he, hdatabase⟩ | ⟨_, habsurd, -⟩⟩ := send_eq hsend
    · cases he
      exact .inl ⟨_, rfl, hg e hdatabase⟩
    · cases habsurd
  · rw [Action.bind_of_ok (Action.adapt_of_ok hsend)] at h
    obtain ⟨hcache, ⟨_, habsurd, -⟩ | ⟨answer', hanswer, hrun⟩⟩ := send_eq hsend
    · cases habsurd
    · cases hanswer
      exact .inr ⟨answer, c, hcache, hrun, h⟩

theorem delete_eq {key : String} {result : Except Error Unit} (h : delete key b = (result, b')) :
    b'.database = b.database ∧
    ((∃ failure, result = .error (.cache failure) ∧ b'.cache = b.cache) ∨
      (result = .ok () ∧ b'.cache = b.cache.drop key)) := by
  rcases hfault : b.cache.fault .delete key with none | failure
  · rw [delete_of_none hfault] at h
    cases h
    exact ⟨rfl, .inr ⟨rfl, rfl⟩⟩
  · rw [delete_of_some hfault] at h
    cases h
    exact ⟨rfl, .inl ⟨failure, rfl, rfl⟩⟩

end Backend

/-! ## What the cache loses -/

namespace Cache

variable {gone more : String → Prop} {c c' c'' : Cache}

/-- At most the entries under these keys went. -/
def Spares (gone : String → Prop) (c c' : Cache) : Prop :=
  ∀ key, ¬ gone key → c'.get? key = c.get? key

/-- The entries under these keys went, and no others. -/
def Loses (gone : String → Prop) (c c' : Cache) : Prop :=
  c.Spares gone c' ∧ ∀ key, gone key → c'.get? key = none

theorem Spares.mono (h : c.Spares gone c') (hmore : ∀ key, gone key → more key) :
    c.Spares more c' :=
  fun key hkey => h key fun hgone => hkey (hmore key hgone)

theorem loses_refl (c : Cache) : c.Loses (fun _ => False) c :=
  ⟨fun _ _ => rfl, fun _ h => h.elim⟩

theorem Loses.drop (h : c.Loses gone c') (key : String) :
    c.Loses (fun k => gone k ∨ k = key) (c'.drop key) := by
  constructor
  · intro k hk
    rw [get?_drop, if_neg fun heq => hk (.inr heq.symm)]
    exact h.1 k fun hgone => hk (.inl hgone)
  · intro k hk
    rw [get?_drop]
    split
    · rfl
    · rename_i hne
      exact h.2 k (hk.resolve_right fun heq => hne heq.symm)

theorem Loses.congr (h : c.Loses gone c') (hkeys : ∀ key, gone key ↔ more key) :
    c.Loses more c' :=
  ⟨h.1.mono fun key => (hkeys key).1, fun key hkey => h.2 key ((hkeys key).2 hkey)⟩

end Cache

/-! ## Changes of a row -/

namespace ObjectTable

variable {t t' t'' : ObjectTable} {id : Int64} {after : Option String}

/-- The row with the id has another name now, or it is gone, and all other rows are as they were. -/
structure SetsRow (t t' : ObjectTable) (id : Int64) (after : Option String) : Prop where
  others : ∀ {other : Int64}, other ≠ id → t'.rows[other]? = t.rows[other]?
  row : t'.rows[id]? = t.rows[id]?.bind fun _ => after

/-- To do it again changes nothing more. -/
theorem SetsRow.trans (h : t.SetsRow t' id after) (h' : t'.SetsRow t'' id after) :
    t.SetsRow t'' id after := by
  refine ⟨fun hne => (h'.others hne).trans (h.others hne), ?_⟩
  rw [h'.row, h.row]
  cases t.rows[id]? with
  | none => rfl
  | some old => cases after <;> rfl

theorem setsRow_rename {table name : String} (h : t.rename table id name = .ok t') :
    t.SetsRow t' id (some name) := by
  rcases rename_eq_ok h with ⟨hnone, rfl⟩ | ⟨old, hold, -, rfl⟩
  · refine ⟨fun _ => rfl, ?_⟩
    rw [hnone]
    rfl
  · refine ⟨fun hne => ?_, ?_⟩
    · rw [getElem?_put, if_neg (Ne.symm hne)]
    · rw [getElem?_put, if_pos rfl, hold]
      rfl

theorem setsRow_delete (t : ObjectTable) (id : Int64) : t.SetsRow (t.delete id) id none := by
  refine ⟨fun hne => ?_, ?_⟩
  · rw [getElem?_delete, if_neg (Ne.symm hne)]
  · rw [getElem?_delete, if_pos rfl]
    cases t.rows[id]? <;> rfl

end ObjectTable

/-! ## Calls -/

namespace Repository

variable {r : Repository}

/-- The keys that the cache is told of when a row changed: that of its id, that of the name its holder
knows, and that of the name it had. -/
def IsKeyOf (r : Repository) (id : Int64) (known : String) (stored : Option String)
    (key : String) : Prop :=
  key = r.idKey id ∨ key = r.nameKey known ∨ ∃ name, stored = some name ∧ key = r.nameKey name

/-- The stored name is told last, so it is told only if nothing fails. -/
theorem invalidate_eq {id : Int64} {known : String} {stored : Option String}
    {result : Except Error Unit} (h : r.invalidate id known stored b = (result, b')) :
    b'.database = b.database ∧
    ((∃ failure, result = .error (.cache failure) ∧
        b.cache.Spares (r.IsKeyOf id known none) b'.cache) ∨
      (result = .ok () ∧ b.cache.Loses (r.IsKeyOf id known stored) b'.cache)) := by
  unfold invalidate at h
  rcases Action.exists_of_bind_eq h with ⟨e, hid, rfl⟩ | ⟨_, c₁, hid, h₁⟩
  · obtain ⟨hdb, ⟨failure, he, hcache⟩ | ⟨habsurd, -⟩⟩ := Backend.delete_eq hid
    · refine ⟨hdb, .inl ⟨failure, he, fun key _ => ?_⟩⟩
      rw [hcache]
    · cases habsurd
  obtain ⟨hdb₁, ⟨_, habsurd, -⟩ | ⟨-, hcache₁⟩⟩ := Backend.delete_eq hid
  · cases habsurd
  have hlost₁ := (Cache.loses_refl b.cache).drop (r.idKey id)
  rw [← hcache₁] at hlost₁
  rcases Action.exists_of_bind_eq h₁ with ⟨e, hknown, rfl⟩ | ⟨_, c₂, hknown, h₂⟩
  · obtain ⟨hdb, ⟨failure, he, hcache⟩ | ⟨habsurd, -⟩⟩ := Backend.delete_eq hknown
    · refine ⟨hdb.trans hdb₁, .inl ⟨failure, he, ?_⟩⟩
      rw [hcache]
      exact hlost₁.1.mono fun key hkey => .inl (hkey.resolve_left fun h => h)
    · cases habsurd
  obtain ⟨hdb₂, ⟨_, habsurd, -⟩ | ⟨-, hcache₂⟩⟩ := Backend.delete_eq hknown
  · cases habsurd
  have hlost₂ := hlost₁.drop (r.nameKey known)
  rw [← hcache₂] at hlost₂
  have hdb := hdb₂.trans hdb₁
  cases stored with
  | none =>
    cases h₂
    refine ⟨hdb, .inr ⟨rfl, hlost₂.congr fun key => ?_⟩⟩
    simp [IsKeyOf]
  | some name =>
    simp only at h₂
    split at h₂
    · rename_i heq
      cases h₂
      refine ⟨hdb, .inr ⟨rfl, hlost₂.congr fun key => ?_⟩⟩
      simp [IsKeyOf, heq]
    · obtain ⟨hdb₃, ⟨failure, rfl, hcache⟩ | ⟨rfl, hcache⟩⟩ := Backend.delete_eq h₂
      · refine ⟨hdb₃.trans hdb, .inl ⟨failure, rfl, ?_⟩⟩
        rw [hcache]
        refine hlost₂.1.mono fun key hkey => ?_
        exact hkey.elim (fun h => .inl (h.resolve_left fun h => h)) fun h => .inr (.inl h)
      · refine ⟨hdb₃.trans hdb, .inr ⟨rfl, ?_⟩⟩
        rw [hcache]
        refine (hlost₂.drop (r.nameKey name)).congr fun key => ?_
        simp [IsKeyOf, or_assoc]

/-- The row of an object was changed, and the cache was told of it, as far as nothing failed. -/
def Changed (r : Repository) (object : NamedObject) (after : Option String) (b b' : Backend)
    (result : Except Error Unit) : Prop :=
  ∃ t t', b.database.objects? r.table = some t ∧ b'.database.objects? r.table = some t' ∧
    t.SetsRow t' object.id after ∧
    ((∃ failure, result = .error (.cache failure) ∧
        b.cache.Spares (r.IsKeyOf object.id object.persistedName none) b'.cache) ∨
      (result = .ok () ∧
        b.cache.Loses (r.IsKeyOf object.id object.persistedName t.rows[object.id]?) b'.cache))

variable {object object' : NamedObject} {result : Except Error Unit}

/-- A change is told by an invalidation. -/
theorem changed_of_invalidate {after : Option String} {t t' : ObjectTable} {c : Backend}
    (ht : b.database.objects? r.table = some t) (ht' : c.database.objects? r.table = some t')
    (hset : t.SetsRow t' object.id after) (hcache : c.cache = b.cache)
    (h : r.invalidate object.id object.persistedName t.rows[object.id]? c = (result, b')) :
    r.Changed object after b b' result := by
  obtain ⟨hdb, hend⟩ := invalidate_eq h
  rw [hcache] at hend
  exact ⟨t, t', ht, hdb.symm ▸ ht', hset, hend⟩

theorem not_ofCache_nameError {name : String} {e : Error} (h : ¬ e.OfCache) :
    ¬ (nameError name e).OfCache := by
  unfold nameError
  split
  · split <;> exact fun h => h
  · exact h

/-- A rename was refused by the database, or it changed the row. -/
theorem rename_eq {name : String} (h : r.rename object name b = (result, b')) :
    (∃ e, result = .error e ∧ ¬ e.OfCache) ∨ r.Changed object (some name) b b' result := by
  rcases Backend.exists_of_send_bind h with hrefused | ⟨stored, c₁, hcache₁, hrun₁, h₁⟩
  · exact .inl hrefused
  rcases Backend.exists_of_adapt_send_bind (fun _ => not_ofCache_nameError) h₁ with
    hrefused | ⟨_, c₂, hcache₂, hrun₂, h₂⟩
  · exact .inl hrefused
  obtain ⟨hdb₁, t, ht, rfl⟩ := Database.run_storedName hrun₁
  obtain ⟨u, t', hu, hrename, ht'⟩ := Database.run_renameObject hrun₂
  rw [hdb₁, ht] at hu
  cases hu
  exact .inr (changed_of_invalidate ht ht' (ObjectTable.setsRow_rename hrename)
    (hcache₂.trans hcache₁) h₂)

/-- A deletion was refused by the database, or it took out the row. -/
theorem delete_eq (h : r.delete object b = (result, b')) :
    (∃ e, result = .error e ∧ ¬ e.OfCache) ∨ r.Changed object none b b' result := by
  rcases Backend.exists_of_send_bind h with hrefused | ⟨stored, c₁, hcache₁, hrun₁, h₁⟩
  · exact .inl hrefused
  rcases Backend.exists_of_send_bind h₁ with hrefused | ⟨_, c₂, hcache₂, hrun₂, h₂⟩
  · exact .inl hrefused
  rcases Backend.exists_of_send_bind h₂ with hrefused | ⟨_, c₃, hcache₃, hrun₃, h₃⟩
  · exact .inl hrefused
  obtain ⟨hdb₁, t, ht, rfl⟩ := Database.run_storedName hrun₁
  obtain ⟨u, hu, hdb₂⟩ := Database.run_deleteObject hrun₂
  rw [hdb₁, ht] at hu
  cases hu
  -- The metadata is in another table.
  have ht' : c₃.database.objects? r.table = some (t.delete object.id) := by
    rw [Database.objects?_of_sparesObjects (by trivial) hrun₃, hdb₂]
    exact Database.objects?_setTable_self _ _ _
  exact .inr (changed_of_invalidate ht ht' (ObjectTable.setsRow_delete t object.id)
    (hcache₃.trans (hcache₂.trans hcache₁)) h₃)

end Repository

/-! ## Updates -/

namespace MetadataStore

variable {store : MetadataStore} {e : Error}

/-- Writing metadata is no matter of the cache. -/
theorem not_ofCache_of_writeRemovals {id : Int64} {keys : List String}
    (h : store.writeRemovals id keys b = (.error e, b')) : ¬ e.OfCache := by
  induction keys generalizing b with
  | nil => cases h
  | cons key rest ih =>
    rcases Backend.exists_of_send_bind h with ⟨e', he, hdatabase⟩ | ⟨_, _, _, _, hrest⟩
    · cases he
      exact hdatabase
    · exact ih hrest

theorem not_ofCache_of_writeUpserts {id : Int64} {entries : List (String × String)}
    (h : store.writeUpserts id entries b = (.error e, b')) : ¬ e.OfCache := by
  induction entries generalizing b with
  | nil => cases h
  | cons entry rest ih =>
    rcases Backend.exists_of_send_bind h with ⟨e', he, hdatabase⟩ | ⟨_, _, _, _, hrest⟩
    · cases he
      exact hdatabase
    · rcases Backend.exists_of_send_bind hrest with ⟨e', he, hdatabase⟩ | ⟨_, _, _, _, hrest⟩
      · cases he
        exact hdatabase
      · exact ih hrest

theorem not_ofCache_of_save {object object' : NamedObject}
    (h : store.save object b = ((.error e, object'), b')) : ¬ e.OfCache := by
  rcases Editing.exists_of_bind_eq h with ⟨_, habsurd, -⟩ | ⟨seen, o, c, hget, h⟩
  · cases habsurd
  simp only at h
  split at h
  · cases h
  · rcases Editing.exists_of_bind_eq h with ⟨e', hwrite, he⟩ | ⟨_, _, _, -, h⟩
    · cases he
      exact not_ofCache_of_writeRemovals (Action.editing_eq hwrite).1
    · rcases Editing.exists_of_bind_eq h with ⟨e', hwrite, he⟩ | ⟨_, _, _, -, h⟩
      · cases he
        exact not_ofCache_of_writeUpserts (Action.editing_eq hwrite).1
      · cases h

end MetadataStore

namespace Repository

variable {r : Repository} {object object' : NamedObject} {result : Except Error Unit}

/-- Where metadata was saved before, the objects and the cache are as they were. -/
theorem Changed.of_same {after : Option String} {c : Backend}
    (h : r.Changed object after c b' result)
    (hobjects : c.database.objects? r.table = b.database.objects? r.table)
    (hcache : c.cache = b.cache) : r.Changed object after b b' result := by
  obtain ⟨t, t', ht, ht', hset, hend⟩ := h
  rw [hobjects] at ht
  rw [hcache] at hend
  exact ⟨t, t', ht, ht', hset, hend⟩

/-- A save changes neither the objects nor the cache, however it ends. -/
theorem save_eq {o : NamedObject} {c : Backend}
    (h : r.metadataStore.save object b = ((result, o), c)) :
    object.MaybeSaved o ∧ c.cache = b.cache ∧
      c.database.objects? r.table = b.database.objects? r.table := by
  have hsend : ∀ s : Statement, s.SparesObjects → Action.Keeps (fun c => c.cache = b.cache ∧
      c.database.objects? r.table = b.database.objects? r.table) (Backend.send s) :=
    fun s hs => Action.meets_iff_keeps.1 <| Backend.meets_send
      (fun _ _ _ hc hrun =>
        ⟨hc.1, (Database.objects?_of_sparesObjects hs hrun r.table).trans hc.2⟩)
      fun _ _ hc _ => hc
  obtain ⟨hremovals, hupserts⟩ :=
    r.metadataStore.keeps_writes hsend object.id object.metadataDelta
  have hsaved := MetadataStore.meets_save hremovals hupserts object b ⟨rfl, rfl, rfl⟩
  rw [h] at hsaved
  cases result with
  | ok x => exact hsaved
  | error e => exact ⟨.inl hsaved.1, hsaved.2⟩

/-- An update was refused, or there was no new name, or it changed the row. If it failed there, only
the metadata is remembered as stored. -/
theorem update_eq (h : r.update object b = ((result, object'), b')) :
    (∃ e, result = .error e ∧ ¬ e.OfCache) ∨
    (Text.trim object.name = object.persistedName ∧ result = .ok ()) ∨
    (Text.trim object.name ≠ object.persistedName ∧
      r.Changed object (some (Text.trim object.name)) b b' result ∧
      ∀ e, result = .error e → object.MaybeSaved object') := by
  unfold update at h
  rcases Editing.exists_of_bind_eq h with ⟨e, hsave, rfl⟩ | ⟨_, o, c, hsave, h⟩
  · exact .inl ⟨e, rfl, MetadataStore.not_ofCache_of_save hsave⟩
  obtain ⟨hseen, hcache, hobjects⟩ := save_eq hsave
  rcases Editing.exists_of_bind_eq h with ⟨_, habsurd, -⟩ | ⟨seen, _, _, hget, h⟩
  · cases habsurd
  cases hget
  -- What is read of the object now is what was there before the save.
  have hname : o.name = object.name := by rcases hseen with rfl | rfl <;> rfl
  have hknown : o.persistedName = object.persistedName := by rcases hseen with rfl | rfl <;> rfl
  have hcall : ∀ name, r.rename o name = r.rename object name := by
    rcases hseen with rfl | rfl <;> exact fun _ => rfl
  simp only [hname, hknown, hcall] at h
  split at h
  · rename_i heq
    cases h
    exact .inr (.inl ⟨heq, rfl⟩)
  · rename_i hne
    split at h
    · cases h
      exact .inl ⟨_, rfl, fun h => h⟩
    · rcases Editing.exists_of_bind_eq h with ⟨e, hediting, rfl⟩ | ⟨_, _, d, hediting, h⟩
      · obtain ⟨hrename, rfl⟩ := Action.editing_eq hediting
        rcases rename_eq hrename with ⟨e', he, hdatabase⟩ | hchanged
        · cases he
          exact .inl ⟨e, rfl, hdatabase⟩
        · exact .inr (.inr ⟨hne, hchanged.of_same hobjects hcache, fun _ _ => hseen⟩)
      · obtain ⟨hrename, -⟩ := Action.editing_eq hediting
        cases h
        rcases rename_eq hrename with ⟨_, habsurd, -⟩ | hchanged
        · cases habsurd
        · exact .inr (.inr ⟨hne, hchanged.of_same hobjects hcache, fun _ habsurd => nomatch habsurd⟩)

end Repository

end ObjectCatalog
