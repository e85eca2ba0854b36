import ObjectCatalog.Proofs.Cache.Keys
import ObjectCatalog.Proofs.Cache.Runs
import ObjectCatalog.Proofs.Object.RowRoundTrip
import ObjectCatalog.Proofs.Repository.Outcomes

/-!
# Repeating a call that the cache broke off

An update or a deletion changes the row first and then tells the cache. If the cache fails there, the
call fails, and nothing is undone: entries of the row as it was may be left. The call can be repeated
when the cache works again. It finds the row changed already, so it clears the keys of the id, of the
name that the handle remembers and of the new name, but it does not see any more which name the row
had before the first attempt.

So the repetition mends the cache unless exactly this name is left over
(`Repository.retry_heals_iff`): the row had a name that the handle did not know, because another
handle had given it, and the row was cached under it. Where the handle knows the stored name, and where
no other handle renames, repeating the call is all that is needed.
-/

namespace ObjectCatalog

namespace Repository

variable {r : Repository} {object : NamedObject} {after : Option String} {t t' : ObjectTable}
  {c c' : Cache}

/-! ## Entries -/

/-- Every entry is a row of the table, printed, under the key of its id or of its name. -/
def CurrentIn (r : Repository) (t : ObjectTable) (c : Cache) : Prop :=
  ∀ key value, c.get? key = some value → ∃ id name, t.rows[id]? = some name ∧
    value = (CachedRow.mk id name).print ∧ (key = r.idKey id ∨ key = r.nameKey name)

/-- Every entry of the cache is a row of the object table. -/
def EntriesCurrent (r : Repository) (b : Backend) : Prop :=
  ∀ key value, b.cache.get? key = some value →
    ∃ t id name, b.database.objects r.table = .ok t ∧ t.rows[id]? = some name ∧
      value = (CachedRow.mk id name).print ∧ (key = r.idKey id ∨ key = r.nameKey name)

theorem entriesCurrent_iff {b : Backend} (ht : b.database.objects? r.table = some t) :
    r.EntriesCurrent b ↔ r.CurrentIn t b.cache := by
  constructor
  · intro h key value hentry
    obtain ⟨u, id, name, hu, hrow, hvalue, hkey⟩ := h key value hentry
    rw [Database.objects_eq_ok_iff, ht] at hu
    cases hu
    exact ⟨id, name, hrow, hvalue, hkey⟩
  · intro h key value hentry
    obtain ⟨id, name, hrow, hvalue, hkey⟩ := h key value hentry
    exact ⟨t, id, name, Database.objects_eq_ok_iff.2 ht, hrow, hvalue, hkey⟩

/-- Under the key of a name stands the row with this name. -/
theorem CurrentIn.row_of_nameKey (h : r.CurrentIn t c) {name value : String}
    (hentry : c.get? (r.nameKey name) = some value) :
    ∃ id, t.rows[id]? = some name ∧ value = (CachedRow.mk id name).print := by
  obtain ⟨id, name', hrow, hvalue, hkey | hkey⟩ := h _ value hentry
  · exact absurd hkey.symm (idKey_ne_nameKey id name)
  · obtain rfl := nameKey_injective hkey
    exact ⟨id, hrow, hvalue⟩

/-! ## What both attempts did -/

/-- What became of a row and of the cache in two attempts: the row was changed, and of the entries
those went that the second attempt deleted. -/
structure Retried (r : Repository) (object : NamedObject) (after : Option String)
    (t t' : ObjectTable) (c c' : Cache) : Prop where
  row : t.SetsRow t' object.id after
  entries : c.Loses (r.IsKeyOf object.id object.persistedName t'.rows[object.id]?) c'

/-- The first attempt was over before it could tell the stored name, and the second one sees the new
name in its place. -/
theorem retried_of_changed {b b' d d' : Backend} {failure : CacheFailure}
    (hfirst : r.Changed object after b b' (.error (.cache failure)))
    (hsecond : r.Changed object after d d' (.ok ())) (hdb : d.database = b'.database)
    (hcache : ∀ key, d.cache.get? key = b'.cache.get? key) :
    ∃ t t', b.database.objects? r.table = some t ∧ d'.database.objects? r.table = some t' ∧
      r.Retried object after t t' b.cache d'.cache := by
  obtain ⟨t, t₁, ht, ht₁, hset₁, hend₁⟩ := hfirst
  obtain ⟨u, t', hu, ht', hset', hend'⟩ := hsecond
  obtain ⟨_, -, hspares⟩ := hend₁.resolve_right fun h => nomatch h.1
  obtain ⟨-, hloses⟩ := hend'.resolve_left fun ⟨_, habsurd, _⟩ => nomatch habsurd
  rw [hdb, ht₁] at hu
  cases hu
  have hset := hset₁.trans hset'
  refine ⟨t, t', ht, ht', hset, fun key hkey => ?_, fun key hkey => ?_⟩
  · have hknown : ¬ r.IsKeyOf object.id object.persistedName none key := by
      rintro (hid | hname | ⟨_, habsurd, -⟩)
      · exact hkey (.inl hid)
      · exact hkey (.inr (.inl hname))
      · cases habsurd
    have hstored : ¬ r.IsKeyOf object.id object.persistedName t₁.rows[object.id]? key := by
      rw [hset₁.row, ← hset.row]
      exact hkey
    rw [hloses.1 key hstored, hcache, hspares key hknown]
  · refine hloses.2 key ?_
    rw [hset₁.row, ← hset.row]
    exact hkey

/-- Only the name that the row had before may be left over. -/
theorem Retried.currentIn_iff (h : r.Retried object after t t' c c') (hsound : t.Sound)
    (hcurrent : r.CurrentIn t c) :
    r.CurrentIn t' c' ↔ ∀ stored, t.rows[object.id]? = some stored →
      stored = object.persistedName ∨ after = some stored ∨ c.get? (r.nameKey stored) = none := by
  have hafter : ∀ {stored}, t.rows[object.id]? = some stored → t'.rows[object.id]? = after := by
    intro stored hrow
    rw [h.row.row, hrow]
    rfl
  constructor
  · intro hcurrent' stored hrow
    by_cases hknown : stored = object.persistedName
    · exact .inl hknown
    by_cases hnew : after = some stored
    · exact .inr (.inl hnew)
    cases hentry : c.get? (r.nameKey stored) with
    | none => exact .inr (.inr rfl)
    | some value =>
      -- The entry is that of this row, and no attempt deleted it.
      obtain ⟨id, hrow', rfl⟩ := hcurrent.row_of_nameKey hentry
      obtain rfl : id = object.id := hsound.distinct hrow' hrow (Collation.same_refl _ _)
      have hkey : ¬ r.IsKeyOf object.id object.persistedName t'.rows[object.id]?
          (r.nameKey stored) := by
        rintro (hid | hname | ⟨name, hname, hkey⟩)
        · exact idKey_ne_nameKey _ _ hid.symm
        · exact hknown (nameKey_injective hname)
        · rw [hafter hrow, ← nameKey_injective hkey] at hname
          exact hnew hname
      rw [← h.entries.1 _ hkey] at hentry
      obtain ⟨id', hrow'', hprint⟩ := hcurrent'.row_of_nameKey hentry
      cases CachedRow.print_injective hprint
      exact absurd ((hafter hrow).symm.trans hrow'') hnew
  · intro hleft key value hentry
    have hkey : ¬ r.IsKeyOf object.id object.persistedName t'.rows[object.id]? key := by
      intro hgone
      rw [h.entries.2 key hgone] at hentry
      cases hentry
    rw [h.entries.1 key hkey] at hentry
    obtain ⟨id, name, hrow, hvalue, hkeys⟩ := hcurrent key value hentry
    by_cases hid : id = object.id
    · -- The entry is one of the row that was changed, so its key is that of the name.
      subst hid
      rcases hkeys with rfl | rfl
      · exact absurd (.inl rfl) hkey
      rcases hleft name hrow with rfl | hnew | hnone
      · exact absurd (.inr (.inl rfl)) hkey
      · exact absurd (.inr (.inr ⟨name, (hafter hrow).trans hnew, rfl⟩)) hkey
      · rw [hnone] at hentry
        cases hentry
    · exact ⟨id, name, (h.row.others hid).trans hrow, hvalue, hkeys⟩

end Repository

/-! ## Requests -/

/-- A desk with a cache whose calls all work. -/
def Desk.repair (desk : Desk) : Desk :=
  { desk with backend := { desk.backend with cache := desk.backend.cache.repair } }

namespace Request

variable {r : Repository} {desk desk' : Desk} {name : String} {held : Handle}
  {answer : Except Error Reply}

theorem run_update (hheld : desk.handles[name]? = some held)
    (hrun : (Request.update name).run r desk = (answer, desk')) :
    ∃ result object', r.update held.object desk.backend = ((result, object'), desk'.backend) ∧
      answer = result.map (fun _ => .object { held with object := object' }) ∧
      desk'.handles[name]? = some { held with object := object' } := by
  rw [Request.run, Desk.edit, Desk.withHandle] at hrun
  simp only [hheld, Editing.on] at hrun
  revert hrun
  rcases r.update held.object desk.backend with ⟨⟨result, object'⟩, b⟩
  rintro ⟨⟩
  exact ⟨result, object', rfl, rfl, by simp⟩

theorem run_delete_of_held (hheld : desk.handles[name]? = some held)
    (hrun : (Request.delete name).run r desk = (answer, desk')) :
    ∃ result, r.delete held.object desk.backend = (result, desk'.backend) ∧
      answer = result.map (fun _ => .done) ∧ desk'.handles = desk.handles := by
  rw [Request.run, Desk.withHandle] at hrun
  simp only [hheld, Desk.act] at hrun
  revert hrun
  rcases r.delete held.object desk.backend with ⟨e | x, b⟩
  · rintro ⟨⟩
    exact ⟨_, rfl, rfl, rfl⟩
  · rintro ⟨⟩
    exact ⟨_, rfl, rfl, rfl⟩

/-- The name that the row of an object has when the request was answered, if it had one before. -/
def nameAfter (object : NamedObject) : Request → Option String
  | .update _ => some (Text.trim object.name)
  | _ => none

end Request

namespace Repository

variable {r : Repository} {desk failed retried : Desk} {name : String} {held : Handle}
  {failure : CacheFailure} {reply : Reply}

/-- An update that the cache broke off, and its repetition. -/
theorem retried_update (hheld : desk.handles[name]? = some held)
    (hfailed : (Request.update name).run r desk = (.error (.cache failure), failed))
    (hretried : (Request.update name).run r failed.repair = (.ok reply, retried)) :
    ∃ t t', desk.backend.database.objects? r.table = some t ∧
      retried.backend.database.objects? r.table = some t' ∧
      r.Retried held.object (some (Text.trim held.object.name)) t t' desk.backend.cache
        retried.backend.cache := by
  obtain ⟨result, object', hupdate, hresult, hheld'⟩ := Request.run_update hheld hfailed
  obtain rfl : result = .error (.cache failure) := by
    cases result with
    | error e => cases hresult; rfl
    | ok x => cases hresult
  rcases update_eq hupdate with ⟨e, he, hdatabase⟩ | ⟨-, habsurd⟩ | ⟨hne, hchanged, hsaved⟩
  · cases he
    exact absurd trivial hdatabase
  · cases habsurd
  have hheld'' : failed.repair.handles[name]? = some { held with object := object' } := hheld'
  obtain ⟨result, object'', hupdate', hresult, -⟩ := Request.run_update hheld'' hretried
  obtain rfl : result = .ok () := by
    cases result with
    | error e => cases hresult
    | ok x => rfl
  -- The handle remembers the name that it remembered before, so it is renamed again.
  have hchanged' : r.Changed held.object (some (Text.trim held.object.name)) failed.repair.backend
      retried.backend (.ok ()) := by
    rcases update_eq hupdate' with ⟨_, habsurd, -⟩ | ⟨heq, -⟩ | ⟨-, hchanged', -⟩
    · cases habsurd
    · rcases hsaved _ rfl with rfl | rfl <;> exact absurd heq hne
    · rcases hsaved _ rfl with rfl | rfl <;> exact hchanged'
  exact retried_of_changed hchanged hchanged' rfl fun _ => rfl

/-- A deletion that the cache broke off, and its repetition. -/
theorem retried_delete (hheld : desk.handles[name]? = some held)
    (hfailed : (Request.delete name).run r desk = (.error (.cache failure), failed))
    (hretried : (Request.delete name).run r failed.repair = (.ok reply, retried)) :
    ∃ t t', desk.backend.database.objects? r.table = some t ∧
      retried.backend.database.objects? r.table = some t' ∧
      r.Retried held.object none t t' desk.backend.cache retried.backend.cache := by
  obtain ⟨result, hdelete, hresult, hhandles⟩ := Request.run_delete_of_held hheld hfailed
  obtain rfl : result = .error (.cache failure) := by
    cases result with
    | error e => cases hresult; rfl
    | ok x => cases hresult
  have hheld' : failed.repair.handles[name]? = some held := by
    rw [Desk.repair, hhandles]
    exact hheld
  obtain ⟨result, hdelete', hresult, -⟩ := Request.run_delete_of_held hheld' hretried
  obtain rfl : result = .ok () := by
    cases result with
    | error e => cases hresult
    | ok x => rfl
  rcases delete_eq hdelete with ⟨e, he, hdatabase⟩ | hchanged
  · cases he
    exact absurd trivial hdatabase
  rcases delete_eq hdelete' with ⟨_, habsurd, -⟩ | hchanged'
  · cases habsurd
  exact retried_of_changed hchanged hchanged' rfl fun _ => rfl

/-- **Repeating a call that the cache broke off mends the cache, unless the row was cached under a
name that its holder did not know.** If every entry is a row of the table before, and an update or a
deletion fails in the cache and is answered when it is made again with a cache that works, then every
entry is a row of the table afterwards, if and only if the name that the row had before is the one
that the handle remembers, or the new one, or nothing was cached under it. And then a name leads
through the cache to the object only if it is the name of its row. -/
theorem retry_heals_iff {request : Request} {t : ObjectTable}
    (hrequest : request = .update name ∨ request = .delete name)
    (hheld : desk.handles[name]? = some held)
    (ht : desk.backend.database.objects r.table = .ok t) (hsound : t.Sound)
    (hcurrent : r.EntriesCurrent desk.backend)
    (hfailed : request.run r desk = (.error (.cache failure), failed))
    (hretried : request.run r failed.repair = (.ok reply, retried)) :
    (r.EntriesCurrent retried.backend ↔
      ∀ stored, t.rows[held.object.id]? = some stored →
        stored = held.object.persistedName ∨ request.nameAfter held.object = some stored ∨
          desk.backend.cache.get? (r.nameKey stored) = none) ∧
    (r.EntriesCurrent retried.backend → ∀ former text row,
      retried.backend.cache.get? (r.nameKey former) = some text →
      CachedRow.parse? text = some row →
      ∃ t', retried.backend.database.objects r.table = .ok t' ∧ t'.rows[row.id]? = some former) := by
  have hboth : ∃ t t', desk.backend.database.objects? r.table = some t ∧
      retried.backend.database.objects? r.table = some t' ∧
      r.Retried held.object (request.nameAfter held.object) t t' desk.backend.cache
        retried.backend.cache := by
    rcases hrequest with rfl | rfl
    · exact retried_update hheld hfailed hretried
    · exact retried_delete hheld hfailed hretried
  obtain ⟨u, t', hu, ht', hboth⟩ := hboth
  rw [Database.objects_eq_ok_iff, hu] at ht
  cases ht
  rw [entriesCurrent_iff hu] at hcurrent
  rw [entriesCurrent_iff ht']
  refine ⟨hboth.currentIn_iff hsound hcurrent, fun hafter former text row hentry hrow => ?_⟩
  obtain ⟨id, hname, rfl⟩ := hafter.row_of_nameKey hentry
  rw [CachedRow.parse?_print] at hrow
  cases hrow
  exact ⟨t', Database.objects_eq_ok_iff.2 ht', hname⟩

/-! ## Two small runs

A drawer is renamed, and the cache fails when its old name is deleted. Repeated, the update leaves
nothing behind. The second drawer was renamed by another handle in between and cached under that name,
of which the first handle knows nothing: this entry stays. -/

theorem Coherent.entriesCurrent {b : Backend} (h : r.Coherent b) : r.EntriesCurrent b := by
  intro key value hentry
  obtain ⟨t, lookup, id, name, ht, hrow, hvalue, hkey, hlookup, -⟩ := h.backed hentry id
  refine ⟨t, id, name, Database.objects_eq_ok_iff.2 ht, hrow, hvalue, ?_⟩
  rcases hlookup with rfl | rfl
  · exact .inl hkey
  · exact .inr hkey

namespace StuckDrawer

def repository : Repository := .ofType ⟨.sqlite, "", "", "", ""⟩ ⟨"drawer", by decide⟩

/-- The desk with a cache that cannot delete one key. -/
def stick (desk : Desk) (key : String) : Desk :=
  { desk with backend := { desk.backend with cache := { desk.backend.cache with
    fault := fun call k => if call = .delete ∧ k = key then some ⟨[], "stuck"⟩ else none } } }

def renamed : Desk :=
  repository.runAll ⟨.start .empty .memory, ∅⟩
    [.install, .create "top" "first", .loadByName "top" none, .loadById 1 none,
      .setName "first" "bottom"]

def renamedTwice : Desk :=
  repository.runAll ⟨.start .empty .memory, ∅⟩
    [.install, .create "top" "first", .loadByName "top" (some "second"),
      .setName "second" "middle", .update "second", .loadByName "middle" none,
      .setName "first" "bottom"]

def afterFailure (desk : Desk) : Desk :=
  ((Request.update "first").run repository (stick desk "drawer_name_top")).2

def afterRetry (desk : Desk) : Desk :=
  ((Request.update "first").run repository (afterFailure desk).repair).2

end StuckDrawer

open StuckDrawer in
theorem retry_heals_iff_stuckDrawer :
    ((Request.update "first").run repository (stick renamed "drawer_name_top")).1 =
      .error (.cache ⟨[], "stuck"⟩) ∧
    ((Request.update "first").run repository (afterFailure renamed).repair).1.isOk = true ∧
    repository.EntriesCurrent (stick renamed "drawer_name_top").backend ∧
    repository.EntriesCurrent (afterRetry renamed).backend := by
  have hreachable : repository.Reachable renamed :=
    (Reachable.start startsEmpty_empty).runAll ⟨nofun, nofun, nofun, nofun, nofun, trivial⟩
  have hcurrent : repository.EntriesCurrent (stick renamed "drawer_name_top").backend :=
    hreachable.coherent.entriesCurrent
  have hfailed : ((Request.update "first").run repository (stick renamed "drawer_name_top")).1 =
      .error (.cache ⟨[], "stuck"⟩) := by decide +kernel
  have hanswered : ((Request.update "first").run repository (afterFailure renamed).repair).1.isOk =
      true := by decide +kernel
  refine ⟨hfailed, hanswered, hcurrent, ?_⟩
  have hheld : (stick renamed "drawer_name_top").handles["first"]? =
      some ⟨(NamedObject.fresh 1 "top").setName "bottom", ⟨1, "top", 0⟩⟩ := by decide +kernel
  have ht : (stick renamed "drawer_name_top").backend.database.objects repository.table =
      .ok ⟨.binary, .ofList [((1 : Int64), "top")], 1⟩ := by decide +kernel
  rcases hretried : (Request.update "first").run repository (afterFailure renamed).repair with
    ⟨e | reply, desk⟩
  · rw [hretried] at hanswered
    cases hanswered
  · have hdesk : afterRetry renamed = desk := congrArg Prod.snd hretried
    rw [hdesk]
    refine (retry_heals_iff (.inl rfl) hheld ht
      (hreachable.coherent.sound (Database.objects_eq_ok_iff.1 ht)) hcurrent
      (Prod.ext hfailed rfl) hretried).1.2 fun stored hstored => .inl ?_
    -- The row has the name that the handle remembers.
    have hname : (Std.ExtTreeMap.ofList [((1 : Int64), "top")])[(1 : Int64)]? = some "top" := by
      decide +kernel
    exact Option.some.inj (hstored.symm.trans hname)

open StuckDrawer in
/-- All entries were current before, the repetition was answered, and the cache still leads to the
object under a name that its row has not any more. -/
theorem entry_left_by_retry :
    repository.EntriesCurrent (stick renamedTwice "drawer_name_top").backend ∧
    ((Request.update "first").run repository (stick renamedTwice "drawer_name_top")).1 =
      .error (.cache ⟨[], "stuck"⟩) ∧
    ((Request.update "first").run repository (afterFailure renamedTwice).repair).1.isOk = true ∧
    ¬ repository.EntriesCurrent (afterRetry renamedTwice).backend ∧
    ((Request.loadByName "middle" none).run repository (afterRetry renamedTwice)).1 =
      .ok (.object (.ofObject (.fresh 1 "middle"))) := by
  have hreachable : repository.Reachable renamedTwice :=
    (Reachable.start startsEmpty_empty).runAll
      ⟨nofun, nofun, nofun, nofun, nofun, nofun, nofun, trivial⟩
  refine ⟨hreachable.coherent.entriesCurrent, by decide +kernel, by decide +kernel, fun h => ?_,
    by decide +kernel⟩
  have hentry : (afterRetry renamedTwice).backend.cache.get? (repository.nameKey "middle") =
      some (CachedRow.mk 1 "middle").print := by decide +kernel
  have ht : (afterRetry renamedTwice).backend.database.objects? repository.table =
      some ⟨.binary, .ofList [((1 : Int64), "bottom")], 1⟩ := by decide +kernel
  rw [entriesCurrent_iff ht] at h
  obtain ⟨id, hrow, hprint⟩ := h.row_of_nameKey hentry
  cases CachedRow.print_injective hprint
  have hname : (Std.ExtTreeMap.ofList [((1 : Int64), "bottom")])[(1 : Int64)]? = some "bottom" := by
    decide +kernel
  exact absurd (Option.some.inj (hname.symm.trans hrow)) (by decide)

end Repository

end ObjectCatalog
