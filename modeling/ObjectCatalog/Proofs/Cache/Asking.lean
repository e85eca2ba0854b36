import ObjectCatalog.Proofs.Cache.Keys
import ObjectCatalog.Proofs.Repository.Calls

/-!
# What a request asks the cache

The journal has all calls of the cache in their order. While one request is made, no key is asked
for twice, no entry is stored twice under one key, and none is stored under a key that was not asked
for before (`Repository.asks_once`).

So nothing is lost by taking a request as one step of a run. An entry that vanishes while it is made
vanishes before the request or after it as far as anyone can tell, and if some of its calls of the
cache fail and others do not, the failures can be told apart by their kind and their key.
-/

namespace ObjectCatalog

/-! ## Journals -/

namespace Event

def fetched? : Event → Option String
  | .cacheCall .fetch key => some key
  | _ => none

def stored? : Event → Option String
  | .cacheCall .store key => some key
  | _ => none

/-- No key is asked for and no entry is stored but in the order of two lists of keys, and an entry
is stored only under a key that was asked for. -/
structure Orderly (fetched stored : List String) (events : List Event) : Prop where
  fetched : (events.filterMap fetched?).Sublist fetched
  stored : (events.filterMap stored?).Sublist stored
  asked : ∀ before key after, events = before ++ .cacheCall .store key :: after →
    .cacheCall .fetch key ∈ before

variable {fetched stored : List String} {events : List Event}

theorem orderly_nil : Orderly [] [] [] :=
  ⟨List.Sublist.refl _, List.Sublist.refl _, fun before key after h => by simp at h⟩

theorem Orderly.mono {fetched' stored' : List String} (h : Orderly fetched stored events)
    (hfetched : fetched.Sublist fetched') (hstored : stored.Sublist stored') :
    Orderly fetched' stored' events :=
  ⟨h.fetched.trans hfetched, h.stored.trans hstored, h.asked⟩

/-- After one more event an entry was stored only under a key that was asked for, if that is so of
this event. -/
theorem Orderly.asked_snoc (h : Orderly fetched stored events) {event : Event}
    (hevent : ∀ key, event = .cacheCall .store key → .cacheCall .fetch key ∈ events) :
    ∀ before key after, events ++ [event] = before ++ .cacheCall .store key :: after →
      .cacheCall .fetch key ∈ before := by
  intro before key after heq
  rcases List.eq_nil_or_concat after with rfl | ⟨init, last, rfl⟩
  · obtain ⟨rfl, hlast⟩ := List.append_inj' heq rfl
    exact hevent key (List.singleton_inj.1 hlast)
  · rw [List.concat_eq_append, ← List.cons_append, ← List.append_assoc] at heq
    exact h.asked before key init (List.append_inj' heq rfl).1

theorem Orderly.other (h : Orderly fetched stored events) {event : Event}
    (hfetched : event.fetched? = none) (hstored : event.stored? = none) :
    Orderly fetched stored (events ++ [event]) := by
  refine ⟨?_, ?_, h.asked_snoc fun key hstore => ?_⟩
  · rw [List.filterMap_append, List.filterMap_cons_none hfetched, List.filterMap_nil,
      List.append_nil]
    exact h.fetched
  · rw [List.filterMap_append, List.filterMap_cons_none hstored, List.filterMap_nil,
      List.append_nil]
    exact h.stored
  · rw [hstore] at hstored
    cases hstored

theorem Orderly.fetch (h : Orderly fetched stored events) (key : String) :
    Orderly (fetched ++ [key]) stored (events ++ [.cacheCall .fetch key]) := by
  refine ⟨?_, ?_, h.asked_snoc fun _ hstore => nomatch hstore⟩
  · rw [List.filterMap_append]
    exact h.fetched.append (List.Sublist.refl [key])
  · rw [List.filterMap_append]
    exact (List.append_nil _).symm ▸ h.stored

theorem Orderly.store (h : Orderly fetched stored events) {key : String}
    (hasked : .cacheCall .fetch key ∈ events) :
    Orderly fetched (stored ++ [key]) (events ++ [.cacheCall .store key]) := by
  refine ⟨?_, ?_, h.asked_snoc fun k hstore => ?_⟩
  · rw [List.filterMap_append]
    exact (List.append_nil _).symm ▸ h.fetched
  · rw [List.filterMap_append]
    exact h.stored.append (List.Sublist.refl [key])
  · cases hstore
    exact hasked

end Event

/-! ## Calls of the cache -/

namespace Backend

variable {past : List Event} {keys : List String} {b : Backend}

/-- Since the journal was `past`, keys were asked for and entries were stored in the order of
`keys`. -/
def Asked (past : List Event) (keys : List String) (b : Backend) : Prop :=
  ∃ events, b.journal = past ++ events ∧ Event.Orderly keys keys events

/-- The same, and then one key more was asked for. -/
def Asking (past : List Event) (keys : List String) (key : String) (b : Backend) : Prop :=
  ∃ events, b.journal = past ++ events ∧ Event.Orderly (keys ++ [key]) keys events ∧
    .cacheCall .fetch key ∈ events

theorem asked_refl (b : Backend) : b.Asked b.journal [] :=
  ⟨[], (List.append_nil _).symm, Event.orderly_nil⟩

theorem Asked.mono {keys' : List String} (h : b.Asked past keys) (hkeys : keys.Sublist keys') :
    b.Asked past keys' := by
  obtain ⟨events, hjournal, horderly⟩ := h
  exact ⟨events, hjournal, horderly.mono hkeys hkeys⟩

theorem Asked.record (h : b.Asked past keys) {event : Event} (hfetched : event.fetched? = none)
    (hstored : event.stored? = none) : (b.record event).Asked past keys := by
  obtain ⟨events, hjournal, horderly⟩ := h
  refine ⟨events ++ [event], ?_, horderly.other hfetched hstored⟩
  rw [Backend.record, hjournal, List.append_assoc]

theorem Asked.fetch (h : b.Asked past keys) (key : String) :
    (b.record (.cacheCall .fetch key)).Asking past keys key := by
  obtain ⟨events, hjournal, horderly⟩ := h
  refine ⟨events ++ [.cacheCall .fetch key], ?_, horderly.fetch key,
    List.mem_append_right _ List.mem_cons_self⟩
  rw [Backend.record, hjournal, List.append_assoc]

theorem Asking.asked {key : String} (h : b.Asking past keys key) : b.Asked past (keys ++ [key]) := by
  obtain ⟨events, hjournal, horderly, -⟩ := h
  exact ⟨events, hjournal, horderly.mono (List.Sublist.refl _) (List.sublist_append_left _ _)⟩

theorem Asking.record {key : String} (h : b.Asking past keys key) {event : Event}
    (hfetched : event.fetched? = none) (hstored : event.stored? = none) :
    (b.record event).Asking past keys key := by
  obtain ⟨events, hjournal, horderly, hasked⟩ := h
  refine ⟨events ++ [event], ?_, horderly.other hfetched hstored, List.mem_append_left _ hasked⟩
  rw [Backend.record, hjournal, List.append_assoc]

theorem Asking.store {key : String} (h : b.Asking past keys key) :
    (b.record (.cacheCall .store key)).Asked past (keys ++ [key]) := by
  obtain ⟨events, hjournal, horderly, hasked⟩ := h
  refine ⟨events ++ [.cacheCall .store key], ?_, horderly.store hasked⟩
  rw [Backend.record, hjournal, List.append_assoc]

theorem asked_send (s : Statement) : Action.Keeps (Asked past keys) (send s) :=
  Action.meets_iff_keeps.1 <| meets_send (fun _ _ _ h _ => Asked.record h rfl rfl)
    fun _ _ h _ => Asked.record h rfl rfl

theorem asked_delete (key : String) : Action.Keeps (Asked past keys) (delete key) := by
  intro b h
  have hrecord : (b.record (.cacheCall .delete key)).Asked past keys := h.record rfl rfl
  rcases hfault : b.cache.fault .delete key with none | failure
  · rw [delete_of_none hfault]
    exact hrecord
  · rw [delete_of_some hfault]
    exact hrecord

end Backend

/-! ## Lookups -/

namespace Repository

open Backend

variable {r : Repository} {past : List Event} {keys : List String}

/-- A lookup asks for its own key, and stores only under this key. -/
theorem asked_findRow (lookup : Lookup) :
    Action.Meets (Asked past keys) (r.findRow lookup)
      (fun _ => Asked past (keys ++ [r.lookupKey lookup]))
      (Asked past (keys ++ [r.lookupKey lookup])) := by
  -- Between asking the cache and storing the row the key is asked for and not yet stored under.
  -- A lookup that stops there leaves a journal in order as well, since not every key need be stored
  -- under.
  have hfetch : Action.Meets (Asked past keys) (Backend.fetch (r.lookupKey lookup))
      (fun _ => Asking past keys (r.lookupKey lookup))
      (Asked past (keys ++ [r.lookupKey lookup])) := by
    intro b h
    have hasking := h.fetch (r.lookupKey lookup)
    rcases hfault : b.cache.fault .fetch (r.lookupKey lookup) with none | failure
    · rw [fetch_of_none hfault]
      exact hasking
    · rw [fetch_of_some hfault]
      exact hasking.asked
  have hsend : Action.Meets (Asking past keys (r.lookupKey lookup))
      (Backend.send (.findObject r.table lookup)) (fun _ => Asking past keys (r.lookupKey lookup))
      (Asked past (keys ++ [r.lookupKey lookup])) :=
    meets_send (fun _ _ _ h _ => Asking.record h rfl rfl)
      fun _ _ h _ => (Asking.record h rfl rfl).asked
  have hstore : ∀ text, Action.Meets (Asking past keys (r.lookupKey lookup))
      (Backend.store (r.lookupKey lookup) text)
      (fun _ => Asked past (keys ++ [r.lookupKey lookup]))
      (Asked past (keys ++ [r.lookupKey lookup])) := by
    intro text b h
    rcases hfault : b.cache.fault .store (r.lookupKey lookup) with none | failure
    · rw [store_of_none hfault]
      exact h.store
    · rw [store_of_some hfault]
      exact h.store
  unfold findRow
  refine hfetch.bind fun cached => ?_
  cases cached with
  | some text =>
    simp only
    split
    · exact Action.meets_pure fun _ h => h.asked
    · exact Action.meets_throw fun _ h => h.asked
  | none =>
    refine hsend.bind fun found => ?_
    cases found with
    | none => exact Action.meets_pure fun _ h => h.asked
    | some row =>
      simp only
      split
      · exact (hstore _).bind fun _ => Action.meets_pure fun _ h => h
      · exact Action.meets_pure fun _ h => h.asked

theorem asked_find (lookup : Lookup) :
    Action.Meets (Asked past keys) (r.find lookup)
      (fun _ => Asked past (keys ++ [r.lookupKey lookup]))
      (Asked past (keys ++ [r.lookupKey lookup])) := by
  have happly : ∀ object, Action.Keeps (Asked past (keys ++ [r.lookupKey lookup]))
      (r.metadataStore.apply object) :=
    fun object => (asked_send _).bind fun _ => Action.keeps_pure _
  refine (asked_findRow lookup).bind fun found => ?_
  cases found with
  | none => exact Action.meets_pure fun _ h => h
  | some row => exact Action.meets_iff_keeps.2 ((happly _).map _)

/-- The ids of a page are asked for one after the other. -/
theorem asked_loadAll (ids : List Int64) :
    Action.Meets (Asked past keys) (r.loadAll ids) (fun _ => Asked past (keys ++ ids.map r.idKey))
      (Asked past (keys ++ ids.map r.idKey)) := by
  induction ids generalizing keys with
  | nil => exact Action.meets_pure fun _ h => (List.append_nil keys).symm ▸ h
  | cons id rest ih =>
    -- If the first lookup fails the others are not made, and what was asked for is a part of what
    -- would have been.
    have hfirst : Action.Meets (Asked past keys) (r.loadById id)
        (fun _ => Asked past (keys ++ [r.idKey id]))
        (Asked past (keys ++ [r.idKey id] ++ rest.map r.idKey)) :=
      (asked_find (.id id)).mono (fun _ _ h => h) fun _ h =>
        Asked.mono h (List.sublist_append_left _ _)
    have hkeys : keys ++ (id :: rest).map r.idKey = keys ++ [r.idKey id] ++ rest.map r.idKey := by
      rw [List.map_cons, List.append_assoc, List.singleton_append]
    rw [hkeys]
    exact hfirst.bind fun _ => ih.bind fun _ => Action.meets_pure fun _ h => h

end Repository

/-! ## Pages -/

theorem sublist_window {α : Type} (limit offset : Int64) (items : List α) :
    (window limit offset items).Sublist items := by
  unfold window
  simp only
  split
  · exact List.drop_sublist _ _
  · exact (List.take_sublist _ _).trans (List.drop_sublist _ _)

/-- No id is listed twice, since ids are the keys of the table. -/
theorem Database.nodup_listObjects {db db' : Database} {name : String} {pattern : Option String}
    {field : SortField} {direction : SortDirection} {limit offset : Int64} {ids : List Int64}
    (h : db.run (.listObjects name pattern field direction limit offset) = .ok (ids, db')) :
    ids.Nodup := by
  obtain ⟨t, -, hrest⟩ := bind_eq_ok_iff_exists.1 (run_eq_ok_iff.1 h).2
  obtain ⟨-, -, hpair⟩ := bind_eq_ok_iff_exists.1 hrest
  cases hpair
  have hrows : (t.toList.map (·.1)).Nodup := by
    rw [ObjectTable.toList, Std.ExtTreeMap.map_fst_toList_eq_keys]
    exact Std.ExtTreeMap.nodup_keys
  have hmatching : ((t.matching pattern).map (·.1)).Nodup :=
    hrows.sublist (List.filter_sublist.map _)
  have hsorted : ((ObjectTable.sorted t.collation field direction (t.matching pattern)).map
      (·.1)).Nodup := ((List.mergeSort_perm _ _).map _).nodup_iff.2 hmatching
  exact hsorted.sublist (sublist_window _ _ _)

/-- No id is found twice, since what is found is a set. -/
theorem Database.nodup_listMatches {db db' : Database} {name : String} {plan : Plan}
    {direction : SortDirection} {limit offset : Int64} {ids : List Int64}
    (h : db.run (.listMatches name plan direction limit offset) = .ok (ids, db')) :
    ids.Nodup := by
  obtain ⟨found, -, hpair⟩ := bind_eq_ok_iff_exists.1 (run_eq_ok_iff.1 h).2
  cases hpair
  have hfound : found.toList.Nodup :=
    Std.ExtTreeSet.distinct_toList.imp fun hne heq => hne (Std.compare_eq_iff_eq.2 heq)
  refine List.Nodup.sublist (sublist_window _ _ _) ?_
  cases direction with
  | ascending => exact hfound
  | descending => exact (List.reverse_perm _).nodup_iff.2 hfound

/-! ## Requests -/

namespace Repository

open Backend

variable {r : Repository} {past : List Event}

/-- Since the journal was `past`, no key was asked for twice and no entry stored twice. -/
def AskedOnce (past : List Event) (b : Backend) : Prop :=
  ∃ keys, keys.Nodup ∧ b.Asked past keys

/-- The ids of a page have different keys. -/
theorem askedOnce_loadAll {ids : List Int64} (hids : ids.Nodup) :
    Action.Meets (Asked past []) (r.loadAll ids) (fun _ => AskedOnce past) (AskedOnce past) := by
  have hkeys : (ids.map r.idKey).Nodup :=
    List.Pairwise.map r.idKey (fun a b hne heq => hne (idKey_injective heq)) hids
  exact (asked_loadAll ids).mono (fun _ _ h => ⟨_, hkeys, h⟩) fun _ h => ⟨_, hkeys, h⟩

theorem askedOnce_page {listing : Action (List Int64)}
    (hlisting : Action.Meets (Asked past []) listing
      (fun ids b => ids.Nodup ∧ b.Asked past []) (Asked past [])) {total : Nat} :
    Action.Meets (Asked past []) (do
      let ids ← listing
      let page ← r.loadAll ids
      pure (SearchResult.mk total page)) (fun _ => AskedOnce past) (AskedOnce past) := by
  refine (hlisting.mono (fun _ _ h => h) fun b h => ⟨[], List.nodup_nil, h⟩).bind fun ids => ?_
  intro b h
  have hpage : Action.Meets (Asked past [])
      (r.loadAll ids >>= fun page => pure (SearchResult.mk total page))
      (fun _ => AskedOnce past) (AskedOnce past) :=
    (askedOnce_loadAll h.1).bind fun _ => Action.meets_pure fun _ h => h
  exact hpage b h.2

theorem askedOnce_search (query : String) (options : SearchOptions) :
    Action.Meets (Asked past []) (r.search query options) (fun _ => AskedOnce past)
      (AskedOnce past) := by
  have hcount : Action.Meets (Asked past []) (Backend.send (.countObjects r.table
      (namePattern query))) (fun _ => Asked past []) (AskedOnce past) :=
    (Action.meets_iff_keeps.2 (asked_send _)).mono (fun _ _ h => h)
      fun _ h => ⟨[], List.nodup_nil, h⟩
  refine hcount.bind fun total => askedOnce_page ?_
  exact meets_send (fun _ _ _ h hrun => ⟨Database.nodup_listObjects hrun, Asked.record h rfl rfl⟩)
    fun _ _ h _ => Asked.record h rfl rfl

theorem askedOnce_metaSearch (p : Predicate) (options : MetadataSearchOptions) :
    Action.Meets (Asked past []) (r.metaSearch p options) (fun _ => AskedOnce past)
      (AskedOnce past) := by
  have hstop : ∀ b, Asked past [] b → AskedOnce past b := fun _ h => ⟨[], List.nodup_nil, h⟩
  unfold metaSearch
  split
  · exact Action.meets_throw hstop
  · split
    · exact Action.meets_throw hstop
    · rename_i plan _
      have hcount : Action.Meets (Asked past []) (Backend.send (.countMatches r.table plan))
          (fun _ => Asked past []) (AskedOnce past) :=
        (Action.meets_iff_keeps.2 (asked_send _)).mono (fun _ _ h => h) hstop
      refine hcount.bind fun total => askedOnce_page ?_
      exact meets_send
        (fun _ _ _ h hrun => ⟨Database.nodup_listMatches hrun, Asked.record h rfl rfl⟩)
        fun _ _ h _ => Asked.record h rfl rfl

/-- While a request is made no key is asked for twice and none is stored under twice. -/
theorem askedOnce_request (request : Request) (desk : Desk) :
    AskedOnce desk.backend.journal (request.run r desk).2.backend := by
  have hstart := asked_refl desk.backend
  by_cases hlooks : request.LooksUp
  · have hfind : ∀ lookup, AskedOnce desk.backend.journal (r.find lookup desk.backend).2 :=
      fun lookup => ⟨_, List.pairwise_singleton _ _, (asked_find lookup).after hstart⟩
    cases request with
    | load key handle | loadById id handle | loadByName name handle =>
      rw [Request.run, Desk.backend_lookUp]
      exact hfind _
    | search query options =>
      rw [Request.run, Desk.list, Desk.backend_act fun _ _ => rfl]
      exact (askedOnce_search query options).after hstart
    | metaSearch p options =>
      rw [Request.run, Desk.list, Desk.backend_act fun _ _ => rfl]
      exact (askedOnce_metaSearch p options).after hstart
    | _ => exact hlooks.elim
  · -- All other requests do not ask the cache for anything.
    have hsend : ∀ s, Action.Alike (Backend.Same (Asked desk.backend.journal []))
        (Backend.send s) := fun s => (asked_send s).alike
    have hdelete : ∀ key, Action.Alike (Backend.Same (Asked desk.backend.journal []))
        (Backend.delete key) := fun key => (asked_delete key).alike
    refine ⟨[], List.nodup_nil, ?_⟩
    by_cases hdeletion : request.IsDelete
    · cases request with
      | delete handle =>
        exact (Request.alike_delete (alike_delete (fun _ => hdelete _) fun s _ => hsend s) handle
          ⟨hstart, rfl⟩).backend.1
      | _ => exact hdeletion.elim
    · exact (Request.alike_run (alikeParts_of_calls hsend fun _ => hdelete _)
        (fun _ => MetadataStore.alike_save fun s _ _ => hsend s) (fun h => absurd h hlooks)
        hdeletion ⟨hstart, rfl⟩).backend.1

/-- **A request asks the cache once.** No key is asked for twice and no entry is stored twice under
one key; and an entry is stored only under a key that was asked for. -/
theorem asks_once (request : Request) (desk : Desk) :
    ∃ events, (request.run r desk).2.backend.journal = desk.backend.journal ++ events ∧
      (events.filterMap Event.fetched?).Nodup ∧ (events.filterMap Event.stored?).Nodup ∧
      ∀ before key after, events = before ++ .cacheCall .store key :: after →
        .cacheCall .fetch key ∈ before := by
  obtain ⟨keys, hkeys, events, hjournal, horderly⟩ := askedOnce_request (r := r) request desk
  exact ⟨events, hjournal, hkeys.sublist horderly.fetched, hkeys.sublist horderly.stored,
    horderly.asked⟩

end Repository

end ObjectCatalog
