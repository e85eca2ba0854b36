import ObjectCatalog.Repository.Search

/-!
# Reasoning about actions

An action ends in a value or in an error and leaves a backend in both cases. So a sequence is taken
apart by what its first part answered: if that was a value the rest goes on from the backend it
left, and if it was an error the whole ends there. These are the only two facts about sequences
(`Action.bind_of_ok`, `Action.bind_of_error`), and all that is shown of the calls of a repository is
shown with them.

`Action.Meets` says what is true after an action, for its value and, apart from that, for an error;
and `Action.Keeps` is for what an action leaves true however it ends. Both go through sequences part
by part, so what a call does is put together from what its parts do.
-/

namespace ObjectCatalog

variable {α β : Type}

/-! ## Sequences -/

theorem Action.bind_of_ok {a : Action α} {f : α → Action β} {b b' : Backend} {x : α}
    (h : a b = (.ok x, b')) : (a >>= f) b = f x b' := by
  show ExceptT.bindCont f (a b).1 (a b).2 = f x b'
  rw [h]
  rfl

theorem Action.bind_of_error {a : Action α} {f : α → Action β} {b b' : Backend} {e : Error}
    (h : a b = (.error e, b')) : (a >>= f) b = (.error e, b') := by
  show ExceptT.bindCont f (a b).1 (a b).2 = (.error e, b')
  rw [h]
  rfl

theorem Action.map_eq_bind (g : α → β) (a : Action α) :
    g <$> a = a >>= fun x => pure (g x) := rfl

theorem Action.adapt_of_ok {a : Action α} {g : Error → Error} {b b' : Backend} {x : α}
    (h : a b = (.ok x, b')) : (ExceptT.adapt g a : Action α) b = (.ok x, b') := by
  show ((a b).1.mapError g, (a b).2) = (.ok x, b')
  rw [h]
  rfl

theorem Action.adapt_of_error {a : Action α} {g : Error → Error} {b b' : Backend} {e : Error}
    (h : a b = (.error e, b')) : (ExceptT.adapt g a : Action α) b = (.error (g e), b') := by
  show ((a b).1.mapError g, (a b).2) = (.error (g e), b')
  rw [h]
  rfl

/-! ## What is true afterwards -/

/-- If `P` holds of the backend, the action ends in a value of which, with the backend it leaves, `Q`
holds, or in an error with a backend of which `E` holds. -/
def Action.Meets (P : Backend → Prop) (a : Action α) (Q : α → Backend → Prop)
    (E : Backend → Prop) : Prop :=
  ∀ b, P b → match a b with
    | (.ok x, b') => Q x b'
    | (.error _, b') => E b'

/-- What holds before the action holds after it, however it ends. -/
def Action.Keeps (P : Backend → Prop) (a : Action α) : Prop :=
  ∀ b, P b → P (a b).2

variable {P : Backend → Prop} {Q : α → Backend → Prop} {E : Backend → Prop} {a : Action α}

/-- What is true after a value and after an error is true afterwards. -/
theorem Action.Meets.after {Q : Backend → Prop} (ha : Meets P a (fun _ => Q) Q) {b : Backend}
    (hb : P b) : Q (a b).2 := by
  have hab := ha b hb
  revert hab
  rcases a b with ⟨e | x, b'⟩ <;> exact id

theorem Action.meets_iff_keeps : Meets P a (fun _ => P) P ↔ Keeps P a := by
  constructor
  · exact fun h b hb => h.after hb
  · intro h b hb
    have hab := h b hb
    revert hab
    rcases a b with ⟨e | x, b'⟩ <;> exact id

theorem Action.Meets.mono {Q' : α → Backend → Prop} {E' : Backend → Prop} (ha : Meets P a Q E)
    (hQ : ∀ x b, Q x b → Q' x b) (hE : ∀ b, E b → E' b) : Meets P a Q' E' := by
  intro b hb
  have hab := ha b hb
  revert hab
  rcases a b with ⟨e | x, b'⟩
  · exact hE b'
  · exact hQ x b'

theorem Action.Meets.mono_of {P' : Backend → Prop} (ha : Meets P a Q E)
    (hP : ∀ b, P' b → P b) : Meets P' a Q E :=
  fun b hb => ha b (hP b hb)

theorem Action.meets_true (a : Action α) :
    Meets P a (fun _ _ => True) (fun _ => True) := by
  intro b _
  rcases a b with ⟨e | x, b'⟩ <;> trivial

theorem Action.Meets.bind {f : α → Action β} {R : β → Backend → Prop} (ha : Meets P a Q E)
    (hf : ∀ x, Meets (Q x) (f x) R E) : Meets P (a >>= f) R E := by
  intro b hb
  have hab := ha b hb
  rcases h : a b with ⟨e | x, b'⟩
  · rw [h] at hab
    rw [bind_of_error h]
    exact hab
  · rw [h] at hab
    rw [bind_of_ok h]
    exact hf x b' hab

/-- What is kept is true afterwards besides what is met. -/
theorem Action.Meets.and_keeps (ha : Meets P a Q E) (hkeeps : Keeps P a) :
    Meets P a (fun x b => Q x b ∧ P b) E := by
  intro b hb
  have hab := ha b hb
  have hafter := hkeeps b hb
  revert hab hafter
  rcases a b with ⟨e | x, b'⟩
  · exact fun h _ => h
  · exact And.intro

/-- A fact that is not about the backend can be taken for granted. -/
theorem Action.meets_of_imp {p : Prop} (h : p → Meets P a Q E) :
    Meets (fun b => p ∧ P b) a Q E :=
  fun b hb => h hb.1 b hb.2

theorem Action.Keeps.meets (h : Keeps P a) : Meets P a (fun _ => P) (fun _ => True) :=
  (meets_iff_keeps.2 h).mono (fun _ _ hb => hb) fun _ _ => trivial

theorem Action.meets_pure {x : α} (h : ∀ b, P b → Q x b) : Meets P (pure x : Action α) Q E :=
  fun b hb => h b hb

theorem Action.meets_throw {e : Error} (h : ∀ b, P b → E b) : Meets P (throw e : Action α) Q E :=
  fun b hb => h b hb

theorem Action.Meets.adapt (ha : Meets P a Q E) (g : Error → Error) :
    Meets P (ExceptT.adapt g a : Action α) Q E := by
  intro b hb
  have hab := ha b hb
  rcases h : a b with ⟨e | x, b'⟩
  · rw [h] at hab
    rw [adapt_of_error h]
    exact hab
  · rw [h] at hab
    rw [adapt_of_ok h]
    exact hab

theorem Action.Keeps.bind {f : α → Action β} (ha : Keeps P a) (hf : ∀ x, Keeps P (f x)) :
    Keeps P (a >>= f) :=
  meets_iff_keeps.1 ((meets_iff_keeps.2 ha).bind fun x => meets_iff_keeps.2 (hf x))

theorem Action.keeps_pure (x : α) : Keeps P (pure x : Action α) := fun _ hb => hb

theorem Action.keeps_throw (e : Error) : Keeps P (throw e : Action α) := fun _ hb => hb

theorem Action.Keeps.map (ha : Keeps P a) (g : α → β) : Keeps P (g <$> a) := by
  rw [map_eq_bind]
  exact ha.bind fun x => keeps_pure (g x)

/-! ## Calls -/

namespace Backend

theorem send_of_ok {s : Statement} {b : Backend} {answer : s.Answer} {db : Database}
    (h : b.database.run s = .ok (answer, db)) :
    send s b = (.ok answer, { b.record (.statement s true) with database := db }) := by
  unfold send
  simp only [ExceptT.mk, h]

theorem send_of_error {s : Statement} {b : Backend} {refusal : Refusal}
    (h : b.database.run s = .error refusal) :
    send s b = (.error (.storage (.database refusal.report)),
      b.record (.statement s refusal.wasPrepared)) := by
  unfold send
  simp only [ExceptT.mk, h]

/-- A statement that changes nothing and that the database can read is answered and noted. -/
theorem send_of_carryOut {s : Statement} {b : Backend} {answer : s.Answer}
    (hread : Database.textRefusal? s = none)
    (h : b.database.carryOut s = .ok (answer, b.database)) :
    send s b = (.ok answer, b.record (.statement s true)) := by
  have hrun : b.database.run s = .ok (answer, b.database) := by rw [Database.run, hread, h]
  exact send_of_ok hrun

/-- A statement: what is true after it was carried out, and after it was refused. -/
theorem meets_send {P : Backend → Prop} {s : Statement} {Q : s.Answer → Backend → Prop}
    {E : Backend → Prop}
    (hok : ∀ b answer db, P b → b.database.run s = .ok (answer, db) →
      Q answer { b.record (.statement s true) with database := db })
    (herror : ∀ b refusal, P b → b.database.run s = .error refusal →
      E (b.record (.statement s refusal.wasPrepared))) : Action.Meets P (send s) Q E := by
  intro b hb
  rcases hrun : b.database.run s with refusal | ⟨answer, db⟩
  · rw [send_of_error hrun]
    exact herror b refusal hb hrun
  · rw [send_of_ok hrun]
    exact hok b answer db hb hrun

/-- A call of the cache that fails has no effect. -/
theorem store_of_some {key value : String} {b : Backend} {failure : CacheFailure}
    (h : b.cache.fault .store key = some failure) :
    store key value b = (.error (.cache failure), b.record (.cacheCall .store key)) := by
  unfold store
  simp only [ExceptT.mk, record, Cache.store, h]

theorem store_of_none {key : String} {b : Backend} (h : b.cache.fault .store key = none)
    (value : String) :
    store key value b =
      (.ok (), { b.record (.cacheCall .store key) with cache := b.cache.put key value }) := by
  unfold store
  simp only [ExceptT.mk, record, Cache.store, h]

theorem delete_of_some {key : String} {b : Backend} {failure : CacheFailure}
    (h : b.cache.fault .delete key = some failure) :
    delete key b = (.error (.cache failure), b.record (.cacheCall .delete key)) := by
  unfold delete
  simp only [ExceptT.mk, record, Cache.delete, h]

theorem delete_of_none {key : String} {b : Backend} (h : b.cache.fault .delete key = none) :
    delete key b =
      (.ok (), { b.record (.cacheCall .delete key) with cache := b.cache.drop key }) := by
  unfold delete
  simp only [ExceptT.mk, record, Cache.delete, h]

theorem fetch_of_some {key : String} {b : Backend} {failure : CacheFailure}
    (h : b.cache.fault .fetch key = some failure) :
    fetch key b = (.error (.cache failure), b.record (.cacheCall .fetch key)) := by
  unfold fetch
  simp only [ExceptT.mk, record, Cache.fetch, h]

theorem fetch_of_none {key : String} {b : Backend} (h : b.cache.fault .fetch key = none) :
    fetch key b = (.ok (b.cache.get? key), b.record (.cacheCall .fetch key)) := by
  unfold fetch
  simp only [ExceptT.mk, record, Cache.fetch, h]

/-- A look into the cache changes nothing. -/
theorem keeps_fetch {P : Backend → Prop} (hrecord : ∀ b event, P b → P (b.record event))
    (key : String) : Action.Keeps P (fetch key) := by
  intro b hb
  rcases hfault : b.cache.fault .fetch key with none | failure
  · rw [fetch_of_none hfault]
    exact hrecord b _ hb
  · rw [fetch_of_some hfault]
    exact hrecord b _ hb

/-- An entry is put in, or the call fails and nothing is. -/
theorem meets_store {P Q : Backend → Prop} {key value : String}
    (hok : ∀ b, P b →
      Q { b.record (.cacheCall .store key) with cache := b.cache.put key value })
    (herror : ∀ b event, P b → Q (b.record event)) :
    Action.Meets P (store key value) (fun _ => Q) Q := by
  intro b hb
  rcases hfault : b.cache.fault .store key with none | failure
  · rw [store_of_none hfault]
    exact hok b hb
  · rw [store_of_some hfault]
    exact herror b _ hb

/-- A deletion from a cache that deletes. -/
theorem meets_delete {P Q E : Backend → Prop} {key : String}
    (hdelete : ∀ b, P b → b.cache.fault .delete key = none)
    (hok : ∀ b, P b → Q { b.record (.cacheCall .delete key) with cache := b.cache.drop key }) :
    Action.Meets P (delete key) (fun _ => Q) E := by
  intro b hb
  rw [delete_of_none (hdelete b hb)]
  exact hok b hb

/-! A call of the cache is noted in the journal, whether it succeeds or not, and leaves the database
alone. -/

theorem after_fetch (key : String) (b : Backend) :
    (fetch key b).2 = b.record (.cacheCall .fetch key) := by
  rcases hfault : b.cache.fault .fetch key with none | failure
  · rw [fetch_of_none hfault]
  · rw [fetch_of_some hfault]

theorem after_store (key value : String) (b : Backend) :
    ∃ cache, (store key value b).2 =
      { b.record (.cacheCall .store key) with cache := cache } := by
  rcases hfault : b.cache.fault .store key with none | failure
  · rw [store_of_none hfault]
    exact ⟨_, rfl⟩
  · rw [store_of_some hfault]
    exact ⟨b.cache, rfl⟩

theorem after_delete (key : String) (b : Backend) :
    ∃ cache, (delete key b).2 =
      { b.record (.cacheCall .delete key) with cache := cache } := by
  rcases hfault : b.cache.fault .delete key with none | failure
  · rw [delete_of_none hfault]
    exact ⟨_, rfl⟩
  · rw [delete_of_some hfault]
    exact ⟨b.cache, rfl⟩

theorem database_fetch (key : String) (b : Backend) : (fetch key b).2.database = b.database := by
  rw [after_fetch, record]

theorem database_store (key value : String) (b : Backend) :
    (store key value b).2.database = b.database := by
  obtain ⟨cache, h⟩ := after_store key value b
  rw [h, record]

theorem database_delete (key : String) (b : Backend) : (delete key b).2.database = b.database := by
  obtain ⟨cache, h⟩ := after_delete key b
  rw [h, record]

theorem journal_fetch (key : String) (b : Backend) :
    (fetch key b).2.journal = b.journal ++ [.cacheCall .fetch key] := by
  rw [after_fetch, record]

theorem journal_store (key value : String) (b : Backend) :
    (store key value b).2.journal = b.journal ++ [.cacheCall .store key] := by
  obtain ⟨cache, h⟩ := after_store key value b
  rw [h, record]

theorem journal_delete (key : String) (b : Backend) :
    (delete key b).2.journal = b.journal ++ [.cacheCall .delete key] := by
  obtain ⟨cache, h⟩ := after_delete key b
  rw [h, record]

end Backend

end ObjectCatalog
