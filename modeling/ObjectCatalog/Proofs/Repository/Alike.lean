import ObjectCatalog.Proofs.Repository.Action

/-!
# Actions on two backends

To compare two runs, an action is carried out on two backends at once. It is alike on backends in a
relation if it ends in the same value, or in the same error, on both, and leaves backends in the
relation again (`Action.Alike`).

A sequence of actions that are alike is alike: both runs go on, or both stop, and the relation holds
where they do. So the calls of a repository need to be looked into only where they ask the cache.
-/

namespace ObjectCatalog

variable {α β : Type} {R : Backend → Backend → Prop}

/-! ## Actions -/

/-- On backends in the relation `R` the action ends in the same way, with backends in `R`. -/
def Action.Alike (R : Backend → Backend → Prop) (a : Action α) : Prop :=
  ∀ b b', R b b' → (a b').1 = (a b).1 ∧ R (a b).2 (a b').2

theorem Action.alike_pure (x : α) : Alike R (pure x : Action α) :=
  fun _ _ h => ⟨rfl, h⟩

theorem Action.alike_throw (e : Error) : Alike R (throw e : Action α) :=
  fun _ _ h => ⟨rfl, h⟩

theorem Action.Alike.bind {a : Action α} {f : α → Action β} (ha : Alike R a)
    (hf : ∀ x, Alike R (f x)) : Alike R (a >>= f) := by
  intro b b' h
  obtain ⟨hresult, hafter⟩ := ha b b' h
  rcases hab : a b with ⟨result, c⟩
  rcases hab' : a b' with ⟨result', c'⟩
  rw [hab, hab'] at hresult hafter
  obtain rfl : result' = result := hresult
  cases result' with
  | error e =>
    rw [bind_of_error hab, bind_of_error hab']
    exact ⟨rfl, hafter⟩
  | ok x =>
    rw [bind_of_ok hab, bind_of_ok hab']
    exact hf x c c' hafter

theorem Action.Alike.map {a : Action α} (ha : Alike R a) (g : α → β) : Alike R (g <$> a) := by
  rw [map_eq_bind]
  exact ha.bind fun x => alike_pure (g x)

theorem Action.Alike.adapt {a : Action α} (ha : Alike R a) (g : Error → Error) :
    Alike R (ExceptT.adapt g a : Action α) := by
  intro b b' h
  obtain ⟨hresult, hafter⟩ := ha b b' h
  refine ⟨?_, hafter⟩
  show (a b').1.mapError g = (a b).1.mapError g
  rw [hresult]

/-- What the action keeps on the first backend can be added to the relation. -/
theorem Action.Alike.and_keeps {a : Action α} {P : Backend → Prop} (ha : Alike R a)
    (hkeeps : Keeps P a) : Alike (fun b b' => R b b' ∧ P b) a := by
  rintro b b' ⟨h, hb⟩
  obtain ⟨hresult, hafter⟩ := ha b b' h
  exact ⟨hresult, hafter, hkeeps b hb⟩

/-- One backend taken twice, of which `P` holds. -/
def Backend.Same (P : Backend → Prop) (b b' : Backend) : Prop :=
  P b ∧ b' = b

/-- To keep something is to be alike on one backend taken twice. -/
theorem Action.Keeps.alike {a : Action α} {P : Backend → Prop} (ha : Keeps P a) :
    Alike (Backend.Same P) a := by
  rintro b b' ⟨hb, hsame⟩
  rw [hsame]
  exact ⟨rfl, ha b hb, rfl⟩

/-- The converse: what is alike on one backend taken twice is kept. -/
theorem Action.Alike.keeps {a : Action α} {P : Backend → Prop} (ha : Alike (Backend.Same P) a) :
    Keeps P a :=
  fun b hb => (ha b b ⟨hb, rfl⟩).2.1

/-! ## Editings -/

/-- On backends in `R` the editing ends in the same way, with the same object and with backends in
`R`. -/
def Editing.Alike (R : Backend → Backend → Prop) (e : Editing α) : Prop :=
  ∀ object b b', R b b' → (e object b').1 = (e object b).1 ∧ R (e object b).2 (e object b').2

theorem Editing.alike_pure (x : α) : Alike R (pure x : Editing α) :=
  fun _ _ _ h => ⟨rfl, h⟩

theorem Editing.alike_throw (e : Error) : Alike R (throw e : Editing α) :=
  fun _ _ _ h => ⟨rfl, h⟩

theorem Editing.alike_get : Alike R (get : Editing NamedObject) :=
  fun _ _ _ h => ⟨rfl, h⟩

theorem Editing.alike_set (object : NamedObject) : Alike R (set object : Editing Unit) :=
  fun _ _ _ h => ⟨rfl, h⟩

theorem Editing.Alike.bind {e : Editing α} {f : α → Editing β} (he : Alike R e)
    (hf : ∀ x, Alike R (f x)) : Alike R (e >>= f) := by
  intro object b b' h
  obtain ⟨hresult, hafter⟩ := he object b b' h
  show (ExceptT.bindCont f (e object b').1.1 (e object b').1.2 (e object b').2).1 =
      (ExceptT.bindCont f (e object b).1.1 (e object b).1.2 (e object b).2).1 ∧
    R (ExceptT.bindCont f (e object b).1.1 (e object b).1.2 (e object b).2).2
      (ExceptT.bindCont f (e object b').1.1 (e object b').1.2 (e object b').2).2
  rw [hresult]
  cases (e object b).1.1 with
  | error error => exact ⟨rfl, hafter⟩
  | ok x => exact hf x _ _ _ hafter

theorem Action.Alike.editing {a : Action α} (ha : Alike R a) : Editing.Alike R a.editing := by
  intro object b b' h
  obtain ⟨hresult, hafter⟩ := ha b b' h
  refine ⟨?_, hafter⟩
  show ((a b').1, object) = ((a b).1, object)
  rw [hresult]

end ObjectCatalog
