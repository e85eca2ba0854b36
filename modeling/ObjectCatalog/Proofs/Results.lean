/-!
# Results of steps in a row

Readers and databases go step by step, and the first step that fails ends them. What a sequence answers
is said here by what its parts answer, so that no proof has to open the sequence itself.
-/

namespace ObjectCatalog

variable {ε α β : Type}

theorem bind_of_eq_ok {x : Except ε α} {a : α} (h : x = .ok a) (f : α → Except ε β) :
    x >>= f = f a := by
  rw [h]
  rfl

theorem bind_of_eq_error {x : Except ε α} {e : ε} (h : x = .error e) (f : α → Except ε β) :
    x >>= f = .error e := by
  rw [h]
  rfl

/-- Two steps in a row answer what the second makes of the first one's answer. -/
theorem bind_eq_ok_iff_exists {x : Except ε α} {f : α → Except ε β} {b : β} :
    x >>= f = .ok b ↔ ∃ a, x = .ok a ∧ f a = .ok b := by
  cases x with
  | error e =>
    refine iff_of_false nofun ?_
    rintro ⟨a, h, -⟩
    cases h
  | ok a =>
    refine ⟨fun h => ⟨a, rfl, h⟩, ?_⟩
    rintro ⟨a', h, hf⟩
    cases h
    exact hf

/-- Two steps in a row fail as the first does or, where that answers, as the second does. -/
theorem bind_eq_error_iff_or {x : Except ε α} {f : α → Except ε β} {e : ε} :
    x >>= f = .error e ↔ x = .error e ∨ ∃ a, x = .ok a ∧ f a = .error e := by
  cases x with
  | error e' =>
    refine ⟨fun h => .inl (congrArg Except.error (Except.error.inj h)), ?_⟩
    rintro (h | ⟨_, h, -⟩)
    · exact congrArg Except.error (Except.error.inj h)
    · cases h
  | ok a =>
    refine ⟨fun h => .inr ⟨a, rfl, h⟩, ?_⟩
    rintro (h | ⟨_, h, hf⟩)
    · cases h
    · exact Except.ok.inj h ▸ hf

theorem map_eq_ok_iff_exists {x : Except ε α} {f : α → β} {b : β} :
    x.map f = .ok b ↔ ∃ a, x = .ok a ∧ f a = b := by
  cases x with
  | error e =>
    refine iff_of_false nofun ?_
    rintro ⟨a, h, -⟩
    cases h
  | ok a => simp [Except.map]

theorem map_eq_error_iff {x : Except ε α} {f : α → β} {e : ε} :
    x.map f = .error e ↔ x = .error e := by
  cases x with
  | error e' => simp [Except.map]
  | ok a => exact iff_of_false nofun nofun

/-- What is answered is known to be `P`, and there is one way to fail. -/
theorem eq_error_iff_of_eq_ok_iff {x : Except ε α} {P : α → Prop} {fault e : ε}
    (hok : ∀ a, x = .ok a ↔ P a) (hfault : ∀ e, x = .error e → e = fault) :
    x = .error e ↔ e = fault ∧ ∀ a, ¬ P a := by
  constructor
  · intro h
    refine And.intro (hfault e h) fun a ha => ?_
    rw [(hok a).2 ha] at h
    cases h
  · rintro ⟨rfl, hnone⟩
    cases hx : x with
    | error e' => rw [hfault e' hx]
    | ok a => exact absurd ((hok a).1 hx) (hnone a)

end ObjectCatalog
