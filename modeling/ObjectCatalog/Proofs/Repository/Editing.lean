import ObjectCatalog.Proofs.Repository.Action

/-!
# Reasoning about editings

An editing works on an object besides the backend, and both are kept if it fails. So what is true
after it (`Editing.Meets`) is said of the object and the backend together, once for a value and once
for an error, and the rules are those of actions: a sequence is put together from its parts, and an
action that is carried out within an editing leaves the object alone.
-/

namespace ObjectCatalog

variable {α β : Type}

/-- If `P` holds of the object and the backend, the editing ends in a value for which `Q` holds of
what it leaves, or in an error and `E` holds of what it leaves. -/
def Editing.Meets (P : NamedObject → Backend → Prop) (e : Editing α)
    (Q : α → NamedObject → Backend → Prop) (E : NamedObject → Backend → Prop) : Prop :=
  ∀ object b, P object b → match e object b with
    | ((.ok x, object'), b') => Q x object' b'
    | ((.error _, object'), b') => E object' b'

variable {P : NamedObject → Backend → Prop} {Q : α → NamedObject → Backend → Prop}
  {E : NamedObject → Backend → Prop} {e : Editing α}

theorem Editing.meets_pure {x : α} (h : ∀ object b, P object b → Q x object b) :
    Meets P (pure x : Editing α) Q E :=
  fun object b hb => h object b hb

theorem Editing.meets_throw {error : Error} (h : ∀ object b, P object b → E object b) :
    Meets P (throw error : Editing α) Q E :=
  fun object b hb => h object b hb

theorem Editing.meets_set {object : NamedObject} {Q : Unit → NamedObject → Backend → Prop}
    (h : ∀ old b, P old b → Q () object b) : Meets P (set object : Editing Unit) Q E :=
  fun old b hb => h old b hb

theorem Editing.Meets.bind {f : α → Editing β} {R : β → NamedObject → Backend → Prop}
    (he : Meets P e Q E) (hf : ∀ x, Meets (Q x) (f x) R E) : Meets P (e >>= f) R E := by
  intro object b hb
  have hdone := he object b hb
  show match ExceptT.bindCont f (e object b).1.1 (e object b).1.2 (e object b).2 with
    | ((.ok x, object'), b') => R x object' b'
    | ((.error _, object'), b') => E object' b'
  revert hdone
  rcases e object b with ⟨⟨error | x, object'⟩, b'⟩
  · exact id
  · exact hf x object' b'

theorem Editing.Meets.mono {P' : NamedObject → Backend → Prop}
    {Q' : α → NamedObject → Backend → Prop} {E' : NamedObject → Backend → Prop}
    (he : Meets P e Q E) (hP : ∀ object b, P' object b → P object b)
    (hQ : ∀ x object b, Q x object b → Q' x object b)
    (hE : ∀ object b, E object b → E' object b) : Meets P' e Q' E' := by
  intro object b hb
  have hdone := he object b (hP object b hb)
  revert hdone
  rcases e object b with ⟨⟨error | x, object'⟩, b'⟩
  · exact hE object' b'
  · exact hQ x object' b'

/-- What is true of the backend after a value and after an error is true of it afterwards. -/
theorem Editing.Meets.after {K : Backend → Prop} (he : Meets P e (fun _ _ => K) (fun _ => K))
    {object : NamedObject} {b : Backend} (hb : P object b) : K (e.on object b).2.2 := by
  have hdone := he object b hb
  unfold Editing.on
  revert hdone
  rcases e object b with ⟨⟨error | x, object'⟩, b'⟩
  · exact id
  · exact id

/-- What goes on with the object that is seen goes on with an object of which `K` holds. -/
theorem Editing.Meets.get_bind {f : NamedObject → Editing α} {K : NamedObject → Prop}
    {P : Backend → Prop} (hf : ∀ seen, K seen → Meets (fun o b => o = seen ∧ P b) (f seen) Q E) :
    Meets (fun o b => K o ∧ P b) (get >>= f) Q E :=
  fun object b hb => hf object hb.1 object b ⟨rfl, hb.2⟩

/-- An action within an editing: what is true after the action is true of the backend. -/
theorem Action.Meets.editing {P : Backend → Prop} {a : Action α} {Q : α → Backend → Prop}
    {E : Backend → Prop} (ha : Meets P a Q E) (K : NamedObject → Prop) :
    Editing.Meets (fun object b => K object ∧ P b) a.editing
      (fun x object b => K object ∧ Q x b) (fun object b => K object ∧ E b) := by
  rintro object b ⟨hobject, hb⟩
  have hdone := ha b hb
  unfold Action.editing
  simp only [ExceptT.mk]
  revert hdone
  rcases a b with ⟨error | x, b'⟩
  · exact fun h => ⟨hobject, h⟩
  · exact fun h => ⟨hobject, h⟩

/-! ## Saves and updates -/

/-- An object after a save: as it was, or with its metadata remembered as stored. -/
def NamedObject.MaybeSaved (object object' : NamedObject) : Prop :=
  object' = object ∨ object' = object.markSaved

/-- A save keeps what its statements keep. -/
theorem MetadataStore.meets_save {store : MetadataStore} {object : NamedObject}
    {P : Backend → Prop}
    (hremovals : Action.Keeps P (store.writeRemovals object.id object.metadataDelta.removals))
    (hupserts : Action.Keeps P (store.writeUpserts object.id object.metadataDelta.upserts)) :
    Editing.Meets (fun o b => o = object ∧ P b) store.save
      (fun _ o b => object.MaybeSaved o ∧ P b) (fun o b => o = object ∧ P b) := by
  have hwrites : ∀ {a : Action Unit}, Action.Keeps P a →
      Editing.Meets (fun o b => o = object ∧ P b) a.editing (fun _ o b => o = object ∧ P b)
        (fun o b => o = object ∧ P b) :=
    fun ha => (Action.meets_iff_keeps.2 ha).editing (· = object)
  refine Editing.Meets.get_bind fun seen hseen => ?_
  rw [hseen]
  simp only
  split
  · exact Editing.meets_pure fun _ _ h => ⟨.inl h.1, h.2⟩
  · exact (hwrites hremovals).bind fun _ => (hwrites hupserts).bind fun _ =>
      Editing.meets_set fun _ _ h => ⟨.inr rfl, h.2⟩

/-- An update is a save and then a rename, if the object has a new name. If it fails the object is
what the save made of it. -/
theorem Repository.meets_update {r : Repository} {object : NamedObject} {P Q E : Backend → Prop}
    (hremovals :
      Action.Keeps P (r.metadataStore.writeRemovals object.id object.metadataDelta.removals))
    (hupserts :
      Action.Keeps P (r.metadataStore.writeUpserts object.id object.metadataDelta.upserts))
    (hfailed : ∀ b, P b → E b)
    (hsame : Text.trim object.name = object.persistedName → ∀ b, P b → Q b)
    (hrename : Text.trim object.name ≠ object.persistedName →
      Action.Meets P (r.rename object (Text.trim object.name)) (fun _ => Q) E) :
    Editing.Meets (fun o b => o = object ∧ P b) r.update (fun _ o b => o.id = object.id ∧ Q b)
      (fun o b => object.MaybeSaved o ∧ E b) := by
  have hsave : Editing.Meets (fun o b => o = object ∧ P b) r.metadataStore.save
      (fun _ o b => object.MaybeSaved o ∧ P b) (fun o b => object.MaybeSaved o ∧ E b) :=
    (MetadataStore.meets_save hremovals hupserts).mono (fun _ _ h => h) (fun _ _ _ h => h)
      fun _ b h => ⟨.inl h.1, hfailed b h.2⟩
  refine hsave.bind fun _ => Editing.Meets.get_bind fun seen hseen => ?_
  -- What is read of the object now is what was there before the save.
  have hid : seen.id = object.id := by rcases hseen with rfl | rfl <;> rfl
  have hname : seen.name = object.name := by rcases hseen with rfl | rfl <;> rfl
  have hknown : seen.persistedName = object.persistedName := by rcases hseen with rfl | rfl <;> rfl
  have hcall : r.rename seen (Text.trim object.name) = r.rename object (Text.trim object.name) := by
    rw [rename, rename, hid, hknown]
  simp only
  rw [hname, hknown, hcall]
  split
  · rename_i heq
    exact Editing.meets_set fun _ b h => ⟨hid, hsame heq b h.2⟩
  · rename_i hne
    split
    · exact Editing.meets_throw fun _ b h => ⟨h.1 ▸ hseen, hfailed b h.2⟩
    · refine ((hrename hne).editing (· = seen)).mono (fun _ _ h => h) (fun _ _ _ h => h)
        (fun _ _ h => ⟨h.1 ▸ hseen, h.2⟩) |>.bind fun _ => ?_
      exact Editing.meets_set fun _ b h => ⟨hid, h.2⟩

end ObjectCatalog
