import ObjectCatalog.Database.ObjectTable

/-!
# The rows of an object table

A table that was only ever changed by its own operations is sound: no id is above the highest it
ever held, and no two rows have names that its collation takes for the same. The first is why a new
row never replaces an old one, the second why a lookup by name has one answer.

What the operations do to the rows is said here once, so that nothing else has to look into them.
-/

namespace ObjectCatalog

theorem Collation.same_refl (c : Collation) (name : String) : c.same name name = true :=
  beq_self_eq_true _

theorem Collation.same_symm {c : Collation} {a b : String} (h : c.same a b = true) :
    c.same b a = true := by
  rw [Collation.same, beq_iff_eq] at h ⊢
  exact h.symm

/-- There is an id after every other than the last. -/
theorem toInt_succ_of_ne_maxValue {id : Int64} (h : id ≠ Int64.maxValue) :
    (id + 1).toInt = id.toInt + 1 := by
  have hle : id.toInt ≤ Int64.maxValue.toInt := Int64.toInt_le id
  have hne : id.toInt ≠ Int64.maxValue.toInt := fun heq => h (Int64.toInt_inj.1 heq)
  have hmin : Int64.minValue.toInt ≤ id.toInt := Int64.le_toInt id
  have hmaxValue : Int64.maxValue.toInt = 2 ^ 63 - 1 := by decide
  have hminValue : Int64.minValue.toInt = -2 ^ 63 := by decide
  have hone : (1 : Int64).toInt = 1 := by decide
  rw [Int64.toInt_add, hone, Int.bmod_eq_of_le (by omega) (by omega)]

theorem lt_succ_of_ne_maxValue {id : Int64} (h : id ≠ Int64.maxValue) : id < id + 1 := by
  rw [Int64.lt_iff_toInt_lt, toInt_succ_of_ne_maxValue h]
  exact Int.lt_succ _

namespace ObjectTable

variable {t t' : ObjectTable} {id id' : Int64} {name name' : String}

/-! ## Looking up -/

theorem mem_toList : (id, name) ∈ t.toList ↔ t.rows[id]? = some name :=
  Std.ExtTreeMap.mem_toList_iff_getElem?_eq_some

theorem withName?_eq_some {row : Int64 × String} (h : t.withName? name = some row) :
    t.rows[row.1]? = some row.2 ∧ t.collation.same row.2 name = true := by
  have hmem := List.mem_of_find?_eq_some h
  have hsame := List.find?_some h
  exact ⟨mem_toList.1 hmem, hsame⟩

theorem not_same_of_withName?_eq_none (h : (t.withName? name).isSome = false)
    (hrow : t.rows[id]? = some name') : t.collation.same name' name = false := by
  rw [Option.isSome_eq_false_iff, Option.isNone_iff_eq_none] at h
  have hrow' := List.find?_eq_none.1 h _ (mem_toList.2 hrow)
  simpa using hrow'

/-- What a lookup finds is a row of the table. -/
theorem find?_eq_some {lookup : Lookup} (h : t.find? lookup = some (id, name)) :
    t.rows[id]? = some name := by
  cases lookup with
  | id asked =>
    rw [find?, Option.map_eq_some_iff] at h
    obtain ⟨found, hfound, heq⟩ := h
    cases heq
    exact hfound
  | name asked => exact (withName?_eq_some h).1

theorem getElem?_put (rows : Std.ExtTreeMap Int64 String) (id id' : Int64) (name : String) :
    (rows.insert id name)[id']? = if id = id' then some name else rows[id']? := by
  rw [Std.ExtTreeMap.getElem?_insert]
  simp only [Std.compare_eq_iff_eq]

theorem getElem?_delete (id id' : Int64) :
    (t.delete id).rows[id']? = if id = id' then none else t.rows[id']? := by
  rw [delete, Std.ExtTreeMap.getElem?_erase]
  simp only [Std.compare_eq_iff_eq]

/-! ## Soundness -/

/-- No id is above the highest, and no two rows have the same name. -/
structure Sound (t : ObjectTable) : Prop where
  bounded : ∀ {id : Int64} {name : String}, t.rows[id]? = some name → id ≤ t.highestId
  distinct : ∀ {id id' : Int64} {name name' : String}, t.rows[id]? = some name →
    t.rows[id']? = some name' → t.collation.same name name' = true → id = id'

theorem sound_empty (c : Collation) : (empty c).Sound where
  bounded h := by simp [empty] at h
  distinct h := by simp [empty] at h

/-- In a sound table a name leads to its row. -/
theorem Sound.withName? (ht : t.Sound) (hrow : t.rows[id]? = some name) :
    t.withName? name = some (id, name) := by
  cases hfound : t.withName? name with
  | none =>
    have hnone := not_same_of_withName?_eq_none (by rw [hfound]; rfl) hrow
    rw [t.collation.same_refl] at hnone
    exact absurd hnone (by decide)
  | some row =>
    obtain ⟨hmem, hsame⟩ := withName?_eq_some hfound
    have hid : row.1 = id := ht.distinct hmem hrow hsame
    rw [hid, hrow] at hmem
    rw [← hid, Option.some.inj hmem]

/-- A row can be put in, or in the place of another, if its name is that of no other row. -/
theorem Sound.put (ht : t.Sound) {highest : Int64} (hid : id ≤ highest)
    (hhighest : t.highestId ≤ highest)
    (hname : ∀ {id' : Int64} {name' : String}, t.rows[id']? = some name' → id' ≠ id →
      t.collation.same name' name = false) :
    Sound { t with rows := t.rows.insert id name, highestId := highest } := by
  constructor
  · intro id' name' hrow
    rw [getElem?_put] at hrow
    split at hrow
    · rename_i heq
      exact heq ▸ hid
    · exact Int64.le_trans (ht.bounded hrow) hhighest
  · intro id₁ id₂ name₁ name₂ h₁ h₂ hsame
    rw [getElem?_put] at h₁ h₂
    -- Each of the two rows is the new one or an old one. Two old ones are distinct as before, and an
    -- old one does not have the name of the new one.
    split at h₁ <;> split at h₂
    · rename_i heq₁ heq₂
      exact heq₁.symm.trans heq₂
    · rename_i heq₁ hne₂
      cases h₁
      have hnone := hname h₂ (Ne.symm hne₂)
      rw [Collation.same_symm hsame] at hnone
      exact absurd hnone (by decide)
    · rename_i hne₁ heq₂
      cases h₂
      have hnone := hname h₁ (Ne.symm hne₁)
      rw [hsame] at hnone
      exact absurd hnone (by decide)
    · exact ht.distinct h₁ h₂ hsame

/-! ## What the operations do -/

/-- A new row comes after all others, and its name is new. -/
theorem insert_eq_ok {table : String} (h : t.insert table name = .ok (id, t')) :
    t.highestId < id ∧ (t.withName? name).isSome = false ∧
      t' = { t with rows := t.rows.insert id name, highestId := id } := by
  unfold insert at h
  split at h
  · cases h
  · rename_i hmax
    simp only at h
    split at h
    · cases h
    · rename_i hname
      cases h
      exact ⟨lt_succ_of_ne_maxValue hmax, by simpa using hname, rfl⟩

/-- A rename of no row does nothing; a rename of a row gives it a name that no other row has. -/
theorem rename_eq_ok {table : String} (h : t.rename table id name = .ok t') :
    (t.rows[id]? = none ∧ t' = t) ∨
    ∃ old, t.rows[id]? = some old ∧
      (∀ {id' : Int64} {name' : String}, t.rows[id']? = some name' → id' ≠ id →
        t.collation.same name' name = false) ∧
      t' = { t with rows := t.rows.insert id name } := by
  unfold rename at h
  split at h
  · rename_i hrow
    cases h
    rw [Bool.not_eq_true', Std.ExtTreeMap.contains_eq_isSome_getElem?,
      Option.isSome_eq_false_iff, Option.isNone_iff_eq_none] at hrow
    exact .inl ⟨hrow, rfl⟩
  · rename_i hrow
    split at h
    · cases h
    · rename_i hother
      cases h
      obtain ⟨old, hold⟩ : ∃ old, t.rows[id]? = some old := by
        rw [← Option.isSome_iff_exists, ← Std.ExtTreeMap.contains_eq_isSome_getElem?]
        simpa using hrow
      refine .inr ⟨old, hold, fun {id' name'} hrow' hne => ?_, rfl⟩
      rw [List.any_eq_true, not_exists] at hother
      have hnone := hother (id', name')
      rw [mem_toList, Bool.and_eq_true, bne_iff_ne] at hnone
      exact Bool.eq_false_iff.2 fun hsame => hnone ⟨hrow', hne, hsame⟩

/-- The id of a new row was never held. -/
theorem Sound.not_mem_of_highestId_lt (ht : t.Sound) (h : t.highestId < id) :
    t.rows[id]? = none := by
  cases hrow : t.rows[id]? with
  | none => rfl
  | some found => exact absurd (ht.bounded hrow) (Int64.not_le.2 h)

theorem Sound.insert (ht : t.Sound) {table : String} (h : t.insert table name = .ok (id, t')) :
    t'.Sound := by
  obtain ⟨hlt, hname, rfl⟩ := insert_eq_ok h
  exact ht.put (Int64.le_refl id) (Int64.le_of_lt hlt) fun hrow _ =>
    not_same_of_withName?_eq_none hname hrow

theorem Sound.rename (ht : t.Sound) {table : String} (h : t.rename table id name = .ok t') :
    t'.Sound := by
  rcases rename_eq_ok h with ⟨-, rfl⟩ | ⟨old, hold, hname, rfl⟩
  · exact ht
  · exact ht.put (ht.bounded hold) (Int64.le_refl _) hname

theorem Sound.delete (ht : t.Sound) : (t.delete id).Sound := by
  have hold : ∀ {id' : Int64} {name' : String}, (t.delete id).rows[id']? = some name' →
      t.rows[id']? = some name' := by
    intro id' name' hrow
    rw [getElem?_delete] at hrow
    split at hrow
    · cases hrow
    · exact hrow
  exact ⟨fun hrow => ht.bounded (hold hrow), fun h₁ h₂ => ht.distinct (hold h₁) (hold h₂)⟩

end ObjectTable

end ObjectCatalog
