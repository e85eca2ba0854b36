import ObjectCatalog.Proofs.Database.Rows
import ObjectCatalog.Text.Blank

/-!
# Names in an object table

Whether a name can be put into a table depends on who has it already, and who has it is for the
collation of the table to say. An insertion is refused if any row has the name, and a rename only if a
row of another id has it: a row may take its own name in other letters. The equations below say for
each of the two what it answers in every case, as `ObjectTable.insert_eq_ok` and
`ObjectTable.rename_eq_ok` say for the answer what the case was.

A table in which only normal names were ever put has no others.
-/

namespace ObjectCatalog

/-- A name as it is written: it is not empty, and there are no blanks around it. -/
structure IsNormalName (name : String) : Prop where
  nonempty : name ≠ ""
  trimmed : Text.trim name = name

theorem isNormalName_trim {raw : String} (h : Text.trim raw ≠ "") : IsNormalName (Text.trim raw) :=
  ⟨h, Text.trim_trim raw⟩

namespace ObjectTable

variable {t t' : ObjectTable} {id : Int64} {name : String}

/-! ## Names that are taken -/

/-- Some row has the name. -/
def IsTaken (t : ObjectTable) (name : String) : Prop :=
  ∃ (id : Int64) (old : String), t.rows[id]? = some old ∧ t.collation.same old name = true

/-- Some row has the name, and it is not the row with the id. -/
def IsTakenBeside (t : ObjectTable) (id : Int64) (name : String) : Prop :=
  ∃ (other : Int64) (old : String), t.rows[other]? = some old ∧ other ≠ id ∧
    t.collation.same old name = true

theorem isSome_withName?_iff : (t.withName? name).isSome = true ↔ t.IsTaken name := by
  constructor
  · intro h
    obtain ⟨row, hrow⟩ := Option.isSome_iff_exists.1 h
    obtain ⟨hmem, hsame⟩ := withName?_eq_some hrow
    exact ⟨row.1, row.2, hmem, hsame⟩
  · rintro ⟨id, old, hrow, hsame⟩
    cases hfound : (t.withName? name).isSome with
    | true => rfl
    | false =>
      rw [not_same_of_withName?_eq_none hfound hrow] at hsame
      cases hsame

theorem any_iff_isTakenBeside :
    (t.toList.any fun row => row.1 != id && t.collation.same row.2 name) = true ↔
      t.IsTakenBeside id name := by
  rw [List.any_eq_true]
  constructor
  · rintro ⟨⟨other, old⟩, hmem, hrow⟩
    rw [Bool.and_eq_true, bne_iff_ne] at hrow
    exact ⟨other, old, mem_toList.1 hmem, hrow⟩
  · rintro ⟨other, old, hrow, hne, hsame⟩
    refine ⟨(other, old), mem_toList.2 hrow, ?_⟩
    rw [Bool.and_eq_true, bne_iff_ne]
    exact ⟨hne, hsame⟩

/-! ## What is answered -/

/-- The table with one more row, under an id that no row ever had. -/
def added (t : ObjectTable) (name : String) : ObjectTable :=
  { t with rows := t.rows.insert (t.highestId + 1) name, highestId := t.highestId + 1 }

/-- The table with another name in the row with the id. -/
def renamed (t : ObjectTable) (id : Int64) (name : String) : ObjectTable :=
  { t with rows := t.rows.insert id name }

variable {table : String}

theorem insert_of_full (h : t.highestId = Int64.maxValue) : t.insert table name = .error .full := by
  rw [insert, if_pos h]

theorem insert_of_taken (hid : t.highestId ≠ Int64.maxValue) (h : t.IsTaken name) :
    t.insert table name = .error (.nameTaken table) := by
  rw [insert, if_neg hid]
  simp only [isSome_withName?_iff.2 h, if_true]

theorem insert_of_free (hid : t.highestId ≠ Int64.maxValue) (h : ¬ t.IsTaken name) :
    t.insert table name = .ok (t.highestId + 1, t.added name) := by
  rw [insert, if_neg hid]
  simp only [mt isSome_withName?_iff.1 h]
  rfl

/-- An insertion that is answered put in the one row there was to put in. -/
theorem eq_added_of_insert (h : t.insert table name = .ok (id, t')) :
    t.highestId ≠ Int64.maxValue ∧ t' = t.added name := by
  by_cases hid : t.highestId = Int64.maxValue
  · rw [insert_of_full hid] at h
    cases h
  · by_cases htaken : t.IsTaken name
    · rw [insert_of_taken hid htaken] at h
      cases h
    · rw [insert_of_free hid htaken] at h
      cases h
      exact ⟨hid, rfl⟩

theorem rename_of_taken {old : String} (hrow : t.rows[id]? = some old) (h : t.IsTakenBeside id name) :
    t.rename table id name = .error (.nameTaken table) := by
  have hthere : t.rows.contains id = true := by
    rw [Std.ExtTreeMap.contains_eq_isSome_getElem?, hrow]
    rfl
  rw [rename, hthere]
  simp only [any_iff_isTakenBeside.2 h, if_true]
  rfl

theorem rename_of_free {old : String} (hrow : t.rows[id]? = some old) (h : ¬ t.IsTakenBeside id name) :
    t.rename table id name = .ok (t.renamed id name) := by
  have hthere : t.rows.contains id = true := by
    rw [Std.ExtTreeMap.contains_eq_isSome_getElem?, hrow]
    rfl
  rw [rename, hthere]
  simp only [mt any_iff_isTakenBeside.1 h]
  rfl

/-! ## Normal names -/

/-- Every name in the table is normal. -/
def HasNormalNames (t : ObjectTable) : Prop :=
  ∀ (id : Int64) (name : String), t.rows[id]? = some name → IsNormalName name

theorem hasNormalNames_empty (c : Collation) : (empty c).HasNormalNames := by
  intro id name h
  simp [empty] at h

theorem HasNormalNames.put (h : t.HasNormalNames) (hname : IsNormalName name) (id highest : Int64) :
    HasNormalNames { t with rows := t.rows.insert id name, highestId := highest } := by
  intro id' name' hrow
  rw [getElem?_put] at hrow
  split at hrow
  · cases hrow
    exact hname
  · exact h id' name' hrow

theorem HasNormalNames.insert (h : t.HasNormalNames) (hname : IsNormalName name)
    (hinsert : t.insert table name = .ok (id, t')) : t'.HasNormalNames := by
  obtain ⟨-, -, rfl⟩ := insert_eq_ok hinsert
  exact h.put hname id id

theorem HasNormalNames.rename (h : t.HasNormalNames) (hname : IsNormalName name)
    (hrename : t.rename table id name = .ok t') : t'.HasNormalNames := by
  rcases rename_eq_ok hrename with ⟨-, rfl⟩ | ⟨old, -, -, rfl⟩
  · exact h
  · exact h.put hname id t.highestId

theorem HasNormalNames.delete (h : t.HasNormalNames) (id : Int64) : (t.delete id).HasNormalNames := by
  intro id' name hrow
  rw [getElem?_delete] at hrow
  split at hrow
  · cases hrow
  · exact h id' name hrow

/-! ## Rows as a list -/

/-- The rows have one id each, since they are a map from ids to names. -/
theorem nodup_ids (t : ObjectTable) : (t.toList.map (·.1)).Nodup := by
  have hkeys : t.toList.map (·.1) = t.rows.keys := Std.ExtTreeMap.map_fst_toList_eq_keys
  rw [hkeys]
  exact Std.ExtTreeMap.nodup_keys

/-- In a sound table no two rows have the same name. -/
theorem Sound.pairwise_names (h : t.Sound) :
    t.toList.Pairwise fun a b => t.collation.same a.2 b.2 = false := by
  have hkeys : t.toList.Pairwise fun a b => ¬ compare a.1 b.1 = .eq :=
    Std.ExtTreeMap.distinct_keys_toList
  refine hkeys.imp_of_mem fun {a b} ha hb hne => ?_
  rw [Bool.eq_false_iff]
  intro hsame
  exact hne (Std.compare_eq_iff_eq.2 (h.distinct (mem_toList.1 ha) (mem_toList.1 hb) hsame))

end ObjectTable

end ObjectCatalog
