import ObjectCatalog.Proofs.Cache.Keys

/-!
# The keys of two types

The repositories of a store may share a cache, and nothing in a key says where the name of the type
ends. `item_name_1` is the key of the item named `1`, and it is also the key of the first object of
a type `item_name`. So there are types whose every key reads as the key of a name of another type
(`TypeName.WithinNames`).

These are all there are: other types have no key in common (`exists_common_key_iff`). Where two keys
agree and the types in them do not, one type goes on where the other has ended, so what follows the
shorter one has an underscore in it. It is no number then but a name, and the longer type begins with
the shorter one and the mark of names.
-/

namespace ObjectCatalog

/-- Every key of a type reads as the key of a name of another type. -/
def TypeName.WithinNames (t s : TypeName) : Prop :=
  (s.text ++ "_name_").toList <+: (t.text ++ "_").toList

instance (t s : TypeName) : Decidable (t.WithinNames s) :=
  inferInstanceAs (Decidable (_ <+: _))

/-! ## Texts cut at an underscore -/

/-- Two ways to cut a text at an underscore: at the same one, or one before the other. -/
theorem cut_at_underscore {s t x y : List Char} (h : s ++ '_' :: x = t ++ '_' :: y) :
    s = t ∨ (∃ u, t = s ++ '_' :: u ∧ x = u ++ '_' :: y) ∨
      ∃ u, s = t ++ '_' :: u ∧ y = u ++ '_' :: x := by
  rcases List.append_eq_append_iff.1 h with ⟨u, ht, hx⟩ | ⟨u, hs, hy⟩
  · cases u with
    | nil => exact .inl (by rw [ht, List.append_nil])
    | cons c u =>
      rw [List.cons_append] at hx
      obtain ⟨rfl, rfl⟩ := List.cons.inj hx
      exact .inr (.inl ⟨u, ht, rfl⟩)
  · cases u with
    | nil => exact .inl (by rw [hs, List.append_nil])
    | cons c u =>
      rw [List.cons_append] at hy
      obtain ⟨rfl, rfl⟩ := List.cons.inj hy
      exact .inr (.inr ⟨u, hs, rfl⟩)

/-- What follows the type and an underscore in a key: a number, or the mark of names and a name. -/
def Lookup.keyEnd : Lookup → List Char
  | .id n => (Text.Numeral.ofInt n.toInt).toList
  | .name text => "name".toList ++ '_' :: text.toList

theorem Repository.toList_lookupKey (r : Repository) (lookup : Lookup) :
    (r.lookupKey lookup).toList =
      r.connection.tablePrefix.toList ++ (r.typeName.text.toList ++ '_' :: lookup.keyEnd) := by
  cases lookup with
  | id id => simp [lookupKey, idKey, cacheStem, Lookup.keyEnd]
  | name name => simp [lookupKey, nameKey, cacheStem, Lookup.keyEnd]

/-- A key end with an underscore after a part of it begins with the mark of names. -/
theorem Lookup.mark_of_keyEnd {lookup : Lookup} {u y : List Char}
    (h : lookup.keyEnd = u ++ '_' :: y) : "name_".toList <+: u ++ ['_'] := by
  cases lookup with
  | id n =>
    have hmem : '_' ∈ Text.Numeral.signed n.toInt := by
      rw [keyEnd, Text.Numeral.ofInt, String.toList_ofList] at h
      rw [h]
      exact List.mem_append_right _ List.mem_cons_self
    exact absurd hmem (Repository.notMem_signed (by decide) (by decide) _)
  | name name =>
    rw [keyEnd] at h
    rcases cut_at_underscore h with rfl | ⟨v, rfl, -⟩ | ⟨v, hname, -⟩
    · exact List.prefix_rfl
    · exact ⟨v ++ ['_'], by simp⟩
    · -- There is no underscore before the one of the mark.
      have hmem : '_' ∈ "name".toList := hname ▸ List.mem_append_right _ List.mem_cons_self
      exact absurd hmem (by decide)

/-- A type is named like another one with `_name` behind it, or `_name_` and more of an identifier. -/
def TypeName.NamedBehind (t s : TypeName) : Prop :=
  t.text = s.text ++ "_name" ∨ ∃ rest : String,
    (∀ c ∈ rest.toList, Text.isIdentifierRest c = true) ∧ t.text = s.text ++ "_name_" ++ rest

/-! ## Two types -/

section

variable {s t : TypeName} {r r' : Repository}

theorem TypeName.withinNames_of_text {u : List Char}
    (ht : t.text.toList = s.text.toList ++ '_' :: u) (hu : "name_".toList <+: u ++ ['_']) :
    t.WithinNames s := by
  obtain ⟨v, hv⟩ := hu
  refine ⟨v, ?_⟩
  rw [String.toList_append, String.toList_append, ht]
  simpa using hv

/-- The underscore at the end of the keys of the longer type is that of the mark of names, or it comes
behind more of the type. -/
theorem TypeName.withinNames_iff : t.WithinNames s ↔ t.NamedBehind s := by
  have hmark : "_name_".toList = "_name".toList ++ ['_'] := by decide
  constructor
  · rintro ⟨v, hv⟩
    rw [String.toList_append, String.toList_append] at hv
    rcases List.eq_nil_or_concat v with rfl | ⟨w, c, rfl⟩
    · refine .inl (String.toList_inj.1 ?_)
      rw [List.append_nil, hmark, ← List.append_assoc] at hv
      rw [String.toList_append]
      exact (List.append_inj_left' hv rfl).symm
    · rw [List.concat_eq_append, ← List.append_assoc] at hv
      have htext := List.append_inj_left' hv rfl
      refine .inr ⟨String.ofList w, fun c hc => ?_, String.toList_inj.1 ?_⟩
      · -- What follows is a part of an identifier.
        apply isIdentifierRest_of_mem t.valid
        rw [← htext]
        exact List.mem_append_right _ (by simpa using hc)
      · rw [String.toList_append, String.toList_append, ← htext, String.toList_ofList (l := w)]
  · rintro (htext | ⟨rest, -, htext⟩)
    · refine ⟨[], ?_⟩
      rw [htext, String.toList_append, String.toList_append, String.toList_append, hmark]
      simp
    · refine ⟨rest.toList ++ ['_'], ?_⟩
      rw [htext]
      simp

/-- Every key of such a type is the key of a name. -/
theorem TypeName.WithinNames.exists_nameKey_eq (h : r'.typeName.WithinNames r.typeName)
    (htables : r.connection.tablePrefix = r'.connection.tablePrefix) (lookup : Lookup) :
    ∃ name, r.nameKey name = r'.lookupKey lookup := by
  obtain ⟨v, hv⟩ := h
  refine ⟨String.ofList (v ++ lookup.keyEnd), ?_⟩
  have hname : (r.nameKey (String.ofList (v ++ lookup.keyEnd))).toList =
      r.connection.tablePrefix.toList ++
        ((r.typeName.text ++ "_name_").toList ++ v ++ lookup.keyEnd) := by
    simp [Repository.nameKey, Repository.cacheStem]
  have hlookup : (r'.lookupKey lookup).toList =
      r'.connection.tablePrefix.toList ++ ((r'.typeName.text ++ "_").toList ++ lookup.keyEnd) := by
    rw [Repository.toList_lookupKey]
    simp
  rw [← String.toList_inj, hname, hlookup, htables, hv]

/-- Different types have a key in common only if the keys of one are among the names of the other,
and then they do. -/
theorem exists_common_key_iff (htables : r.connection.tablePrefix = r'.connection.tablePrefix)
    (hne : r.typeName ≠ r'.typeName) :
    (∃ lookup lookup', r.lookupKey lookup = r'.lookupKey lookup') ↔
      r'.typeName.WithinNames r.typeName ∨ r.typeName.WithinNames r'.typeName := by
  constructor
  · rintro ⟨lookup, lookup', hkey⟩
    have htexts := congrArg String.toList hkey
    rw [Repository.toList_lookupKey, Repository.toList_lookupKey, htables] at htexts
    rcases cut_at_underscore (List.append_cancel_left htexts) with heq | ⟨u, ht, hend⟩ | ⟨u, hs, hend⟩
    · exact absurd (TypeName.ext_text (String.toList_inj.1 heq)) hne
    · exact .inl (TypeName.withinNames_of_text ht (Lookup.mark_of_keyEnd hend))
    · exact .inr (TypeName.withinNames_of_text hs (Lookup.mark_of_keyEnd hend))
  · rintro (h | h)
    · obtain ⟨name, hname⟩ := h.exists_nameKey_eq htables (.id 1)
      exact ⟨.name name, .id 1, hname⟩
    · obtain ⟨name, hname⟩ := h.exists_nameKey_eq htables.symm (.id 1)
      exact ⟨.id 1, .name name, hname.symm⟩

end

/-- **When cache keys collide.** The keys of one repository are different for different lookups. Two
repositories of different types behind one prefix have a key in common exactly if one type is named
like the other with `_name` behind it, or `_name_` and more; and then every key of the longer type is
the key of a name of the shorter one. -/
theorem Repository.keys_collide_iff :
    (∀ r : Repository,
      (∀ id id', r.idKey id = r.idKey id' → id = id') ∧
      (∀ name name', r.nameKey name = r.nameKey name' → name = name') ∧
      ∀ id name, r.idKey id ≠ r.nameKey name) ∧
    ∀ r r' : Repository, r.connection.tablePrefix = r'.connection.tablePrefix →
      r.typeName ≠ r'.typeName →
      ((∃ lookup lookup', r.lookupKey lookup = r'.lookupKey lookup') ↔
        r'.typeName.NamedBehind r.typeName ∨ r.typeName.NamedBehind r'.typeName) ∧
      (r'.typeName.NamedBehind r.typeName →
        ∀ lookup, ∃ name, r.nameKey name = r'.lookupKey lookup) := by
  refine ⟨fun r => ⟨fun _ _ => idKey_injective, fun _ _ => nameKey_injective, idKey_ne_nameKey⟩,
    fun r r' htables hne => ?_⟩
  rw [← TypeName.withinNames_iff, ← TypeName.withinNames_iff]
  exact ⟨exists_common_key_iff htables hne, fun h lookup => h.exists_nameKey_eq htables lookup⟩

theorem Repository.keys_collide_iff_labels :
    let item := ofType ⟨.sqlite, "shop_", "", "", ""⟩ ⟨"item", rfl⟩
    let label := ofType ⟨.postgres, "shop_", "", "", ""⟩ ⟨"item_name_label", rfl⟩
    let named := ofType ⟨.sqlite, "shop_", "", "", ""⟩ ⟨"item_named", rfl⟩
    (∃ lookup lookup', item.lookupKey lookup = label.lookupKey lookup') ∧
    (∃ name, item.nameKey name = label.idKey (-7)) ∧
    ¬ ∃ lookup lookup', item.lookupKey lookup = named.lookupKey lookup' := by
  intro item label named
  have hbehind : label.typeName.NamedBehind item.typeName := .inr ⟨"label", List.all_eq_true.1 rfl, rfl⟩
  have hnot : ¬ (named.typeName.NamedBehind item.typeName ∨
      item.typeName.NamedBehind named.typeName) := by
    rw [← TypeName.withinNames_iff, ← TypeName.withinNames_iff]
    decide
  have hlabel := keys_collide_iff.2 item label rfl (by decide)
  exact ⟨hlabel.1.2 (.inl hbehind), hlabel.2 hbehind (.id (-7)),
    mt (keys_collide_iff.2 item named rfl (by decide)).1.1 hnot⟩

end ObjectCatalog
