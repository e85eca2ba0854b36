import ObjectCatalog.Proofs.Cache.TypeKeys
import ObjectCatalog.Proofs.Database.Effects
import ObjectCatalog.Proofs.Repository.Calls
import ObjectCatalog.Proofs.Sql.TableNames

/-!
# Types that are apart

The tables, the indexes and the cache keys of a repository have names that are put together from the
name of its type, and so a type can take a name that another type needs: the object table of `item_meta`
is the metadata table of `item`. Two types are apart if none of the names that they take is the same,
without regard to case, and none of their cache keys (`TypeName.Apart`). Most types are.

Types that are apart have different tables whatever the prefix of the store is. A prefix that makes
one text of two names cannot be in front of the name of a table, and then no table is created at all
(`TypeName.disjoint_or_barren`).
-/

namespace ObjectCatalog

namespace TypeName

/-- The names of tables and indexes that a type takes, without the prefix of the store. One dialect
declares the indexes with the table, and they have no names of their own. -/
def takenNames (s : TypeName) (d : Dialect) : List String :=
  s.text :: (s.text ++ "_meta") ::
    match d with
    | .mySql => []
    | .postgres | .sqlite =>
      [IndexedColumn.object.indexName (s.text ++ "_meta"),
        IndexedColumn.name.indexName (s.text ++ "_meta")]

/-- Two types that have no table, no index and no cache key in common. -/
structure Apart (d : Dialect) (s t : TypeName) : Prop where
  names : ∀ name ∈ s.takenNames d, ∀ other ∈ t.takenNames d,
    Text.foldCase name ≠ Text.foldCase other
  keys : ¬ t.WithinNames s ∧ ¬ s.WithinNames t

instance (d : Dialect) (s t : TypeName) : Decidable (Apart d s t) :=
  decidable_of_iff ((∀ name ∈ s.takenNames d, ∀ other ∈ t.takenNames d,
      Text.foldCase name ≠ Text.foldCase other) ∧ ¬ t.WithinNames s ∧ ¬ s.WithinNames t)
    ⟨fun h => ⟨h.1, h.2⟩, fun h => ⟨h.names, h.keys⟩⟩

variable {c : Connection} {s t : TypeName}

theorem Apart.ne (h : Apart c.dialect s t) : s ≠ t := by
  rintro rfl
  exact h.names _ List.mem_cons_self _ List.mem_cons_self rfl

theorem Apart.lookupKey_ne (h : Apart c.dialect s t) (lookup lookup' : Lookup) :
    (Repository.ofType c s).lookupKey lookup ≠ (Repository.ofType c t).lookupKey lookup' := by
  intro hkey
  have htables : (Repository.ofType c s).connection.tablePrefix =
      (Repository.ofType c t).connection.tablePrefix := rfl
  have hne : (Repository.ofType c s).typeName ≠ (Repository.ofType c t).typeName := h.ne
  exact ((exists_common_key_iff htables hne).1 ⟨lookup, lookup', hkey⟩).elim h.keys.1 h.keys.2

/-! ## Tables -/

theorem isIdentifier_append {name rest : String} (hname : isIdentifier name = true)
    (hrest : rest.toList.all Text.isIdentifierRest = true) :
    isIdentifier (name ++ rest) = true := by
  rw [isIdentifier] at hname ⊢
  cases hchars : name.toList with
  | nil => rw [hchars] at hname; cases hname
  | cons c cs =>
    rw [hchars, isIdentifierChars, Bool.and_eq_true, List.all_eq_true] at hname
    rw [String.toList_append, hchars, List.cons_append, isIdentifierChars, Bool.and_eq_true,
      List.all_eq_true]
    exact ⟨hname.1, fun d hd => (List.mem_append.1 hd).elim (hname.2 d)
      (List.all_eq_true.1 hrest d)⟩

theorem isIdentifier_of_mem_takenNames {d : Dialect} {name : String}
    (hname : name ∈ s.takenNames d) : isIdentifier name = true := by
  have hmeta : isIdentifier (s.text ++ "_meta") = true := isIdentifier_append s.valid (by decide)
  have hindex : ∀ column : IndexedColumn,
      isIdentifier (column.indexName (s.text ++ "_meta")) = true := by
    intro column
    refine isIdentifier_append (isIdentifier_append hmeta (by decide)) ?_
    cases column with
    | object => decide
    | name => decide
  unfold takenNames at hname
  cases d with
  | mySql =>
    simp only [List.mem_cons, List.not_mem_nil, or_false] at hname
    rcases hname with rfl | rfl
    · exact s.valid
    · exact hmeta
  | postgres | sqlite =>
    simp only [List.mem_cons, List.not_mem_nil, or_false] at hname
    rcases hname with rfl | rfl | rfl | rfl
    · exact s.valid
    · exact hmeta
    · exact hindex .object
    · exact hindex .name

end TypeName

namespace Repository

variable {c : Connection} {s t : TypeName}

theorem mem_takenNames_of_mem_names {name : String} (h : name ∈ (ofType c s).names) :
    ∃ taken ∈ s.takenNames c.dialect, name = c.tablePrefix ++ taken := by
  have hindex : ∀ column : IndexedColumn, column.indexName (c.table (s.text ++ "_meta")) =
      c.tablePrefix ++ column.indexName (s.text ++ "_meta") := by
    intro column
    simp only [IndexedColumn.indexName, Connection.table, String.append_assoc]
  rw [names, List.mem_cons, List.mem_cons] at h
  rcases h with rfl | rfl | h
  · exact ⟨s.text, List.mem_cons_self, rfl⟩
  · exact ⟨s.text ++ "_meta", List.mem_cons_of_mem _ List.mem_cons_self, rfl⟩
  rw [MetadataStore.names, List.mem_cons] at h
  rcases h with rfl | h
  · exact ⟨s.text ++ "_meta", List.mem_cons_of_mem _ List.mem_cons_self, rfl⟩
  unfold TypeName.takenNames
  change name ∈ (match c.dialect with
    | .mySql => []
    | .postgres | .sqlite => [IndexedColumn.object.indexName (c.table (s.text ++ "_meta")),
        IndexedColumn.name.indexName (c.table (s.text ++ "_meta"))]) at h
  cases hdialect : c.dialect with
  | mySql =>
    rw [hdialect] at h
    cases h
  | postgres | sqlite =>
    rw [hdialect] at h
    simp only [List.mem_cons, List.not_mem_nil, or_false] at h
    rcases h with rfl | rfl
    · exact ⟨_, by simp, hindex .object⟩
    · exact ⟨_, by simp, hindex .name⟩

/-- No table and no index of one repository is one of the other. -/
def Disjoint (r r' : Repository) : Prop :=
  ∀ name ∈ r.names, ∀ other ∈ r'.names, TableRef.key name ≠ TableRef.key other

/-- No table of the repository can be created. -/
def Barren (r : Repository) : Prop :=
  ∀ name ∈ r.names, ∀ ref, Database.newTable name ≠ .ok ref

end Repository

/-- Of types that are apart either all have different tables, or none has any. -/
theorem TypeName.disjoint_or_barren {ι : Type} {c : Connection} {types : ι → TypeName}
    (h : ∀ i j, i ≠ j → Apart c.dialect (types i) (types j)) :
    (∀ i j, i ≠ j → (Repository.ofType c (types i)).Disjoint (.ofType c (types j))) ∨
      ∀ i, (Repository.ofType c (types i)).Barren := by
  by_cases hcreated : ∃ created, isIdentifier created = true ∧
      ∃ ref, Database.newTable (c.tablePrefix ++ created) = .ok ref
  · obtain ⟨created, hidentifier, ref, hnew⟩ := hcreated
    refine .inl fun i j hne name hname other hother hkey => ?_
    obtain ⟨taken, htaken, rfl⟩ := Repository.mem_takenNames_of_mem_names hname
    obtain ⟨taken', htaken', rfl⟩ := Repository.mem_takenNames_of_mem_names hother
    exact (h i j hne).names taken htaken taken' htaken' (TableRef.foldCase_eq_of_key_eq hidentifier
      hnew (isIdentifier_of_mem_takenNames htaken) (isIdentifier_of_mem_takenNames htaken') hkey)
  · refine .inr fun i name hname ref hnew => hcreated ?_
    obtain ⟨taken, htaken, rfl⟩ := Repository.mem_takenNames_of_mem_names hname
    exact ⟨taken, isIdentifier_of_mem_takenNames htaken, ref, hnew⟩

end ObjectCatalog
