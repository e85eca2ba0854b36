import Mathlib.Data.List.Infix
import ObjectCatalog.Proofs.Repository.Failures
import ObjectCatalog.Proofs.Search.ObjectLevel
import ObjectCatalog.Proofs.Sql.Patterns

/-!
# What a name search finds

A name search asks twice, for the number of matches and for the ids of a page, and both statements have
the same pattern. It is made of the trimmed text, so both are about the rows whose names contain this
text (`ObjectTable.matching_of_byRules`): the characters that mean something in patterns mean nothing
here, on either side.

That is so by the rules of patterns, and the database keeps to them in all but a few cases
(`ObjectTable.matchesByRules`). It does not see all characters as they are, which is why what it finds
has a definition of its own (`ObjectTable.finding`). And it refuses a pattern that is too long, if there
is a row to match, and then a search fails and nothing has happened.
-/

namespace ObjectCatalog

/-! ## 1. The rows that are found -/

namespace Like

theorem finds_empty (name : String) : Finds "" name := by
  rw [Finds, if_neg (by decide)]
  exact List.nil_infix

end Like

namespace ObjectTable

/-- The rows whose names contain a text, up to the case of ASCII letters. -/
def containing (t : ObjectTable) (part : String) : List (Int64 × String) :=
  t.toList.filter fun row => (Text.foldCase part).toList <:+: (Text.foldCase row.2).toList

theorem containing_empty (t : ObjectTable) : t.containing "" = t.toList := by
  have hempty : Text.foldCase "" = "" := by decide +kernel
  rw [containing, List.filter_eq_self]
  intro row _
  rw [decide_eq_true_iff, hempty]
  exact List.nil_infix

theorem mem_containing {t : ObjectTable} {part name : String} {id : Int64} :
    (id, name) ∈ t.containing part ↔ t.rows[id]? = some name ∧
      (Text.foldCase part).toList <:+: (Text.foldCase name).toList := by
  rw [containing, List.mem_filter, mem_toList, decide_eq_true_iff]

/-- The rows whose names the database finds by a text. -/
def finding (t : ObjectTable) (part : String) : List (Int64 × String) :=
  t.toList.filter fun row => Like.Finds part row.2

theorem finding_empty (t : ObjectTable) : t.finding "" = t.toList := by
  rw [finding, List.filter_eq_self]
  exact fun row _ => decide_eq_true (Like.finds_empty row.2)

end ObjectTable

namespace Repository

theorem namePattern_of_eq {query : String} (h : Text.trim query = "") : namePattern query = none :=
  if_pos h

theorem namePattern_of_ne {query : String} (h : Text.trim query ≠ "") :
    namePattern query = some (Like.containing (Text.trim query)) :=
  if_neg h

end Repository

namespace ObjectTable

/-- The pattern of a search matches the rows that the database finds by the trimmed text. -/
theorem matching_namePattern (t : ObjectTable) (query : String) :
    t.matching (Repository.namePattern query) = t.finding (Text.trim query) := by
  by_cases hempty : Text.trim query = ""
  · rw [Repository.namePattern_of_eq hempty, hempty, finding_empty]
    exact List.filter_eq_self.2 fun _ _ => rfl
  · rw [Repository.namePattern_of_ne hempty, matching, finding]
    refine List.filter_congr fun row _ => ?_
    rw [Bool.eq_iff_iff, Like.matchesText_containing, decide_eq_true_iff]

/-- Whether the rows of a table can be held against a pattern: if there are any, it must not be too
long. -/
def Takes (t : ObjectTable) (pattern : Option String) : Prop :=
  t.rows.size = 0 ∨ ∀ p ∈ pattern, p.utf8ByteSize ≤ Like.longestPattern

/-! ## 2. The rules of patterns -/

/-- The database goes by the rules of patterns for the names of a table: it takes the pattern, and a name
matches exactly if the pattern stands for it. -/
structure MatchesByRules (t : ObjectTable) (pattern : Option String) : Prop where
  takes : t.Takes pattern
  exact : ∀ p ∈ pattern, ∀ row ∈ t.toList,
    (Like.matchesText (some Like.escapeMark) p row.2 = true ↔
      Like.Matches (some Like.escapeMark) p row.2)

/-- By the rules, the pattern of a search matches the rows whose names contain the trimmed text. -/
theorem matching_of_byRules {t : ObjectTable} {query : String}
    (h : t.MatchesByRules (Repository.namePattern query)) :
    t.matching (Repository.namePattern query) = t.containing (Text.trim query) := by
  have hexact := h.exact
  by_cases hempty : Text.trim query = ""
  · rw [Repository.namePattern_of_eq hempty, hempty, containing_empty]
    exact List.filter_eq_self.2 fun _ _ => rfl
  · rw [Repository.namePattern_of_ne hempty] at hexact ⊢
    rw [matching, containing]
    refine List.filter_congr fun row hrow => ?_
    rw [Bool.eq_iff_iff, hexact _ rfl row hrow, Like.matches_containing, decide_eq_true_iff]

/-- The database goes by the rules where it takes the pattern and sees the text and the names as they
are. -/
theorem matchesByRules {t : ObjectTable} {query : String}
    (htakes : t.Takes (Repository.namePattern query)) (hpart : Like.SeenWhole (Text.trim query))
    (hnames : ∀ row ∈ t.toList, Like.SeenWhole row.2) :
    t.MatchesByRules (Repository.namePattern query) := by
  refine ⟨htakes, fun p hp row hrow => Like.matchesText_iff_matches ?_ (hnames row hrow)⟩
  by_cases hempty : Text.trim query = ""
  · rw [Repository.namePattern_of_eq hempty] at hp
    exact absurd hp (Option.not_mem_none p)
  · rw [Repository.namePattern_of_ne hempty, Option.mem_some_iff] at hp
    exact hp ▸ Like.seenWhole_containing hpart

end ObjectTable

/-! ## 3. The two statements -/

/-- The page that the options of a name search ask for, out of the rows that were found: in their order,
after the offset, up to the limit. A negative number counts as zero. -/
def SearchOptions.page (options : SearchOptions) (collation : Collation)
    (rows : List (Int64 × String)) : List Int64 :=
  let ordered := (ObjectTable.sorted collation options.field options.direction rows).map (·.1)
  (ordered.drop (max options.offset 0).toInt.toNat).take (max options.limit 0).toInt.toNat

namespace Database

variable {db : Database} {name : String} {t : ObjectTable} {pattern : Option String}

theorem checkPattern_of_takes (h : t.Takes pattern) : checkPattern pattern t.rows.size = .ok () := by
  rw [checkPattern, if_neg]
  rw [Bool.and_eq_true, decide_eq_true_iff, Option.any_eq_true]
  rintro ⟨hrows, p, hp, hlong⟩
  rcases h with hnone | hshort
  · omega
  · exact absurd (of_decide_eq_true hlong) (Nat.not_lt.2 (hshort p hp))

theorem checkPattern_of_not_takes (h : ¬ t.Takes pattern) :
    checkPattern pattern t.rows.size = .error .longPattern := by
  obtain ⟨hrows, hlong⟩ := not_or.1 h
  obtain ⟨p, hp, hlong⟩ : ∃ p ∈ pattern, Like.longestPattern < p.utf8ByteSize := by
    by_contra hnone
    exact hlong fun p hp => Nat.not_lt.1 fun hlt => hnone ⟨p, hp, hlt⟩
  rw [checkPattern, if_pos]
  rw [Bool.and_eq_true, decide_eq_true_iff, Option.any_eq_true]
  exact ⟨Nat.pos_of_ne_zero hrows, p, hp, decide_eq_true hlong⟩

theorem carryOut_countObjects (ht : db.objects name = .ok t) (pattern : Option String) :
    db.carryOut (.countObjects name pattern) =
      (checkPattern pattern t.rows.size).map fun _ => ((t.matching pattern).length, db) := by
  have htable : db.table? name = some (.objects t) := by
    rw [objects_eq_ok_iff, objects?] at ht
    split at ht
    · cases ht
      assumption
    · cases ht
  simp only [carryOut, countNames, htable]
  cases checkPattern pattern t.rows.size <;> rfl

theorem carryOut_listObjects (ht : db.objects name = .ok t) (pattern : Option String)
    (options : SearchOptions) :
    db.carryOut (.listObjects name pattern options.field options.direction (max options.limit 0)
      (max options.offset 0)) =
      (checkPattern pattern t.rows.size).map fun _ =>
        (options.page t.collation (t.matching pattern), db) := by
  rw [carryOut, ht, SearchOptions.page, ← window_max]
  show (checkPattern pattern t.rows.size >>= _) = _
  cases checkPattern pattern t.rows.size <;> rfl

end Database

/-! ## 4. The search -/

/-- **A name search finds the names that contain its text.** By the rules of patterns a name passes the
filter of a search exactly if it contains the trimmed text, up to the case of ASCII letters, whatever the
characters of both mean in patterns; so if the trimmed text is empty every name passes. Both statements
of a search have this filter. In a database that goes by the rules the first answers the number of the
rows that pass and the second their page, and the search answers this number and loads this page. A
database goes by them if the pattern is not too long and it sees all the characters as they are. -/
theorem Repository.search_finds_containing (r : Repository) (query : String) (options : SearchOptions)
    (b : Backend) (t : ObjectTable) (htable : b.database.objects r.table = .ok t) :
    let part := Text.trim query
    let pattern := namePattern query
    let count := Statement.countObjects r.table pattern
    let list := Statement.listObjects r.table pattern options.field options.direction
      (max options.limit 0) (max options.offset 0)
    (∀ name, (∀ p ∈ pattern, Like.Matches (some Like.escapeMark) p name) ↔
      (Text.foldCase part).toList <:+: (Text.foldCase name).toList) ∧
    (∀ id name, (id, name) ∈ t.containing part ↔ t.rows[id]? = some name ∧
      (part = "" ∨ (Text.foldCase part).toList <:+: (Text.foldCase name).toList)) ∧
    (t.MatchesByRules pattern →
      b.database.carryOut count = .ok ((t.containing part).length, b.database) ∧
      b.database.carryOut list = .ok (options.page t.collation (t.containing part), b.database) ∧
      (Database.Readable r.table → r.search query options b =
        (SearchResult.mk (t.containing part).length <$>
          r.loadAll (options.page t.collation (t.containing part)))
        ((b.record (.statement count true)).record (.statement list true)))) ∧
    (t.Takes pattern → Like.SeenWhole part → (∀ row ∈ t.toList, Like.SeenWhole row.2) →
      t.MatchesByRules pattern) := by
  intro part pattern count list
  have hempty : part = "" → ∀ name,
      (Text.foldCase part).toList <:+: (Text.foldCase name).toList := by
    intro hpart name
    have hfold : Text.foldCase "" = "" := by decide +kernel
    rw [hpart, hfold]
    exact List.nil_infix
  refine ⟨fun name => ?_, fun id name => ?_, fun hrules => ?_, ObjectTable.matchesByRules⟩
  · by_cases hpart : part = ""
    · have hpattern : pattern = none := namePattern_of_eq hpart
      rw [hpattern]
      exact iff_of_true nofun (hempty hpart name)
    · have hpattern : pattern = some (Like.containing part) := namePattern_of_ne hpart
      rw [hpattern, ← Like.matches_containing]
      exact ⟨fun h => h _ rfl, fun h p hp => Option.some.inj hp ▸ h⟩
  · rw [ObjectTable.mem_containing, or_iff_right_of_imp fun hpart => hempty hpart name]
  · have hcount := Database.carryOut_countObjects htable pattern
    have hlist := Database.carryOut_listObjects htable pattern options
    rw [ObjectTable.matching_of_byRules hrules, Database.checkPattern_of_takes hrules.takes]
      at hcount hlist
    refine ⟨hcount, hlist, fun hread => ?_⟩
    -- The journal is all that the first statement changes, so the second finds the same table.
    have hsent := Backend.send_of_carryOut (hread count rfl id) hcount
    have hsent' := Backend.send_of_carryOut (b := b.record (.statement count true))
      (hread list rfl id) hlist
    exact (Action.bind_of_ok hsent).trans (Action.bind_of_ok hsent')

/-! ## 5. Price tags

The names hold characters that mean something in patterns, and so does what is searched for. -/

namespace PriceTags

def repository : Repository := .ofType ⟨.sqlite, "", "", "", ""⟩ ⟨"tag", by decide⟩

def objects : ObjectTable :=
  ⟨.binary, .ofList [((1 : Int64), "50% OFF!"), (2, "500 off"), (3, "oak")], 3⟩

def backend (objects : ObjectTable) : Backend :=
  .start ((Database.empty.setTable "tag" (.objects objects)).setTable "tag_meta" (.metadata []))
    .memory

end PriceTags

open PriceTags in
theorem Repository.search_finds_containing_priceTags :
    (backend objects).database.objects repository.table = .ok objects ∧
    objects.MatchesByRules (namePattern " 0% off! ") ∧
    objects.containing "0% off!" = [(1, "50% OFF!")] ∧
    repository.search " 0% off! " {} (backend objects) =
      (SearchResult.mk 1 <$> repository.loadAll [1])
        (((backend objects).record (.statement (.countObjects "tag" (some "%0!% off!!%")) true)).record
          (.statement (.listObjects "tag" (some "%0!% off!!%") .id .descending 50 0) true)) := by
  have htable : (backend objects).database.objects repository.table = .ok objects := by decide +kernel
  have hpart : Text.trim " 0% off! " = "0% off!" := by decide +kernel
  have hfound : objects.containing "0% off!" = [(1, "50% OFF!")] := by decide +kernel
  have hpattern : namePattern " 0% off! " = some "%0!% off!!%" := by decide +kernel
  have hpage : ({} : SearchOptions).page objects.collation [(1, "50% OFF!")] = [1] := by
    decide +kernel
  have htakes : objects.Takes (some "%0!% off!!%") := .inr (by decide +kernel)
  have hread : Database.Readable repository.table :=
    Database.readable_of_isPlainName (by decide +kernel)
  obtain ⟨-, -, hanswered, hrules⟩ :=
    search_finds_containing repository " 0% off! " {} (backend objects) objects htable
  rw [hpart, hpattern, hfound, hpage] at hanswered
  rw [hpart, hpattern] at hrules
  have hbyRules := hrules htakes (by decide +kernel) (by decide +kernel)
  refine ⟨htable, ?_, hfound, (hanswered hbyRules).2.2 hread⟩
  rw [hpattern]
  exact hbyRules

end ObjectCatalog
