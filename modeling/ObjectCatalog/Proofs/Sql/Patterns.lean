import ObjectCatalog.Sql.Like
import Mathlib.Data.List.TakeWhile

/-!
# What patterns stand for

A pattern stands for a set of texts, and its elements say which: a run for any characters, one
character for any one, and every other for itself in either case. `Like.StandsFor` is this meaning with
nothing of how a text is matched, and the matcher of the database answers by it
(`Like.matchElements_iff`).

Escaping a text makes a pattern of it that stands for this text alone, whatever its characters mean in
patterns (`Like.elements?_flatMap_escapeChar`). Between two runs it stands for the texts that contain it
(`Like.matches_containing`).

That is the meaning of the pattern. The database keeps to it where it sees the pattern and the text as
they are (`Like.matchesText_iff_matches`), but it does not tell three characters apart and sees no
further than the first NUL character. If there is one in what is searched for, the second run is behind
it, and what is left of the pattern stands for texts that end in the part before the NUL
(`Like.matchesText_containing`).
-/

namespace ObjectCatalog.Like

variable {elements rest : List Element} {text cs : List Char} {c : Char}

/-! ## 1. The meaning of elements -/

/-- The texts that elements stand for. -/
inductive StandsFor : List Element → List Char → Prop
  | nil : StandsFor [] []
  | run {rest : List Element} {text : List Char} (skipped : List Char) (h : StandsFor rest text) :
      StandsFor (.run :: rest) (skipped ++ text)
  | one {rest : List Element} {text : List Char} (d : Char) (h : StandsFor rest text) :
      StandsFor (.one :: rest) (d :: text)
  | char {rest : List Element} {text : List Char} {c d : Char} (hcase : c.toLower = d.toLower)
      (h : StandsFor rest text) : StandsFor (.char c :: rest) (d :: text)

theorem mem_suffixes {part : List Char} : part ∈ suffixes text ↔ part <:+ text := by
  induction text with
  | nil => rw [suffixes, List.mem_singleton, List.suffix_nil]
  | cons d text ih => rw [suffixes, List.mem_cons, List.suffix_cons_iff, ih]

theorem standsFor_nil : StandsFor [] text ↔ text = [] := by
  constructor
  · rintro ⟨⟩
    rfl
  · rintro rfl
    exact .nil

theorem standsFor_run : StandsFor (.run :: rest) text ↔ ∃ part, part <:+ text ∧ StandsFor rest part := by
  constructor
  · rintro ⟨⟩
    rename_i part skipped h
    exact ⟨part, List.suffix_append skipped part, h⟩
  · rintro ⟨part, ⟨skipped, rfl⟩, h⟩
    exact .run skipped h

theorem standsFor_char : StandsFor (.char c :: rest) text ↔
    ∃ d part, text = d :: part ∧ c.toLower = d.toLower ∧ StandsFor rest part := by
  constructor
  · rintro ⟨⟩
    rename_i part d hcase h
    exact ⟨d, part, rfl, hcase, h⟩
  · rintro ⟨d, part, rfl, hcase, h⟩
    exact .char hcase h

/-- A wider rest stands for more. -/
theorem StandsFor.cons_mono {element : Element} {rest' : List Element}
    (hrest : ∀ text, StandsFor rest text → StandsFor rest' text)
    (h : StandsFor (element :: rest) text) : StandsFor (element :: rest') text := by
  cases h with
  | run skipped h => exact .run skipped (hrest _ h)
  | one d h => exact .one d (hrest _ h)
  | char hcase h => exact .char hcase (hrest _ h)

/-- The matcher answers by the meaning. The induction is on the elements, as the matcher goes. -/
theorem matchElements_iff : matchElements elements text = true ↔ StandsFor elements text := by
  induction elements generalizing text with
  | nil => rw [matchElements, List.isEmpty_iff, standsFor_nil]
  | cons element rest ih =>
    cases element with
    | run =>
      rw [matchElements, List.any_eq_true, standsFor_run]
      exact exists_congr fun part => and_congr mem_suffixes ih
    | one =>
      cases text with
      | nil => exact iff_of_false Bool.false_ne_true nofun
      | cons d text =>
        rw [matchElements, ih]
        exact ⟨fun h => .one d h, fun | .one _ h => h⟩
    | char c =>
      cases text with
      | nil => exact iff_of_false Bool.false_ne_true nofun
      | cons d text =>
        rw [matchElements, Bool.and_eq_true, beq_iff_eq, ih]
        exact ⟨fun h => .char h.1 h.2, fun | .char hcase h => ⟨hcase, h⟩⟩

instance (elements : List Element) (text : List Char) : Decidable (StandsFor elements text) :=
  decidable_of_iff _ matchElements_iff

/-! ## 2. Literal parts -/

/-- Characters as elements stand for themselves, in either case. -/
theorem standsFor_append_chars : StandsFor (cs.map .char ++ rest) text ↔
    ∃ same part, text = same ++ part ∧ same.map Char.toLower = cs.map Char.toLower ∧
      StandsFor rest part := by
  induction cs generalizing text with
  | nil =>
    constructor
    · exact fun h => ⟨[], text, rfl, rfl, h⟩
    · rintro ⟨same, part, rfl, hsame, h⟩
      obtain rfl := List.map_eq_nil_iff.1 hsame
      exact h
  | cons c cs ih =>
    rw [List.map_cons, List.cons_append, standsFor_char]
    constructor
    · rintro ⟨d, part, rfl, hcase, h⟩
      obtain ⟨same, part, rfl, hsame, h⟩ := ih.1 h
      refine ⟨d :: same, part, rfl, ?_, h⟩
      rw [List.map_cons, List.map_cons, hcase, hsame]
    · rintro ⟨same, part, rfl, hsame, h⟩
      obtain ⟨d, same, rfl, hcase, hrest⟩ := List.map_eq_cons_iff.1 hsame
      exact ⟨d, same ++ part, rfl, hcase.symm, ih.2 ⟨same, part, rfl, hrest, h⟩⟩

/-- A run at the end takes all that is left. -/
theorem standsFor_last_run (text : List Char) : StandsFor [.run] text :=
  standsFor_run.2 ⟨[], List.nil_suffix, .nil⟩

theorem standsFor_run_chars : StandsFor (.run :: cs.map .char) text ↔
    cs.map Char.toLower <:+ text.map Char.toLower := by
  rw [standsFor_run]
  constructor
  · rintro ⟨part, ⟨skipped, rfl⟩, h⟩
    rw [← List.append_nil (cs.map Element.char)] at h
    obtain ⟨same, _, rfl, hsame, hnil⟩ := standsFor_append_chars.1 h
    rw [standsFor_nil.1 hnil, List.append_nil, List.map_append, hsame]
    exact List.suffix_append _ _
  · rintro ⟨skipped, h⟩
    obtain ⟨front, same, rfl, -, hsame⟩ := List.map_eq_append_iff.1 h.symm
    refine ⟨same, List.suffix_append front same, ?_⟩
    rw [← List.append_nil (cs.map Element.char)]
    exact standsFor_append_chars.2 ⟨same, [], (List.append_nil same).symm, hsame, .nil⟩

theorem standsFor_run_chars_run : StandsFor (.run :: cs.map .char ++ [.run]) text ↔
    cs.map Char.toLower <:+: text.map Char.toLower := by
  rw [List.cons_append, standsFor_run]
  constructor
  · rintro ⟨part, ⟨skipped, rfl⟩, h⟩
    obtain ⟨same, left, rfl, hsame, -⟩ := standsFor_append_chars.1 h
    refine ⟨skipped.map Char.toLower, left.map Char.toLower, ?_⟩
    rw [List.map_append, List.map_append, hsame, List.append_assoc]
  · rintro ⟨skipped, left, h⟩
    obtain ⟨front, left', rfl, hfront, -⟩ := List.map_eq_append_iff.1 h.symm
    obtain ⟨skipped', same, rfl, -, hsame⟩ := List.map_eq_append_iff.1 hfront
    refine ⟨same ++ left', ⟨skipped', (List.append_assoc _ _ _).symm⟩, ?_⟩
    exact standsFor_append_chars.2 ⟨same, left', rfl, hsame, standsFor_last_run left'⟩

/-! ## 3. Escaped texts -/

/-- What a character means in a pattern, if it is not the escape character. -/
def element (c : Char) : Element :=
  if c = '%' then .run else if c = '_' then .one else .char c

theorem elements?_cons {escape : Option Char} (h : some c ≠ escape) (cs : List Char) :
    elements? escape (c :: cs) = (elements? escape cs).map (element c :: ·) := by
  rw [elements?.eq_def]
  simp only [if_neg h]
  rfl

/-- An escaped text is read as its characters, each of them literal. -/
theorem elements?_flatMap_escapeChar (cs rest : List Char) :
    elements? (some escapeMark) (cs.flatMap escapeChar ++ rest) =
      (elements? (some escapeMark) rest).map (cs.map .char ++ ·) := by
  induction cs with
  | nil => simp
  | cons c cs ih =>
    have hread : elements? (some escapeMark) (escapeChar c ++ (cs.flatMap escapeChar ++ rest)) =
        (elements? (some escapeMark) (cs.flatMap escapeChar ++ rest)).map (.char c :: ·) := by
      unfold escapeChar
      split
      · rfl
      · rename_i hplain
        simp only [Bool.or_eq_true, beq_iff_eq, not_or] at hplain
        obtain ⟨⟨hrun, hone⟩, hmark⟩ := hplain
        have hliteral : element c = .char c := by rw [element, if_neg hrun, if_neg hone]
        rw [List.cons_append, elements?_cons fun heq => hmark (Option.some.inj heq), hliteral]
        rfl
    rw [List.flatMap_cons, List.append_assoc, hread, ih, Option.map_map]
    rfl

/-- A run and an escaped text. -/
theorem elements?_run_escaped (cs rest : List Char) :
    elements? (some escapeMark) ('%' :: cs.flatMap escapeChar ++ rest) =
      (elements? (some escapeMark) rest).map (.run :: cs.map .char ++ ·) := by
  rw [List.cons_append, elements?_cons (by decide), elements?_flatMap_escapeChar, Option.map_map]
  rfl

/-- Whether a pattern stands for a text, by the rules of patterns and whatever characters they have. -/
def Matches (escape : Option Char) (pattern text : String) : Prop :=
  ∃ elements, elements? escape pattern.toList = some elements ∧ StandsFor elements text.toList

/-- A pattern for the texts that contain a given one is a run, this text, and a run. So it stands for
those texts, whatever the characters of the text mean in patterns. -/
theorem matches_containing {part text : String} :
    Matches (some escapeMark) (containing part) text ↔
      (Text.foldCase part).toList <:+: (Text.foldCase text).toList := by
  have hlast : elements? (some escapeMark) ['%'] = some [.run] := rfl
  rw [Matches, containing, String.toList_ofList, elements?_run_escaped, hlast, Text.toList_foldCase,
    Text.toList_foldCase, ← standsFor_run_chars_run]
  simp

/-! ## 4. What the database sees -/

/-- There is no character in a text that the database does not see as it is: no NUL, where it stops, and
none of the two that it reads as another. -/
def SeenWhole (s : String) : Prop :=
  '\x00' ∉ s.toList ∧ '\uFFFE' ∉ s.toList ∧ '\uFFFF' ∉ s.toList
deriving Decidable

theorem readChar_of_ne (h : c ≠ '\uFFFE') (h' : c ≠ '\uFFFF') : readChar c = c :=
  if_neg (not_or.2 ⟨h, h'⟩)

theorem map_readChar_of_not_mem (hfirst : '\uFFFE' ∉ cs) (hsecond : '\uFFFF' ∉ cs) :
    cs.map readChar = cs := by
  have hsame : ∀ c ∈ cs, readChar c = id c := fun c hc =>
    readChar_of_ne (fun heq => hfirst (heq ▸ hc)) fun heq => hsecond (heq ▸ hc)
  rw [List.map_congr_left hsame, List.map_id]

theorem toNat_bne_zero_iff {c : Char} : (c.toNat != 0) = true ↔ c ≠ '\x00' := by
  rw [bne_iff_ne, ne_eq, ne_eq, Char.ext_iff, ← UInt32.toNat_inj]
  rfl

/-- Without a NUL character everything is seen. -/
theorem seen_of_not_mem {s : String} (h : '\x00' ∉ s.toList) : seen s = s.toList.map readChar := by
  have hall : s.toList.takeWhile (·.toNat != 0) = s.toList :=
    List.takeWhile_eq_self_iff.2 fun c hc => toNat_bne_zero_iff.2 fun heq => h (heq ▸ hc)
  rw [seen, hall]

theorem seen_of_seenWhole {s : String} (h : SeenWhole s) : seen s = s.toList := by
  obtain ⟨hnul, hfirst, hsecond⟩ := h
  rw [seen_of_not_mem hnul, map_readChar_of_not_mem hfirst hsecond]

/-- Where the database sees a pattern and a text as they are, it answers by the rules. -/
theorem matchesText_iff_matches {escape : Option Char} {pattern text : String}
    (hpattern : SeenWhole pattern) (htext : SeenWhole text) :
    matchesText escape pattern text = true ↔ Matches escape pattern text := by
  rw [matchesText_eq, seen_of_seenWhole hpattern, seen_of_seenWhole htext, Matches]
  cases elements? escape pattern.toList with
  | none => simp
  | some elements => simp [matchElements_iff]

theorem eq_or_mem_of_mem_escapeChar {d : Char} (h : d ∈ escapeChar c) : d = escapeMark ∨ d = c := by
  unfold escapeChar at h
  split at h
  · simpa using h
  · exact .inr (List.mem_singleton.1 h)

theorem seenWhole_containing {part : String} (h : SeenWhole part) : SeenWhole (containing part) := by
  have hmem : ∀ {c}, c ≠ '%' → c ≠ escapeMark → c ∉ part.toList → c ∉ (containing part).toList := by
    intro c hrun hmark hpart hc
    rw [containing, String.toList_ofList, List.mem_append, List.mem_cons, List.mem_singleton,
      List.mem_flatMap] at hc
    obtain (hc | ⟨d, hd, hc⟩) | hc := hc
    · exact hrun hc
    · rcases eq_or_mem_of_mem_escapeChar hc with rfl | rfl
      · exact hmark rfl
      · exact hpart hd
    · exact hrun hc
  exact ⟨hmem (by decide) (by decide) h.1, hmem (by decide) (by decide) h.2.1,
    hmem (by decide) (by decide) h.2.2⟩

/-! ## 5. Searches for any text -/

/-- Of an escaped text as much is seen as of the text, and what follows it is seen if there is no NUL
character in it. -/
theorem takeWhile_flatMap_escapeChar (cs rest : List Char) :
    (cs.flatMap escapeChar ++ rest).takeWhile (·.toNat != 0) =
      (cs.takeWhile (·.toNat != 0)).flatMap escapeChar ++
        if '\x00' ∈ cs then [] else rest.takeWhile (·.toNat != 0) := by
  induction cs with
  | nil => simp
  | cons c cs ih =>
    rw [List.flatMap_cons, List.append_assoc]
    by_cases hnul : c = '\x00'
    · subst hnul
      simp [escapeChar, escapeMark]
    · have hseen : (c.toNat != 0) = true := toNat_bne_zero_iff.2 hnul
      have hescaped : ∀ d ∈ escapeChar c, (d.toNat != 0) = true := by
        intro d hd
        rcases eq_or_mem_of_mem_escapeChar hd with rfl | rfl
        · decide
        · exact hseen
      rw [List.takeWhile_append_of_pos hescaped, ih,
        List.takeWhile_cons_of_pos (p := fun c : Char => c.toNat != 0) hseen, List.flatMap_cons,
        List.append_assoc]
      simp [List.mem_cons, Ne.symm hnul]

/-- Reading a character does not change whether it is escaped. -/
theorem map_readChar_escapeChar (c : Char) : (escapeChar c).map readChar = escapeChar (readChar c) := by
  by_cases hfirst : c = '\uFFFE'
  · subst hfirst
    decide
  by_cases hsecond : c = '\uFFFF'
  · subst hsecond
    decide
  have hmem : ∀ {d}, d ≠ escapeMark → c ≠ d → d ∉ escapeChar c := fun hmark hne hd =>
    (eq_or_mem_of_mem_escapeChar hd).elim hmark (hne ∘ Eq.symm)
  rw [readChar_of_ne hfirst hsecond,
    map_readChar_of_not_mem (hmem (by decide) hfirst) (hmem (by decide) hsecond)]

/-- What is seen of the pattern of a text is the pattern of what is seen of the text, up to the second
run if that is seen. -/
theorem seen_containing (part : String) :
    seen (containing part) = '%' :: (seen part).flatMap escapeChar ++
      if '\x00' ∈ part.toList then [] else ['%'] := by
  have hrun : readChar '%' = '%' := by decide
  have hlast : ['%'].takeWhile (·.toNat != 0) = ['%'] := by decide
  rw [seen, containing, String.toList_ofList, List.cons_append, List.takeWhile_cons_of_pos (by decide),
    takeWhile_flatMap_escapeChar, hlast, List.map_cons, List.map_append, List.map_flatMap, hrun, seen,
    List.flatMap_map]
  simp only [map_readChar_escapeChar]
  split
  · rfl
  · rw [List.map_singleton, hrun]
    rfl

/-- Whether a search for a text finds a name, up to the case of ASCII letters: if what is seen of the
name contains what is seen of the text. A text with a NUL character is not seen to its end; of such a
text the part that is seen has to be the end of it. -/
def Finds (part name : String) : Prop :=
  if '\x00' ∈ part.toList then (seen part).map Char.toLower <:+ (seen name).map Char.toLower
  else (seen part).map Char.toLower <:+: (seen name).map Char.toLower
deriving Decidable

theorem matchesText_containing {part name : String} :
    matchesText (some escapeMark) (containing part) name = true ↔ Finds part name := by
  rw [matchesText_eq, seen_containing, elements?_run_escaped, Finds]
  by_cases hnul : '\x00' ∈ part.toList
  · have hend : elements? (some escapeMark) [] = some [] := rfl
    rw [if_pos hnul, if_pos hnul, hend, Option.map_some, List.append_nil, matchElements_iff,
      standsFor_run_chars]
  · have hlast : elements? (some escapeMark) ['%'] = some [.run] := rfl
    rw [if_neg hnul, if_neg hnul, hlast, Option.map_some, matchElements_iff, standsFor_run_chars_run]

end ObjectCatalog.Like
