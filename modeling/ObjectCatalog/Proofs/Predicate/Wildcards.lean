import ObjectCatalog.Predicate.Meaning
import ObjectCatalog.Proofs.Sql.Patterns

/-!
# What a value with wildcards accepts

A value that begins with a star asks for texts with anything in the place of its stars. The test that is
made of it is a pattern in which each star became a run, and all other characters were left as they are.
So the characters that mean something in patterns mean it here too: in such a value `%` is one more star,
and `_` is any one character (`ValueTest.accepts_ofRaw_iff`). In a name search they mean nothing.

What a value asks for is accepted in any case. Where it has neither of the two characters nothing else is
(`ValueTest.fills_iff_standsFor`), and where it has one of them something else is
(`ValueTest.exists_accepted_not_fills`). Texts that the database does not see as they are
(`Like.SeenWhole`) are left out of this: it reads a pattern and a text up to the first NUL character, and
does not tell three characters apart.
-/

namespace ObjectCatalog

namespace ValueTest

variable {raw s : String} {value text : List Char} {c : Char}

/-! ## 1. What a value asks for -/

/-- What a character of a value asks for: a star for any characters, and every other for itself, up to
the case of ASCII letters. -/
def asked (c : Char) : Like.Element :=
  if c = wildcard then .run else .char c

/-- The texts that one gets from a value by putting any characters in the place of each star, and leaving
all others as they are, up to the case of ASCII letters. -/
def Fills (value text : List Char) : Prop :=
  Like.StandsFor (value.map asked) text
deriving Decidable

/-- What a character of a value means in the pattern that is made of it. -/
def meant (c : Char) : Like.Element :=
  Like.element (patternChar c)

theorem meant_of_ne (hrun : c ≠ '%') (hone : c ≠ '_') : meant c = asked c := by
  unfold meant asked patternChar
  by_cases hstar : c = wildcard
  · rw [if_pos (beq_iff_eq.2 hstar), if_pos hstar]
    rfl
  · rw [if_neg fun heq => hstar (beq_iff_eq.1 heq), if_neg hstar, Like.element, if_neg hrun,
      if_neg hone]

/-! ## 2. What the pattern of a value stands for -/

/-- Each character stands at least for itself, so a text that the value asks for is accepted. The
induction is on the value. -/
theorem standsFor_of_fills (h : Fills value text) : Like.StandsFor (value.map meant) text := by
  unfold Fills at h
  induction value generalizing text with
  | nil => exact h
  | cons c value ih =>
    rw [List.map_cons] at h ⊢
    by_cases hrun : c = '%'
    · subst hrun
      obtain ⟨d, part, rfl, -, hpart⟩ := Like.standsFor_char.1 h
      exact .run [d] (ih hpart)
    by_cases hone : c = '_'
    · subst hone
      obtain ⟨d, part, rfl, -, hpart⟩ := Like.standsFor_char.1 h
      exact .one d (ih hpart)
    rw [meant_of_ne hrun hone]
    exact h.cons_mono fun _ => ih

/-- Without the two characters only such texts are. -/
theorem fills_iff_standsFor (hrun : '%' ∉ value) (hone : '_' ∉ value) :
    Fills value text ↔ Like.StandsFor (value.map meant) text := by
  have hsame : value.map meant = value.map asked := List.map_congr_left fun c hc =>
    meant_of_ne (fun heq => hrun (heq ▸ hc)) fun heq => hone (heq ▸ hc)
  rw [hsame]
  rfl

/-- A character that is neither a star nor a letter is in every text that a value with it asks for. -/
theorem mem_of_fills (hstar : c ≠ wildcard) (hlower : c.isLower = false) (hcase : c.toLower = c)
    (h : Fills value text) (hc : c ∈ value) : c ∈ text := by
  unfold Fills at h
  induction value generalizing text with
  | nil => cases hc
  | cons first value ih =>
    rw [List.map_cons] at h
    rcases List.mem_cons.1 hc with rfl | hrest
    · rw [asked, if_neg hstar] at h
      obtain ⟨d, part, rfl, hsame, -⟩ := Like.standsFor_char.1 h
      rw [Text.eq_of_toLower_eq (hsame.symm.trans hcase) hlower]
      exact List.mem_cons_self
    · -- The first character stands for something in front of the rest.
      cases hfirst : asked first with
      | run =>
        rw [hfirst] at h
        obtain ⟨part, hpart, h⟩ := Like.standsFor_run.1 h
        exact hpart.subset (ih h hrest)
      | one =>
        unfold asked at hfirst
        split at hfirst <;> cases hfirst
      | char d =>
        rw [hfirst] at h
        obtain ⟨_, part, rfl, -, h⟩ := Like.standsFor_char.1 h
        exact List.mem_cons_of_mem _ (ih h hrest)

/-- Another character in the place of each of the two. -/
def blur (c : Char) : Char :=
  if c = '%' ∨ c = '_' then 'x' else c

theorem standsFor_map_blur (value : List Char) :
    Like.StandsFor (value.map meant) (value.map blur) := by
  induction value with
  | nil => exact .nil
  | cons c value ih =>
    rw [List.map_cons, List.map_cons]
    by_cases hrun : c = '%'
    · subst hrun
      exact .run ['x'] ih
    by_cases hone : c = '_'
    · subst hone
      exact .one 'x' ih
    rw [meant_of_ne hrun hone, blur, if_neg (not_or.2 ⟨hrun, hone⟩), asked]
    by_cases hstar : c = wildcard
    · rw [if_pos hstar]
      exact .run [c] ih
    · rw [if_neg hstar]
      exact .char rfl ih

theorem blur_ne (c : Char) : blur c ≠ '%' ∧ blur c ≠ '_' := by
  unfold blur
  split
  · decide
  · rename_i hplain
    exact not_or.1 hplain

theorem not_mem_map_blur (hne : 'x' ≠ c) (h : c ∉ value) : c ∉ value.map blur := by
  intro hmem
  obtain ⟨d, hd, hblur⟩ := List.mem_map.1 hmem
  unfold blur at hblur
  split at hblur
  · exact hne hblur
  · exact h (hblur ▸ hd)

theorem not_fills_map_blur (h : '%' ∈ value ∨ '_' ∈ value) : ¬ Fills value (value.map blur) := by
  intro hfills
  rcases h with hrun | hone
  · obtain ⟨c, -, hc⟩ := List.mem_map.1 (mem_of_fills (by decide) (by decide) (by decide) hfills hrun)
    exact (blur_ne c).1 hc
  · obtain ⟨c, -, hc⟩ := List.mem_map.1 (mem_of_fills (by decide) (by decide) (by decide) hfills hone)
    exact (blur_ne c).2 hc

/-- Without an escape character every character means what it means alone. -/
theorem elements?_map_patternChar (value : List Char) :
    Like.elements? none (value.map patternChar) = some (value.map meant) := by
  induction value with
  | nil => rfl
  | cons c value ih =>
    rw [List.map_cons, Like.elements?_cons (Option.some_ne_none _), ih]
    rfl

theorem patternChar_of_ne (h : c ≠ wildcard) : patternChar c = c :=
  if_neg fun heq => h (beq_iff_eq.1 heq)

theorem readChar_ne_wildcard (h : c ≠ wildcard) : Like.readChar c ≠ wildcard := by
  unfold Like.readChar
  split
  · decide
  · exact h

/-- What is seen of the pattern is the pattern of what is seen of the value. -/
theorem seen_map_patternChar (raw : String) :
    Like.seen (raw.map patternChar) = (Like.seen raw).map patternChar := by
  have hseen : ((fun c : Char => c.toNat != 0) ∘ patternChar) = fun c => c.toNat != 0 := by
    funext c
    by_cases hstar : c = wildcard
    · subst hstar
      rfl
    · rw [Function.comp_apply, patternChar_of_ne hstar]
  have hread : Like.readChar ∘ patternChar = patternChar ∘ Like.readChar := by
    funext c
    by_cases hstar : c = wildcard
    · subst hstar
      rfl
    · rw [Function.comp_apply, Function.comp_apply, patternChar_of_ne hstar,
        patternChar_of_ne (readChar_ne_wildcard hstar)]
  rw [Like.seen, String.toList_map, List.takeWhile_map, hseen, List.map_map, hread, ← List.map_map]
  rfl

/-! ## 3. Values and texts as the database reads them -/

theorem toLower_readChar (c : Char) : (Like.readChar c).toLower = Like.readChar c.toLower := by
  by_cases hfirst : c = '\uFFFE'
  · subst hfirst
    decide
  by_cases hsecond : c = '\uFFFF'
  · subst hsecond
    decide
  -- A letter in lower case is none of the two, so neither becomes one.
  have hother : ∀ {d : Char}, d.isLower = false → c ≠ d → c.toLower ≠ d := fun hlower hne heq =>
    hne (Text.eq_of_toLower_eq heq hlower)
  rw [Like.readChar_of_ne hfirst hsecond,
    Like.readChar_of_ne (hother (by decide) hfirst) (hother (by decide) hsecond)]

/-- A text that a value asks for is asked for as it is read. The induction is on the value. -/
theorem Fills.map_readChar (h : Fills value text) :
    Fills (value.map Like.readChar) (text.map Like.readChar) := by
  unfold Fills at h ⊢
  induction value generalizing text with
  | nil =>
    obtain rfl := Like.standsFor_nil.1 h
    exact .nil
  | cons c value ih =>
    rw [List.map_cons] at h
    rw [List.map_cons, List.map_cons]
    by_cases hstar : c = wildcard
    · subst hstar
      obtain ⟨part, hpart, h⟩ := Like.standsFor_run.1 h
      exact Like.standsFor_run.2 ⟨_, hpart.map Like.readChar, ih h⟩
    · rw [asked, if_neg hstar] at h
      rw [asked, if_neg (readChar_ne_wildcard hstar)]
      obtain ⟨d, part, rfl, hcase, h⟩ := Like.standsFor_char.1 h
      refine .char ?_ (ih h)
      rw [toLower_readChar, toLower_readChar, hcase]

/-! ## 4. The test of a value -/

theorem accepts_ofRaw_of_wildcard (h : raw.toList.head? = some wildcard) :
    (ofRaw raw).accepts s = true ↔
      Like.StandsFor ((Like.seen raw).map meant) (Like.seen s) := by
  have htest : ofRaw raw = ⟨.like, raw.map patternChar⟩ := if_pos (beq_iff_eq.2 h)
  rw [htest, accepts]
  simp only
  rw [Like.matchesText_eq, seen_map_patternChar, elements?_map_patternChar]
  exact Like.matchElements_iff

theorem accepts_ofRaw_of_seenWhole (h : raw.toList.head? = some wildcard) (hraw : Like.SeenWhole raw)
    (hs : Like.SeenWhole s) :
    (ofRaw raw).accepts s = true ↔ Like.StandsFor (raw.toList.map meant) s.toList := by
  rw [accepts_ofRaw_of_wildcard h, Like.seen_of_seenWhole hraw, Like.seen_of_seenWhole hs]

/-- Reading the characters of a text as others does not take it from a value that asks for it. -/
theorem accepts_ofRaw_of_fills (h : raw.toList.head? = some wildcard) (hraw : '\x00' ∉ raw.toList)
    (hs : '\x00' ∉ s.toList) (hfills : Fills raw.toList s.toList) : (ofRaw raw).accepts s = true := by
  rw [accepts_ofRaw_of_wildcard h, Like.seen_of_not_mem hraw, Like.seen_of_not_mem hs]
  exact standsFor_of_fills hfills.map_readChar

/-- A value of stars. -/
def stars (count : Nat) : String :=
  .ofList (.replicate count wildcard)

/-- Stars ask for any text. -/
theorem accepts_stars (count : Nat) (s : String) : (ofRaw (stars (count + 1))).accepts s = true := by
  have hother : ∀ {c}, c ≠ wildcard → c ∉ (stars (count + 1)).toList := by
    intro c hne hc
    rw [stars, String.toList_ofList] at hc
    exact hne (List.eq_of_mem_replicate hc)
  have hwhole : Like.SeenWhole (stars (count + 1)) :=
    ⟨hother (by decide), hother (by decide), hother (by decide)⟩
  have hruns : ∀ count text, Like.StandsFor (List.replicate (count + 1) .run) text := by
    intro count text
    induction count with
    | zero => exact Like.standsFor_last_run text
    | succ count ih => exact .run [] ih
  rw [accepts_ofRaw_of_wildcard (by rw [stars, String.toList_ofList]; rfl),
    Like.seen_of_seenWhole hwhole, stars, String.toList_ofList, List.map_replicate]
  exact hruns count _

/-- A value with one of the two characters is accepted where it was not asked for. -/
theorem exists_accepted_not_fills (h : raw.toList.head? = some wildcard) (hraw : Like.SeenWhole raw)
    (hplain : '%' ∈ raw.toList ∨ '_' ∈ raw.toList) :
    ∃ s : String, Like.SeenWhole s ∧ (ofRaw raw).accepts s = true ∧ ¬ Fills raw.toList s.toList := by
  have hs : Like.SeenWhole (String.ofList (raw.toList.map blur)) := by
    rw [Like.SeenWhole, String.toList_ofList]
    exact ⟨not_mem_map_blur (by decide) hraw.1, not_mem_map_blur (by decide) hraw.2.1,
      not_mem_map_blur (by decide) hraw.2.2⟩
  refine ⟨_, hs, (accepts_ofRaw_of_seenWhole h hraw hs).2 ?_, ?_⟩
  · rw [String.toList_ofList]
    exact standsFor_map_blur _
  · rw [String.toList_ofList]
    exact not_fills_map_blur hplain

/-- **What the test of a value accepts.** A value that does not begin with a star is accepted as it is,
and nothing else. Of a value that begins with one the test accepts what its pattern stands for, in which
also `%` is a run and `_` any one character. All texts that the value asks for are among them. Among the
texts that the database sees as they are, these are all that is accepted if the value has neither of the
two characters, and only then. -/
theorem accepts_ofRaw_iff (raw : String) :
    (raw.toList.head? ≠ some wildcard → ∀ s, (ofRaw raw).accepts s = true ↔ s = raw) ∧
    (raw.toList.head? = some wildcard →
      (∀ s, (ofRaw raw).accepts s = true ↔
        Like.StandsFor ((Like.seen raw).map meant) (Like.seen s)) ∧
      ('\x00' ∉ raw.toList → ∀ s, '\x00' ∉ s.toList → Fills raw.toList s.toList →
        (ofRaw raw).accepts s = true) ∧
      (Like.SeenWhole raw →
        ((∀ s, Like.SeenWhole s → ((ofRaw raw).accepts s = true ↔ Fills raw.toList s.toList)) ↔
          '%' ∉ raw.toList ∧ '_' ∉ raw.toList))) := by
  refine ⟨fun hraw s => ?_, fun hraw => ⟨fun s => accepts_ofRaw_of_wildcard hraw,
    fun hnul s hs => accepts_ofRaw_of_fills hraw hnul hs, fun hwhole => ?_⟩⟩
  · have htest : ofRaw raw = ⟨.exact, raw⟩ := if_neg fun heq => hraw (beq_iff_eq.1 heq)
    rw [htest, accepts]
    exact beq_iff_eq
  · constructor
    · intro hiff
      by_contra hplain
      rw [not_and_or, not_not, not_not] at hplain
      obtain ⟨s, hs, haccepted, hnot⟩ := exists_accepted_not_fills hraw hwhole hplain
      exact hnot ((hiff s hs).1 haccepted)
    · rintro ⟨hrun, hone⟩ s hs
      rw [accepts_ofRaw_of_seenWhole hraw hwhole hs, fills_iff_standsFor hrun hone]

theorem accepts_ofRaw_iff_pineTable :
    Fills "*pine **".toList "old Pine table".toList ∧
    (ofRaw "*pine **").accepts "old Pine table" = true ∧
    ¬ Fills "*pine **".toList "old pineapple".toList ∧
    (ofRaw "*pine **").accepts "old pineapple" = false ∧
    ((ofRaw "pine *").accepts "pine table" = true ↔ "pine table" = "pine *") := by
  have hhead : "*pine **".toList.head? = some wildcard := by decide +kernel
  have hwhole : Like.SeenWhole "*pine **" := by decide +kernel
  have hfills : Fills "*pine **".toList "old Pine table".toList := by decide +kernel
  have hnot : ¬ Fills "*pine **".toList "old pineapple".toList := by decide +kernel
  obtain ⟨-, haccepts, hiff⟩ := (accepts_ofRaw_iff "*pine **").2 hhead
  have hexactly := (hiff hwhole).2 ⟨by decide +kernel, by decide +kernel⟩
  refine ⟨hfills, haccepts hwhole.1 _ (by decide +kernel) hfills, hnot, ?_,
    (accepts_ofRaw_iff "pine *").1 (by decide +kernel) _⟩
  rw [← Bool.not_eq_true, hexactly "old pineapple" (by decide +kernel)]
  exact hnot

/-- The two characters are not left as they are. -/
theorem percent_and_underscore_accept_others :
    (ofRaw "*0%").accepts "100 days" = true ∧ ¬ Fills "*0%".toList "100 days".toList ∧
    (ofRaw "*a_c").accepts "abc" = true ∧ ¬ Fills "*a_c".toList "abc".toList := by
  decide +kernel

end ValueTest

end ObjectCatalog
