import ObjectCatalog.Database.Basic
import ObjectCatalog.Proofs.Sql.Prefixes

/-!
# Names behind one prefix

The tables of a store have names with one prefix, which a setting chose and which may be any text. A
text names a table under a key, and two texts may well have one key: case does not matter, and a
comment in a prefix hides what follows it. But where a table can be created with a prefix at all, the
prefix tells names apart that differ in more than case (`foldCase_eq_of_key_eq`): it cannot hide the
names then, and it cannot make two of them one.
-/

namespace ObjectCatalog

open Lexeme

/-! ## Identifiers behind a prefix -/

theorem isTail_of_isIdentifier {name : String} (h : isIdentifier name = true) :
    IsTail name.toList ∧ IsTail (name ++ " (").toList ∧ ∀ c ∈ name.toList, isNameRest c = true := by
  have hall : ∀ c ∈ name.toList, Text.isIdentifierRest c = true := fun c => isIdentifierRest_of_mem h
  rw [isIdentifier] at h
  cases hname : name.toList with
  | nil => rw [hname] at h; cases h
  | cons c cs =>
    rw [hname, isIdentifierChars, Bool.and_eq_true] at h
    rw [hname] at hall
    refine ⟨⟨⟨c, cs, rfl, h.1⟩, fun d hd => .inl (hall d hd)⟩, ?_, fun d hd =>
      isNameRest_of_isIdentifierRest (hall d hd)⟩
    rw [String.toList_append, hname]
    refine ⟨⟨c, cs ++ " (".toList, rfl, h.1⟩, fun d hd => ?_⟩
    rcases List.mem_append.1 hd with hd | hd
    · exact .inl (hall d hd)
    · exact .inr (by simpa using hd)

namespace TableRef

/-- How the database reads the names of the tables of a store with a given prefix. -/
inductive Reading (stem : String) : Prop
  /-- The name is the end of a word. -/
  | word (front : List Lexeme) (begun : String) (hbegun : ∀ c ∈ begun.toList, isNameRest c = true)
      (h : ∀ name, isIdentifier name = true →
        lexAfterBlank (stem ++ name) = front ++ [⟨.word, begun ++ name⟩])
  /-- The name is not seen. -/
  | hidden (front : List Lexeme) (hstem : ∃ c ∈ stem.toList, isNameRest c = false)
      (h : ∀ name, isIdentifier name = true →
        lexAfterBlank (stem ++ name) = front ∧ lexAfterBlank (stem ++ name ++ " (") = front)
  /-- No such text names a table. -/
  | spoiled (h : ∀ name, isIdentifier name = true →
      ∃ lexeme ∈ lexAfterBlank (stem ++ name), lexeme.kind = .value ∨ lexeme.kind = .illegal)

theorem lexAfterBlank_eq (text : String) :
    lexAfterBlank text = lexFrom 0 ((' ' :: text.toList).takeWhile (·.toNat != 0)) := by
  rw [lexAfterBlank, Lexeme.lex, String.toList_append]
  rfl

/-- Without a NUL character a text is read to its end. -/
theorem lexAfterBlank_of_notMem {text : String} (h : '\x00' ∉ text.toList) :
    lexAfterBlank text = lexFrom 0 (' ' :: text.toList) := by
  have hall : ∀ c ∈ ' ' :: text.toList, (c.toNat != 0) = true := by
    intro c hc
    refine bne_iff_ne.2 fun hzero => ?_
    obtain rfl : c = '\x00' := by rw [← Char.ofNat_toNat c, hzero]
    exact h ((List.mem_cons.1 hc).resolve_left (by decide))
  have hself : ((' ' :: text.toList) ++ []).takeWhile (·.toNat != 0) =
      (' ' :: text.toList) ++ [].takeWhile (·.toNat != 0) := List.takeWhile_append_of_pos hall
  rw [lexAfterBlank_eq, ← List.append_nil (' ' :: text.toList), hself]
  rfl

theorem reading (stem : String) : Reading stem := by
  by_cases hnul : '\x00' ∈ stem.toList
  -- A text ends at its first NUL character, so the name is not read.
  · have hcut : ∀ rest : String, lexAfterBlank (stem ++ rest) = lexAfterBlank stem := by
      intro rest
      have hstops : ((' ' :: stem.toList).takeWhile (·.toNat != 0)).length ≠
          (' ' :: stem.toList).length := by
        intro hall
        have hpass := runLength_eq_length_iff.1 hall '\x00' (List.mem_cons_of_mem _ hnul)
        exact absurd hpass (by decide)
      rw [lexAfterBlank_eq, lexAfterBlank_eq, String.toList_append, ← List.cons_append,
        List.takeWhile_append, if_neg hstops]
    refine .hidden (lexAfterBlank stem) ⟨_, hnul, by decide⟩ fun name _ => ⟨hcut name, ?_⟩
    rw [String.append_assoc]
    exact hcut _
  have hread : ∀ {rest : String}, IsTail rest.toList →
      lexAfterBlank (stem ++ rest) = lexFrom 0 ((' ' :: stem.toList) ++ rest.toList) := by
    intro rest hrest
    rw [lexAfterBlank_of_notMem, String.toList_append, List.cons_append]
    rw [String.toList_append, List.mem_append, not_or]
    exact ⟨hnul, hrest.notMem (by decide)⟩
  cases continues (' ' :: stem.toList) with
  | word front begun hbegun h =>
    refine .word front (String.ofList begun) (by simpa using hbegun) fun name hname => ?_
    obtain ⟨htail, -, hall⟩ := isTail_of_isIdentifier hname
    rw [hread htail, h _ htail hall, String.ofList_append, String.ofList_toList]
  | hidden front hstem h =>
    have hmem : ∀ {d}, d ≠ ' ' → d ∈ ' ' :: stem.toList → d ∈ stem.toList :=
      fun hne hd => (List.mem_cons.1 hd).resolve_left hne
    refine .hidden front ?_ fun name hname => ?_
    · rcases hstem with hd | hd
      · exact ⟨'-', hmem (by decide) hd, by decide⟩
      · exact ⟨'/', hmem (by decide) hd, by decide⟩
    · obtain ⟨htail, hopen, -⟩ := isTail_of_isIdentifier hname
      rw [String.append_assoc, hread htail, hread hopen]
      exact ⟨h _ htail, h _ hopen⟩
  | spoiled h =>
    refine .spoiled fun name hname => ?_
    obtain ⟨htail, -, -⟩ := isTail_of_isIdentifier hname
    rw [hread htail]
    exact h _ htail

/-! ## The table that a name gives -/

theorem takeName_eq_ok {lexemes rest : List Lexeme} {lexeme : Lexeme}
    (h : takeName lexemes = .ok (lexeme, rest)) :
    lexemes = lexeme :: rest ∧ lexeme.isName = true := by
  cases lexemes with
  | nil => cases h
  | cons first others =>
    rw [takeName] at h
    split at h
    · rename_i hname
      cases h
      exact ⟨rfl, hname⟩
    · cases h

/-- What gives one table and nothing else is a name, or a schema, a dot and a name. -/
theorem take_eq_ok_nil {lexemes : List Lexeme} {ref : TableRef}
    (h : take lexemes = .ok (ref, [])) :
    (lexemes = [ref.name] ∧ ref.schema = none ∨
      ∃ schema dot, lexemes = [schema, dot, ref.name] ∧ ref.schema = some schema) ∧
      ∀ lexeme ∈ lexemes, lexeme.isName = true ∨ lexeme.kind = .mark := by
  unfold take at h
  rcases hfirst : takeName lexemes with fault | ⟨first, rest⟩
  · rw [hfirst] at h
    cases h
  obtain ⟨rfl, hname⟩ := takeName_eq_ok hfirst
  rw [hfirst] at h
  change (if (rest.head?.map (·.isMark ".")).getD false then _ else _) = _ at h
  split at h
  · rename_i hdot
    obtain ⟨dot, others, rfl⟩ : ∃ dot others, rest = dot :: others := by
      cases rest with
      | nil => cases hdot
      | cons dot others => exact ⟨dot, others, rfl⟩
    rcases hsecond : takeName others with fault | ⟨second, last⟩
    · rw [List.drop_succ_cons, List.drop_zero, hsecond] at h
      cases h
    obtain ⟨rfl, hname'⟩ := takeName_eq_ok hsecond
    rw [List.drop_succ_cons, List.drop_zero, hsecond] at h
    cases h
    have hmark : dot.kind = .mark := beq_iff_eq.1 (Bool.and_eq_true_iff.1 hdot).1
    exact ⟨.inr ⟨first, dot, rfl, rfl⟩, by simp [hname, hname', hmark]⟩
  · cases h
    exact ⟨.inl ⟨rfl, rfl⟩, by simp [hname]⟩

theorem ofText?_eq_some {text : String} {ref : TableRef} (h : ofText? text = some ref) :
    take (lexAfterBlank text) = .ok (ref, []) := by
  unfold ofText? at h
  split at h
  · rename_i hread
    cases h
    exact hread
  · cases h

theorem chars_of_isPlainName {text : String} (h : isPlainName text = true) :
    ∃ c cs, text.toList = c :: cs ∧ isNameStart c = true ∧ c ≠ '\ufeff' ∧
      ∀ d ∈ cs, isNameRest d = true := by
  rw [isPlainName, Bool.and_eq_true] at h
  obtain ⟨hchars, -⟩ := h
  rcases htext : text.toList with _ | ⟨c, cs⟩
  · rw [htext] at hchars
    cases hchars
  rw [htext] at hchars
  simp only [Bool.and_eq_true, bne_iff_ne, List.all_eq_true] at hchars
  exact ⟨c, cs, rfl, hchars.1.1, hchars.1.2, hchars.2⟩

theorem isNameRest_of_isPlainName {text : String} (h : isPlainName text = true) :
    ∀ c ∈ text.toList, isNameRest c = true := by
  obtain ⟨c, cs, htext, hstart, -, hrest⟩ := chars_of_isPlainName h
  rw [htext]
  intro d hd
  rcases List.mem_cons.1 hd with rfl | hd
  · exact isNameRest_of_isNameStart hstart
  · exact hrest d hd

/-- A plain word is read as a word. -/
theorem lexAfterBlank_of_isPlainName {text : String} (h : isPlainName text = true) :
    lexAfterBlank text = [⟨.word, text⟩] := by
  obtain ⟨c, cs, htext, hstart, hbom, hrest⟩ := chars_of_isPlainName h
  have hnul : '\x00' ∉ text.toList :=
    fun hmem => absurd (isNameRest_of_isPlainName h _ hmem) (by decide)
  have hblob : cs.head? ≠ some '\'' :=
    fun hhead => absurd (hrest _ (List.mem_of_mem_head? hhead)) (by decide)
  rw [lexAfterBlank_of_notMem hnul, htext, lexFrom_blank rfl (isBlankRest_of_isNameStart hstart),
    lexFrom_of_word hrest (scan_of_isNameStart hstart hbom hblob), ← htext, String.ofList_toList]

/-- A plain word gives the table of that name, like any other text that gives one. -/
theorem key_eq (text : String) :
    key text = ((ofText? text).bind key?).getD (apart ++ text) := by
  unfold key
  split
  · rename_i hplain
    have hname : Lexeme.isName ⟨.word, text⟩ = true := (Bool.and_eq_true_iff.1 hplain).2
    have htake : take [⟨.word, text⟩] = .ok (⟨none, ⟨.word, text⟩⟩, []) := by
      rw [take, takeName, if_pos hname]
      rfl
    rw [ofText?, lexAfterBlank_of_isPlainName hplain, htake]
    rfl
  · rfl

/-- What stands before the name in the keys of a schema. -/
def keyLead (schema : Option Lexeme) : String :=
  if schema.map (fun lexeme => Text.foldCase lexeme.name) = some "temp" then "temp" ++ apart else ""

theorem key?_eq_some {ref : TableRef} {k : String} (h : ref.key? = some k) :
    k = keyLead ref.schema ++ Text.foldCase ref.name.name := by
  unfold key? at h
  unfold keyLead
  cases hschema : ref.schema.map fun schema => Text.foldCase schema.name with
  | none =>
    rw [hschema] at h
    cases h
    simp
  | some schema =>
    rw [hschema] at h
    simp only at h
    split at h
    · rename_i hmain
      cases h
      simp [hmain]
    · split at h
      · rename_i htemp
        cases h
        simp [htemp]
      · cases h

/-- No character of a name folds to NUL. -/
theorem toLower_ne_nul {c : Char} (h : isNameRest c = true) : c.toLower ≠ '\x00' := by
  intro heq
  rw [Text.eq_of_toLower_eq heq (by decide)] at h
  exact absurd h (by decide)

/-- The key of a text that gives no table is none of a table. -/
theorem apart_append_ne {schema : Option Lexeme} {word text : String}
    (hword : ∀ c ∈ word.toList, isNameRest c = true) (hne : word ≠ "") :
    apart ++ text ≠ keyLead schema ++ Text.foldCase word := by
  intro h
  have hchars := congrArg String.toList h
  rw [String.toList_append, String.toList_append] at hchars
  unfold keyLead at hchars
  split at hchars
  · rw [String.toList_append] at hchars
    exact absurd (List.cons.inj hchars).1 (by decide)
  · rcases hword' : word.toList with _ | ⟨c, cs⟩
    · exact hne (String.toList_inj.1 hword')
    · rw [Text.toList_foldCase, hword'] at hchars
      have hhead : '\x00' = c.toLower := (List.cons.inj hchars).1
      exact toLower_ne_nul (hword c (hword' ▸ List.mem_cons_self)) hhead.symm

/-- A text with a word at its end gives no table, or the table of that word. Which schema it is in is
said by what stands before the word. -/
theorem key_of_word {text word : String} {front : List Lexeme}
    (h : lexAfterBlank text = front ++ [⟨.word, word⟩]) :
    key text = apart ++ text ∨ key text = keyLead front.head? ++ Text.foldCase word := by
  rw [key_eq]
  rcases href : (ofText? text).bind key? with _ | k
  · exact .inl rfl
  refine .inr ?_
  obtain ⟨ref, hof, hk⟩ := Option.bind_eq_some_iff.1 href
  obtain ⟨hparts, -⟩ := take_eq_ok_nil (ofText?_eq_some hof)
  rw [h] at hparts
  have hread : front.head? = ref.schema ∧ ref.name = ⟨.word, word⟩ := by
    rcases hparts with ⟨hlist, hschema⟩ | ⟨schema, dot, hlist, hschema⟩
    · have hsplit : front ++ [⟨.word, word⟩] = [] ++ [ref.name] := hlist
      obtain ⟨rfl, hlast⟩ := List.append_inj' hsplit rfl
      exact ⟨hschema.symm, (List.cons.inj hlast).1.symm⟩
    · have hsplit : front ++ [⟨.word, word⟩] = [schema, dot] ++ [ref.name] := hlist
      obtain ⟨rfl, hlast⟩ := List.append_inj' hsplit rfl
      exact ⟨hschema.symm, (List.cons.inj hlast).1.symm⟩
  rw [Option.getD_some, key?_eq_some hk, hread.1, hread.2]
  rfl

/-- A word that an identifier ends. -/
theorem word_of_isIdentifier {begun name : String}
    (hbegun : ∀ c ∈ begun.toList, isNameRest c = true) (hname : isIdentifier name = true) :
    (∀ c ∈ (begun ++ name).toList, isNameRest c = true) ∧ begun ++ name ≠ "" := by
  obtain ⟨⟨⟨c, cs, hhead, -⟩, -⟩, -, hall⟩ := isTail_of_isIdentifier hname
  refine ⟨fun d hd => ?_, fun hempty => ?_⟩
  · rw [String.toList_append] at hd
    exact (List.mem_append.1 hd).elim (hbegun d) (hall d)
  · have hnil := congrArg String.toList hempty
    rw [String.toList_append, hhead] at hnil
    simp at hnil

/-- Behind a prefix whose end begins a word, different names have different keys. -/
theorem foldCase_eq_of_word {stem begun : String} {front : List Lexeme}
    (hbegun : ∀ c ∈ begun.toList, isNameRest c = true)
    (h : ∀ name, isIdentifier name = true →
      lexAfterBlank (stem ++ name) = front ++ [⟨.word, begun ++ name⟩])
    {name other : String} (hname : isIdentifier name = true) (hother : isIdentifier other = true)
    (hkey : key (stem ++ name) = key (stem ++ other)) :
    Text.foldCase name = Text.foldCase other := by
  obtain ⟨hword, hne⟩ := word_of_isIdentifier hbegun hname
  obtain ⟨hword', hne'⟩ := word_of_isIdentifier hbegun hother
  rcases key_of_word (h name hname) with hnone | hname
  · rcases key_of_word (h other hother) with hnone' | hother
    · rw [hnone, hnone'] at hkey
      have hsame : stem ++ name = stem ++ other := (String.append_right_inj _).1 hkey
      rw [(String.append_right_inj _).1 hsame]
    · rw [hnone, hother] at hkey
      exact absurd hkey (apart_append_ne hword' hne')
  · rcases key_of_word (h other hother) with hnone' | hother
    · rw [hname, hnone'] at hkey
      exact absurd hkey.symm (apart_append_ne hword hne)
    · rw [hname, hother, Text.foldCase_append, Text.foldCase_append] at hkey
      exact (String.append_right_inj _).1 ((String.append_right_inj _).1 hkey)

/-! ## Where tables can be created -/

theorem newTable_eq_ok {text : String} {ref : TableRef} (h : Database.newTable text = .ok ref) :
    fault? .defined text " (" = none ∧ ofText? text = some ref := by
  unfold Database.newTable at h
  split at h
  · cases h
  · cases h
  · rename_i hfault hof
    split at h
    · cases h
    · split at h
      · cases h
      · cases h
        exact ⟨hfault, hof⟩

/-- **Names that differ in more than case are names of different tables.** Where a table can be
created with a prefix, no two identifiers behind that prefix have one key, unless they are the same
without regard to case. -/
theorem foldCase_eq_of_key_eq {stem created : String} {ref : TableRef}
    (hcreated : isIdentifier created = true)
    (hnew : Database.newTable (stem ++ created) = .ok ref) {name other : String}
    (hname : isIdentifier name = true) (hother : isIdentifier other = true)
    (hkey : key (stem ++ name) = key (stem ++ other)) :
    Text.foldCase name = Text.foldCase other := by
  obtain ⟨hfault, hof⟩ := newTable_eq_ok hnew
  have htake := ofText?_eq_some hof
  cases reading stem with
  | word front begun hbegun h => exact foldCase_eq_of_word hbegun h hname hother hkey
  | hidden front hstem h =>
    -- Nothing is seen of the definitions either, which a created table needs.
    have hplain : ¬ isPlainName (stem ++ created) = true := by
      obtain ⟨c, hc, hfails⟩ := hstem
      intro hplain
      have hrest := isNameRest_of_isPlainName hplain c
        (by rw [String.toList_append]; exact List.mem_append_left _ hc)
      rw [hfails] at hrest
      cases hrest
    obtain ⟨hread, hopen⟩ := h created hcreated
    rw [hread] at htake
    have hrest : restAt .defined front = .ok [] := by
      rw [restAt, htake]
      rfl
    have hdefinitions : Lexeme.lex " (" = [⟨.mark, "("⟩] := by decide
    rw [fault?, if_neg hplain, hopen] at hfault
    simp only [hrest, hdefinitions] at hfault
    cases hfault
  | spoiled h =>
    obtain ⟨lexeme, hmem, hkind⟩ := h created hcreated
    have hpart := (take_eq_ok_nil htake).2 lexeme hmem
    rw [Lexeme.isName] at hpart
    rcases hkind with hkind | hkind <;> simp [hkind] at hpart

end TableRef

end ObjectCatalog
