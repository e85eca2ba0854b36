import ObjectCatalog.Json.Tree
import ObjectCatalog.Proofs.Json.Scanning

/-!
# How a JSON text is written

A tree has its tokens in one order (`Tree.tokens`), so a text has this tree exactly if it spells these
tokens (`Tree.parse?_eq_some_iff`): blanks may stand between them, strings and numbers have the forms of
their tokens, and nothing else is free.

The stack machine that assembles a tree keeps what it has read. Its frames and what it expects next give
back the tokens so far (`Assembly.tokens`), and one step adds the token that was read
(`Assembly.tokens_step`), so the tokens of the tree at the end are those of the text. The other way
round, the tokens of a tree take the machine from where a value may begin to where this value is
complete, whatever containers are open around it (`assemble?_tokens`).
-/

namespace ObjectCatalog.Json

/-! ## 1. The tokens of a tree -/

mutual

def Tree.tokens : Tree → List Token
  | .null => [.null]
  | .bool b => [.bool b]
  | .number literal => [.number literal]
  | .string units => [.string units]
  | .array items => .mark .openArray :: itemTokens items
  | .object members => .mark .openObject :: memberTokens members

/-- The items of an array up to its closing bracket. -/
def itemTokens : List Tree → List Token
  | [] => [.mark .closeArray]
  | [item] => item.tokens ++ [.mark .closeArray]
  | item :: rest => item.tokens ++ .mark .comma :: itemTokens rest

/-- The members of an object up to its closing brace. -/
def memberTokens : List (List StringUnit × Tree) → List Token
  | [] => [.mark .closeObject]
  | [(key, value)] => .string key :: .mark .colon :: (value.tokens ++ [.mark .closeObject])
  | (key, value) :: rest =>
    .string key :: .mark .colon :: (value.tokens ++ .mark .comma :: memberTokens rest)

end

/-- Induction on a tree: on the items of an array, and on the values of the members of an object. -/
@[elab_as_elim]
theorem Tree.induct {P : Tree → Prop} (null : P .null) (bool : ∀ b, P (.bool b))
    (number : ∀ literal, P (.number literal)) (string : ∀ units, P (.string units))
    (array : ∀ items, (∀ item ∈ items, P item) → P (.array items))
    (object : ∀ members, (∀ member ∈ members, P member.2) → P (.object members)) (tree : Tree) :
    P tree := by
  refine @Tree.rec P (fun items => ∀ item ∈ items, P item)
    (fun members => ∀ member ∈ members, P member.2) (fun member => P member.2)
    null bool number string array object (by simp) ?_ (by simp) ?_ (fun _ _ h => h) tree
  · exact fun _ _ hitem hitems => List.forall_mem_cons.2 ⟨hitem, hitems⟩
  · exact fun _ _ hmember hmembers => List.forall_mem_cons.2 ⟨hmember, hmembers⟩

theorem separated_mark_cons {m : Mark} {tokens : List Token} :
    Separated (.mark m :: tokens) ↔ Separated tokens := by
  simp [Separated, List.isChain_cons]

theorem separated_append_mark {m : Mark} {tokens tokens' : List Token} :
    Separated (tokens ++ .mark m :: tokens') ↔ Separated tokens ∧ Separated tokens' := by
  simp [Separated, List.isChain_append, List.isChain_cons]

theorem itemTokens_cons {item : Tree} {rest : List Tree} (h : rest ≠ []) :
    itemTokens (item :: rest) = item.tokens ++ .mark .comma :: itemTokens rest := by
  obtain ⟨next, rest, rfl⟩ := List.exists_cons_of_ne_nil h
  rfl

theorem memberTokens_cons {key : List StringUnit} {value : Tree}
    {rest : List (List StringUnit × Tree)} (h : rest ≠ []) :
    memberTokens ((key, value) :: rest) =
      .string key :: .mark .colon :: (value.tokens ++ .mark .comma :: memberTokens rest) := by
  obtain ⟨next, rest, rfl⟩ := List.exists_cons_of_ne_nil h
  rfl

theorem separated_itemTokens {items : List Tree} (h : ∀ item ∈ items, Separated item.tokens) :
    Separated (itemTokens items) := by
  induction items with
  | nil => exact separated_mark_cons.2 .nil
  | cons item rest ih =>
    obtain ⟨hitem, hrest⟩ := List.forall_mem_cons.1 h
    by_cases hmore : rest = []
    · subst hmore
      exact separated_append_mark.2 ⟨hitem, .nil⟩
    · rw [itemTokens_cons hmore]
      exact separated_append_mark.2 ⟨hitem, ih hrest⟩

theorem separated_memberTokens {members : List (List StringUnit × Tree)}
    (h : ∀ member ∈ members, Separated member.2.tokens) : Separated (memberTokens members) := by
  have hkey : ∀ {key : List StringUnit} {tokens : List Token}, Separated tokens →
      Separated (.string key :: .mark .colon :: tokens) :=
    fun {key _} htokens => (@separated_append_mark _ [.string key] _).2 ⟨.singleton _, htokens⟩
  induction members with
  | nil => exact separated_mark_cons.2 .nil
  | cons member rest ih =>
    obtain ⟨hvalue, hrest⟩ := List.forall_mem_cons.1 h
    by_cases hmore : rest = []
    · subst hmore
      exact hkey (separated_append_mark.2 ⟨hvalue, .nil⟩)
    · rw [memberTokens_cons hmore]
      exact hkey (separated_append_mark.2 ⟨hvalue, ih hrest⟩)

/-- Between two values there is always a mark. -/
theorem Tree.separated_tokens (tree : Tree) : Separated tree.tokens := by
  induction tree using Tree.induct with
  | null => exact .singleton _
  | bool b => exact .singleton _
  | number literal => exact .singleton _
  | string units => exact .singleton _
  | array items ih => exact separated_mark_cons.2 (separated_itemTokens ih)
  | object members ih => exact separated_mark_cons.2 (separated_memberTokens ih)

/-! ## 2. The tokens of a tree are assembled to it -/

/-- No value begins with a closing bracket. Where an array was opened, the machine has to know this. -/
theorem Tree.exists_tokens_eq_cons (tree : Tree) :
    ∃ token rest, tree.tokens = token :: rest ∧ token ≠ .mark .closeArray := by
  cases tree with
  | array items => exact ⟨_, _, rfl, nofun⟩
  | object members => exact ⟨_, _, rfl, nofun⟩
  | _ => exact ⟨_, _, rfl, nofun⟩

theorem exists_itemTokens_eq_cons {items : List Tree} (h : items ≠ []) :
    ∃ token rest, itemTokens items = token :: rest ∧ token ≠ .mark .closeArray := by
  obtain ⟨item, items, rfl⟩ := List.exists_cons_of_ne_nil h
  obtain ⟨token, rest, htokens, hopen⟩ := item.exists_tokens_eq_cons
  by_cases hmore : items = []
  · subst hmore
    exact ⟨token, _, by rw [itemTokens, htokens, List.cons_append], hopen⟩
  · exact ⟨token, _, by rw [itemTokens_cons hmore, htokens, List.cons_append], hopen⟩

theorem exists_memberTokens_eq_cons {members : List (List StringUnit × Tree)} (h : members ≠ []) :
    ∃ key rest, memberTokens members = .string key :: rest := by
  obtain ⟨⟨key, value⟩, members, rfl⟩ := List.exists_cons_of_ne_nil h
  by_cases hmore : members = []
  · subst hmore
    exact ⟨key, _, by rw [memberTokens]⟩
  · exact ⟨key, _, by rw [memberTokens_cons hmore]⟩

/-- Where an array may close at once, a value begins as it does elsewhere. -/
theorem assemble?_itemOrClose (stack : List Frame) {token : Token} (h : token ≠ .mark .closeArray)
    (rest : List Token) : assemble? ⟨stack, .itemOrClose⟩ (token :: rest) =
      assemble? ⟨stack, .value⟩ (token :: rest) := by
  have hstep : Assembly.step? ⟨stack, .itemOrClose⟩ token = Assembly.step? ⟨stack, .value⟩ token := by
    simp only [Assembly.step?]
    split
    · exact absurd rfl h
    · rfl
  rw [assemble?, hstep, assemble?]

/-- What follows the tokens of a value finds it complete. -/
def Assembles (tree : Tree) : Prop :=
  ∀ stack rest, assemble? ⟨stack, .value⟩ (tree.tokens ++ rest) = assemble? ⟨stack, .after tree⟩ rest

theorem assemble?_itemTokens {items : List Tree} (hne : items ≠ []) (h : ∀ item ∈ items, Assembles item)
    (before : List Tree) (stack : List Frame) (rest : List Token) :
    assemble? ⟨.items before :: stack, .value⟩ (itemTokens items ++ rest) =
      assemble? ⟨stack, .after (.array (before.reverse ++ items))⟩ rest := by
  induction items generalizing before with
  | nil => exact absurd rfl hne
  | cons item items ih =>
    obtain ⟨hitem, hitems⟩ := List.forall_mem_cons.1 h
    -- Behind the last item the array is closed, behind any other comes the next.
    by_cases hmore : items = []
    · subst hmore
      have hclose : assemble? ⟨.items before :: stack, .after item⟩ (.mark .closeArray :: rest) =
          assemble? ⟨stack, .after (.array (item :: before).reverse)⟩ rest := rfl
      rw [itemTokens, List.append_assoc, hitem, List.singleton_append, hclose, List.reverse_cons]
    · have hcomma : assemble? ⟨.items before :: stack, .after item⟩
          (.mark .comma :: (itemTokens items ++ rest)) =
            assemble? ⟨.items (item :: before) :: stack, .value⟩ (itemTokens items ++ rest) := rfl
      rw [itemTokens_cons hmore, List.append_assoc, hitem, List.cons_append, hcomma, ih hmore hitems,
        List.reverse_cons, List.append_assoc, List.singleton_append]

theorem assemble?_memberTokens {members : List (List StringUnit × Tree)} (hne : members ≠ [])
    (h : ∀ member ∈ members, Assembles member.2) (before : Members) (stack : List Frame)
    (rest : List Token) :
    assemble? ⟨stack, .key before⟩ (memberTokens members ++ rest) =
      assemble? ⟨stack, .after (.object (before.reverse ++ members))⟩ rest := by
  induction members generalizing before with
  | nil => exact absurd rfl hne
  | cons member members ih =>
    obtain ⟨key, value⟩ := member
    obtain ⟨hvalue, hmembers⟩ := List.forall_mem_cons.1 h
    have hkey : ∀ tokens, assemble? ⟨stack, .key before⟩ (.string key :: .mark .colon :: tokens) =
        assemble? ⟨.member before key :: stack, .value⟩ tokens := fun _ => rfl
    by_cases hmore : members = []
    · subst hmore
      have hclose : assemble? ⟨.member before key :: stack, .after value⟩
          (.mark .closeObject :: rest) =
            assemble? ⟨stack, .after (.object ((key, value) :: before).reverse)⟩ rest := rfl
      rw [memberTokens, List.cons_append, List.cons_append, hkey, List.append_assoc, hvalue,
        List.singleton_append, hclose, List.reverse_cons]
    · have hcomma : assemble? ⟨.member before key :: stack, .after value⟩
          (.mark .comma :: (memberTokens members ++ rest)) =
            assemble? ⟨stack, .key ((key, value) :: before)⟩ (memberTokens members ++ rest) := rfl
      rw [memberTokens_cons hmore, List.cons_append, List.cons_append, hkey, List.append_assoc, hvalue,
        List.cons_append, hcomma, ih hmore hmembers, List.reverse_cons, List.append_assoc,
        List.singleton_append]

theorem assembles_array {items : List Tree} (h : ∀ item ∈ items, Assembles item) :
    Assembles (.array items) := by
  intro stack rest
  by_cases hempty : items = []
  · subst hempty
    rfl
  · -- The array could be closed here, but its first item begins.
    obtain ⟨token, more, htokens, hopen⟩ := exists_itemTokens_eq_cons hempty
    have hfirst : assemble? ⟨stack, .value⟩ ((Tree.array items).tokens ++ rest) =
        assemble? ⟨.items [] :: stack, .itemOrClose⟩ (itemTokens items ++ rest) := by
      rw [Tree.tokens]
      rfl
    have hvalue := assemble?_itemTokens hempty h [] stack rest
    rw [htokens] at hvalue
    rw [hfirst, htokens, List.cons_append, assemble?_itemOrClose _ hopen]
    exact hvalue

theorem assembles_object {members : Members} (h : ∀ member ∈ members, Assembles member.2) :
    Assembles (.object members) := by
  intro stack rest
  by_cases hempty : members = []
  · subst hempty
    rfl
  · obtain ⟨key, more, htokens⟩ := exists_memberTokens_eq_cons hempty
    have hfirst : assemble? ⟨stack, .value⟩ ((Tree.object members).tokens ++ rest) =
        assemble? ⟨stack, .keyOrClose⟩ (memberTokens members ++ rest) := by
      rw [Tree.tokens]
      rfl
    have hkey := assemble?_memberTokens hempty h [] stack rest
    rw [htokens] at hkey
    rw [hfirst, htokens]
    exact hkey

theorem Tree.assembles (tree : Tree) : Assembles tree := by
  induction tree using Tree.induct with
  | null => exact fun _ _ => rfl
  | bool b => exact fun _ _ => rfl
  | number literal => exact fun _ _ => rfl
  | string units => exact fun _ _ => rfl
  | array items ih => exact assembles_array ih
  | object members ih => exact assembles_object ih

/-! ## 3. What is assembled has the tokens that were read -/

/-- The tokens of an open array up to the item it waits for. -/
def itemsSoFar (before : List Tree) : List Token :=
  .mark .openArray :: before.reverse.flatMap fun item => item.tokens ++ [.mark .comma]

/-- The tokens of an open object up to the key it waits for. -/
def membersSoFar (before : Members) : List Token :=
  .mark .openObject :: before.reverse.flatMap fun (key, value) =>
    .string key :: .mark .colon :: (value.tokens ++ [.mark .comma])

@[simp] def Frame.tokens : Frame → List Token
  | .items before => itemsSoFar before
  | .member before key => membersSoFar before ++ [.string key, .mark .colon]

/-- The tokens of the containers that are open, the innermost last. -/
@[simp] def stackTokens : List Frame → List Token
  | [] => []
  | frame :: stack => stackTokens stack ++ frame.tokens

/-- The tokens after those of the open containers. An object counts as open from its first value on. -/
@[simp] def Expect.tokens : Expect → List Token
  | .value | .itemOrClose => []
  | .key before => membersSoFar before
  | .keyOrClose => [.mark .openObject]
  | .colon before units => membersSoFar before ++ [.string units]
  | .after tree => tree.tokens

/-- The tokens that brought the machine where it is. -/
@[simp] def Assembly.tokens (m : Assembly) : List Token :=
  stackTokens m.stack ++ m.expect.tokens

/-- An array may close at once only if nothing of it was read. -/
def Assembly.OpensArray (m : Assembly) : Prop :=
  m.expect = .itemOrClose → ∃ stack, m.stack = .items [] :: stack

theorem itemTokens_snoc (items : List Tree) (last : Tree) :
    itemTokens (items ++ [last]) = items.flatMap (fun item => item.tokens ++ [.mark .comma]) ++
      (last.tokens ++ [.mark .closeArray]) := by
  induction items with
  | nil => rfl
  | cons item items ih =>
    rw [List.cons_append, itemTokens_cons (by simp), ih]
    simp

theorem memberTokens_snoc (members : Members) (key : List StringUnit) (value : Tree) :
    memberTokens (members ++ [(key, value)]) = members.flatMap (fun (key, value) =>
      .string key :: .mark .colon :: (value.tokens ++ [.mark .comma])) ++
        .string key :: .mark .colon :: (value.tokens ++ [.mark .closeObject]) := by
  induction members with
  | nil => rfl
  | cons member members ih =>
    obtain ⟨key, value⟩ := member
    rw [List.cons_append, memberTokens_cons (by simp), ih]
    simp

theorem Assembly.begin?_tokens {stack : List Frame} {token : Token} {next : Assembly}
    (h : begin? stack token = some next) :
    next.tokens = stackTokens stack ++ [token] ∧ next.OpensArray := by
  unfold begin? at h
  split at h <;> obtain ⟨⟩ := h
  · exact ⟨by simp [Tree.tokens], by simp [OpensArray]⟩
  · exact ⟨by simp [Tree.tokens], by simp [OpensArray]⟩
  · exact ⟨by simp [Tree.tokens], by simp [OpensArray]⟩
  · exact ⟨by simp [Tree.tokens], by simp [OpensArray]⟩
  · exact ⟨by simp [itemsSoFar], fun _ => ⟨stack, rfl⟩⟩
  · exact ⟨rfl, by simp [OpensArray]⟩

theorem Assembly.follow?_tokens {value : Tree} {stack : List Frame} {mark : Mark} {next : Assembly}
    (h : follow? value stack mark = some next) :
    next.tokens = stackTokens stack ++ value.tokens ++ [.mark mark] ∧ next.OpensArray := by
  unfold follow? at h
  split at h <;> obtain ⟨⟩ := h
  · refine ⟨?_, by simp [OpensArray]⟩
    simp [itemsSoFar]
  · refine ⟨?_, by simp [OpensArray]⟩
    simp [itemsSoFar, Tree.tokens, itemTokens_snoc]
  · refine ⟨?_, by simp [OpensArray]⟩
    simp [membersSoFar]
  · refine ⟨?_, by simp [OpensArray]⟩
    simp [membersSoFar, Tree.tokens, memberTokens_snoc]

/-- One step reads one token, by cases on what was expected. -/
theorem Assembly.step?_tokens {m next : Assembly} {token : Token} (h : m.step? token = some next)
    (hopens : m.OpensArray) : next.tokens = m.tokens ++ [token] ∧ next.OpensArray := by
  obtain ⟨stack, expect⟩ := m
  cases expect with
  | value => simpa using begin?_tokens h
  | itemOrClose =>
    obtain ⟨outer, rfl⟩ := hopens rfl
    simp only [step?] at h
    split at h
    · -- The array closes without an item.
      rename_i heq
      obtain ⟨-, rfl⟩ := List.cons.inj heq
      obtain ⟨⟩ := h
      exact ⟨by simp [itemsSoFar, Tree.tokens, itemTokens], by simp [OpensArray]⟩
    · simpa using begin?_tokens h
  | key before =>
    simp only [step?] at h
    split at h
    · obtain ⟨⟩ := h
      exact ⟨by simp, by simp [OpensArray]⟩
    · cases h
  | keyOrClose =>
    simp only [step?] at h
    split at h
    · obtain ⟨⟩ := h
      exact ⟨by simp [membersSoFar], by simp [OpensArray]⟩
    · obtain ⟨⟩ := h
      exact ⟨by simp [Tree.tokens, memberTokens], by simp [OpensArray]⟩
    · cases h
  | colon before key =>
    simp only [step?] at h
    split at h
    · obtain ⟨⟩ := h
      exact ⟨by simp, by simp [OpensArray]⟩
    · cases h
  | after value =>
    simp only [step?] at h
    split at h
    · simpa using follow?_tokens h
    · cases h

/-- By induction on the tokens that are still to come. -/
theorem tokens_of_assemble? {m : Assembly} (hopens : m.OpensArray) {rest : List Token} {tree : Tree}
    (h : assemble? m rest = some tree) : tree.tokens = m.tokens ++ rest := by
  induction rest generalizing m with
  | nil =>
    obtain ⟨stack, expect⟩ := m
    simp only [assemble?, Assembly.finish?] at h
    split at h
    · obtain ⟨⟩ := h
      simp
    · cases h
  | cons token rest ih =>
    rw [assemble?] at h
    split at h
    · cases h
    · rename_i next hstep
      obtain ⟨htokens, hnext⟩ := m.step?_tokens hstep hopens
      rw [ih hnext h, htokens, List.append_assoc, List.singleton_append]

/-- A text has a tree if and only if it spells the tokens of the tree. -/
theorem Tree.parse?_eq_some_iff {text : String} {tree : Tree} :
    Tree.parse? text = some tree ↔ Spells tree.tokens text.toList := by
  constructor
  · intro h
    rw [Tree.parse?] at h
    split at h
    · cases h
    · rename_i tokens htokens
      have hread : tree.tokens = tokens := by
        simpa using tokens_of_assemble? (m := ⟨[], .value⟩) nofun h
      exact hread ▸ spells_of_tokens? htokens
  · intro h
    have hassemble := tree.assembles [] []
    rw [List.append_nil] at hassemble
    rw [Tree.parse?, (tokens?_eq_some_iff tree.separated_tokens).2 h]
    exact hassemble

end ObjectCatalog.Json
