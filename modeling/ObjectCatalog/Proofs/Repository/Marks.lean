import ObjectCatalog.Proofs.Repository.Reading
import ObjectCatalog.Proofs.Repository.Wording
import ObjectCatalog.Proofs.Sql.Marks

/-!
# The marks in what is sent

Every statement about rows is written with texts that have no marks in them, so the marks that a database
finds in it are those of its arguments, in the order in which these are bound; table names with marks in
them are the one thing that could add others (`Statement.tokens_text`). A page query ends in its limit
and its offset.

With what is known of conditions this holds of all that a request may send
(`Repository.placeholders_line_up`).
-/

namespace ObjectCatalog

/-! ## 1. Statements -/

namespace Statement

/-- The texts of a statement about rows have no marks in them, and no digit follows a hole. -/
theorem spaced_template {s : Statement} (hs : ¬ s.Creates) (d : Dialect) :
    Template.spaced (s.template d) = true := by
  have hplan : ∀ (head table : String) (plan : Plan), markFree head = true → ∀ rest : Template,
      rest.spaced = true → rest.breaks = true →
      Template.spaced (.text head :: matchSource table plan ++ plan.template ++ rest) = true := by
    intro head table plan hhead rest hrest hbreaks
    obtain ⟨hspaced, hstart⟩ := plan.root.spaced_template plan.relation
    refine Template.spaced_append (Template.spaced_append ?_ hspaced hstart) hrest hbreaks
    rw [Template.spaced, hhead]
    rfl
  cases s with
  | createObjects | createMetadata | createIndex => exact absurd trivial hs
  | findObject table lookup => cases lookup <;> rfl
  | countObjects table pattern => cases pattern <;> rfl
  | listObjects table pattern field direction limit offset =>
    cases pattern <;> cases field <;> cases direction <;> rfl
  | countMatches table plan =>
    have hspaced := hplan ("SELECT COUNT(DISTINCT " ++ rowAlias 0 ++ ".object) AS total") table plan
      (by rfl) [] rfl rfl
    rw [List.append_nil] at hspaced
    exact hspaced
  | listMatches table plan direction limit offset =>
    refine hplan ("SELECT " ++ rowAlias 0 ++ ".object AS id") table plan rfl _ ?_ ?_
    · cases direction <;> rfl
    · cases direction <;> rfl
  | _ => rfl

/-- The tables in the text of a statement about rows are those that it names. -/
theorem mem_names_of_mem_tables {s : Statement} (hs : ¬ s.Creates) {d : Dialect} {name : String}
    (hname : name ∈ (s.template d).tables) : name ∈ s.names := by
  have hone : ∀ {table : String}, s.names = [table] → name ∈ s.names := by
    intro table hnames
    rw [(tables_of_names hnames).2 d] at hname
    rw [hnames]
    exact hname
  have hplan : ∀ (table : String) (plan : Plan),
      name ∈ Template.tables (matchSource table plan ++ plan.template) →
      name ∈ [table, plan.relation] := by
    intro table plan hmem
    rw [Template.tables_append] at hmem
    rcases List.mem_append.1 hmem with hmem | hmem
    · exact (List.Perm.swap _ _ _).subset hmem
    · rw [plan.root.tables_template plan.relation name hmem]
      exact List.mem_cons_of_mem _ List.mem_cons_self
  cases s with
  | createObjects | createMetadata | createIndex => exact absurd trivial hs
  | lastInsertId => cases hname
  | countMatches table plan => exact hplan table plan hname
  | listMatches table plan direction limit offset =>
    rw [template, Template.tables_append] at hname
    rcases List.mem_append.1 hname with hname | hname
    · exact hplan table plan hname
    · cases hname
  | _ => exact hone rfl

/-- The marks in the text of a statement about rows are numbered from one, and there are as many as
there are arguments. -/
theorem tokens_text {s : Statement} (hs : ¬ s.Creates) (hnames : ∀ name ∈ s.names, markFree name = true)
    (d : Dialect) :
    (Text.marks (s.text d)).map (·.token) =
      (List.range (s.args d).length).map fun i => d.placeholder (i + 1) := by
  have hmarks : Text.marks (s.text d) = (s.template d).holes d [] 0 :=
    Template.marks_textFrom (spaced_template hs d)
      (fun name hname => hnames name (mem_names_of_mem_tables hs hname)) d 0
  rw [hmarks, Template.map_token_holes]
  exact List.map_congr_left fun i _ => by rw [Nat.add_right_comm, Nat.zero_add]

/-- The limit and the offset of a page query. -/
def page? : Statement → Option (Int64 × Int64)
  | .listObjects _ _ _ _ limit offset | .listMatches _ _ _ limit offset => some (limit, offset)
  | _ => none

theorem exists_template_eq_of_page? {s : Statement} {limit offset : Int64}
    (h : s.page? = some (limit, offset)) (d : Dialect) :
    ∃ front : Template, s.template d = front ++ pageEnd limit offset := by
  cases s with
  | listObjects | listMatches =>
    cases h
    exact ⟨_, List.append_cons _ _ _⟩
  | _ => cases h

/-- A page query ends in the limit and the offset, in the text and in the arguments. -/
theorem ends_of_page? {s : Statement} {limit offset : Int64} (h : s.page? = some (limit, offset))
    (d : Dialect) :
    ∃ front before, s.args d = before ++ [.int limit, .int offset] ∧
      s.text d = front ++ " LIMIT " ++ d.placeholder (before.length + 1) ++ " OFFSET " ++
        d.placeholder (before.length + 2) := by
  obtain ⟨front, htemplate⟩ := exists_template_eq_of_page? h d
  refine ⟨front.textFrom d 0, front.args, ?_, ?_⟩
  · rw [args, htemplate, Template.args_append]
    rfl
  · rw [text, htemplate, Template.text, Template.textFrom_append, Nat.zero_add, pageEnd,
      Template.textFrom, Template.textFrom, Template.textFrom, Template.textFrom, Template.textFrom,
      String.append_empty, String.append_assoc, String.append_assoc, String.append_assoc]

end Statement

/-! ## 2. What is sent -/

namespace Request

variable {request : Request} {r : Repository} {s : Statement}

/-- The limit and the offset of the pages that a request asks for. -/
def page? : Request → Option (Int64 × Int64)
  | .search _ options => some (max options.limit 0, max options.offset 0)
  | .metaSearch _ options => some (max options.limit 0, max options.offset 0)
  | _ => none

theorem page?_of_sends (h : request.Sends r s) {page : Int64 × Int64} (hpage : s.page? = some page) :
    request.page? = some page := by
  cases h with
  | listObjects hrequest | listMatches hrequest hplan =>
    rw [hrequest]
    exact hpage
  | _ => cases hpage

theorem names_of_sends (h : request.Sends r s) (hs : ¬ s.Creates) :
    ∀ name ∈ s.names, name = r.table ∨ name = r.metaTable ∨ name = r.metadataStore.table := by
  intro name hname
  cases h with
  | createObjects | createMetadata | createIndex => exact absurd trivial hs
  | lastInsertId => cases hname
  | countMatches hrequest hplan | listMatches hrequest hplan =>
    obtain ⟨first, rest, -, -, rfl⟩ := Plan.ofPredicate_eq_ok_iff.1 hplan
    rcases List.mem_cons.1 hname with rfl | hname
    · exact .inl rfl
    · exact .inr (.inl (List.mem_singleton.1 hname))
  | deleteMetadata | deleteEntry | insertEntry | listMetadata =>
    exact .inr (.inr (List.mem_singleton.1 hname))
  | _ => exact .inl (List.mem_singleton.1 hname)

end Request

namespace Repository

/-- **Placeholders and arguments line up.** In the condition of every predicate that has a plan, over a
relation whose name has no marks in it, the marks that are found are the placeholders that come after
those already taken, as many as there are clauses and values together; the arguments are the keys and
the operands of the values, clause by clause, and each stands after the column and the operator that it
belongs to; and what is written next goes on counting from there. Every statement about rows that a
request sends, whatever it finds, has the placeholders from the first on in its text, one for each
argument, if its table names have no marks in them; and a page query ends in the limit and then the
offset that were asked for, neither of them below zero. -/
theorem placeholders_line_up (d : Dialect) :
    (∀ (p : Predicate) (relation : String) (plan : Plan) (taken : Nat),
      Plan.ofPredicate relation p = .ok plan → markFree relation = true →
      let condition := plan.condition d taken
      let count := condition.args.length
      count = (p.clauses.map fun clause => 1 + clause.value.values.length).sum ∧
      (Text.marks condition.text).map (·.token) =
        (List.range count).map (fun i => d.placeholder (taken + 1 + i)) ∧
      condition.args = p.bindings.map (·.2) ∧
      List.Forall₂ (fun mark bound => mark.Follows bound.1) (Text.marks condition.text) p.bindings ∧
      condition.taken = taken + count ∧
      ∀ rest : Template, (plan.template ++ rest).textFrom d taken =
        condition.text ++ rest.textFrom d condition.taken) ∧
    ∀ (r : Repository) (request : Request) (desk : Desk), markFree r.table = true →
      markFree r.metaTable = true → markFree r.metadataStore.table = true →
      ∀ s ∈ request.sent r desk, ¬ s.Creates →
        (Text.marks (s.text d)).map (·.token) =
          (List.range (s.args d).length).map (fun i => d.placeholder (i + 1)) ∧
        ∀ limit offset, s.page? = some (limit, offset) → request.page? = some (limit, offset) ∧
          ∃ front before, s.args d = before ++ [.int limit, .int offset] ∧
            s.text d = front ++ " LIMIT " ++ d.placeholder (before.length + 1) ++ " OFFSET " ++
              d.placeholder (before.length + 2) := by
  constructor
  · intro p relation plan taken hplan hrelation condition count
    obtain ⟨htokens, hargs, hfollows⟩ := Plan.marks_condition hplan hrelation d taken
    refine ⟨?_, htokens, hargs, hfollows, rfl, fun rest => Template.textFrom_append d taken _ _⟩
    rw [← Predicate.length_bindings, ← List.length_map (f := (·.2)), ← hargs]
  · intro r request desk htable hmeta hstore s hs hcreates
    have hsends := Request.sends_of_mem_sent hs
    refine ⟨Statement.tokens_text hcreates (fun name hname => ?_) d, fun limit offset hpage =>
      ⟨Request.page?_of_sends hsends hpage, Statement.ends_of_page? hpage d⟩⟩
    rcases Request.names_of_sends hsends hcreates name hname with rfl | rfl | rfl
    · exact htable
    · exact hmeta
    · exact hstore

/-! ## 3. Jars with labels

A condition on two keys, one of them with a pattern among its values, is written after three other
placeholders; and a page of the jars that satisfy it is asked for from before the first of them. -/

namespace LabelledJars

def repository : Repository := .ofType ⟨.sqlite, "", "", "", ""⟩ ⟨"jar", by decide⟩

def labelled : Predicate :=
  (Predicate.matching "fruit" (.anyOf ["*um", "f*g"])).join .and "year?" (.one "$9")

def asked : Request := .metaSearch labelled { limit := 5, offset := -2 }

def desk : Desk := repository.runAll ⟨.start .empty .null, ∅⟩ [.install]

def page (plan : Plan) : Statement := .listMatches "jar" plan .descending 5 0

end LabelledJars

open LabelledJars in
theorem placeholders_line_up_labelledJars :
    ∃ plan, Plan.ofPredicate "jar_meta" labelled = .ok plan ∧
      (plan.condition .postgres 3).args = [.text "fruit", .text "%um", .text "f*g", .text "year?",
        .text "$9"] ∧
      (Text.marks (plan.condition .postgres 3).text).map (·.token) = ["$4", "$5", "$6", "$7", "$8"] ∧
      page plan ∈ asked.sent repository desk ∧
      (Text.marks ((page plan).text .sqlite)).map (·.token) =
        ["?1", "?2", "?3", "?4", "?5", "?6", "?7"] ∧
      ∃ before, (page plan).args .sqlite = before ++ [.int 5, .int 0] := by
  obtain ⟨plan, hplan⟩ : ∃ plan, Plan.ofPredicate "jar_meta" labelled = .ok plan :=
    Plan.exists_ofPredicate_iff.2 (by decide +kernel)
  obtain ⟨hcondition, -⟩ := placeholders_line_up .postgres
  obtain ⟨hcount, htokens, hargs, -, -, -⟩ := hcondition labelled "jar_meta" plan 3 hplan
    (by decide +kernel)
  obtain ⟨-, hsent⟩ := placeholders_line_up .sqlite
  have hplan' : plan = ⟨"jar_meta", .combine
      (.base ⟨0, "fruit", [⟨.like, "%um"⟩, ⟨.exact, "f*g"⟩]⟩) .and
      (.related ⟨1, "year?", [⟨.exact, "$9"⟩]⟩)⟩ := by
    have heval : Plan.ofPredicate "jar_meta" labelled = .ok ⟨"jar_meta", .combine
        (.base ⟨0, "fruit", [⟨.like, "%um"⟩, ⟨.exact, "f*g"⟩]⟩) .and
        (.related ⟨1, "year?", [⟨.exact, "$9"⟩]⟩)⟩ := by decide +kernel
    exact Except.ok.inj (hplan.symm.trans heval)
  have hlist : page plan ∈ asked.sent repository desk := by
    rw [hplan']
    decide +kernel
  obtain ⟨hpage, hends⟩ := hsent repository asked desk (by decide +kernel) (by decide +kernel)
    (by decide +kernel) (page plan) hlist id
  obtain ⟨-, front, before, hbefore, -⟩ := hends 5 0 rfl
  refine ⟨plan, hplan, ?_, ?_, hlist, ?_, before, hbefore⟩
  · rw [hargs]
    decide +kernel
  · rw [htokens, hcount]
    decide +kernel
  · rw [hpage, hplan']
    decide +kernel

end Repository

end ObjectCatalog
