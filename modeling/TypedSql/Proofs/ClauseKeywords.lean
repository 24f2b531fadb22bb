import TypedSql.Proofs.Fragments

/-!
# WHERE and HAVING

A statement has WHERE if a mapping of its filter constrains something, and a selection has
HAVING if its own mapping does:

    sql.keywords = WHERE of a bound, WHERE of the filter, HAVING   (keywords_follow_constraints)

each of the three where there is something for it.  The first stands in `WHERE rowid IN (…)`
before the selection that is nested in a write with bounds; the WHERE of the filter is then
that of the nested selection.  COUNT and the aggregates apply the base of the filter alone and
have no HAVING (`count_without_having`).
-/

namespace TypedSql

open Render

/-! ## What a statement consists of -/

namespace Request

/-- The rendering of the statement that is asked for. -/
def render? : Request → Option (Render Sql)
  | rows q => some q.render
  | existence q => some q.renderExists
  | count q => some q.renderCount
  | aggregate q f column => some (q.renderAggregate f column)
  | insert q => some q.render
  | precondition q => q.unlessExists.map q.renderPrecondition
  | update q => some q.render
  | delete q => some q.render

/-- The mappings of the WHERE clause. -/
def filters : Request → List Conditions
  | rows q | existence q => q.filter.conditions
  | count q | aggregate q _ _ => [q.filter.base]
  | insert _ => []
  | precondition q => q.unlessExists.toList
  | update q => q.filter.conditions
  | delete q => q.filter.conditions

/-- What stands behind WHERE. -/
def filterBody : Request → Render Sql
  | rows q | existence q => q.filter.render
  | count q | aggregate q _ _ => q.filter.renderBase
  | insert _ => pure []
  | precondition q => (q.unlessExists.map Conditions.render).getD (pure [])
  | update q => q.filter.render
  | delete q => q.filter.render

/-- The mapping of the HAVING clause, which only selections have. -/
def havings : Request → List Conditions
  | rows q | existence q => [q.having]
  | _ => []

/-- What stands behind HAVING. -/
def havingBody : Request → Render Sql
  | rows q | existence q => q.having.render
  | _ => pure []

def isBoundedWrite : Request → Bool
  | update q => !q.bounds.isNone
  | delete q => !q.bounds.isNone
  | _ => false

/-- The statement has WHERE and HAVING where something constrains, each with a body that has
text, and a write with bounds has WHERE in front of its nested selection too. -/
structure Governed (r : Request) (sql : Sql) : Prop where
  keywords_eq : sql.keywords =
    (if r.isBoundedWrite then ["WHERE"] else []) ++
      (if Conditions.anyConstrains r.filters then ["WHERE"] else []) ++
      (if Conditions.anyConstrains r.havings then ["HAVING"] else [])
  clauses : ∃ before w between h after : Sql,
    sql = before ++ (if Conditions.anyConstrains r.filters then .word " WHERE " :: w else []) ++
      between ++ (if Conditions.anyConstrains r.havings then .word " HAVING " :: h else []) ++
      after ∧
    (r.filterBody.runOn .empty).1 = .ok w ∧
    (w.text = "" ↔ Conditions.anyConstrains r.filters = false) ∧
    (r.havingBody.runOn .empty).1 = .ok h ∧
    (h.text = "" ↔ Conditions.anyConstrains r.havings = false) ∧
    (r.isBoundedWrite = true → ∃ head table,
      before = head ++ [.word " WHERE rowid IN (", .word "SELECT rowid FROM ", table])

end Request

/-! ## Statements around the clauses -/

theorem keywords_orderDraft (keys : List SortKey) : (orderDraft keys).sql.keywords = [] := by
  refine Draft.keywords_clause (by decide) (Draft.keywords_join (by decide) ?_)
  refine List.forall_mem_map.2 fun k _ => ?_
  rw [SortKey.draft]
  cases k.direction <;> simp +decide [Direction.word]

theorem Bounds.keywords_sql (b : Bounds) : b.sql.keywords = [] := by
  rw [sql]
  split <;> simp +decide

theorem Sql.keywords_named (name : String) : (named name).keywords = [] := by
  simp +decide [named]

theorem Select.keywords_columnDraft (q : Select) : q.columnDraft.sql.keywords = [] := by
  rw [columnDraft]
  cases q.expression with
  | some e => rfl
  | none =>
    simp only
    split
    · rfl
    · exact Draft.keywords_names _

theorem Select.keywords_groupDraft (q : Select) : q.groupDraft.sql.keywords = [] :=
  Draft.keywords_clause (by decide) (Draft.keywords_names _)

theorem Payload.keywords_assignments (d : Payload) :
    (Draft.join ", " d.assignmentDrafts).sql.keywords = [] :=
  Draft.keywords_join (by decide) (List.forall_mem_map.2 fun e _ => by simp +decide)

namespace Request

/-- What is written behind WHERE. -/
def filterDraft : Request → Draft
  | rows q | existence q => q.filter.draft
  | count q | aggregate q _ _ => q.filter.base.draft
  | insert _ => []
  | precondition q => (q.unlessExists.map Conditions.draft).getD []
  | update q => q.filter.draft
  | delete q => q.filter.draft

/-- What is written behind HAVING. -/
def havingDraft : Request → Draft
  | rows q | existence q => q.having.draft
  | _ => []

/-- The draft is these pieces around its two clauses; no keyword stands in the pieces but the
WHERE of a bound. -/
structure Framed (r : Request) (d before between after : Draft) : Prop where
  draft_eq : d = before ++ Draft.clause " WHERE " r.filterDraft ++ between ++
    Draft.clause " HAVING " r.havingDraft ++ after
  before_keywords : before.sql.keywords = if r.isBoundedWrite then ["WHERE"] else []
  between_keywords : between.sql.keywords = []
  after_keywords : after.sql.keywords = []
  bounded : r.isBoundedWrite = true → ∃ head table, before.sql =
    head ++ [.word " WHERE rowid IN (", .word "SELECT rowid FROM ", table]

end Request

namespace Scope

/-- The nested selection of a bound stands around the clause of the filter. -/
theorem exists_frame (s : Scope) (table : String) : ∃ before after : Draft,
    s.draft table = before ++ Draft.clause " WHERE " s.filter.draft ++ after ∧
    before.sql.keywords = (if !s.bounds.isNone then ["WHERE"] else []) ∧
    after.sql.keywords = [] ∧
    ((!s.bounds.isNone) = true → before.sql =
      [.word " WHERE rowid IN (", .word "SELECT rowid FROM ", .ofText table]) := by
  rw [draft]
  cases s.bounds.isNone with
  | true => exact ⟨[], [], (List.append_nil _).symm, rfl, rfl, fun h => Bool.noConfusion h⟩
  | false =>
    refine ⟨[.word " WHERE rowid IN (", .word "SELECT rowid FROM ", .name table],
      orderDraft s.order ++ Draft.ofSql s.bounds.sql ++ [.word ")"], ?_, ?_, ?_, fun _ => rfl⟩
    · simp [nestedDraft]
    · simp +decide
    · simp +decide [keywords_orderDraft, Bounds.keywords_sql]

end Scope

namespace Request

theorem framed_rows (q : Select) : (rows q).Framed q.draft
    (.word "SELECT " :: (if q.distinct then [.word "DISTINCT "] else []) ++ q.columnDraft ++
      [.word " FROM ", .name q.table])
    q.groupDraft (orderDraft q.order ++ Draft.ofSql q.bounds.sql) where
  draft_eq := by simp [Select.draft, filterDraft, havingDraft]
  before_keywords := by
    cases q.distinct <;> simp +decide [q.keywords_columnDraft, isBoundedWrite]
  between_keywords := q.keywords_groupDraft
  after_keywords := by simp [keywords_orderDraft, Bounds.keywords_sql]
  bounded := nofun

/-- EXISTS stands around the selection. -/
theorem framed_existence {q : Select} {before between after : Draft}
    (h : (rows q).Framed q.draft before between after) :
    (existence q).Framed q.existsDraft (.word "SELECT EXISTS(" :: before) between
      (after ++ .word ")" :: Draft.ofSql (Sql.named "exists")) where
  draft_eq := by
    rw [Select.existsDraft, h.draft_eq]
    simp [filterDraft, havingDraft]
  before_keywords := h.before_keywords
  between_keywords := h.between_keywords
  after_keywords := by simp +decide [h.after_keywords]
  bounded := nofun

theorem framed_count (q : Select) : (count q).Framed q.countDraft
    (.word "SELECT COUNT(*)" :: Draft.ofSql (Sql.named "count") ++ [.word " FROM ", .name q.table])
    [] [] where
  draft_eq := by simp [Select.countDraft, filterDraft, havingDraft, Draft.clause]
  before_keywords := by simp +decide [Sql.keywords_named, isBoundedWrite]
  between_keywords := rfl
  after_keywords := rfl
  bounded := nofun

theorem framed_aggregate (q : Select) (f : Select.Aggregate) (column : String) :
    (aggregate q f column).Framed (q.aggregateDraft f column)
      ([.word "SELECT ", .word f.word, .word "(", .name column, .word ")"] ++
        Draft.ofSql (Sql.named "aggregate") ++ [.word " FROM ", .name q.table])
      q.groupDraft [] where
  draft_eq := by simp [Select.aggregateDraft, filterDraft, havingDraft, Draft.clause]
  before_keywords := by
    cases f <;> simp +decide [Sql.keywords_named, isBoundedWrite, Select.Aggregate.word]
  between_keywords := q.keywords_groupDraft
  after_keywords := rfl
  bounded := nofun

theorem framed_insert (q : Insert) : (insert q).Framed q.draft q.draft [] [] where
  draft_eq := by simp [filterDraft, havingDraft, Draft.clause]
  before_keywords := by
    have hkeyword : (Token.word q.conflict.keyword).keywords = [] := by
      cases q.conflict <;> decide
    rw [Insert.draft]
    split <;> simp +decide [hkeyword, isBoundedWrite]
  between_keywords := rfl
  after_keywords := rfl
  bounded := nofun

theorem framed_precondition {q : Insert} {c : Conditions} (hc : q.unlessExists = some c) :
    (precondition q).Framed (q.preconditionDraft c)
      [.word "SELECT EXISTS(", .word "SELECT 1 FROM ", .name q.table]
      (.word ")" :: Draft.ofSql (Sql.named "exists")) [] where
  draft_eq := by simp [Insert.preconditionDraft, filterDraft, havingDraft, hc, Draft.clause]
  before_keywords := by simp +decide [isBoundedWrite]
  between_keywords := by simp +decide
  after_keywords := rfl
  bounded := nofun

theorem exists_framed_update (q : Update) :
    ∃ before between, (update q).Framed q.draft before between [] := by
  obtain ⟨before, after, hdraft, hbefore, hafter, hbounded⟩ := q.toScope.exists_frame q.table
  let head : Draft := [.word "UPDATE ", .name q.table, .word " SET "] ++
    Draft.join ", " q.payload.assignmentDrafts
  have hhead : head.sql.keywords = [] := by
    simp +decide [head, q.payload.keywords_assignments]
  refine ⟨head ++ before, after, ?_, ?_, hafter, rfl, fun h => ⟨head.sql, .ofText q.table, ?_⟩⟩
  · simp [head, Update.draft, hdraft, filterDraft, havingDraft, Draft.clause]
  · rw [Draft.sql_append, Sql.keywords_append, hhead]
    exact hbefore
  · rw [Draft.sql_append, hbounded h]

theorem exists_framed_delete (q : Delete) :
    ∃ before between, (delete q).Framed q.draft before between [] := by
  obtain ⟨before, after, hdraft, hbefore, hafter, hbounded⟩ := q.toScope.exists_frame q.table
  let head : Draft := [.word "DELETE FROM ", .name q.table]
  refine ⟨head ++ before, after, ?_, ?_, hafter, rfl, fun h => ⟨head.sql, .ofText q.table, ?_⟩⟩
  · simp [head, Delete.draft, hdraft, filterDraft, havingDraft, Draft.clause]
  · simp +decide [head, hbefore, isBoundedWrite]
  · rw [Draft.sql_append, hbounded h]

theorem exists_framed {r : Request} {d : Draft} (h : r.draft? = some d) :
    ∃ before between after, r.Framed d before between after := by
  cases r with
  | rows q => cases h; exact ⟨_, _, _, framed_rows q⟩
  | existence q => cases h; exact ⟨_, _, _, framed_existence (framed_rows q)⟩
  | count q => cases h; exact ⟨_, _, _, framed_count q⟩
  | aggregate q f column => cases h; exact ⟨_, _, _, framed_aggregate q f column⟩
  | insert q => cases h; exact ⟨_, _, _, framed_insert q⟩
  | precondition q =>
    obtain ⟨c, hc, rfl⟩ := Option.map_eq_some_iff.1 h
    exact ⟨_, _, _, framed_precondition hc⟩
  | update q =>
    cases h
    obtain ⟨before, between, hframed⟩ := exists_framed_update q
    exact ⟨before, between, [], hframed⟩
  | delete q =>
    cases h
    obtain ⟨before, between, hframed⟩ := exists_framed_delete q
    exact ⟨before, between, [], hframed⟩

/-! ## Bodies -/

theorem isFragment_filterDraft (r : Request) :
    r.filterDraft.IsFragment (Conditions.anyConstrains r.filters) := by
  have hsingle (c : Conditions) : c.draft.IsFragment (Conditions.anyConstrains [c]) := by
    rw [Conditions.anyConstrains, List.any_cons, List.any_nil, Bool.or_false]
    exact c.isFragment_draft
  cases r with
  | rows q | existence q => exact q.filter.isFragment_draft
  | count q | aggregate q f column => exact hsingle q.filter.base
  | insert q => exact Draft.isFragment_nil
  | precondition q =>
    rw [filterDraft, filters]
    cases q.unlessExists with
    | none => exact Draft.isFragment_nil
    | some c => exact hsingle c
  | update q => exact q.filter.isFragment_draft
  | delete q => exact q.filter.isFragment_draft

theorem isFragment_havingDraft (r : Request) :
    r.havingDraft.IsFragment (Conditions.anyConstrains r.havings) := by
  cases r with
  | rows q | existence q =>
    rw [havings, Conditions.anyConstrains, List.any_cons, List.any_nil, Bool.or_false]
    exact q.having.isFragment_draft
  | _ => exact Draft.isFragment_nil

/-- The body of WHERE reads no other names than the statement. -/
theorem exists_filterBody_eq_emit (r : Request) :
    ∃ steps ⊆ r.steps, r.filterBody = emit steps r.filterDraft.sql := by
  have hscope (s : Scope) : s.filter.steps ⊆ s.steps := List.subset_append_left _ _
  cases r with
  | rows q | existence q =>
    exact ⟨_, fun s hs => by simp [steps, Select.steps, hs], q.filter.render_eq_emit⟩
  | count q =>
    exact ⟨_, fun s hs => by simp [steps, Select.countSteps, hs], q.filter.base.render_eq_emit⟩
  | aggregate q f column =>
    exact ⟨_, fun s hs => by simp [steps, Select.aggregateSteps, hs],
      q.filter.base.render_eq_emit⟩
  | insert q => exact ⟨[], List.nil_subset _, pure_eq_emit _⟩
  | precondition q =>
    rw [steps, filterBody, filterDraft]
    cases q.unlessExists with
    | none => exact ⟨[], List.nil_subset _, pure_eq_emit _⟩
    | some c => exact ⟨_, List.subset_append_right _ _, c.render_eq_emit⟩
  | update q =>
    exact ⟨_, fun s hs => List.mem_append_right _ (hscope q.toScope hs), q.filter.render_eq_emit⟩
  | delete q =>
    exact ⟨_, fun s hs => List.mem_append_right _ (hscope q.toScope hs), q.filter.render_eq_emit⟩

theorem exists_havingBody_eq_emit (r : Request) :
    ∃ steps ⊆ r.steps, r.havingBody = emit steps r.havingDraft.sql := by
  cases r with
  | rows q | existence q =>
    exact ⟨_, fun s hs => by simp [steps, Select.steps, hs], q.having.render_eq_emit⟩
  | _ => exact ⟨[], List.nil_subset _, pure_eq_emit _⟩

theorem runOn_emit_of_subset {s t : List Step} (hst : s ⊆ t) (ht : Step.firstFault? t = none)
    (sql : Sql) (p : Params) : ((emit s sql).runOn p).1 = .ok sql := by
  have hs : Step.firstFault? s = none := by
    rw [Step.firstFault?_eq_none_iff] at ht ⊢
    exact fun text htext => ht text (hst htext)
  rw [runOn_emit, hs]

/-- A request without a fault renders its draft. -/
theorem exists_render {r : Request} {d : Draft} (hr : r.fault? = none) (hd : r.draft? = some d) :
    ∃ x, r.render? = some x ∧ (x.runOn .empty).1 = .ok d.sql := by
  obtain ⟨hsteps, hsets⟩ := r.fault?_eq_none_iff.1 hr
  suffices h : r.render? = some (emit r.steps d.sql) from
    ⟨_, h, runOn_emit_of_subset (List.Subset.refl _) hsteps _ _⟩
  cases r with
  | rows q => cases hd; exact congrArg some q.render_eq_emit
  | existence q => cases hd; exact congrArg some q.renderExists_eq_emit
  | count q => cases hd; exact congrArg some q.renderCount_eq_emit
  | aggregate q f column => cases hd; exact congrArg some (q.renderAggregate_eq_emit f column)
  | insert q => cases hd; exact congrArg some q.render_eq_emit
  | precondition q =>
    obtain ⟨c, hc, rfl⟩ := Option.map_eq_some_iff.1 hd
    simp only [render?, steps, hc]
    exact congrArg some (q.renderPrecondition_eq_emit c)
  | update q => cases hd; exact congrArg some (q.render_eq_emit (hsets q rfl))
  | delete q => cases hd; exact congrArg some q.render_eq_emit

theorem governed {r : Request} {d : Draft} (hr : r.fault? = none) (hd : r.draft? = some d) :
    r.Governed d.sql := by
  have hsteps := (r.fault?_eq_none_iff.1 hr).1
  obtain ⟨before, between, after, hframed⟩ := exists_framed hd
  obtain ⟨s, hs, hfilter⟩ := r.exists_filterBody_eq_emit
  obtain ⟨t, ht, hhaving⟩ := r.exists_havingBody_eq_emit
  have hw := r.isFragment_filterDraft
  have hh := r.isFragment_havingDraft
  have hsql := congrArg Draft.sql hframed.draft_eq
  simp only [Draft.sql_append] at hsql
  refine ⟨?_, before.sql, r.filterDraft.sql, between.sql, r.havingDraft.sql, after.sql, ?_, ?_,
    hw.text_eq_empty_iff, ?_, hh.text_eq_empty_iff, hframed.bounded⟩
  · have hwhere : (Token.word " WHERE ").keywords = ["WHERE"] := by decide
    have hhaving : (Token.word " HAVING ").keywords = ["HAVING"] := by decide
    simp only [hsql, Sql.keywords_append, hframed.before_keywords, hframed.between_keywords,
      hframed.after_keywords, hw.keywords_clause, hh.keywords_clause, hwhere, hhaving,
      List.append_nil]
  · rw [hsql, hw.sql_clause, hh.sql_clause]
  · rw [hfilter]
    exact runOn_emit_of_subset hs hsteps _ _
  · rw [hhaving]
    exact runOn_emit_of_subset ht hsteps _ _

end Request

/-! ## Top theorem -/

/-- **WHERE and HAVING follow the constraints.**  Operators, conditions and filters leave text
exactly if they constrain something, and join nothing that is empty.  A statement has the
keyword of a clause exactly if the mappings of the clause constrain something, and then the text
of these behind it. -/
theorem keywords_follow_constraints :
    (∀ os : Operators, os.LeavesText) ∧ (∀ c : Conditions, c.LeavesText) ∧
    (∀ f : Filter, f.JoinsTexts) ∧
    ∀ (r : Request) (s : Statement), r.statement? = .ok (some s) →
      ∃ (x : Render Sql) (sql : Sql), r.render? = some x ∧ (x.runOn .empty).1 = .ok sql ∧
        s.text = sql.text ∧ r.Governed sql := by
  refine ⟨Operators.leavesText, Conditions.leavesText, Filter.joinsTexts, fun r s h => ?_⟩
  obtain ⟨hr, d, hd, rfl⟩ := Request.draft?_of_statement? h
  obtain ⟨x, hx, hsql⟩ := Request.exists_render hr hd
  exact ⟨x, d.sql, hx, hsql, rfl, Request.governed hr hd⟩

/-- A bounded update; its base holds an empty list, its alternative nothing. -/
def cappedUpdate : Update :=
  .ofCalls "t" (.single "a" (.integer 1)) [.scope (.limit 2),
    .scope (.andWhere (.single "n" (.operators (.single (.oneOf []))))),
    .scope (.orWhere (.single "m" (.operators .empty)))]

theorem cappedUpdate_keywords :
    (∃ s, cappedUpdate.filter.base.compile = .ok s ∧ s.text ≠ "") ∧
    ∃ sql : Sql, sql.text = "UPDATE \"t\" SET \"a\" = ? WHERE rowid IN " ++
        "(SELECT rowid FROM \"t\" WHERE 1=0 LIMIT 2)" ∧
      cappedUpdate.statement = .ok ⟨sql.text, [.integer 1]⟩ ∧
      sql.keywords = ["WHERE", "WHERE"] := by
  obtain ⟨-, hconditions, -, hstatements⟩ := keywords_follow_constraints
  constructor
  · obtain ⟨s, hs, htext⟩ := (hconditions cappedUpdate.filter.base).compile fun e he => by
      rw [List.mem_singleton.1 he]
      exact ⟨_, rfl⟩
    rw [← Conditions.constrains_eq_false_iff] at htext
    exact ⟨s, hs, fun h => Bool.noConfusion (htext.1 h)⟩
  · have hstatement : cappedUpdate.statement = .ok
        ⟨"UPDATE \"t\" SET \"a\" = ? WHERE rowid IN (SELECT rowid FROM \"t\" WHERE 1=0 LIMIT 2)",
          [.integer 1]⟩ := by decide +kernel
    obtain ⟨x, sql, -, -, htext, hgoverned⟩ := hstatements (.update cappedUpdate) _
      (congrArg (Except.map some) hstatement)
    exact ⟨sql, htext.symm, htext ▸ hstatement, hgoverned.keywords_eq⟩

/-- A selection with a constraint in HAVING. -/
def groupedSelect : Select := .ofCalls "t" [.havingCmp "n" ">" (.integer 1)]

/-- COUNT has no HAVING, also where there is a constraint for it, and a bounded write has a
WHERE, also where no mapping constrains anything. -/
theorem count_without_having :
    (∃ sql : Sql, (groupedSelect.renderCount.runOn .empty).1 = .ok sql ∧
      sql.text = "SELECT COUNT(*) AS \"count\" FROM \"t\"" ∧
      groupedSelect.having.constrains = true ∧ "HAVING" ∉ sql.keywords) ∧
    ∃ sql : Sql, ((Delete.ofCalls "t" [.limit 1]).render.runOn .empty).1 = .ok sql ∧
      sql.text = "DELETE FROM \"t\" WHERE rowid IN (SELECT rowid FROM \"t\" LIMIT 1)" ∧
      Conditions.anyConstrains (Delete.ofCalls "t" [.limit 1]).filter.conditions = false ∧
      "WHERE" ∈ sql.keywords :=
  ⟨⟨_, rfl, by decide +kernel, by decide, by decide⟩, _, rfl, by decide +kernel, by decide,
    by decide⟩

end TypedSql
