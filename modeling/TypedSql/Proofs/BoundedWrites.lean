import TypedSql.Proofs.KeyStatements

/-!
# Writes and the selections that they match

A write with bounds takes its rows from a nested selection of row ids, a write without them has
the filter of a selection behind it:

    bounded      DELETE FROM table WHERE rowid IN (S)
                 UPDATE table SET column = ?, … WHERE rowid IN (S)     S = SELECT rowid FROM table …
    unbounded    DELETE FROM table W
                 UPDATE table SET column = ?, … W                      SELECT * FROM table W

`S` is the statement of `Scope.rowIds` and `W` ends that of `Filter.rows`.  A write binds the
values to set and then theirs, and fails by the fault of theirs (`writes_match_selections`).
-/

namespace TypedSql

open Render

/-! ## Selections -/

/-- The selection of the row ids of a scope. -/
def Scope.rowIds (s : Scope) (table : String) : Select :=
  { (Select.new table).apply (.selectRaw "rowid") with toScope := s }

/-- The selection of all rows that pass a filter. -/
def Filter.rows (f : Filter) (table : String) : Select :=
  { Select.new table with filter := f }

/-- The statement with text around it, and with values that are bound before its own. -/
def Statement.within (head : String) (values : List Value) (tail : String) (s : Statement) :
    Statement :=
  ⟨head ++ s.text ++ tail, values ++ s.params⟩

/-- The payload sets something, and its columns are names. -/
structure Payload.Settable (p : Payload) : Prop where
  nonempty : p.isEmpty = false
  accepted : ∀ column ∈ p.columns, Name.Accepted column

/-! ## Lemmas -/

theorem Bounds.isNone_iff {b : Bounds} : b.isNone = true ↔ b = .none := by
  obtain ⟨limit, offset⟩ := b
  cases limit <;> cases offset <;> simp [isNone, none]

theorem Step.firstFault?_append (steps steps' : List Step) :
    firstFault? (steps ++ steps') = (firstFault? steps).or (firstFault? steps') :=
  List.findSome?_append

theorem Payload.Settable.firstFault?_steps {p : Payload} (h : p.Settable) :
    Step.firstFault? p.steps = none :=
  Step.firstFault?_eq_none_iff.2 fun text htext =>
    h.accepted text ((p.read_mem_steps_iff text).1 htext)

/-- A draft in the middle of another. -/
theorem Draft.statement_within (before d after : Draft) (hafter : after.values = []) :
    (before ++ d ++ after).statement =
      .within before.sql.text before.values after.sql.text d.statement := by
  rw [statement, Statement.within, sql_append, sql_append, Sql.text_append, Sql.text_append,
    values_append, values_append, hafter, List.append_nil]
  rfl

/-- Traces with one first fault fail alike, and otherwise give what their drafts give. -/
theorem Render.statement_eq_map {r r' : Render Sql} {steps steps' : List Step} {d d' : Draft}
    {f : Statement → Statement}
    (h : r = emit steps d.sql) (hvalues : Step.values steps = d.values)
    (h' : r' = emit steps' d'.sql) (hvalues' : Step.values steps' = d'.values)
    (hfault : Step.firstFault? steps = Step.firstFault? steps')
    (hdraft : d.statement = f d'.statement) :
    r.statement = r'.statement.map f := by
  rw [Request.statement_of_eq_emit h hvalues, Request.statement_of_eq_emit h' hvalues', hfault]
  cases Step.firstFault? steps' with
  | none => exact congrArg Except.ok hdraft
  | some fault => rfl

/-! ## Restricted statements -/

namespace Scope

variable (s : Scope) (table : String)

theorem steps_rowIds :
    (s.rowIds table).steps = [.read table] ++ s.filter.steps ++ orderSteps s.order := by
  show [] ++ [.read table] ++ s.filter.steps ++ [] ++ [] ++ orderSteps s.order = _
  simp

/-- The nested selection of a write reads like the selection of the row ids. -/
theorem statement_nestedDraft :
    (s.nestedDraft table).statement = (s.rowIds table).draft.statement := by
  have hdraft : (s.rowIds table).draft =
      [.word "SELECT ", .token (.raw "rowid"), .word " FROM ", .name table] ++
        Draft.clause " WHERE " s.filter.draft ++ [] ++ [] ++ orderDraft s.order ++
        Draft.ofSql s.bounds.sql := rfl
  have hhead :
      (Draft.sql [.word "SELECT ", .token (.raw "rowid"), .word " FROM ", .name table]).text =
        (Draft.sql [.word "SELECT rowid FROM ", .name table]).text := rfl
  rw [hdraft, nestedDraft, List.append_nil, List.append_nil, Draft.statement, Draft.statement]
  simp only [Draft.sql_append, Sql.text_append, hhead, Draft.values_append]
  rfl

/-- The WHERE suffix of a statement on a table, or the fault of the table or the filter. -/
def suffix : Except RenderFault Statement :=
  (emit ([.read table] ++ s.filter.steps) (Draft.clause " WHERE " s.filter.draft).sql).statement

/-- A statement reads its table, does some things that cannot fail and then restricts itself. -/
structure Restricted (r : Render Sql) (pre : List Step) (before : Draft) : Prop where
  eq_emit : r = emit ([.read table] ++ pre ++ s.steps) (before ++ s.draft table).sql
  values_eq : Step.values pre = before.values
  faultless : Step.firstFault? pre = none

namespace Restricted

variable {s table} {r : Render Sql} {pre : List Step} {before : Draft}

theorem firstFault?_steps (h : s.Restricted table r pre before) :
    Step.firstFault? ([.read table] ++ pre ++ s.steps) =
      Step.firstFault? ([.read table] ++ s.steps) := by
  rw [Step.firstFault?_append, Step.firstFault?_append, Step.firstFault?_append, h.faultless,
    Option.or_none]

theorem values_steps (h : s.Restricted table r pre before) :
    Step.values ([.read table] ++ pre ++ s.steps) = (before ++ s.draft table).values := by
  rw [Step.values_append, Step.values_append, h.values_eq, Scope.values_steps,
    Draft.values_append, Scope.values_draft]
  rfl

/-- With bounds the rows are those of the selection of row ids. -/
theorem statement_of_bounded (h : s.Restricted table r pre before) (hb : s.bounds ≠ .none) :
    r.statement = (s.rowIds table).statement.map
      (.within (before.sql.text ++ " WHERE rowid IN (") before.values ")") := by
  have hbounds : s.bounds.isNone = false := by
    rw [← Bool.not_eq_true, Bounds.isNone_iff]
    exact hb
  have hsteps : s.steps = s.filter.steps ++ orderSteps s.order := by
    rw [steps, hbounds]
    rfl
  have hdraft : before ++ s.draft table =
      before ++ [.word " WHERE rowid IN ("] ++ s.nestedDraft table ++ [.word ")"] := by
    rw [draft, hbounds]
    simp
  have hopen : (before ++ [Piece.word " WHERE rowid IN ("]).sql.text =
      before.sql.text ++ " WHERE rowid IN (" := by
    rw [Draft.sql_append, Sql.text_append]
    rfl
  have hvalues : (before ++ [Piece.word " WHERE rowid IN ("]).values = before.values := by
    rw [Draft.values_append]
    exact List.append_nil _
  refine Render.statement_eq_map h.eq_emit h.values_steps (s.rowIds table).render_eq_emit
    ((s.rowIds table).values_steps.trans (s.rowIds table).values_draft.symm) ?_ ?_
  · rw [h.firstFault?_steps, hsteps, s.steps_rowIds, List.append_assoc]
  · rw [hdraft, Draft.statement_within _ _ _ rfl, s.statement_nestedDraft, hopen, hvalues]
    rfl

/-- Without bounds the filter alone is behind the statement. -/
theorem statement_of_unbounded (h : s.Restricted table r pre before) (hb : s.bounds = .none) :
    r.statement = (s.suffix table).map (.within before.sql.text before.values "") := by
  have hsteps : s.steps = s.filter.steps := by
    rw [steps, hb]
    exact List.append_nil _
  have hdraft : before ++ s.draft table =
      before ++ Draft.clause " WHERE " s.filter.draft ++ [] := by
    rw [draft, hb, List.append_nil]
    rfl
  refine Render.statement_eq_map h.eq_emit h.values_steps rfl ?_ ?_ ?_
  · simp [Filter.values_steps, Filter.values_draft]
  · rw [h.firstFault?_steps, hsteps]
  · rw [hdraft, Draft.statement_within _ _ _ rfl]
    rfl

end Restricted

/-- Without bounds the sort keys are not looked at. -/
theorem renderRestriction_order (hb : s.bounds = .none) (keys : List SortKey) (name : Token) :
    ({ s with order := keys } : Scope).renderRestriction name = s.renderRestriction name := by
  rw [renderRestriction, renderRestriction, hb]
  rfl

/-- A selection of all rows with a filter is restricted by the filter alone. -/
theorem restricted_rows :
    ({ all with filter := s.filter } : Scope).Restricted table (s.filter.rows table).render []
      [.word "SELECT ", .token (.name .all), .word " FROM ", .name table] where
  eq_emit := by
    have hsteps : (s.filter.rows table).steps =
        [.read table] ++ [] ++ ({ all with filter := s.filter } : Scope).steps := by
      show [] ++ [.read table] ++ s.filter.steps ++ [] ++ [] ++ [] =
        [.read table] ++ [] ++ (s.filter.steps ++ [])
      simp
    have hdraft : (s.filter.rows table).draft =
        [.word "SELECT ", .token (.name .all), .word " FROM ", .name table] ++
          ({ all with filter := s.filter } : Scope).draft table := by
      show [.word "SELECT ", .token (.name .all), .word " FROM ", .name table] ++
          Draft.clause " WHERE " s.filter.draft ++ [] ++ [] ++ [] ++ [] =
        [.word "SELECT ", .token (.name .all), .word " FROM ", .name table] ++
          Draft.clause " WHERE " s.filter.draft
      simp
    rw [Select.render_eq_emit, hsteps, hdraft]
  values_eq := rfl
  faultless := rfl

theorem restricted_delete :
    s.Restricted table ({ s with table } : Delete).render []
      [.word "DELETE FROM ", .name table] where
  eq_emit := Delete.render_eq_emit _
  values_eq := rfl
  faultless := rfl

theorem restricted_update {p : Payload} (hp : p.Settable) :
    s.Restricted table ({ s with table, payload := p } : Update).render p.steps
      (p.headDraft table) where
  eq_emit := Update.render_eq_emit _ hp.nonempty
  values_eq := p.values_steps.trans (p.values_headDraft table).symm
  faultless := hp.firstFault?_steps

end Scope

theorem Delete.render_order (q : Delete) (hb : q.bounds = .none) (keys : List SortKey) :
    ({ q with order := keys } : Delete).render = q.render := by
  have hrestriction : ({ q.toScope with order := keys } : Scope).renderRestriction =
      q.toScope.renderRestriction := funext (q.toScope.renderRestriction_order hb keys)
  rw [render, hrestriction]
  rfl

theorem Update.render_order (q : Update) (hb : q.bounds = .none) (keys : List SortKey) :
    ({ q with order := keys } : Update).render = q.render := by
  have hrestriction : ({ q.toScope with order := keys } : Scope).renderRestriction =
      q.toScope.renderRestriction := funext (q.toScope.renderRestriction_order hb keys)
  rw [render, hrestriction]
  rfl

/-- An update that renders sets something, and to columns that are names. -/
theorem Update.settable_of_statement {q : Update} {stmt : Statement}
    (h : q.statement = .ok stmt) : q.payload.Settable := by
  have hrequest : (Request.update q).statement? = .ok (some stmt) := by
    rw [Request.statement?, h]
    rfl
  obtain ⟨hfault, -⟩ := Request.draft?_of_statement? hrequest
  obtain ⟨hsteps, hsets⟩ := (Request.fault?_eq_none_iff _).1 hfault
  refine ⟨hsets q rfl, fun column hcolumn => Step.firstFault?_eq_none_iff.1 hsteps column ?_⟩
  show Step.read column ∈ [.read q.table] ++ q.payload.steps ++ q.toScope.steps
  simp [q.payload.read_mem_steps_iff, hcolumn]

/-! ## Top theorem -/

/-- **Writes match selections.**  With a bound, a deletion and an update take the rows that the
selection of row ids by the same filter, order and bounds gives: they have its text in
parentheses, bind its values behind the values to set, and fail exactly if it does, by the same
fault.  Without bounds the sort keys are not looked at, and what stands behind the table or the
assignments is what stands behind the table in a selection by the filter alone.  For an update
this is said of a payload that can be set; with another one no update renders. -/
theorem writes_match_selections (s : Scope) (table : String) (p : Payload) :
    let delete : Delete := { s with table }
    let update : Update := { s with table, payload := p }
    let deleting := "DELETE FROM " ++ Name.written table
    let setting := "UPDATE " ++ Name.written table ++ " SET " ++ p.assignments
    (s.bounds ≠ .none →
      delete.statement = (s.rowIds table).statement.map
        (.within (deleting ++ " WHERE rowid IN (") [] ")") ∧
      (p.Settable → update.statement = (s.rowIds table).statement.map
        (.within (setting ++ " WHERE rowid IN (") p.values ")"))) ∧
    (s.bounds = .none →
      (∀ keys, ({ delete with order := keys } : Delete).statement = delete.statement ∧
        ({ update with order := keys } : Update).statement = update.statement) ∧
      ∃ suffix : Except RenderFault Statement,
        (s.filter.rows table).statement =
          suffix.map (.within ("SELECT * FROM " ++ Name.written table) [] "") ∧
        delete.statement = suffix.map (.within deleting [] "") ∧
        (p.Settable → update.statement = suffix.map (.within setting p.values ""))) ∧
    ∀ stmt, update.statement = .ok stmt → p.Settable := by
  intro delete update deleting setting
  have hdelete := s.restricted_delete table
  have hdeleting : (Draft.sql [.word "DELETE FROM ", .name table]).text = deleting :=
    Draft.text_named table [.word "DELETE FROM "] rfl
  refine ⟨fun hb => ⟨?_, fun hp => ?_⟩, fun hb => ⟨fun keys => ?_, s.suffix table, ?_, ?_,
    fun hp => ?_⟩, fun stmt hstmt => Update.settable_of_statement hstmt⟩
  · rw [← hdeleting]
    exact hdelete.statement_of_bounded hb
  · have hupdate := (s.restricted_update table hp).statement_of_bounded hb
    rw [p.text_headDraft, p.values_headDraft] at hupdate
    exact hupdate
  · exact ⟨congrArg Render.statement (delete.render_order hb keys),
      congrArg Render.statement (update.render_order hb keys)⟩
  · have hrows := (s.restricted_rows table).statement_of_unbounded rfl
    have hhead : (Draft.sql [.word "SELECT ", .token (.name .all), .word " FROM ",
        .name table]).text = "SELECT * FROM " ++ Name.written table :=
      Draft.text_named table [.word "SELECT ", .token (.name .all), .word " FROM "] rfl
    rw [hhead] at hrows
    exact hrows
  · rw [← hdeleting]
    exact hdelete.statement_of_unbounded hb
  · have hupdate := (s.restricted_update table hp).statement_of_unbounded hb
    rw [p.text_headDraft, p.values_headDraft] at hupdate
    exact hupdate

/-- A scope with an alternative and an offset alone, and the same without bounds. -/
theorem writes_match_selections_offset :
    let s : Scope := ⟨⟨.single "a" (.scalar (.integer 1)), [.single "b" (.scalar .null)]⟩,
      [⟨"c", .descending⟩], ⟨none, some 3⟩⟩
    let unbounded : Scope := { s with bounds := .none }
    let p : Payload := .single "d" (.integer 4)
    let rowIds : Statement := ⟨"SELECT rowid FROM \"t\" WHERE (\"a\" = ?) OR (\"b\" = ?) " ++
      "ORDER BY \"c\" DESC LIMIT -1 OFFSET 3", [.integer 1, .null]⟩
    (s.rowIds "t").statement = .ok rowIds ∧
    ({ s with table := "t" } : Delete).statement =
      .ok ⟨"DELETE FROM \"t\" WHERE rowid IN (" ++ rowIds.text ++ ")", [.integer 1, .null]⟩ ∧
    ({ s with table := "t", payload := p } : Update).statement =
      .ok ⟨"UPDATE \"t\" SET \"d\" = ? WHERE rowid IN (" ++ rowIds.text ++ ")",
        [.integer 4, .integer 1, .null]⟩ ∧
    ({ unbounded with table := "t", order := [⟨"", .ascending⟩] } : Delete).statement =
      ({ unbounded with table := "t" } : Delete).statement := by
  intro s unbounded p rowIds
  have hp : p.Settable := ⟨rfl, List.forall_mem_singleton.2 ⟨.ident (.single "d"), by decide⟩⟩
  obtain ⟨hbounded, -, -⟩ := writes_match_selections s "t" p
  obtain ⟨hdelete, hupdate⟩ := hbounded (by decide)
  have hrowIds : (s.rowIds "t").statement = .ok rowIds := by decide +kernel
  rw [hrowIds] at hdelete
  have hupdate := hupdate hp
  rw [hrowIds] at hupdate
  refine ⟨hrowIds, hdelete.trans ?_, hupdate.trans ?_, ?_⟩
  · exact congrArg Except.ok (by decide +kernel)
  · exact congrArg Except.ok (by decide +kernel)
  · exact (((writes_match_selections unbounded "t" p).2.1 rfl).1 _).1

end TypedSql
