import TypedSql.Proofs.Draft

/-!
# Drafts of the builders

Every statement of a builder equals the trace of its steps that ends in its draft:

    q.render = emit q.steps q.draft.sql          (render_eq_emit of Select, Insert, Delete)
    q.renderCount = emit q.countSteps q.countDraft.sql            (Select.renderCount_eq_emit)

Steps and draft hold the same values in the same order, the values of the clauses
from left to right (`values_steps`, `values_draft`).
-/

namespace TypedSql

open Render

/-! ## Order, bounds and scope -/

def SortKey.draft (k : SortKey) : Draft := [.name k.column, .word (" " ++ k.direction.word)]

def orderSteps (keys : List SortKey) : List Step := Step.reads (keys.map SortKey.column)

def orderDraft (keys : List SortKey) : Draft :=
  Draft.clause " ORDER BY " (Draft.join ", " (keys.map SortKey.draft))

theorem renderOrder_eq_emit (keys : List SortKey) :
    renderOrder keys = emit (orderSteps keys) (orderDraft keys).sql := by
  have hkey : ∀ k : SortKey, k.render = emit [.read k.column] k.draft.sql := by
    intro k
    rw [SortKey.render, name_eq_emit, emit_bind_pure]
    rfl
  have hkeys : keys.mapM SortKey.render =
      emit (orderSteps keys) ((keys.map SortKey.draft).map Draft.sql) := by
    rw [mapM_emit keys _ _ _ fun k _ => hkey k, List.map_map]
    congr 1
    rw [orderSteps, Step.reads, List.map_map]
    exact List.map_eq_flatMap.symm
  rw [renderOrder, hkeys, emit_bind_pure, orderDraft, Draft.sql_clause, Draft.sql_join]

theorem values_orderDraft (keys : List SortKey) : (orderDraft keys).values = [] := by
  rw [orderDraft, Draft.values_clause, Draft.values_join, List.flatMap_map]
  exact List.flatMap_eq_nil_iff.2 fun _ _ => rfl

namespace Scope

/-- A write without bounds does not look at its sort keys. -/
def steps (s : Scope) : List Step :=
  s.filter.steps ++ if s.bounds.isNone then [] else orderSteps s.order

/-- The selection of row ids that stands inside a bounded write. -/
def nestedDraft (s : Scope) (table : String) : Draft :=
  [.word "SELECT rowid FROM ", .name table] ++ Draft.clause " WHERE " s.filter.draft ++
    orderDraft s.order ++ Draft.ofSql s.bounds.sql

def draft (s : Scope) (table : String) : Draft :=
  if s.bounds.isNone then Draft.clause " WHERE " s.filter.draft
  else .word " WHERE rowid IN (" :: s.nestedDraft table ++ [.word ")"]

theorem renderRestriction_eq_emit (s : Scope) (table : String) :
    s.renderRestriction (.ofText table) = emit s.steps (s.draft table).sql := by
  rw [renderRestriction, Filter.render_eq_emit, steps]
  refine emit_bind ?_
  cases hb : s.bounds.isNone with
  | true =>
    simp only [if_true, draft, hb, Draft.sql_clause]
    exact pure_eq_emit _
  | false =>
    simp only [Bool.false_eq_true, if_false, draft, hb]
    rw [renderOrder_eq_emit, emit_bind_pure]
    simp [nestedDraft, Draft.sql_clause]

theorem values_steps (s : Scope) : Step.values s.steps = s.filter.values := by
  rw [steps, Step.values_append, Filter.values_steps]
  split
  · exact List.append_nil _
  · rw [orderSteps, Step.values_reads, List.append_nil]

theorem values_draft (s : Scope) (table : String) : (s.draft table).values = s.filter.values := by
  rw [draft]
  split <;> simp [nestedDraft, Filter.values_draft, values_orderDraft]

end Scope

/-! ## Selections -/

namespace Select

/-- The names among the selected columns; an expression has none. -/
def columnSteps (q : Select) : List Step :=
  match q.expression with
  | some _ => []
  | none => Step.reads q.columns

def columnDraft (q : Select) : Draft :=
  match q.expression with
  | some e => [.token (.raw e)]
  | none => if q.columns.isEmpty then [.token (.name .all)] else Draft.names q.columns

def groupDraft (q : Select) : Draft := Draft.clause " GROUP BY " (Draft.names q.groups)

def steps (q : Select) : List Step :=
  q.columnSteps ++ [.read q.table] ++ q.filter.steps ++ Step.reads q.groups ++ q.having.steps ++
    orderSteps q.order

def draft (q : Select) : Draft :=
  .word "SELECT " :: (if q.distinct then [.word "DISTINCT "] else []) ++ q.columnDraft ++
    [.word " FROM ", .name q.table] ++ Draft.clause " WHERE " q.filter.draft ++ q.groupDraft ++
    Draft.clause " HAVING " q.having.draft ++ orderDraft q.order ++ Draft.ofSql q.bounds.sql

def existsDraft (q : Select) : Draft :=
  .word "SELECT EXISTS(" :: q.draft ++ .word ")" :: Draft.ofSql (Sql.named "exists")

def countSteps (q : Select) : List Step := [.read q.table] ++ q.filter.base.steps

def countDraft (q : Select) : Draft :=
  .word "SELECT COUNT(*)" :: Draft.ofSql (Sql.named "count") ++ [.word " FROM ", .name q.table] ++
    Draft.clause " WHERE " q.filter.base.draft

def aggregateSteps (q : Select) (column : String) : List Step :=
  [.read column] ++ [.read q.table] ++ q.filter.base.steps ++ Step.reads q.groups

def aggregateDraft (q : Select) (f : Aggregate) (column : String) : Draft :=
  [.word "SELECT ", .word f.word, .word "(", .name column, .word ")"] ++
    Draft.ofSql (Sql.named "aggregate") ++ [.word " FROM ", .name q.table] ++
    Draft.clause " WHERE " q.filter.base.draft ++ q.groupDraft

theorem renderColumns_eq_emit (q : Select) :
    q.renderColumns = emit q.columnSteps q.columnDraft.sql := by
  rw [renderColumns, columnSteps, columnDraft]
  cases q.expression with
  | some e => exact pure_eq_emit _
  | none =>
    cases hc : q.columns with
    | nil => exact pure_eq_emit _
    | cons c cs => exact names_eq_emit (c :: cs)

theorem renderGroups_eq_emit (q : Select) :
    q.renderGroups = emit (Step.reads q.groups) q.groupDraft.sql := by
  rw [renderGroups, names_eq_emit, emit_bind_pure, groupDraft, Draft.sql_clause]

theorem render_eq_emit (q : Select) : q.render = emit q.steps q.draft.sql := by
  simp only [render, renderColumns_eq_emit, name_eq_emit, Filter.render_eq_emit,
    renderGroups_eq_emit, Conditions.render_eq_emit, renderOrder_eq_emit, steps, List.append_assoc]
  refine emit_bind (emit_bind (emit_bind (emit_bind (emit_bind ?_))))
  rw [emit_bind_pure]
  cases hd : q.distinct <;> simp [draft, hd, Draft.sql_clause]

theorem renderExists_eq_emit (q : Select) :
    q.renderExists = emit q.steps q.existsDraft.sql := by
  rw [renderExists, render_eq_emit, emit_bind_pure]
  simp [existsDraft]

theorem renderCount_eq_emit (q : Select) :
    q.renderCount = emit q.countSteps q.countDraft.sql := by
  rw [renderCount, name_eq_emit, countSteps]
  refine emit_bind ?_
  rw [Filter.renderBase, Conditions.render_eq_emit, emit_bind_pure]
  simp [countDraft, Draft.sql_clause]

theorem renderAggregate_eq_emit (q : Select) (f : Aggregate) (column : String) :
    q.renderAggregate f column =
      emit (q.aggregateSteps column) (q.aggregateDraft f column).sql := by
  simp only [renderAggregate, name_eq_emit, Filter.renderBase, Conditions.render_eq_emit,
    renderGroups_eq_emit, aggregateSteps, List.append_assoc]
  refine emit_bind (emit_bind (emit_bind ?_))
  rw [emit_bind_pure]
  simp [aggregateDraft, Draft.sql_clause]

/-- The values of the filter, then those of HAVING. -/
def values (q : Select) : List Value := q.filter.values ++ q.having.values

theorem values_columnDraft (q : Select) : q.columnDraft.values = [] := by
  rw [columnDraft]
  cases q.expression with
  | some e => rfl
  | none =>
    simp only
    split
    · rfl
    · exact Draft.values_names _

theorem values_groupDraft (q : Select) : q.groupDraft.values = [] := by
  simp [groupDraft]

theorem values_steps (q : Select) : Step.values q.steps = q.values := by
  have hcolumns : Step.values q.columnSteps = [] := by
    rw [columnSteps]
    split
    · rfl
    · exact Step.values_reads _
  simp only [steps, Step.values_append, hcolumns, Step.values_cons_read, Filter.values_steps,
    Step.values_reads, Conditions.values_steps, orderSteps, values]
  simp [Step.values]

theorem values_draft (q : Select) : q.draft.values = q.values := by
  cases hd : q.distinct <;>
    simp [draft, hd, values_columnDraft, values_groupDraft, Filter.values_draft,
      Conditions.values_draft, values_orderDraft, values]

theorem values_existsDraft (q : Select) : q.existsDraft.values = q.values := by
  simp [existsDraft, values_draft]

theorem values_countSteps (q : Select) : Step.values q.countSteps = q.filter.base.values := by
  simp [countSteps, Conditions.values_steps]

theorem values_countDraft (q : Select) : q.countDraft.values = q.filter.base.values := by
  simp [countDraft, Conditions.values_draft]

theorem values_aggregateSteps (q : Select) (column : String) :
    Step.values (q.aggregateSteps column) = q.filter.base.values := by
  simp [aggregateSteps, Conditions.values_steps]

theorem values_aggregateDraft (q : Select) (f : Aggregate) (column : String) :
    (q.aggregateDraft f column).values = q.filter.base.values := by
  simp [aggregateDraft, Conditions.values_draft, values_groupDraft]

end Select

/-! ## Writes -/

namespace Payload

def values (d : Payload) : List Value := d.entries.map Prod.snd

def steps (d : Payload) : List Step := d.entries.flatMap fun e => [.read e.1, .bind e.2]

/-- `column = ?`, for every column. -/
def assignmentDrafts (d : Payload) : List Draft :=
  d.entries.map fun e => [.name e.1, .word " = ", .slot e.2]

theorem values_steps (d : Payload) : Step.values d.steps = d.values := by
  rw [steps, values, Step.values_flatMap, List.map_eq_flatMap]
  rfl

theorem names_steps (p : Payload) : Step.names p.steps = p.columns := by
  rw [steps, Step.names_flatMap, ColumnMap.columns, List.map_eq_flatMap]
  rfl

theorem values_assignmentDrafts (d : Payload) :
    d.assignmentDrafts.flatMap Draft.values = d.values := by
  rw [assignmentDrafts, values, List.flatMap_map]
  exact List.map_eq_flatMap.symm

end Payload

namespace Insert

def steps (q : Insert) : List Step := [.read q.table] ++ q.payload.steps

def draft (q : Insert) : Draft :=
  if q.payload.isEmpty then [.word q.conflict.keyword, .name q.table, .word " DEFAULT VALUES"]
  else [.word q.conflict.keyword, .name q.table, .word " ("] ++ Draft.names q.payload.columns ++
    [.word ") VALUES ("] ++ Draft.slots q.payload.values ++ [.word ")"]

def preconditionSteps (q : Insert) (c : Conditions) : List Step := [.read q.table] ++ c.steps

def preconditionDraft (q : Insert) (c : Conditions) : Draft :=
  [.word "SELECT EXISTS(", .word "SELECT 1 FROM ", .name q.table] ++
    Draft.clause " WHERE " c.draft ++ .word ")" :: Draft.ofSql (Sql.named "exists")

theorem renderCell_eq_emit (column : String) (v : Value) :
    renderCell column v = emit [.read column, .bind v] (.ofText column, .slot) := by
  rw [renderCell, name_eq_emit]
  refine emit_bind (t := [.bind v]) ?_
  rw [slot_eq_emit, emit_bind_pure]

theorem render_eq_emit (q : Insert) : q.render = emit q.steps q.draft.sql := by
  rw [render, name_eq_emit, steps]
  refine emit_bind ?_
  cases he : q.payload.isEmpty with
  | true =>
    have hsteps : q.payload.steps = [] := by
      rw [Payload.steps, List.isEmpty_iff.1 he]
      rfl
    rw [hsteps, draft, he]
    exact pure_eq_emit _
  | false =>
    simp only [Bool.false_eq_true, if_false, draft, he]
    rw [mapM_emit q.payload.entries _ _ _ fun e _ => renderCell_eq_emit e.1 e.2, emit_bind_pure]
    simp only [List.map_map, Draft.sql_append, Draft.sql_names, Draft.sql_slots, ColumnMap.columns,
      Payload.values]
    rfl

theorem renderPrecondition_eq_emit (q : Insert) (c : Conditions) :
    q.renderPrecondition c = emit (q.preconditionSteps c) (q.preconditionDraft c).sql := by
  rw [renderPrecondition, name_eq_emit, preconditionSteps]
  refine emit_bind ?_
  rw [Conditions.render_eq_emit, emit_bind_pure]
  simp [preconditionDraft, Draft.sql_clause]

theorem values_steps (q : Insert) : Step.values q.steps = q.payload.values := by
  simp [steps, Payload.values_steps]

theorem values_draft (q : Insert) : q.draft.values = q.payload.values := by
  rw [draft]
  split
  · next he =>
    rw [Payload.values, List.isEmpty_iff.1 he]
    rfl
  · simp

theorem values_preconditionSteps (q : Insert) (c : Conditions) :
    Step.values (q.preconditionSteps c) = c.values := by
  simp [preconditionSteps, Conditions.values_steps]

theorem values_preconditionDraft (q : Insert) (c : Conditions) :
    (q.preconditionDraft c).values = c.values := by
  simp [preconditionDraft, Conditions.values_draft]

end Insert

namespace Update

def steps (q : Update) : List Step := [.read q.table] ++ q.payload.steps ++ q.toScope.steps

def draft (q : Update) : Draft :=
  [.word "UPDATE ", .name q.table, .word " SET "] ++ Draft.join ", " q.payload.assignmentDrafts ++
    q.toScope.draft q.table

/-- The values to set, then those of the filter. -/
def values (q : Update) : List Value := q.payload.values ++ q.filter.values

theorem renderAssignment_eq_emit (column : String) (v : Value) :
    renderAssignment column v =
      emit [.read column, .bind v] (Draft.sql [.name column, .word " = ", .slot v]) := by
  rw [renderAssignment, name_eq_emit]
  refine emit_bind (t := [.bind v]) ?_
  rw [slot_eq_emit, emit_bind_pure]
  rfl

theorem render_eq_emit (q : Update) (h : q.payload.isEmpty = false) :
    q.render = emit q.steps q.draft.sql := by
  have hassign : (q.payload.entries.mapM fun e => renderAssignment e.1 e.2) =
      emit q.payload.steps (q.payload.assignmentDrafts.map Draft.sql) := by
    rw [mapM_emit q.payload.entries _ _ _ fun e _ => renderAssignment_eq_emit e.1 e.2,
      Payload.assignmentDrafts, List.map_map]
    rfl
  simp only [render, h, Bool.false_eq_true, if_false, name_eq_emit, hassign, steps,
    List.append_assoc]
  refine emit_bind (emit_bind ?_)
  rw [Scope.renderRestriction_eq_emit, emit_bind_pure]
  simp [draft, Draft.sql_join]

theorem render_of_isEmpty (q : Update) (h : q.payload.isEmpty = true) :
    q.render = throw (.nothingToSet q.table) := by
  simp only [render, h, if_true]
  rfl

theorem values_steps (q : Update) : Step.values q.steps = q.values := by
  simp [steps, Payload.values_steps, Scope.values_steps, values]

theorem values_draft (q : Update) : q.draft.values = q.values := by
  simp [draft, Payload.values_assignmentDrafts, Scope.values_draft, values]

end Update

namespace Delete

def steps (q : Delete) : List Step := [.read q.table] ++ q.toScope.steps

def draft (q : Delete) : Draft := [.word "DELETE FROM ", .name q.table] ++ q.toScope.draft q.table

theorem render_eq_emit (q : Delete) : q.render = emit q.steps q.draft.sql := by
  rw [render, name_eq_emit, steps]
  refine emit_bind ?_
  rw [Scope.renderRestriction_eq_emit, emit_bind_pure]
  simp [draft]

theorem values_steps (q : Delete) : Step.values q.steps = q.filter.values := by
  simp [steps, Scope.values_steps]

theorem values_draft (q : Delete) : q.draft.values = q.filter.values := by
  simp [draft, Scope.values_draft]

end Delete

end TypedSql
