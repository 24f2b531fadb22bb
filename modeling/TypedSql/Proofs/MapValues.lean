import TypedSql.Proofs.Request

/-!
# Other values in the same places

`mapValues f` puts `f v` in the place of every value `v` that a builder binds, and
leaves its names, its operators, its bounds and the shape of its filter alone.  What
a request asks for changes with it, in its parameters only:

    (r.mapValues f).statement? = r.statement?.map (Option.map (Statement.mapValues f))
                                                             (Request.statement?_mapValues)

On the way every step and every piece of a draft keeps its place (`steps_mapValues`,
`draft_mapValues`).
-/

namespace TypedSql

variable (f : Value → Value)

/-! ## Steps and drafts -/

def Step.mapValue : Step → Step
  | read text => read text
  | bind v => bind (f v)

def Piece.mapValue : Piece → Piece
  | slot v => slot (f v)
  | piece => piece

def Draft.mapValues (d : Draft) : Draft := d.map (Piece.mapValue f)

namespace Step

@[simp] theorem map_reads (texts : List String) : (reads texts).map (mapValue f) = reads texts := by
  rw [reads, List.map_map]
  rfl

theorem map_binds (vs : List Value) : (binds vs).map (mapValue f) = binds (vs.map f) := by
  rw [binds, binds, List.map_map, List.map_map]
  rfl

/-- No step fails on account of a value. -/
theorem firstFault?_map (steps : List Step) :
    firstFault? (steps.map (mapValue f)) = firstFault? steps := by
  rw [firstFault?, firstFault?, List.findSome?_map]
  congr 1
  funext step
  cases step <;> rfl

end Step

namespace Draft

@[simp] theorem mapValue_word (s : String) : (Piece.word s).mapValue f = .word s := rfl

@[simp] theorem mapValue_name (text : String) : (Piece.name text).mapValue f = .name text := rfl

@[simp] theorem mapValues_nil : mapValues f [] = [] := rfl

@[simp] theorem mapValues_append (a b : Draft) :
    (a ++ b).mapValues f = a.mapValues f ++ b.mapValues f := List.map_append

@[simp] theorem mapValues_cons (piece : Piece) (d : Draft) :
    mapValues f (piece :: d) = piece.mapValue f :: d.mapValues f := rfl

@[simp] theorem mapValues_ofSql (s : Sql) : (ofSql s).mapValues f = ofSql s := by
  rw [mapValues, ofSql, List.map_map]
  rfl

theorem mapValues_join (separator : String) (drafts : List Draft) :
    (join separator drafts).mapValues f = join separator (drafts.map (mapValues f)) := by
  induction drafts with
  | nil => rfl
  | cons d drafts ih =>
    cases drafts with
    | nil => simp [join]
    | cons e drafts =>
      simp only [join, List.map_cons, List.intercalate_cons_cons, mapValues_append] at ih ⊢
      rw [ih]
      rfl

@[simp] theorem mapValues_clause (keyword : String) (d : Draft) :
    (clause keyword d).mapValues f = clause keyword (d.mapValues f) := by
  cases d <;> rfl

@[simp] theorem mapValues_slots (vs : List Value) : (slots vs).mapValues f = slots (vs.map f) := by
  rw [slots, slots, mapValues_join, List.map_map, List.map_map]
  rfl

@[simp] theorem mapValues_names (texts : List String) :
    (names texts).mapValues f = names texts := by
  rw [names, mapValues_join, List.map_map]
  rfl

theorem mapValues_parenthesised (d : Draft) :
    (parenthesised d).mapValues f = parenthesised (d.mapValues f) := by
  rw [parenthesised, parenthesised, mapValues_append, mapValues_cons]
  rfl

theorem mapValues_disjunction (ds : List Draft) :
    (disjunction ds).mapValues f = disjunction (ds.map (mapValues f)) := by
  match ds with
  | [] => rfl
  | [d] => rfl
  | d :: e :: ds =>
    show (join " OR " ((d :: e :: ds).map parenthesised)).mapValues f =
      join " OR " (((d :: e :: ds).map (mapValues f)).map parenthesised)
    rw [mapValues_join, List.map_map, List.map_map]
    congr 1
    exact List.map_congr_left fun d _ => mapValues_parenthesised f d

/-- The text does not change with the values. -/
theorem sql_mapValues (d : Draft) : (d.mapValues f).sql = d.sql := by
  rw [sql, mapValues, List.map_map]
  refine List.map_congr_left fun piece _ => ?_
  cases piece <;> rfl

theorem values_mapValues (d : Draft) : (d.mapValues f).values = d.values.map f := by
  rw [values, mapValues, List.filterMap_map, values, List.map_filterMap]
  congr 1
  funext piece
  cases piece <;> rfl

end Draft

/-! ## Conditions and filters -/

namespace Op

def mapValues : Op → Op
  | eq v => eq (f v)
  | ne v => ne (f v)
  | gt v => gt (f v)
  | gte v => gte (f v)
  | lt v => lt (f v)
  | lte v => lte (f v)
  | like v => like (f v)
  | notLike v => notLike (f v)
  | oneOf vs => oneOf (vs.map f)
  | noneOf vs => noneOf (vs.map f)
  | between low high => between (f low) (f high)
  | isNull b => isNull b

theorem slot_mapValues (op : Op) : (op.mapValues f).slot = op.slot := by
  cases op <;> rfl

theorem operands_mapValues (op : Op) : (op.mapValues f).operands = op.operands.map f := by
  cases op <;> rfl

theorem ofSymbol_mapValues (symbol : String) (v : Value) :
    (ofSymbol symbol v).mapValues f = ofSymbol symbol (f v) := by
  unfold ofSymbol
  split <;> rfl

theorem draft_mapValues (column : String) (op : Op) :
    (op.mapValues f).draft column = (op.draft column).mapValues f := by
  cases op with
  | oneOf vs | noneOf vs =>
    cases vs with
    | nil => rfl
    | cons v vs =>
      have hslots := Draft.mapValues_slots f (v :: vs)
      simp only [mapValues, draft, membershipDraft, List.map_cons, List.isEmpty_cons,
        Bool.false_eq_true, if_false, Draft.mapValues_append] at hslots ⊢
      rw [hslots]
      rfl
  | isNull b => cases b <;> rfl
  | _ => rfl

end Op

def Operators.mapValues (os : Operators) : Operators where
  toList := os.toList.map (Op.mapValues f)
  sorted := by
    refine List.pairwise_map.2 (os.sorted.imp fun h => ?_)
    rw [Op.slot_mapValues, Op.slot_mapValues]
    exact h

namespace Constraint

def mapValues : Constraint → Constraint
  | scalar v => scalar (f v)
  | operators os => operators (os.mapValues f)

theorem ops_mapValues (k : Constraint) : (k.mapValues f).ops = k.ops.map (Op.mapValues f) := by
  cases k <;> rfl

theorem values_mapValues (k : Constraint) : (k.mapValues f).values = k.values.map f := by
  rw [values, ops_mapValues, List.flatMap_map, values, List.map_flatMap]
  exact List.flatMap_congr fun op _ => Op.operands_mapValues f op

theorem compare_mapValues (symbol : String) (v : Value) :
    (compare symbol v).mapValues f = compare symbol (f v) := by
  show operators ((Operators.single (.ofSymbol symbol v)).mapValues f) =
    operators (.single (.ofSymbol symbol (f v)))
  rw [← Op.ofSymbol_mapValues]
  rfl

end Constraint

namespace ColumnMap

variable {α : Type} (g : α → α)

def map (m : ColumnMap α) : ColumnMap α where
  entries := m.entries.map fun e => (e.1, g e.2)
  nodup := by
    rw [List.map_map]
    exact m.nodup

theorem columns_map (m : ColumnMap α) : (m.map g).columns = m.columns := by
  rw [columns, map, List.map_map]
  rfl

theorem isEmpty_map (m : ColumnMap α) : (m.map g).isEmpty = m.isEmpty := List.isEmpty_map

/-- A value is replaced in place or appended, whatever the values are. -/
theorem insert_map (m : ColumnMap α) (column : String) (v : α) :
    (m.insert column v).map g = (m.map g).insert column (g v) := by
  apply ext
  show (setEntry column v m.entries).map _ = setEntry column (g v) (m.entries.map _)
  induction m.entries with
  | nil => rfl
  | cons e rest ih =>
    simp only [setEntry, List.map_cons]
    split
    · rfl
    · rw [List.map_cons, ih]

theorem merge_map (m n : ColumnMap α) : (m.merge n).map g = (m.map g).merge (n.map g) := by
  show (m.insertMany n.entries).map g = (m.map g).insertMany (n.entries.map _)
  induction n.entries generalizing m with
  | nil => rfl
  | cons e rest ih =>
    show ((m.insert e.1 e.2).insertMany rest).map g = _
    rw [ih, insert_map]
    rfl

end ColumnMap

namespace Conditions

def mapValues (c : Conditions) : Conditions := c.map (Constraint.mapValues f)

theorem steps_mapValues (c : Conditions) :
    (c.mapValues f).steps = c.steps.map (Step.mapValue f) := by
  rw [steps, steps, mapValues, ColumnMap.map, List.flatMap_map, List.map_flatMap]
  refine List.flatMap_congr fun e _ => ?_
  rw [Constraint.values_mapValues, List.map_cons, Step.map_binds]
  rfl

theorem draft_mapValues (c : Conditions) : (c.mapValues f).draft = c.draft.mapValues f := by
  rw [draft, draft, Draft.mapValues_join, atomDrafts, atomDrafts, mapValues, ColumnMap.map,
    List.flatMap_map, List.map_flatMap]
  congr 1
  refine List.flatMap_congr fun e _ => ?_
  rw [Constraint.ops_mapValues, List.map_map, List.map_map]
  exact List.map_congr_left fun op _ => Op.draft_mapValues f e.1 op

end Conditions

namespace Filter

def mapValues (w : Filter) : Filter :=
  ⟨w.base.mapValues f, w.alternatives.map (Conditions.mapValues f)⟩

theorem steps_mapValues (w : Filter) :
    (w.mapValues f).steps = w.steps.map (Step.mapValue f) := by
  show (w.conditions.map (Conditions.mapValues f)).flatMap Conditions.steps = _
  rw [steps, List.flatMap_map, List.map_flatMap]
  exact List.flatMap_congr fun c _ => c.steps_mapValues f

theorem draft_mapValues (w : Filter) : (w.mapValues f).draft = w.draft.mapValues f := by
  have hdrafts : (w.mapValues f).conditions.map Conditions.draft =
      (w.conditions.map Conditions.draft).map (Draft.mapValues f) := by
    show (w.conditions.map (Conditions.mapValues f)).map Conditions.draft = _
    rw [List.map_map, List.map_map]
    exact List.map_congr_left fun c _ => c.draft_mapValues f
  have hempty : ∀ d : Draft, (d.mapValues f).isEmpty = d.isEmpty := fun d => List.isEmpty_map
  have hfragments : (w.mapValues f).fragments = w.fragments.map (Draft.mapValues f) := by
    rw [fragments, hdrafts, List.filter_map]
    simp only [Function.comp_def, hempty]
    rfl
  rw [draft, hfragments, draft, Draft.mapValues_disjunction]

end Filter

/-! ## Builders -/

@[simp] theorem mapValues_orderDraft (keys : List SortKey) :
    (orderDraft keys).mapValues f = orderDraft keys := by
  rw [orderDraft, Draft.mapValues_clause, Draft.mapValues_join, List.map_map]
  rfl

namespace Scope

def mapValues (s : Scope) : Scope := { s with filter := s.filter.mapValues f }

theorem steps_mapValues (s : Scope) :
    (s.mapValues f).steps = s.steps.map (Step.mapValue f) := by
  rw [steps, steps, List.map_append]
  show (s.filter.mapValues f).steps ++ (if s.bounds.isNone then [] else orderSteps s.order) = _
  rw [Filter.steps_mapValues]
  split
  · rfl
  · rw [orderSteps, Step.map_reads]

theorem draft_mapValues (s : Scope) (table : String) :
    (s.mapValues f).draft table = (s.draft table).mapValues f := by
  rw [draft, draft]
  show (if s.bounds.isNone then _ else _) = _
  split
  · rw [Draft.mapValues_clause, ← Filter.draft_mapValues]
    rfl
  · simp only [nestedDraft, Draft.mapValues_append, Draft.mapValues_cons, Draft.mapValues_clause,
      mapValues_orderDraft, Draft.mapValues_ofSql, ← Filter.draft_mapValues]
    rfl

end Scope

namespace Select

def mapValues (q : Select) : Select :=
  { q with toScope := q.toScope.mapValues f, having := q.having.mapValues f }

theorem steps_mapValues (q : Select) :
    (q.mapValues f).steps = q.steps.map (Step.mapValue f) := by
  have hcolumns : q.columnSteps.map (Step.mapValue f) = q.columnSteps := by
    rw [columnSteps]
    split
    · rfl
    · exact Step.map_reads f _
  simp only [steps, List.map_append, hcolumns, Step.map_reads, orderSteps,
    ← Filter.steps_mapValues, ← Conditions.steps_mapValues]
  rfl

theorem mapValues_groupDraft (q : Select) : q.groupDraft.mapValues f = q.groupDraft := by
  rw [groupDraft, Draft.mapValues_clause, Draft.mapValues_names]

theorem draft_mapValues (q : Select) : (q.mapValues f).draft = q.draft.mapValues f := by
  have hcolumns : q.columnDraft.mapValues f = q.columnDraft := by
    rw [columnDraft]
    split
    · rfl
    · split
      · rfl
      · exact Draft.mapValues_names f _
  have hdistinct : Draft.mapValues f (if q.distinct then [.word "DISTINCT "] else []) =
      if q.distinct then [.word "DISTINCT "] else [] := by
    split <;> rfl
  simp only [draft, Draft.mapValues_append, Draft.mapValues_cons, Draft.mapValues_clause,
    hcolumns, mapValues_groupDraft, hdistinct, mapValues_orderDraft, Draft.mapValues_ofSql,
    ← Filter.draft_mapValues, ← Conditions.draft_mapValues]
  rfl

theorem existsDraft_mapValues (q : Select) :
    (q.mapValues f).existsDraft = q.existsDraft.mapValues f := by
  rw [existsDraft, draft_mapValues]
  simp [existsDraft]

theorem countSteps_mapValues (q : Select) :
    (q.mapValues f).countSteps = q.countSteps.map (Step.mapValue f) := by
  rw [countSteps, countSteps, List.map_append, ← Conditions.steps_mapValues]
  rfl

theorem countDraft_mapValues (q : Select) :
    (q.mapValues f).countDraft = q.countDraft.mapValues f := by
  simp only [countDraft, Draft.mapValues_append, Draft.mapValues_cons, Draft.mapValues_clause,
    Draft.mapValues_ofSql, ← Conditions.draft_mapValues]
  rfl

theorem aggregateSteps_mapValues (q : Select) (column : String) :
    (q.mapValues f).aggregateSteps column =
      (q.aggregateSteps column).map (Step.mapValue f) := by
  simp only [aggregateSteps, List.map_append, Step.map_reads, ← Conditions.steps_mapValues]
  rfl

theorem aggregateDraft_mapValues (q : Select) (a : Aggregate) (column : String) :
    (q.mapValues f).aggregateDraft a column = (q.aggregateDraft a column).mapValues f := by
  simp only [aggregateDraft, Draft.mapValues_append, Draft.mapValues_cons, Draft.mapValues_clause,
    mapValues_groupDraft, Draft.mapValues_ofSql, ← Conditions.draft_mapValues]
  rfl

end Select

namespace Payload

def mapValues (d : Payload) : Payload := d.map f

theorem values_mapValues (d : Payload) : (d.mapValues f).values = d.values.map f := by
  rw [values, mapValues, ColumnMap.map, List.map_map, values, List.map_map]
  rfl

theorem steps_mapValues (d : Payload) :
    (d.mapValues f).steps = d.steps.map (Step.mapValue f) := by
  rw [steps, mapValues, ColumnMap.map, List.flatMap_map, steps, List.map_flatMap]
  rfl

theorem assignmentDrafts_mapValues (d : Payload) :
    (d.mapValues f).assignmentDrafts = d.assignmentDrafts.map (Draft.mapValues f) := by
  rw [assignmentDrafts, mapValues, ColumnMap.map, List.map_map, assignmentDrafts, List.map_map]
  rfl

end Payload

namespace Insert

def mapValues (q : Insert) : Insert :=
  { q with
    payload := q.payload.mapValues f
    unlessExists := q.unlessExists.map (Conditions.mapValues f) }

theorem steps_mapValues (q : Insert) :
    (q.mapValues f).steps = q.steps.map (Step.mapValue f) := by
  rw [steps, steps, List.map_append, ← Payload.steps_mapValues]
  rfl

theorem draft_mapValues (q : Insert) : (q.mapValues f).draft = q.draft.mapValues f := by
  have hempty : (q.mapValues f).payload.isEmpty = q.payload.isEmpty := q.payload.isEmpty_map f
  have hcolumns : (q.mapValues f).payload.columns = q.payload.columns := q.payload.columns_map f
  rw [draft, draft, hempty, hcolumns]
  split
  · rfl
  · simp only [Draft.mapValues_append, Draft.mapValues_cons, Draft.mapValues_names,
      Draft.mapValues_slots, ← Payload.values_mapValues]
    rfl

theorem preconditionSteps_mapValues (q : Insert) (c : Conditions) :
    (q.mapValues f).preconditionSteps (c.mapValues f) =
      (q.preconditionSteps c).map (Step.mapValue f) := by
  rw [preconditionSteps, preconditionSteps, List.map_append, ← Conditions.steps_mapValues]
  rfl

theorem preconditionDraft_mapValues (q : Insert) (c : Conditions) :
    (q.mapValues f).preconditionDraft (c.mapValues f) =
      (q.preconditionDraft c).mapValues f := by
  simp only [preconditionDraft, Draft.mapValues_append, Draft.mapValues_cons,
    Draft.mapValues_clause, Draft.mapValues_ofSql, ← Conditions.draft_mapValues]
  rfl

end Insert

namespace Update

def mapValues (q : Update) : Update :=
  { q with toScope := q.toScope.mapValues f, payload := q.payload.mapValues f }

theorem steps_mapValues (q : Update) :
    (q.mapValues f).steps = q.steps.map (Step.mapValue f) := by
  rw [steps, steps, List.map_append, List.map_append, ← Payload.steps_mapValues,
    ← Scope.steps_mapValues]
  rfl

theorem draft_mapValues (q : Update) : (q.mapValues f).draft = q.draft.mapValues f := by
  simp only [draft, Draft.mapValues_append, Draft.mapValues_cons, Draft.mapValues_join,
    ← Payload.assignmentDrafts_mapValues, ← Scope.draft_mapValues]
  rfl

end Update

namespace Delete

def mapValues (q : Delete) : Delete := { q with toScope := q.toScope.mapValues f }

theorem steps_mapValues (q : Delete) :
    (q.mapValues f).steps = q.steps.map (Step.mapValue f) := by
  rw [steps, steps, List.map_append, ← Scope.steps_mapValues]
  rfl

theorem draft_mapValues (q : Delete) : (q.mapValues f).draft = q.draft.mapValues f := by
  rw [draft, draft, Draft.mapValues_append, ← Scope.draft_mapValues]
  rfl

end Delete

/-! ## Requests -/

def Statement.mapValues (s : Statement) : Statement := { s with params := s.params.map f }

theorem Draft.statement_mapValues (d : Draft) :
    (d.mapValues f).statement = d.statement.mapValues f := by
  rw [statement, sql_mapValues, values_mapValues]
  rfl

namespace Request

def mapValues : Request → Request
  | rows q => rows (q.mapValues f)
  | existence q => existence (q.mapValues f)
  | count q => count (q.mapValues f)
  | aggregate q a column => aggregate (q.mapValues f) a column
  | insert q => insert (q.mapValues f)
  | precondition q => precondition (q.mapValues f)
  | update q => update (q.mapValues f)
  | delete q => delete (q.mapValues f)

theorem steps_mapValues (r : Request) :
    (r.mapValues f).steps = r.steps.map (Step.mapValue f) := by
  cases r with
  | rows q | existence q => exact q.steps_mapValues f
  | count q => exact q.countSteps_mapValues f
  | aggregate q a column => exact q.aggregateSteps_mapValues f column
  | insert q => exact q.steps_mapValues f
  | precondition q =>
    show ((q.unlessExists.map (Conditions.mapValues f)).map
      (q.mapValues f).preconditionSteps).getD [] = _
    rw [steps]
    cases q.unlessExists with
    | none => rfl
    | some c => exact q.preconditionSteps_mapValues f c
  | update q => exact q.steps_mapValues f
  | delete q => exact q.steps_mapValues f

theorem draft?_mapValues (r : Request) :
    (r.mapValues f).draft? = r.draft?.map (Draft.mapValues f) := by
  cases r with
  | rows q => exact congrArg some (q.draft_mapValues f)
  | existence q => exact congrArg some (q.existsDraft_mapValues f)
  | count q => exact congrArg some (q.countDraft_mapValues f)
  | aggregate q a column => exact congrArg some (q.aggregateDraft_mapValues f a column)
  | insert q => exact congrArg some (q.draft_mapValues f)
  | precondition q =>
    show (q.unlessExists.map (Conditions.mapValues f)).map (q.mapValues f).preconditionDraft = _
    rw [draft?]
    cases q.unlessExists with
    | none => rfl
    | some c => exact congrArg some (q.preconditionDraft_mapValues f c)
  | update q => exact congrArg some (q.draft_mapValues f)
  | delete q => exact congrArg some (q.draft_mapValues f)

/-- A request fails for a name or for having nothing to set, never for a value. -/
theorem fault?_mapValues (r : Request) : (r.mapValues f).fault? = r.fault? := by
  have hsteps : (Step.firstFault? (r.mapValues f).steps).map RenderFault.badName =
      (Step.firstFault? r.steps).map RenderFault.badName := by
    rw [steps_mapValues, Step.firstFault?_map]
  cases r with
  | update q =>
    have hempty : (q.mapValues f).payload.isEmpty = q.payload.isEmpty := q.payload.isEmpty_map f
    rw [mapValues, fault?, fault?, hempty]
    split
    · rfl
    · exact hsteps
  | _ => exact hsteps

theorem statement?_mapValues (r : Request) :
    (r.mapValues f).statement? = r.statement?.map (Option.map (Statement.mapValues f)) := by
  rw [statement?_eq, statement?_eq, fault?_mapValues, draft?_mapValues]
  cases r.fault? with
  | some fault => rfl
  | none =>
    show Except.ok ((r.draft?.map (Draft.mapValues f)).map Draft.statement) =
      Except.ok ((r.draft?.map Draft.statement).map (Statement.mapValues f))
    rw [Option.map_map, Option.map_map]
    congr 2
    funext d
    exact d.statement_mapValues f

end Request

end TypedSql
