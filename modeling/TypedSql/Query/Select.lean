import TypedSql.Query.Scope

/-!
# Selections

The clauses of a selection are written in one fixed order, whatever the order in
which they were given.  Besides its own statement a selection has statements
that ask whether it has a row, how many rows its base filter has, and for an
aggregate over the base filter.
-/

namespace TypedSql

structure Select extends Scope where
  table : String
  /-- the columns to fetch; all of them for `[]` -/
  columns : List String
  /-- an expression in the place of the columns -/
  expression : Option String
  distinct : Bool
  groups : List String
  having : Conditions
  /-- the key of the records made from the rows -/
  primaryKey : Option String
deriving DecidableEq

namespace Select

def new (table : String) : Select :=
  { Scope.all with
    table
    columns := []
    expression := none
    distinct := false
    groups := []
    having := ∅
    primaryKey := none }

/-- A step in building a selection. -/
inductive Call where
  | scope (c : Scope.Call)
  | orderByAsc (column : String)
  | orderByDesc (column : String)
  | primaryKey (column : String)
  | select (columns : List String)
  | selectRaw (expression : String)
  | distinct
  | groupBy (columns : List String)
  | having (c : Conditions)
  | havingCmp (column symbol : String) (v : Value)
  | paginate (page perPage : Int64)
deriving DecidableEq

/-- The bounds of a page, pages counted from one; both numbers are at least one. -/
def pageBounds (page perPage : Int64) : Bounds :=
  let page := if page < 1 then 1 else page
  let size := if perPage < 1 then 1 else perPage
  ⟨some size, some ((page - 1) * size)⟩

/-- Columns take the place of an expression and the other way round. -/
def apply (q : Select) : Call → Select
  | .scope c => { q with toScope := q.toScope.apply c }
  | .orderByAsc column => { q with toScope := q.toScope.apply (.orderBy column .ascending) }
  | .orderByDesc column => { q with toScope := q.toScope.apply (.orderBy column .descending) }
  | .primaryKey column => { q with primaryKey := some column }
  | .select columns => { q with columns, expression := none }
  | .selectRaw expression => { q with expression := some expression }
  | .distinct => { q with distinct := true }
  | .groupBy columns => { q with groups := columns }
  | .having c => { q with having := q.having.merge c }
  | .havingCmp column symbol v => { q with having := q.having.insert column (.compare symbol v) }
  | .paginate page perPage => { q with bounds := pageBounds page perPage }

def ofCalls (table : String) (calls : List Call) : Select := calls.foldl apply (new table)

/-! ## Rendering -/

def renderColumns (q : Select) : Render Sql :=
  match q.expression with
  | some e => return [.raw e]
  | none => if q.columns.isEmpty then return [.name .all] else Render.names q.columns

def renderGroups (q : Select) : Render Sql := do
  return Sql.clause " GROUP BY " (← Render.names q.groups)

def render (q : Select) : Render Sql := do
  let columns ← q.renderColumns
  let table ← Render.name q.table
  let filter ← q.filter.render
  let groups ← q.renderGroups
  let having ← q.having.render
  let order ← renderOrder q.order
  return .word "SELECT " :: (if q.distinct then [.word "DISTINCT "] else []) ++ columns ++
    [.word " FROM ", table] ++ Sql.clause " WHERE " filter ++ groups ++
    Sql.clause " HAVING " having ++ order ++ q.bounds.sql

/-- Whether the selection has a row. -/
def renderExists (q : Select) : Render Sql := do
  let inner ← q.render
  return .word "SELECT EXISTS(" :: inner ++ .word ")" :: Sql.named "exists"

/-- How many rows the base filter has; alternatives and groups are not applied. -/
def renderCount (q : Select) : Render Sql := do
  let table ← Render.name q.table
  let filter ← q.filter.renderBase
  return .word "SELECT COUNT(*)" :: Sql.named "count" ++ [.word " FROM ", table] ++
    Sql.clause " WHERE " filter

inductive Aggregate where
  | sum
  | avg
  | min
  | max
deriving DecidableEq

def Aggregate.word : Aggregate → String
  | sum => "SUM"
  | avg => "AVG"
  | min => "MIN"
  | max => "MAX"

/-- An aggregate over the base filter, by group; alternatives are not applied. -/
def renderAggregate (q : Select) (f : Aggregate) (column : String) : Render Sql := do
  let column ← Render.name column
  let table ← Render.name q.table
  let filter ← q.filter.renderBase
  let groups ← q.renderGroups
  return [.word "SELECT ", .word f.word, .word "(", column, .word ")"] ++ Sql.named "aggregate" ++
    [.word " FROM ", table] ++ Sql.clause " WHERE " filter ++ groups

def statement (q : Select) : Except RenderFault Statement := q.render.statement

def existsStatement (q : Select) : Except RenderFault Statement := q.renderExists.statement

def countStatement (q : Select) : Except RenderFault Statement := q.renderCount.statement

def aggregateStatement (q : Select) (f : Aggregate) (column : String) :
    Except RenderFault Statement :=
  (q.renderAggregate f column).statement

end Select

end TypedSql
