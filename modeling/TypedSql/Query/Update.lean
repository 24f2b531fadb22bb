import TypedSql.Query.Scope
import TypedSql.Table.Payload

/-!
# Updates

The values to set are bound before those of the filter.  An update that sets
nothing has no SQL.
-/

namespace TypedSql

structure Update extends Scope where
  table : String
  payload : Payload
deriving DecidableEq

namespace Update

def new (table : String) (payload : Payload) : Update := { Scope.all with table, payload }

/-- A step in building an update. -/
inductive Call where
  | scope (c : Scope.Call)
  | set (column : String) (v : Value)
deriving DecidableEq

def apply (q : Update) : Call → Update
  | .scope c => { q with toScope := q.toScope.apply c }
  | .set column v => { q with payload := q.payload.insert column v }

def ofCalls (table : String) (payload : Payload) (calls : List Call) : Update :=
  calls.foldl apply (new table payload)

/-! ## Rendering -/

/-- `column = ?` -/
def renderAssignment (column : String) (v : Value) : Render Sql := do
  let column ← Render.name column
  return [column, .word " = ", ← Render.slot v]

def render (q : Update) : Render Sql := do
  if q.payload.isEmpty then throw (.nothingToSet q.table)
  let table ← Render.name q.table
  let assignments ← q.payload.entries.mapM fun e => renderAssignment e.1 e.2
  let restriction ← q.toScope.renderRestriction table
  return [.word "UPDATE ", table, .word " SET "] ++ Sql.join ", " assignments ++ restriction

def statement (q : Update) : Except RenderFault Statement := q.render.statement

end Update

end TypedSql
