import TypedSql.Query.Scope

/-!
# Deletions

A deletion without a filter and without bounds empties the table.
-/

namespace TypedSql

structure Delete extends Scope where
  table : String
deriving DecidableEq

namespace Delete

def new (table : String) : Delete := { Scope.all with table }

def apply (q : Delete) (c : Scope.Call) : Delete := { q with toScope := q.toScope.apply c }

def ofCalls (table : String) (calls : List Scope.Call) : Delete := calls.foldl apply (new table)

/-! ## Rendering -/

def render (q : Delete) : Render Sql := do
  let table ← Render.name q.table
  let restriction ← q.toScope.renderRestriction table
  return [.word "DELETE FROM ", table] ++ restriction

def statement (q : Delete) : Except RenderFault Statement := q.render.statement

end Delete

end TypedSql
