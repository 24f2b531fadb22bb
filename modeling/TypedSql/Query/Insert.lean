import TypedSql.Query.Scope
import TypedSql.Table.Payload

/-!
# Insertions

An insertion writes one row.  It may be given conditions that no stored row must
meet; whether one does is asked by a statement of its own.
-/

namespace TypedSql

/-- What the engine does when the row collides with a stored one. -/
inductive ConflictMode where
  /-- fail -/
  | abort
  /-- leave the row out -/
  | ignore
  /-- delete the stored row first -/
  | replace
deriving DecidableEq

instance : Inhabited ConflictMode := ⟨.abort⟩

def ConflictMode.keyword : ConflictMode → String
  | abort => "INSERT INTO "
  | ignore => "INSERT OR IGNORE INTO "
  | replace => "INSERT OR REPLACE INTO "

structure Insert where
  table : String
  payload : Payload
  conflict : ConflictMode
  /-- the row is not inserted when a stored row meets these -/
  unlessExists : Option Conditions
  /-- the key by which the stored row is fetched again -/
  primaryKey : Option String
deriving DecidableEq

namespace Insert

def new (table : String) (payload : Payload) : Insert :=
  { table, payload, conflict := .abort, unlessExists := none, primaryKey := none }

/-- A step in building an insertion. -/
inductive Call where
  | primaryKey (column : String)
  | set (column : String) (v : Value)
  | onConflict (mode : ConflictMode)
  | orIgnore
  | orReplace
  | ifNotExists (c : Conditions)
deriving DecidableEq

def apply (q : Insert) : Call → Insert
  | .primaryKey column => { q with primaryKey := some column }
  | .set column v => { q with payload := q.payload.insert column v }
  | .onConflict mode => { q with conflict := mode }
  | .orIgnore => { q with conflict := .ignore }
  | .orReplace => { q with conflict := .replace }
  | .ifNotExists c => { q with unlessExists := some c }

def ofCalls (table : String) (payload : Payload) (calls : List Call) : Insert :=
  calls.foldl apply (new table payload)

/-! ## Rendering -/

/-- A column and the placeholder for its value. -/
def renderCell (column : String) (v : Value) : Render (Token × Token) := do
  let column ← Render.name column
  return (column, ← Render.slot v)

def render (q : Insert) : Render Sql := do
  let table ← Render.name q.table
  if q.payload.isEmpty then return [.word q.conflict.keyword, table, .word " DEFAULT VALUES"]
  let cells ← q.payload.entries.mapM fun e => renderCell e.1 e.2
  return [.word q.conflict.keyword, table, .word " ("] ++
    Sql.join ", " (cells.map fun c => [c.1]) ++ [.word ") VALUES ("] ++
    Sql.join ", " (cells.map fun c => [c.2]) ++ [.word ")"]

/-- Whether a stored row meets the conditions. -/
def renderPrecondition (q : Insert) (c : Conditions) : Render Sql := do
  let table ← Render.name q.table
  let filter ← c.render
  return [.word "SELECT EXISTS(", .word "SELECT 1 FROM ", table] ++ Sql.clause " WHERE " filter ++
    .word ")" :: Sql.named "exists"

def statement (q : Insert) : Except RenderFault Statement := q.render.statement

/-- The statement to ask first, if there are conditions. -/
def precondition? (q : Insert) : Except RenderFault (Option Statement) :=
  match q.unlessExists with
  | none => .ok none
  | some c => (q.renderPrecondition c).statement.map some

end Insert

end TypedSql
