import TypedSql.Query.Select
import TypedSql.Session.Client
import TypedSql.Table.Record

/-!
# Running selections

Each of these sends one statement to the client, or none when it cannot be
rendered, and makes its result from the answer.
-/

namespace TypedSql

namespace Client

variable {σ : Type} (client : Client σ)

def fetch (s : Except RenderFault Statement) : Run σ (List Row) := do
  let s ← Run.rendered s
  client.query s.text s.params

def fetchFirst? (s : Except RenderFault Statement) : Run σ (Option Row) := do
  let s ← Run.rendered s
  client.queryFirst? s.text s.params

def fetchOne (s : Except RenderFault Statement) : Run σ Row := do
  let s ← Run.rendered s
  client.queryOne s.text s.params

/-- Makes an `α` of every row of the answer; the first that cannot be made fails. -/
def fetchAll {α : Type} [FromRow α] (s : Except RenderFault Statement) : Run σ (List α) := do
  let rows ← client.fetch s
  rows.mapM fun r => Run.ofExcept (fromRow r)

/-- Runs a statement for the number of rows it writes. -/
def write (s : Except RenderFault Statement) : Run σ Nat := do
  let s ← Run.rendered s
  client.execute s.text s.params

end Client

namespace Select

variable {σ : Type} (q : Select) (client : Client σ)

def all : Run σ (List Row) := client.fetch q.statement

/-- The same by the name that every builder has for it. -/
def query : Run σ (List Row) := client.fetch q.statement

def fetchAll {α : Type} [FromRow α] : Run σ (List α) := client.fetchAll q.statement

/-- The selection of at most one row. -/
def single : Select := q.apply (.scope (.limit 1))

def toRecord (r : Row) : Record := ⟨q.table, q.primaryKey, r⟩

def first : Run σ (Option Record) := do
  let row ← client.fetchFirst? q.single.statement
  return row.map q.toRecord

def firstOrFail : Run σ Record := do
  match ← q.first client with
  | some record => return record
  | none => throw (.notFound ("No row in \"" ++ q.table ++ "\" matches the query"))

def firstAs {α : Type} [FromRow α] : Run σ (Option α) := do
  match ← client.fetchFirst? q.single.statement with
  | some row => some <$> Run.ofExcept (fromRow row)
  | none => return none

def exists? : Run σ Bool := do
  let row ← client.fetchOne q.existsStatement
  Run.ofExcept (row.get "exists")

def count : Run σ Int64 := do
  let row ← client.fetchOne q.countStatement
  Run.ofExcept (row.get "count")

/-- The values of one column. -/
def pluck {α : Type} [FromValue α] (column : String) : Run σ (List α) := do
  let rows ← client.fetch (q.apply (.select [column])).statement
  rows.mapM fun r => Run.ofExcept (r.getAt 0)

/-- The first cell of the first row, that is the aggregate of the first group;
NULL for no row. -/
def aggregate (f : Aggregate) (column : String) : Run σ Value := do
  let row ← client.fetchFirst? (q.aggregateStatement f column)
  return (row.bind fun r => r.valueAt? 0).getD .null

end Select

end TypedSql
