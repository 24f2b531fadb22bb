import TypedSql.Query.Delete
import TypedSql.Query.Fetch
import TypedSql.Query.Insert
import TypedSql.Query.Update

/-!
# Running writes

Updates and deletions send one statement and give the number of rows written.
`Insert.run` may ask first whether a stored row stands against the insertion,
then inserts, and fetches the stored row again where it can.
-/

namespace TypedSql

namespace Update

variable {σ : Type} (q : Update) (client : Client σ)

def run : Run σ Nat := client.write q.statement

def execute : Run σ Nat := q.run client

/-- Runs the update as a query, for the rows it answers. -/
def query : Run σ (List Row) := client.fetch q.statement

def fetchAll {α : Type} [FromRow α] : Run σ (List α) := client.fetchAll q.statement

end Update

namespace Delete

variable {σ : Type} (q : Delete) (client : Client σ)

def run : Run σ Nat := client.write q.statement

def execute : Run σ Nat := q.run client

def query : Run σ (List Row) := client.fetch q.statement

def fetchAll {α : Type} [FromRow α] : Run σ (List α) := client.fetchAll q.statement

end Delete

namespace Insert

variable {σ : Type} (q : Insert) (client : Client σ)

/-- Inserts whatever the conditions say. -/
def execute : Run σ Nat := client.write q.statement

def query : Run σ (List Row) := client.fetch q.statement

def fetchAll {α : Type} [FromRow α] : Run σ (List α) := client.fetchAll q.statement

/-- Whether there are conditions and a stored row meets them. -/
def isBlocked : Run σ Bool := do
  match ← Run.rendered q.precondition? with
  | none => return false
  | some check =>
    let row ← client.queryOne check.text check.params
    let found : Bool ← Run.ofExcept (row.get "exists")
    if found then client.note (.insertSkipped q.table)
    return found

/-- The stored row: by its key where the payload has one, else by the id of the
row inserted last, for a key that the engine has filled in. -/
def refetch (key : String) : Run σ (Option Row) := do
  let filter : Conditions ←
    match (q.payload.get? key).filter fun v => !v.isNull with
    | some v => pure (.single key (.scalar v))
    | none => pure (.single "rowid" (.scalar (.integer (← client.lastInsertRowid))))
  client.fetchFirst?
    (Select.ofCalls q.table [.scope (.andWhere filter), .scope (.limit 1)]).statement

/-- The row that was inserted; `none` when it was not, because a stored row
stood against it or the engine left it out. -/
def run : Run σ (Option Row) := do
  if ← q.isBlocked client then return none
  if (← q.execute client) = 0 then return none
  match q.primaryKey with
  | none => return some (.ofPayload q.payload)
  | some key => q.refetch client key

end Insert

end TypedSql
