import TypedSql.Query.Write

/-!
# Tables and the records in them

A `Table` knows its key and passes it on to the statements it makes.  The
operations of a record all speak of the one row that its key value names, and
fail without a statement where it has none.
-/

namespace TypedSql

structure Table where
  name : String
  primaryKey : Option String
deriving DecidableEq

namespace Table

variable {σ : Type} (t : Table)

def select : Select :=
  match t.primaryKey with
  | some key => (Select.new t.name).apply (.primaryKey key)
  | none => .new t.name

def insert (p : Payload) : Insert :=
  match t.primaryKey with
  | some key => (Insert.new t.name p).apply (.primaryKey key)
  | none => .new t.name p

def update (p : Payload) : Update := .new t.name p

def delete : Delete := .new t.name

def key : Except Error String :=
  match t.primaryKey with
  | some key => .ok key
  | none => .error (Record.noPrimaryKey t.name)

/-- The record with a key value. -/
def find (client : Client σ) (v : Value) : Run σ (Option Record) := do
  let key ← Run.ofExcept t.key
  (t.select.apply (.scope (.andWhere (.single key (.scalar v))))).first client

def findOrFail (client : Client σ) (v : Value) : Run σ Record := do
  match ← t.find client v with
  | some record => return record
  | none => throw (.notFound ("No row in \"" ++ t.name ++ "\" with key " ++ v.display))

end Table

namespace Record

variable {σ : Type} (r : Record) (client : Client σ)

/-- The condition that only this record meets. -/
def keyFilter : Except Error Conditions :=
  r.id.map fun (key, v) => .single key (.scalar v)

def delete : Run σ Nat := do
  let filter ← Run.ofExcept r.keyFilter
  ((Delete.new r.table).apply (.andWhere filter)).run client

/-- Writes a payload to the stored row and then to the row in memory. -/
def update (p : Payload) : Run σ (Nat × Record) := do
  let filter ← Run.ofExcept r.keyFilter
  let affected ← ((Update.new r.table p).apply (.scope (.andWhere filter))).run client
  return (affected, r.setAll p)

/-- The cells of the row except those of the key, as a payload. -/
def nonKeyPayload (key : String) : Payload :=
  .ofList (r.row.cells.filter fun c => c.1 != key)

/-- Writes back every column but the key; a row of nothing else is not written. -/
def save : Run σ Nat := do
  let (key, _) ← Run.ofExcept r.id
  let payload := r.nonKeyPayload key
  if payload.isEmpty then return 0
  let filter ← Run.ofExcept r.keyFilter
  ((Update.new r.table payload).apply (.scope (.andWhere filter))).run client

/-- The selection of this record. -/
def selection : Except Error Select := do
  let filter ← r.keyFilter
  let q := (Select.new r.table).apply (.scope (.andWhere filter))
  return match r.primaryKey with
  | some key => q.apply (.primaryKey key)
  | none => q

/-- Reads the record again; `none` if it is gone. -/
def refresh : Run σ (Option Record) := do
  (← Run.ofExcept r.selection).first client

def exists? : Run σ Bool := do
  (← Run.ofExcept r.selection).exists? client

end Record

end TypedSql
