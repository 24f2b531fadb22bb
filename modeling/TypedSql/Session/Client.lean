import TypedSql.Session.Event
import TypedSql.Sql.Render
import TypedSql.Table.Row

/-!
# Clients

A client runs statements over a state of its own.  Everything that talks to an
engine is written against `Client`, so it can be run over a database, a bare
connection or a script.
-/

namespace TypedSql

/-- A computation over a state `σ` that may fail; what it did to the state
before it failed remains. -/
abbrev Run (σ α : Type) := ExceptT Error (StateM σ) α

namespace Run

variable {σ α : Type}

/-- The outcome and the state it leaves behind. -/
def runOn (m : Run σ α) (s : σ) : Except Error α × σ := StateT.run (ExceptT.run m) s

/-- The outcome as a result, whatever it is. -/
def attempt (m : Run σ α) : Run σ (Except Error α) :=
  ExceptT.mk fun s =>
    let (outcome, s) := m.runOn s
    (.ok outcome, s)

def ofExcept : Except Error α → Run σ α
  | .ok a => pure a
  | .error e => throw e

/-- A statement that was rendered, or the error that it was not. -/
def rendered : Except RenderFault α → Run σ α
  | .ok s => pure s
  | .error fault => throw fault.toError

end Run

structure Client (σ : Type) where
  query : String → List Value → Run σ (List Row)
  /-- the number of rows that were written -/
  execute : String → List Value → Run σ Nat
  lastInsertRowid : StateM σ Int64
  note : Event → StateM σ Unit

namespace Client

variable {σ : Type} (client : Client σ)

/-- The first row of the answer; further ones are dropped. -/
def queryFirst? (sql : String) (params : List Value) : Run σ (Option Row) := do
  return (← client.query sql params).head?

def queryOne (sql : String) (params : List Value) : Run σ Row := do
  match ← client.queryFirst? sql params with
  | some row => return row
  | none => throw (.notFound "Expected one row, got none")

/-- The same client over a larger state, of which it sees a part. -/
def within {τ : Type} (part : τ → σ) (put : σ → τ → τ) : Client τ :=
  let lift {α : Type} (m : StateM σ α) : StateM τ α := fun t =>
    let (a, s) := m (part t)
    (a, put s t)
  { query := fun sql params => ExceptT.mk (lift (client.query sql params).run)
    execute := fun sql params => ExceptT.mk (lift (client.execute sql params).run)
    lastInsertRowid := lift client.lastInsertRowid
    note := fun e => lift (client.note e) }

end Client

end TypedSql
