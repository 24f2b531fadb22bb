import TypedSql.Session.Database

/-!
# Transactions

A transaction is a bracket around calls on one handle.  There are none within
another: to begin one while one is open is an error and sends nothing.
`transaction` commits when its body succeeds, and otherwise rolls back what is
still open and gives the body's error, or that of the commit.
-/

namespace TypedSql.Database

variable {σ S : Type} (e : Engine σ S)

def inTransaction (db : Database σ S) : Bool := !e.autocommit db.connection.engine

def bracket (b : Bracket) : Run (Database σ S) Unit := do
  note (.bracket b)
  exec e b.sql

def begin : Run (Database σ S) Unit := do
  if inTransaction e (← get) then
    throw (.transaction "a transaction is already open; nested transactions are not supported")
  bracket e .start

/-- Commits or rolls back, which takes an open transaction. -/
def finish (b : Bracket) : Run (Database σ S) Unit := do
  if !inTransaction e (← get) then throw (.transaction "no transaction is open")
  bracket e b

def commit : Run (Database σ S) Unit := finish e .commit

def rollback : Run (Database σ S) Unit := finish e .rollback

/-- Rolls back after an error, which is given on; if that fails too, the error
tells of both. -/
def abort {α : Type} (error : Error) : Run (Database σ S) α := do
  if !inTransaction e (← get) then throw error
  match ← (rollback e).attempt with
  | .ok () => throw error
  | .error failure =>
    throw (.other (error.message ++ " (rollback failed: " ++ failure.message ++ ")"))

def transaction {α : Type} (body : Run (Database σ S) α) : Run (Database σ S) α := do
  begin e
  match ← body.attempt with
  | .error error => abort e error
  | .ok a =>
    match ← (commit e).attempt with
    | .ok () => return a
    | .error error => abort e error

end TypedSql.Database
