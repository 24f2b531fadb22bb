import TypedSql.Session.Client

/-!
# Scripted clients

A script answers statements from a queue, in order, whatever they are, and keeps
the calls that were made.  When the queue is empty it answers with an error.
-/

namespace TypedSql

inductive ClientCall where
  | query (sql : String) (params : List Value)
  | execute (sql : String) (params : List Value)
  | lastInsertRowid
deriving DecidableEq

namespace Script

/-- What a statement is answered: an error, or rows for a query and a count for
a write, before which the last insert id may change. -/
inductive Reply where
  | fail (e : Error)
  | answer (rowid : Option Int64) (rows : List Row) (affected : Nat)

end Script

structure Script where
  replies : List Script.Reply
  rowid : Int64
  calls : List ClientCall

namespace Script

def record (call : ClientCall) : StateM Script Unit :=
  modify fun s => { s with calls := s.calls ++ [call] }

/-- Takes the next reply from the queue. -/
def next : Run Script (List Row × Nat) := do
  let s ← get
  match s.replies with
  | [] => throw (.other "client script exhausted")
  | .fail e :: rest =>
    set { s with replies := rest }
    throw e
  | .answer rowid rows affected :: rest =>
    set { s with replies := rest, rowid := rowid.getD s.rowid }
    return (rows, affected)

def client : Client Script where
  query sql params := do
    record (.query sql params)
    return (← next).1
  execute sql params := do
    record (.execute sql params)
    return (← next).2
  lastInsertRowid := do
    record .lastInsertRowid
    return (← get).rowid
  note _ := pure ()

end Script

end TypedSql
