import TypedSql.Session.Engine

/-!
# Replaying an engine

A transcript holds what an engine answered, call by call.  Replayed, it is an
engine whose prepared statements are their texts: preparing takes an entry only
if that entry is a failure to prepare, and every run of a statement or a batch
takes one.  Its clock stands still.
-/

namespace TypedSql

namespace Replay

inductive Answer where
  | rows (rows : List Row)
  | affected (n : Nat)
  | done
  | prepareFault (f : EngineFault)
  | runFault (f : EngineFault)

/-- An answer, and what the engine's state shows after it. -/
structure Entry where
  answer : Answer
  autocommit : Bool
  rowid : Int64

end Replay

structure Replay where
  entries : List Replay.Entry
  autocommit : Bool
  rowid : Int64

namespace Replay

def new (entries : List Entry) : Replay := { entries, autocommit := true, rowid := 0 }

def exhausted : EngineFault := .other "engine transcript exhausted"

/-- Takes an entry and reads its answer. -/
def next {α : Type} (read : Answer → α) (s : Replay) : Except EngineFault α × Replay :=
  match s.entries with
  | [] => (.error exhausted, s)
  | entry :: entries =>
    let s := { entries, autocommit := entry.autocommit, rowid := entry.rowid }
    match entry.answer with
    | .prepareFault f => (.error f, s)
    | .runFault f => (.error f, s)
    | a => (.ok (read a), s)

def Answer.toRows : Answer → List Row
  | rows rs => rs
  | _ => []

def Answer.toCount : Answer → Nat
  | affected n => n
  | _ => 0

def prepare (sql : String) (s : Replay) : Except EngineFault String × Replay :=
  match s.entries with
  | ⟨.prepareFault _, _, _⟩ :: _ => next (fun _ => sql) s
  | _ => (.ok sql, s)

def engine : Engine Replay String where
  prepare := prepare
  query _ _ := next Answer.toRows
  execute _ _ := next Answer.toCount
  batch _ := next fun _ => ()
  autocommit s := s.autocommit
  lastInsertRowid s := s.rowid
  clock _ := 0

end Replay

end TypedSql
