import TypedSql.Text.Blank

/-!
# Events

What a session reports on its way: statements and batches, what the statement
cache does, and the brackets of transactions.
-/

namespace TypedSql

/-- What a statement does, told by its first word. -/
inductive StatementKind where
  | select
  | insert
  | update
  | delete
  | other
deriving DecidableEq

namespace StatementKind

def ofSql (sql : String) : StatementKind :=
  match String.ofList (((Text.words sql.toList).headD []).map Char.toUpper) with
  | "SELECT" => select
  | "INSERT" => insert
  | "REPLACE" => insert
  | "UPDATE" => update
  | "DELETE" => delete
  | _ => other

def label : StatementKind → String
  | select => "Select"
  | insert => "Insert"
  | update => "Update"
  | delete => "Delete"
  | other => "Other"

end StatementKind

/-- How a prepared statement was come by. -/
inductive Lookup where
  /-- without a cache -/
  | off
  | hit
  | miss
deriving DecidableEq

def Lookup.label : Lookup → String
  | off => "off"
  | hit => "hit"
  | miss => "miss"

/-- The statements around a transaction. -/
inductive Bracket where
  | start
  | commit
  | rollback
deriving DecidableEq

namespace Bracket

def sql : Bracket → String
  | start => "BEGIN"
  | commit => "COMMIT"
  | rollback => "ROLLBACK"

def label : Bracket → String
  | start => "begin"
  | commit => "commit"
  | rollback => "rollback"

end Bracket

inductive Event where
  | batch (sql : String)
  | statement (kind : StatementKind) (paramCount : Nat) (lookup : Lookup) (sql : String)
  | slow (sql : String)
  | insertSkipped (table : String)
  | evicted (sql : String)
  | cacheCleared
  | bracket (b : Bracket)
deriving DecidableEq

namespace Event

inductive Channel where
  | sql
  | cache
  | transaction
deriving DecidableEq

inductive Level where
  | debug
  | warn
deriving DecidableEq

def channel : Event → Channel
  | batch _ | statement .. | slow _ | insertSkipped _ => .sql
  | evicted _ | cacheCleared => .cache
  | bracket _ => .transaction

def level : Event → Level
  | slow _ => .warn
  | _ => .debug

/-- The event as named texts. -/
def fields : Event → List (String × String)
  | batch sql => [("message", "exec"), ("sql", sql)]
  | statement kind paramCount lookup sql =>
    [("query_type", kind.label), ("param_count", toString paramCount), ("cache", lookup.label),
      ("sql", sql)]
  | slow sql => [("message", "slow query"), ("sql", sql)]
  | insertSkipped table =>
    [("message", "insert skipped, a matching row exists"), ("table", table)]
  | evicted sql => [("message", "evicting statement"), ("sql", sql)]
  | cacheCleared => [("message", "statement cache cleared")]
  | bracket b => [("message", b.label)]

end Event

end TypedSql
