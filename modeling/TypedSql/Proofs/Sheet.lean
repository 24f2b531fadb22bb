import TypedSql.Session.Engine

/-!
# Sheets: a small engine

A sheet is a table `t` of one column `v`, in which no two values but NULL are equal.  As an
engine it runs one insertion and one selection and knows transactions; a rollback restores
the values as they were when the transaction began.  Its prepared statements stand for one
text each.
-/

namespace TypedSql

structure Sheet where
  values : List Value
  /-- the values when the open transaction began -/
  saved : Option (List Value)
  lastRowid : Int64
deriving DecidableEq

namespace Sheet

def empty : Sheet := { values := [], saved := none, lastRowid := 0 }

inductive Stmt where
  | insertion
  | selection
deriving DecidableEq

def Stmt.text : Stmt → String
  | insertion => "INSERT INTO \"t\" (\"v\") VALUES (?)"
  | selection => "SELECT * FROM \"t\""

def syntaxFault : EngineFault := .failure 1 (some "syntax error")

def compile (sql : String) : Except EngineFault Stmt :=
  if sql = Stmt.insertion.text then .ok .insertion
  else if sql = Stmt.selection.text then .ok .selection
  else .error syntaxFault

/-- Appends a value, NULL for none. -/
def insert (v : Value) (s : Sheet) : Except EngineFault Nat × Sheet :=
  if !v.isNull ∧ v ∈ s.values then
    (.error (.failure 2067 (some "UNIQUE constraint failed: t.v")), s)
  else
    (.ok 1, { s with
      values := s.values ++ [v]
      lastRowid := .ofNat (s.values.length + 1) })

def rows (s : Sheet) : List Row := s.values.map fun v => ⟨[("v", v)]⟩

def query : Stmt → List Value → Sheet → Except EngineFault (List Row) × Sheet
  | .insertion, params, s =>
    let (outcome, s) := s.insert (params.headD .null)
    (outcome.map fun _ => [], s)
  | .selection, _, s => (.ok s.rows, s)

def execute : Stmt → List Value → Sheet → Except EngineFault Nat × Sheet
  | .insertion, params, s => s.insert (params.headD .null)
  | .selection, _, s => (.ok 0, s)

def batch (sql : String) (s : Sheet) : Except EngineFault Unit × Sheet :=
  match sql, s.saved with
  | "BEGIN", none => (.ok (), { s with saved := some s.values })
  | "BEGIN", some _ =>
    (.error (.failure 1 (some "cannot start a transaction within a transaction")), s)
  | "COMMIT", some _ => (.ok (), { s with saved := none })
  | "COMMIT", none => (.error (.failure 1 (some "cannot commit - no transaction is active")), s)
  | "ROLLBACK", some values => (.ok (), { s with values, saved := none })
  | "ROLLBACK", none =>
    (.error (.failure 1 (some "cannot rollback - no transaction is active")), s)
  | _, _ => (.error syntaxFault, s)

def engine : Engine Sheet Stmt where
  prepare sql s := (compile sql, s)
  query := query
  execute := execute
  batch := batch
  autocommit s := s.saved.isNone
  lastInsertRowid s := s.lastRowid
  clock _ := 0

/-! ## Lemmas -/

theorem autocommit_eq (s : Sheet) : engine.autocommit s = s.saved.isNone := rfl

theorem insert_saved (v : Value) (s : Sheet) : (s.insert v).2.saved = s.saved := by
  unfold insert
  split <;> rfl

theorem query_saved (stmt : Stmt) (params : List Value) (s : Sheet) :
    (engine.query stmt params s).2.saved = s.saved := by
  cases stmt with
  | insertion => exact insert_saved _ s
  | selection => rfl

theorem execute_saved (stmt : Stmt) (params : List Value) (s : Sheet) :
    (engine.execute stmt params s).2.saved = s.saved := by
  cases stmt with
  | insertion => exact insert_saved _ s
  | selection => rfl

end Sheet

end TypedSql
