import TypedSql.Proofs.Outcome
import TypedSql.Proofs.Trace
import TypedSql.Query.Write
import TypedSql.Session.Scripted

/-!
# Terminals send what can be looked at

A terminal runs a builder.  It sends the one statement that the builder shows, or none when
there is none to show, and makes its result from the answer:

    t.statement = .error fault   →   the error, and no call
    t.statement = .ok stmt       →   one call with stmt, and t.reading of its answer
                                                                       (terminals_send)

`Terminal.statement` is the table of what each of them shows.
-/

namespace TypedSql

/-! ## Clients that keep a record -/

namespace Client

variable {σ : Type}

/-- The same client, which writes down every call that is made of it. -/
def recorded (client : Client σ) : Client (σ × List ClientCall) :=
  let keep {α : Type} (call : ClientCall) (m : StateM σ α) : StateM (σ × List ClientCall) α :=
    fun t =>
      let (a, s) := m t.1
      (a, s, t.2 ++ [call])
  { query := fun sql params => ExceptT.mk (keep (.query sql params) (client.query sql params).run)
    execute := fun sql params =>
      ExceptT.mk (keep (.execute sql params) (client.execute sql params).run)
    lastInsertRowid := keep .lastInsertRowid client.lastInsertRowid
    note := fun event t =>
      let (u, s) := client.note event t.1
      (u, s, t.2) }

end Client

/-! ## Terminals -/

inductive Builder where
  | select (q : Select)
  | insert (q : Insert)
  | update (q : Update)
  | delete (q : Delete)
deriving DecidableEq

namespace Builder

def statement : Builder → Except RenderFault Statement
  | select q => q.statement
  | insert q => q.statement
  | update q => q.statement
  | delete q => q.statement

def query {σ : Type} (client : Client σ) : Builder → Run σ (List Row)
  | select q => q.query client
  | insert q => q.query client
  | update q => q.query client
  | delete q => q.query client

def fetchAll {σ α : Type} [FromRow α] (client : Client σ) : Builder → Run σ (List α)
  | select q => q.fetchAll client
  | insert q => q.fetchAll client
  | update q => q.fetchAll client
  | delete q => q.fetchAll client

end Builder

/-- A way to run a builder, by the type of its result. -/
inductive Terminal : Type → Type 1 where
  | query (b : Builder) : Terminal (List Row)
  | fetchAll {α : Type} [FromRow α] (b : Builder) : Terminal (List α)
  | all (q : Select) : Terminal (List Row)
  | first (q : Select) : Terminal (Option Record)
  | firstOrFail (q : Select) : Terminal Record
  | firstAs {α : Type} [FromRow α] (q : Select) : Terminal (Option α)
  | exists? (q : Select) : Terminal Bool
  | count (q : Select) : Terminal Int64
  | pluck {α : Type} [FromValue α] (q : Select) (column : String) : Terminal (List α)
  | aggregate (q : Select) (f : Select.Aggregate) (column : String) : Terminal Value
  | insertExecute (q : Insert) : Terminal Nat
  | updateExecute (q : Update) : Terminal Nat
  | updateRun (q : Update) : Terminal Nat
  | deleteExecute (q : Delete) : Terminal Nat
  | deleteRun (q : Delete) : Terminal Nat

/-- A result as it is made from the answer: from the rows of a query, or from the number of
rows that an execution has written. -/
inductive Reading (β : Type) where
  | rows (read : List Row → Except Error β)
  | written (read : Nat → Except Error β)

namespace Reading

variable {σ β : Type}

def call (stmt : Statement) : Reading β → ClientCall
  | rows _ => .query stmt.text stmt.params
  | written _ => .execute stmt.text stmt.params

/-- The answer to the statement, so read, with the client's state after it. -/
def result (client : Client σ) (stmt : Statement) (s : σ) : Reading β → Except Error β × σ
  | rows read =>
    let (answer, s) := (client.query stmt.text stmt.params).runOn s
    (answer.bind read, s)
  | written read =>
    let (answer, s) := (client.execute stmt.text stmt.params).runOn s
    (answer.bind read, s)

def send (client : Client σ) (stmt : Statement) : Reading β → Run σ β
  | rows read => do Run.ofExcept (read (← client.query stmt.text stmt.params))
  | written read => do Run.ofExcept (read (← client.execute stmt.text stmt.params))

/-- The first row of the rows, which there must be. -/
def firstRow (rows : List Row) : Except Error Row :=
  match rows.head? with
  | some row => .ok row
  | none => .error (.notFound "Expected one row, got none")

end Reading

namespace Terminal

variable {σ β : Type}

def run (client : Client σ) : {β : Type} → Terminal β → Run σ β
  | _, query b => b.query client
  | _, fetchAll b => b.fetchAll client
  | _, all q => q.all client
  | _, first q => q.first client
  | _, firstOrFail q => q.firstOrFail client
  | _, firstAs q => q.firstAs client
  | _, exists? q => q.exists? client
  | _, count q => q.count client
  | _, pluck q column => q.pluck client column
  | _, aggregate q f column => q.aggregate client f column
  | _, insertExecute q => q.execute client
  | _, updateExecute q => q.execute client
  | _, updateRun q => q.run client
  | _, deleteExecute q => q.execute client
  | _, deleteRun q => q.run client

/-- The statement that is shown for a terminal. -/
def statement : {β : Type} → Terminal β → Except RenderFault Statement
  | _, query b | _, fetchAll b => b.statement
  | _, all q => q.statement
  | _, first q | _, firstOrFail q | _, firstAs q =>
    ({ q with bounds := { q.bounds with limit := some 1 } } : Select).statement
  | _, exists? q => q.existsStatement
  | _, count q => q.countStatement
  | _, pluck q column => ({ q with columns := [column], expression := none } : Select).statement
  | _, aggregate q f column => q.aggregateStatement f column
  | _, insertExecute q => q.statement
  | _, updateExecute q | _, updateRun q => q.statement
  | _, deleteExecute q | _, deleteRun q => q.statement

/-- The result of a terminal as it is made from the answer. -/
def reading : {β : Type} → Terminal β → Reading β
  | _, query _ | _, all _ => .rows .ok
  | _, fetchAll _ => .rows fun rows => rows.mapM fromRow
  | _, first q => .rows fun rows => .ok (rows.head?.map fun r => ⟨q.table, q.primaryKey, r⟩)
  | _, firstOrFail q => .rows fun rows =>
    match rows.head? with
    | some r => .ok ⟨q.table, q.primaryKey, r⟩
    | none => .error (.notFound ("No row in \"" ++ q.table ++ "\" matches the query"))
  | _, firstAs _ => .rows fun rows =>
    match rows.head? with
    | some r => (fromRow r).map some
    | none => .ok none
  | _, exists? _ => .rows fun rows => (Reading.firstRow rows).bind fun r => r.get "exists"
  | _, count _ => .rows fun rows => (Reading.firstRow rows).bind fun r => r.get "count"
  | _, pluck _ _ => .rows fun rows => rows.mapM fun r => r.getAt 0
  | _, aggregate _ _ _ => .rows fun rows => .ok ((rows.head?.bind fun r => r.valueAt? 0).getD .null)
  | _, insertExecute _ | _, updateExecute _ | _, updateRun _ | _, deleteExecute _
  | _, deleteRun _ => .written .ok

end Terminal

/-! ## Lemmas -/

namespace Reading

variable {σ β : Type}

theorem runOn_send (r : Reading β) (client : Client σ) (stmt : Statement) (s : σ) :
    (r.send client stmt).runOn s = r.result client stmt s := by
  cases r with
  | rows read =>
    rw [send, result, Run.runOn_bind]
    rcases (client.query stmt.text stmt.params).runOn s with ⟨error | rows, s'⟩
    · rfl
    · exact Run.runOn_ofExcept _ _
  | written read =>
    rw [send, result, Run.runOn_bind]
    rcases (client.execute stmt.text stmt.params).runOn s with ⟨error | n, s'⟩
    · rfl
    · exact Run.runOn_ofExcept _ _

theorem result_recorded (r : Reading β) (client : Client σ) (stmt : Statement) (s : σ)
    (calls : List ClientCall) :
    r.result client.recorded stmt (s, calls) =
      ((r.result client stmt s).1, (r.result client stmt s).2, calls ++ [r.call stmt]) := by
  cases r <;> rfl

end Reading

namespace Terminal

variable {σ β : Type}

theorem fetch_eq (client : Client σ) (x : Except RenderFault Statement)
    (k : List Row → Except Error β) :
    (do Run.ofExcept (k (← client.fetch x))) =
      Run.rendered x >>= fun stmt => (Reading.rows k).send client stmt := by
  rw [Client.fetch, bind_assoc]
  rfl

theorem fetchFirst?_eq (client : Client σ) (x : Except RenderFault Statement) :
    client.fetchFirst? x = (do return (← client.fetch x).head?) := by
  rw [Client.fetch, bind_assoc]
  rfl

theorem fetchOne_eq (client : Client σ) (x : Except RenderFault Statement) :
    client.fetchOne x = (do Run.ofExcept (Reading.firstRow (← client.fetch x))) := by
  simp only [Client.fetchOne, Client.queryOne, Client.queryFirst?, Client.fetch, bind_assoc,
    pure_bind, Reading.firstRow]
  refine bind_congr fun stmt => bind_congr fun rows => ?_
  cases rows.head? <;> rfl

/-- A terminal renders, sends, and reads. -/
theorem run_eq (client : Client σ) {β : Type} (t : Terminal β) :
    t.run client = Run.rendered t.statement >>= fun stmt => t.reading.send client stmt := by
  cases t with
  | query b =>
    rw [reading, ← fetch_eq]
    cases b <;> exact (bind_pure _).symm
  | fetchAll b =>
    rw [reading, ← fetch_eq]
    cases b <;> exact bind_congr fun rows => Run.mapM_ofExcept fromRow rows
  | all q =>
    rw [reading, ← fetch_eq]
    exact (bind_pure _).symm
  | first q =>
    rw [reading, ← fetch_eq, run, Select.first, fetchFirst?_eq, bind_assoc]
    rfl
  | firstOrFail q =>
    rw [reading, ← fetch_eq, run, Select.firstOrFail, Select.first, fetchFirst?_eq, bind_assoc,
      bind_assoc]
    refine bind_congr fun rows => ?_
    cases rows.head? <;> rfl
  | @firstAs α _ q =>
    rw [reading, ← fetch_eq, run, Select.firstAs, fetchFirst?_eq, bind_assoc]
    refine bind_congr fun rows => ?_
    cases rows.head? with
    | none => rfl
    | some r =>
      show some <$> Run.ofExcept (fromRow r : Except Error α) =
        Run.ofExcept ((fromRow r : Except Error α).map some)
      cases (fromRow r : Except Error α) <;> rfl
  | exists? q =>
    rw [reading, ← fetch_eq, run, Select.exists?, fetchOne_eq, bind_assoc]
    exact bind_congr fun rows => (Run.ofExcept_bind _ _).symm
  | count q =>
    rw [reading, ← fetch_eq, run, Select.count, fetchOne_eq, bind_assoc]
    exact bind_congr fun rows => (Run.ofExcept_bind _ _).symm
  | pluck q column =>
    rw [reading, ← fetch_eq]
    exact bind_congr fun rows => Run.mapM_ofExcept _ rows
  | aggregate q f column =>
    rw [reading, ← fetch_eq, run, Select.aggregate, fetchFirst?_eq, bind_assoc]
    rfl
  | insertExecute q | updateExecute q | updateRun q | deleteExecute q | deleteRun q =>
    exact bind_congr fun stmt => (bind_pure _).symm

theorem runOn_run (t : Terminal β) (client : Client σ) (s : σ) :
    (t.run client).runOn s =
      match t.statement with
      | .error fault => (.error fault.toError, s)
      | .ok stmt => t.reading.result client stmt s := by
  rw [run_eq]
  cases t.statement with
  | error fault => rfl
  | ok stmt => exact t.reading.runOn_send client stmt s

end Terminal

/-- The selection asked for in brackets, with a name for the answer. -/
theorem Select.existsStatement_eq (q : Select) :
    q.existsStatement = q.statement.map fun stmt =>
      ⟨"SELECT EXISTS(" ++ stmt.text ++ ") AS \"exists\"", stmt.params⟩ := by
  have htext : ∀ sql : Sql,
      Sql.text (.word "SELECT EXISTS(" :: sql ++ .word ")" :: Sql.named "exists") =
        "SELECT EXISTS(" ++ sql.text ++ ") AS \"exists\"" := by
    intro sql
    apply String.toList_injective
    simp only [Sql.text, List.cons_append, Sql.chars_cons, Sql.chars_append,
      String.toList_append, String.toList_ofList, List.append_assoc]
    rfl
  rw [existsStatement, statement, Render.statement, Render.statement, renderExists,
    Render.runOn_bind]
  rcases q.render.runOn .empty with ⟨fault | sql, p⟩
  · rfl
  · exact congrArg (fun text => Except.ok (Statement.mk text p.toList)) (htext sql)

/-! ## Top theorem -/

/-- **Terminals send what can be looked at.**  Where the statement of a terminal cannot be
written, the terminal fails with just that and makes no call; else it makes one call, with
the text and the values of the statement, and its result is read off the answer.  What is
asked for existence is the selection itself, in brackets. -/
theorem terminals_send {σ β : Type} (t : Terminal β) (client : Client σ) (s : σ)
    (calls : List ClientCall) :
    ((t.run client).runOn s =
      match t.statement with
      | .error fault => (.error fault.toError, s)
      | .ok stmt => t.reading.result client stmt s) ∧
    ((t.run client.recorded).runOn (s, calls) =
      match t.statement with
      | .error fault => (.error fault.toError, s, calls)
      | .ok stmt =>
        ((t.reading.result client stmt s).1, (t.reading.result client stmt s).2,
          calls ++ [t.reading.call stmt])) ∧
    ∀ q : Select, q.existsStatement = q.statement.map fun stmt =>
      ⟨"SELECT EXISTS(" ++ stmt.text ++ ") AS \"exists\"", stmt.params⟩ := by
  refine ⟨t.runOn_run client s, ?_, Select.existsStatement_eq⟩
  rw [t.runOn_run]
  cases t.statement with
  | error fault => rfl
  | ok stmt => exact t.reading.result_recorded client stmt s calls

/-- An earlier limit goes, the offset stays. -/
example : (Terminal.first (Select.ofCalls "t"
      [.scope (.limit 5), .scope (.offset 2), .orderByDesc "v"])).statement =
    .ok ⟨"SELECT * FROM \"t\" ORDER BY \"v\" DESC LIMIT 1 OFFSET 2", []⟩ := by
  decide

end TypedSql
