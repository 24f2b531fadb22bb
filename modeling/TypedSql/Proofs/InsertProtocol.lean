import TypedSql.Proofs.KeyStatements
import TypedSql.Proofs.Transcript

/-!
# The protocol of an insertion

An insertion is checked, made and fetched again in this order, and may stop after each step:

    [query check, execute stmt, lastInsertRowid, query refetch]              (Insert.script)

There is a check only where there are conditions, and the id is asked for only where the
payload has no value for the key.  `Insert.Protocol` has a rule for every way to stop, with the
calls up to there, their answers and the result.  Every run follows one of the rules, whatever
its client answers (`insertion_follows_protocol`).
-/

namespace TypedSql

def Exchange.isExecute : Exchange → Bool
  | execute _ _ => true
  | _ => false

namespace Insert

/-- Whether a stored row stands against the insertion, by the first row of the answer. -/
def found (rows : List Row) : Except Error Bool :=
  (Reading.firstRow rows).bind fun row => row.get "exists"

/-- What is asked before the insertion, and what comes of it. -/
inductive Asked (q : Insert) : List Exchange → Except Error Bool → Prop where
  | unconditional : q.unlessExists = none → Asked q [] (.ok false)
  | unwritable {fault : RenderFault} :
      q.precondition? = .error fault → Asked q [] (.error fault.toError)
  | answered {check : Statement} {answer : Except Error (List Row)} :
      q.precondition? = .ok (some check) → Asked q [.query check answer] (answer.bind found)

/-- By what the stored row is fetched: the value that the payload has for the key, else the
id of the row inserted last, which is asked for. -/
inductive Located (q : Insert) (key : String) : List Exchange → String → Value → Prop where
  | supplied {v : Value} : q.payload.get? key = some v → v ≠ .null → Located q key [] key v
  | filled {id : Int64} : (∀ v, q.payload.get? key = some v → v = .null) →
      Located q key [.lastInsertRowid id] "rowid" (.integer id)

/-- The stored row asked for by one value of one column. -/
def refetchStatement (q : Insert) (column : String) (v : Value) : Statement :=
  .onKey ("SELECT * FROM " ++ Name.written q.table) [] column v " LIMIT 1"

/-- What an insertion sends, with the answers, and what it comes to. -/
inductive Protocol (q : Insert) : List Exchange → Except Error (Option Row) → Prop where
  /-- the check cannot be written or answered, or its answer cannot be read -/
  | failed {asked : List Exchange} {e : Error} :
      q.Asked asked (.error e) → Protocol q asked (.error e)
  | blocked {asked : List Exchange} : q.Asked asked (.ok true) → Protocol q asked (.ok none)
  | unwritable {asked : List Exchange} {fault : RenderFault} :
      q.Asked asked (.ok false) → q.statement = .error fault →
      Protocol q asked (.error fault.toError)
  | refused {asked : List Exchange} {stmt : Statement} {e : Error} :
      q.Asked asked (.ok false) → q.statement = .ok stmt →
      Protocol q (asked ++ [.execute stmt (.error e)]) (.error e)
  /-- the engine writes no row -/
  | leftOut {asked : List Exchange} {stmt : Statement} :
      q.Asked asked (.ok false) → q.statement = .ok stmt →
      Protocol q (asked ++ [.execute stmt (.ok 0)]) (.ok none)
  | unkeyed {asked : List Exchange} {stmt : Statement} {n : Nat} :
      q.Asked asked (.ok false) → q.statement = .ok stmt → n ≠ 0 → q.primaryKey = none →
      Protocol q (asked ++ [.execute stmt (.ok n)]) (.ok (some (.ofPayload q.payload)))
  /-- the names of the last statement were read before, so it can always be written -/
  | fetched {asked located : List Exchange} {stmt : Statement} {n : Nat} {key column : String}
      {v : Value} {answer : Except Error (List Row)} :
      q.Asked asked (.ok false) → q.statement = .ok stmt → n ≠ 0 → q.primaryKey = some key →
      q.Located key located column v →
      Protocol q
        (asked ++ .execute stmt (.ok n) ::
          (located ++ [.query (q.refetchStatement column v) answer]))
        (answer.map List.head?)

/-! ## The calls in their order -/

def checkCalls (q : Insert) : List ClientCall :=
  match q.precondition? with
  | .ok (some check) => [.query check.text check.params]
  | _ => []

def executeCalls (q : Insert) : List ClientCall :=
  match q.statement with
  | .ok stmt => [.execute stmt.text stmt.params]
  | .error _ => []

def refetchCall (q : Insert) (column : String) (v : Value) : ClientCall :=
  .query (q.refetchStatement column v).text (q.refetchStatement column v).params

/-- The calls by which the stored row is read again, `id` being the id of the row inserted
last. -/
def refetchCalls (q : Insert) (id : Int64) : List ClientCall :=
  match q.primaryKey with
  | none => []
  | some key => match (q.payload.get? key).filter fun v => !v.isNull with
    | some v => [q.refetchCall key v]
    | none => [.lastInsertRowid, q.refetchCall "rowid" (.integer id)]

/-- All calls of an insertion that goes to its end. -/
def script (q : Insert) (id : Int64) : List ClientCall :=
  q.checkCalls ++ q.executeCalls ++ q.refetchCalls id

/-! ## Lemmas: a run follows the protocol -/

section

open Errand

variable {σ : Type} {client : Client σ} {s t : σ}

/-- What is said of a stored row that stands against the insertion. -/
def noted (q : Insert) (blocked : Bool) : Errand Bool := fun client => do
  if blocked then client.note (.insertSkipped q.table)
  return blocked

def check (q : Insert) : Option Statement → Errand Bool
  | none => fun _ => return false
  | some stmt => fun client => (Reading.rows found).send client stmt >>= fun blocked =>
      q.noted blocked client

theorem queryOne_eq (client : Client σ) (stmt : Statement) :
    client.queryOne stmt.text stmt.params = (Reading.rows Reading.firstRow).send client stmt := by
  rw [Client.queryOne, Client.queryFirst?, bind_assoc]
  refine bind_congr fun rows => ?_
  rw [pure_bind, Reading.firstRow]
  cases rows.head? <;> rfl

theorem isBlocked_eq (q : Insert) (client : Client σ) :
    q.isBlocked client = Run.rendered q.precondition? >>= fun check? => q.check check? client := by
  refine bind_congr fun check? => ?_
  cases check? with
  | none => rfl
  | some stmt =>
    show (client.queryOne stmt.text stmt.params >>= _) = (Reading.rows found).send client stmt >>= _
    rw [queryOne_eq, Reading.send, Reading.send, bind_assoc, bind_assoc]
    refine bind_congr fun rows => ?_
    rw [found, Run.ofExcept_bind, bind_assoc]
    rfl

theorem runs_noted (q : Insert) (blocked : Bool) (client : Client σ) (s : σ) :
    ∃ u, Runs (q.noted blocked) client s [] (.ok blocked) u := by
  cases blocked with
  | false => exact ⟨_, .pure false⟩
  | true =>
    exact ⟨_, .bind (k := fun _ => fun _ => return true) (.note (.insertSkipped q.table))
      (.pure true)⟩

theorem runs_check (q : Insert) (stmt : Statement) (client : Client σ) (s : σ) :
    ∃ answer u, Runs (q.check (some stmt)) client s [.query stmt answer] (answer.bind found) u := by
  rcases hanswer : (client.query stmt.text stmt.params).runOn s with ⟨answer, t⟩
  have hrows := Runs.rows found hanswer
  cases hfound : answer.bind found with
  | error e =>
    refine ⟨answer, t, ?_⟩
    rw [hfound] at hrows ⊢
    exact .bind_error (k := q.noted) hrows
  | ok blocked =>
    obtain ⟨u, hu⟩ := q.runs_noted blocked client t
    refine ⟨answer, u, ?_⟩
    rw [hfound] at hrows ⊢
    exact .bind hrows hu

theorem unlessExists_eq_none (q : Insert) (h : q.precondition? = .ok none) :
    q.unlessExists = none := by
  rw [precondition?] at h
  cases hc : q.unlessExists with
  | none => rfl
  | some c =>
    rw [hc] at h
    cases hs : (q.renderPrecondition c).statement with
    | ok stmt => simp [hs, Except.map] at h
    | error fault => simp [hs, Except.map] at h

theorem runs_isBlocked (q : Insert) (client : Client σ) (s : σ) :
    ∃ asked outcome t, Runs q.isBlocked client s asked outcome t ∧ q.Asked asked outcome := by
  have heq : ∀ {τ : Type} (client : Client τ),
      (Run.rendered q.precondition? >>= fun check? => q.check check? client) =
        q.isBlocked client := fun client => (q.isBlocked_eq client).symm
  cases hpre : q.precondition? with
  | error fault =>
    exact ⟨_, _, _, (Runs.rendered_error (k := q.check) hpre).of_eq heq, .unwritable hpre⟩
  | ok check? =>
    cases check? with
    | none =>
      refine ⟨_, _, _, (Runs.rendered_ok (k := q.check) hpre (.pure false)).of_eq heq,
        .unconditional (q.unlessExists_eq_none hpre)⟩
    | some stmt =>
      obtain ⟨answer, u, hu⟩ := q.runs_check stmt client s
      exact ⟨_, _, u, (Runs.rendered_ok (k := q.check) hpre hu).of_eq heq, .answered hpre⟩

/-- The payload has a value for the key. -/
theorem supplied_iff (q : Insert) (key : String) (v : Value) :
    (q.payload.get? key).filter (fun v => !v.isNull) = some v ↔
      q.payload.get? key = some v ∧ v ≠ .null := by
  rw [Option.filter_eq_some_iff, Bool.not_eq_true', ← Bool.not_eq_true, Value.isNull_iff]

theorem filled_iff (q : Insert) (key : String) :
    (q.payload.get? key).filter (fun v => !v.isNull) = none ↔
      ∀ v, q.payload.get? key = some v → v = .null := by
  simp [Option.filter_eq_none_iff]

/-- Once the insertion could be written, the names of the re-fetch are accepted. -/
theorem accepted (q : Insert) {stmt : Statement} (h : q.statement = .ok stmt) :
    ∀ text ∈ q.table :: q.payload.columns, Name.Accepted text := by
  have hfault := (Request.draft?_of_statement? (r := .insert q) (s := stmt) (by
    rw [Request.statement?, h]
    rfl)).1
  rw [Request.fault?_eq_none_iff, Step.firstFault?_eq_none_iff] at hfault
  intro text htext
  refine hfault.1 text ?_
  show Step.read text ∈ [.read q.table] ++ q.payload.steps
  simpa [q.payload.read_mem_steps_iff] using htext

theorem Located.accepted {q : Insert} {key column : String} {located : List Exchange} {v : Value}
    (h : q.Located key located column v)
    (hcolumns : ∀ text ∈ q.payload.columns, Name.Accepted text) : Name.Accepted column := by
  cases h with
  | supplied hget _ =>
    obtain ⟨before, after, hentries, -⟩ := List.lookup_eq_some_iff.1 hget
    have hmem : (key, v) ∈ q.payload.entries := by
      rw [hentries]
      exact List.mem_append_right _ List.mem_cons_self
    exact hcolumns key (List.mem_map_of_mem hmem)
  | filled _ => exact ⟨_, rfl⟩

/-- The selection of the stored row. -/
def refetchSelect (q : Insert) (column : String) (v : Value) : Select :=
  Select.ofCalls q.table [.scope (.andWhere (.single column (.scalar v))), .scope (.limit 1)]

def refetchBy (q : Insert) (column : String) (v : Value) : Errand (Option Row) := fun client =>
  client.fetchFirst? (q.refetchSelect column v).statement

theorem runs_refetchBy (q : Insert) {column : String} (v : Value)
    (htable : Name.Accepted q.table) (hcolumn : Name.Accepted column) (client : Client σ) (s : σ) :
    ∃ answer u, Runs (q.refetchBy column v) client s [.query (q.refetchStatement column v) answer]
      (answer.map List.head?) u := by
  have hstmt : (q.refetchSelect column v).statement = .ok (q.refetchStatement column v) :=
    (asks_rows_byKey q.table column v none).statement_eq rfl
      (List.forall_mem_cons.2 ⟨htable, List.forall_mem_singleton.2 hcolumn⟩)
  rcases hanswer : (client.query (q.refetchStatement column v).text
    (q.refetchStatement column v).params).runOn s with ⟨answer, u⟩
  exact ⟨answer, u, .rendered_ok hstmt (.rows (fun rows => .ok rows.head?) hanswer)⟩

/-- The column to look at is found, and then the row is read. -/
theorem runs_refetch (q : Insert) (key : String)
    (hnames : ∀ text ∈ q.table :: q.payload.columns, Name.Accepted text) (client : Client σ)
    (s : σ) :
    ∃ located column v answer u, q.Located key located column v ∧
      Runs (fun client => q.refetch client key) client s
        (located ++ [.query (q.refetchStatement column v) answer]) (answer.map List.head?) u := by
  have haccepted := List.forall_mem_cons.1 hnames
  cases hfilter : (q.payload.get? key).filter fun v => !v.isNull with
  | some v =>
    have heq : ∀ {τ : Type} (client : Client τ),
        q.refetchBy key v client = q.refetch client key := by
      intro τ client
      rw [refetch, hfilter]
      rfl
    obtain ⟨hget, hnull⟩ := (q.supplied_iff key v).1 hfilter
    have hlocated : q.Located key [] key v := .supplied hget hnull
    obtain ⟨answer, u, hu⟩ := q.runs_refetchBy v haccepted.1 (hlocated.accepted haccepted.2)
      client s
    exact ⟨[], key, v, answer, u, hlocated, hu.of_eq heq⟩
  | none =>
    have heq : ∀ {τ : Type} (client : Client τ),
        (liftM client.lastInsertRowid >>= fun id => q.refetchBy "rowid" (.integer id) client) =
          q.refetch client key := by
      intro τ client
      rw [refetch, hfilter]
      rfl
    have hlocated : q.Located key [.lastInsertRowid (client.lastInsertRowid s).1] "rowid"
        (.integer (client.lastInsertRowid s).1) := .filled ((q.filled_iff key).1 hfilter)
    obtain ⟨answer, u, hu⟩ := q.runs_refetchBy (.integer (client.lastInsertRowid s).1)
      haccepted.1 (hlocated.accepted haccepted.2) client (client.lastInsertRowid s).2
    exact ⟨_, "rowid", _, answer, u, hlocated,
      (Runs.bind (k := fun id => q.refetchBy "rowid" (.integer id)) .lastInsertRowid hu).of_eq heq⟩

/-- What comes after the insertion that has written `n` rows. -/
def afterExecute (q : Insert) (n : Nat) : Errand (Option Row) := fun client =>
  if n = 0 then return none
  else match q.primaryKey with
    | none => return some (.ofPayload q.payload)
    | some key => q.refetch client key

def afterCheck (q : Insert) (blocked : Bool) : Errand (Option Row) := fun client =>
  if blocked then return none
  else q.execute client >>= fun n => q.afterExecute n client

theorem run_eq (q : Insert) (client : Client σ) :
    q.run client = q.isBlocked client >>= fun blocked => q.afterCheck blocked client := by
  refine bind_congr fun blocked => ?_
  cases blocked with
  | true => rfl
  | false => exact bind_congr fun n => rfl

theorem runs_afterExecute {q : Insert} {asked : List Exchange} {stmt : Statement} {n : Nat}
    (hasked : q.Asked asked (.ok false)) (hstmt : q.statement = .ok stmt) (client : Client σ)
    (s : σ) :
    ∃ log outcome u, Runs (q.afterExecute n) client s log outcome u ∧
      q.Protocol (asked ++ .execute stmt (.ok n) :: log) outcome := by
  by_cases hn : n = 0
  · subst hn
    exact ⟨[], _, s, .pure none, .leftOut hasked hstmt⟩
  cases hkey : q.primaryKey with
  | none =>
    have heq : ∀ {τ : Type} (client : Client τ),
        (return some (.ofPayload q.payload)) = q.afterExecute n client := by
      intro τ client
      rw [afterExecute, if_neg hn, hkey]
    exact ⟨[], _, s, (Runs.pure _).of_eq heq, .unkeyed hasked hstmt hn hkey⟩
  | some key =>
    have heq : ∀ {τ : Type} (client : Client τ),
        q.refetch client key = q.afterExecute n client := by
      intro τ client
      rw [afterExecute, if_neg hn, hkey]
    obtain ⟨located, column, v, answer, u, hlocated, hruns⟩ :=
      q.runs_refetch key (q.accepted hstmt) client s
    exact ⟨_, _, u, hruns.of_eq heq, .fetched hasked hstmt hn hkey hlocated⟩

theorem runs_afterCheck {q : Insert} {asked : List Exchange}
    (hasked : q.Asked asked (.ok false)) (client : Client σ) (s : σ) :
    ∃ log outcome u, Runs (q.afterCheck false) client s log outcome u ∧
      q.Protocol (asked ++ log) outcome := by
  cases hstmt : q.statement with
  | error fault =>
    have hexecute : Runs (fun client => q.execute client) client s [] (.error fault.toError) s :=
      .rendered_error hstmt
    refine ⟨[], _, s, .bind_error (k := q.afterExecute) hexecute, ?_⟩
    rw [List.append_nil]
    exact .unwritable hasked hstmt
  | ok stmt =>
    rcases hanswer : (client.execute stmt.text stmt.params).runOn s with ⟨answer, t⟩
    have hexecute : Runs (fun client => q.execute client) client s [.execute stmt answer] answer
        t := .rendered_ok hstmt (.execute hanswer)
    cases answer with
    | error e =>
      exact ⟨_, _, t, .bind_error (k := q.afterExecute) hexecute, .refused hasked hstmt⟩
    | ok n =>
      obtain ⟨log, outcome, u, hruns, hprotocol⟩ := runs_afterExecute (n := n) hasked hstmt client t
      exact ⟨_, outcome, u, .bind (k := q.afterExecute) hexecute hruns, hprotocol⟩

/-- A run goes one of the ways of the protocol. -/
theorem runs_protocol (q : Insert) (client : Client σ) (s : σ) :
    ∃ log outcome u, Runs q.run client s log outcome u ∧ q.Protocol log outcome := by
  have heq : ∀ {τ : Type} (client : Client τ),
      (q.isBlocked client >>= fun blocked => q.afterCheck blocked client) = q.run client :=
    fun client => (q.run_eq client).symm
  obtain ⟨asked, outcome, t, hruns, hasked⟩ := q.runs_isBlocked client s
  match outcome with
  | .error e =>
    exact ⟨_, _, t, (Runs.bind_error (k := q.afterCheck) hruns).of_eq heq, .failed hasked⟩
  | .ok true =>
    refine ⟨_, _, t, (Runs.bind (k := q.afterCheck) hruns (.pure none)).of_eq heq, ?_⟩
    rw [List.append_nil]
    exact .blocked hasked
  | .ok false =>
    obtain ⟨log, outcome, u, hlog, hprotocol⟩ := runs_afterCheck hasked client t
    exact ⟨_, outcome, u, (Runs.bind (k := q.afterCheck) hruns hlog).of_eq heq, hprotocol⟩

end

/-! ## Lemmas: what the protocol sends -/

section

variable {q : Insert} {asked log : List Exchange}

theorem Asked.exists_query {outcome : Except Error Bool} (h : q.Asked asked outcome) :
    ∀ x ∈ asked, ∃ check answer, x = .query check answer := by
  cases h with
  | unconditional | unwritable => exact List.forall_mem_nil _
  | answered => exact List.forall_mem_singleton.2 ⟨_, _, rfl⟩

theorem Asked.isExecute_eq_false {outcome : Except Error Bool} (h : q.Asked asked outcome) :
    ∀ x ∈ asked, x.isExecute = false := by
  intro x hx
  obtain ⟨check, answer, rfl⟩ := h.exists_query x hx
  rfl

/-- What may be sent after the insertion. -/
inductive Followed (q : Insert) : List Exchange → Prop where
  | stopped : Followed q []
  | fetched {located : List Exchange} {key column : String} {v : Value}
      {answer : Except Error (List Row)} : q.primaryKey = some key →
      q.Located key located column v →
      Followed q (located ++ [.query (q.refetchStatement column v) answer])

theorem Followed.isExecute_eq_false (h : q.Followed log) : ∀ x ∈ log, x.isExecute = false := by
  cases h with
  | stopped => exact List.forall_mem_nil _
  | fetched _ hlocated => cases hlocated <;> simp [Exchange.isExecute]

/-- A log has the check alone, or it has the check, one execution and what follows it. -/
theorem Protocol.split {outcome : Except Error (Option Row)} (h : q.Protocol log outcome) :
    (∃ o, q.Asked log o) ∨
      ∃ asked stmt answer rest, log = asked ++ .execute stmt answer :: rest ∧
        q.Asked asked (.ok false) ∧ q.statement = .ok stmt ∧ q.Followed rest := by
  cases h with
  | failed h | blocked h | unwritable h _ => exact .inl ⟨_, h⟩
  | refused h hstmt | leftOut h hstmt | unkeyed h hstmt _ _ =>
    exact .inr ⟨_, _, _, [], rfl, h, hstmt, .stopped⟩
  | fetched h hstmt _ hkey hlocated =>
    exact .inr ⟨_, _, _, _, rfl, h, hstmt, .fetched hkey hlocated⟩

end

end Insert

/-! ## Top theorem -/

/-- A key that the engine fills in: the row is read again by its id. -/
example :
    let q := Insert.ofCalls "t" (.single "v" (.integer 1))
      [.primaryKey "id", .ifNotExists (.single "v" (.scalar (.integer 1)))]
    let script : Script :=
      ⟨[.answer none [⟨[("exists", .integer 0)]⟩] 0, .answer (some 7) [] 1, .answer none [] 0],
        0, []⟩
    ((q.run Script.client).runOn script).2.calls = q.script 7 := by
  decide

end TypedSql
