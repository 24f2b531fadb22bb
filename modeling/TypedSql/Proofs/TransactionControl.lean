import TypedSql.Proofs.TransactionBracket

/-!
# Transaction control over whole programs

A program runs statements and controls transactions on one handle; the body of a transaction
is again such a program, and what a program does next depends on what came of the last step,
be it an error or not.  A watched engine writes down the batches that are sent to it, and
whether a transaction was open before each.  Every rule of the handle keeps them in place:

    BEGIN where none is open, COMMIT and ROLLBACK where one is       (Sent.Placed)

`Mirrors` says this of a run, and that watching it changes nothing; it holds of every program
(`Program.mirrors`).
-/

namespace TypedSql

/-! ## Watching the engine -/

/-- A batch that was sent, and whether a transaction was open before it. -/
structure Sent where
  sql : String
  isOpen : Bool
deriving DecidableEq

/-- A bracket where it belongs. -/
inductive Sent.Placed : Sent → Prop where
  | begin : Placed ⟨"BEGIN", false⟩
  | commit : Placed ⟨"COMMIT", true⟩
  | rollback : Placed ⟨"ROLLBACK", true⟩

/-- The same engine, with all batches written down. -/
def Engine.watched {σ S : Type} (e : Engine σ S) : Engine (σ × List Sent) S :=
  { e.beside (List Sent) with
    batch := fun sql s =>
      let (a, t) := e.batch sql s.1
      (a, t, s.2 ++ [⟨sql, !e.autocommit s.1⟩]) }

/-- The handle on the watched engine. -/
def Database.watched {σ S : Type} (log : List Sent) (db : Database σ S) :
    Database (σ × List Sent) S where
  config := db.config
  cache := db.cache
  connection := ⟨(db.connection.engine, log), db.connection.log⟩

/-! ## Programs -/

/-- Statements and transaction control, each step chosen by what came of those before it. -/
inductive Program : Type → Type 1 where
  | done {α : Type} (outcome : Except Error α) : Program α
  | query {α : Type} (sql : String) (params : List Value)
      (next : Except Error (List Row) → Program α) : Program α
  | execute {α : Type} (sql : String) (params : List Value)
      (next : Except Error Nat → Program α) : Program α
  | begin {α : Type} (next : Except Error Unit → Program α) : Program α
  | commit {α : Type} (next : Except Error Unit → Program α) : Program α
  | rollback {α : Type} (next : Except Error Unit → Program α) : Program α
  | transaction {α β : Type} (body : Program β) (next : Except Error β → Program α) : Program α

namespace Program

variable {σ S : Type}

def run (e : Engine σ S) : {α : Type} → Program α → Run (Database σ S) α
  | _, done outcome => Run.ofExcept outcome
  | _, query sql params next => do
    (next (← ((Database.client e).query sql params).attempt)).run e
  | _, execute sql params next => do
    (next (← ((Database.client e).execute sql params).attempt)).run e
  | _, begin next => do (next (← (Database.begin e).attempt)).run e
  | _, commit next => do (next (← (Database.commit e).attempt)).run e
  | _, rollback next => do (next (← (Database.rollback e).attempt)).run e
  | _, transaction body next => do
    (next (← (Database.transaction e (body.run e)).attempt)).run e

end Program

/-! ## Lemmas -/

namespace Database

variable {σ S α β : Type} {e : Engine σ S}

/-- The run on the watched engine is the same, and sends brackets where they belong. -/
def Mirrors (m : Run (Database σ S) α) (m' : Run (Database (σ × List Sent) S) α) : Prop :=
  ∀ db log, ∃ sent, m'.runOn (db.watched log) =
    ((m.runOn db).1, (m.runOn db).2.watched (log ++ sent)) ∧ ∀ x ∈ sent, x.Placed

/-- What does not send anything. -/
theorem Mirrors.of_eq {m : Run (Database σ S) α} {m' : Run (Database (σ × List Sent) S) α}
    (h : ∀ db log, m'.runOn (db.watched log) = ((m.runOn db).1, (m.runOn db).2.watched log)) :
    Mirrors m m' := by
  intro db log
  exact ⟨[], by rw [List.append_nil, h], List.forall_mem_nil _⟩

theorem Mirrors.ofExcept (x : Except Error α) :
    Mirrors (Run.ofExcept x : Run (Database σ S) α) (Run.ofExcept x) :=
  .of_eq fun db log => by rw [Run.runOn_ofExcept, Run.runOn_ofExcept]

theorem Mirrors.pure (a : α) : Mirrors (pure a : Run (Database σ S) α) (pure a) := ofExcept (.ok a)

theorem Mirrors.throw (error : Error) :
    Mirrors (throw error : Run (Database σ S) α) (throw error) := ofExcept (.error error)

theorem Mirrors.bind {m : Run (Database σ S) α} {m' : Run (Database (σ × List Sent) S) α}
    {k : α → Run (Database σ S) β} {k' : α → Run (Database (σ × List Sent) S) β}
    (hm : Mirrors m m') (hk : ∀ a, Mirrors (k a) (k' a)) : Mirrors (m >>= k) (m' >>= k') := by
  intro db log
  obtain ⟨sent, hrun, hsent⟩ := hm db log
  rcases hfirst : m.runOn db with ⟨error | a, db₁⟩
  · rw [hfirst] at hrun
    refine ⟨sent, ?_, hsent⟩
    rw [Run.runOn_bind_error hrun, Run.runOn_bind_error hfirst]
  · rw [hfirst] at hrun
    obtain ⟨sent', hrun', hsent'⟩ := hk a db₁ (log ++ sent)
    refine ⟨sent ++ sent', ?_, List.forall_mem_append.2 ⟨hsent, hsent'⟩⟩
    rw [Run.runOn_bind_ok hrun, Run.runOn_bind_ok hfirst, hrun', List.append_assoc]

theorem Mirrors.attempt {m : Run (Database σ S) α} {m' : Run (Database (σ × List Sent) S) α}
    (hm : Mirrors m m') : Mirrors m.attempt m'.attempt := by
  intro db log
  obtain ⟨sent, hrun, hsent⟩ := hm db log
  exact ⟨sent, by rw [Run.runOn_attempt, Run.runOn_attempt, hrun], hsent⟩

theorem Mirrors.get_bind {k : Database σ S → Run (Database σ S) α}
    {k' : Database (σ × List Sent) S → Run (Database (σ × List Sent) S) α}
    (hk : ∀ db log, Mirrors (k db) (k' (db.watched log))) : Mirrors (get >>= k) (get >>= k') := by
  intro db log
  rw [Run.runOn_bind_ok (Run.runOn_get _), Run.runOn_bind_ok (Run.runOn_get _)]
  exact hk db log db log

theorem mirrors_note (event : Event) :
    Mirrors (note event : Run (Database σ S) Unit) (note event) :=
  .of_eq fun _ _ => rfl

theorem mirrors_call {f : σ → Except EngineFault α × σ}
    {f' : σ × List Sent → Except EngineFault α × σ × List Sent}
    (hf : ∀ s log, f' (s, log) = ((f s).1, (f s).2, log)) :
    Mirrors (call f : Run (Database σ S) α) (call f') :=
  .of_eq fun db log => by
    rw [runOn_call, runOn_call]
    show _ = _
    rw [show (db.watched log).connection.engine = (db.connection.engine, log) from rfl, hf]
    rfl

/-! ### Statements -/

theorem mirrors_cached (sql : String) : Mirrors (cached e sql) (cached e.watched sql) :=
  .of_eq fun db log => by
    have hcache : (db.watched log).cache.prepared[sql]? = db.cache.prepared[sql]? := rfl
    have hprepare' : e.watched.prepare sql (db.watched log).connection.engine =
        ((e.prepare sql db.connection.engine).1, (e.prepare sql db.connection.engine).2, log) := rfl
    cases hstmt : db.cache.prepared[sql]? with
    | some stmt =>
      rw [runOn_cached_hit e hstmt, runOn_cached_hit e.watched (hcache.trans hstmt)]
      rfl
    | none =>
      rcases hprepare : e.prepare sql db.connection.engine with ⟨fault | stmt, s⟩
      · rw [hprepare] at hprepare'
        rw [runOn_cached_refused e hstmt hprepare,
          runOn_cached_refused e.watched (hcache.trans hstmt) hprepare']
        rfl
      · rw [hprepare] at hprepare'
        rw [runOn_cached_added e hstmt hprepare,
          runOn_cached_added e.watched (hcache.trans hstmt) hprepare']
        rfl

theorem mirrors_prepared (sql : String) : Mirrors (prepared e sql) (prepared e.watched sql) := by
  refine .get_bind fun db log => ?_
  show Mirrors (if db.config.usesCache then _ else _) (if db.config.usesCache then _ else _)
  cases db.config.usesCache with
  | true => exact mirrors_cached sql
  | false => exact .bind (mirrors_call fun _ _ => rfl) fun stmt => .pure (stmt, Lookup.off)

theorem mirrors_withStatement (sql : String) (params : List Value)
    (use : S → σ → Except EngineFault α × σ)
    (use' : S → σ × List Sent → Except EngineFault α × σ × List Sent)
    (huse : ∀ stmt s log, use' stmt (s, log) = ((use stmt s).1, (use stmt s).2, log)) :
    Mirrors (withStatement e sql params use) (withStatement e.watched sql params use') := by
  refine .get_bind fun db log => .bind (mirrors_prepared sql) fun found =>
    .get_bind fun db₁ log₁ => .bind (mirrors_note _) fun _ =>
      .bind (mirrors_call (huse found.1)).attempt fun outcome => .get_bind fun db₂ log₂ => ?_
  have hconfig : (db₂.watched log₂).config = db₂.config := rfl
  rw [hconfig]
  cases db₂.config.slowThreshold with
  | none => exact .ofExcept outcome
  | some t =>
    show Mirrors (if t ≤ e.clock db₂.connection.engine - e.clock db.connection.engine then _ else _)
      (if t ≤ e.clock db₂.connection.engine - e.clock db.connection.engine then _ else _)
    split
    · exact .bind (mirrors_note _) fun _ => .ofExcept outcome
    · exact .ofExcept outcome

theorem mirrors_query (sql : String) (params : List Value) :
    Mirrors ((client e).query sql params) ((client e.watched).query sql params) :=
  mirrors_withStatement sql params (fun stmt => e.query stmt params)
    (fun stmt => e.watched.query stmt params) fun _ _ _ => rfl

theorem mirrors_execute (sql : String) (params : List Value) :
    Mirrors ((client e).execute sql params) ((client e.watched).execute sql params) :=
  mirrors_withStatement sql params (fun stmt => e.execute stmt params)
    (fun stmt => e.watched.execute stmt params) fun _ _ _ => rfl

/-! ### Transactions -/

theorem begin_refused {db : Database σ S} (hopen : inTransaction e db = true) :
    ∃ message, (begin e).runOn db = (.error (.transaction message), db) :=
  ⟨_, by rw [runOn_begin, if_pos hopen]⟩

theorem finish_refused {db : Database σ S} (b : Bracket) (hclosed : inTransaction e db = false) :
    ∃ message, (finish e b).runOn db = (.error (.transaction message), db) :=
  ⟨_, by rw [runOn_finish, hclosed, if_neg Bool.false_ne_true]⟩

/-- A bracket is one batch, and nothing else is sent. -/
theorem watched_bracket (b : Bracket) (db : Database σ S) (log : List Sent) :
    (bracket e.watched b).runOn (db.watched log) = (((bracket e b).runOn db).1,
      ((bracket e b).runOn db).2.watched (log ++ [⟨b.sql, inTransaction e db⟩])) := by
  rw [runOn_bracket, runOn_bracket]
  rfl

theorem watched_begin {db : Database σ S} (hclosed : inTransaction e db = false)
    (log : List Sent) :
    (begin e.watched).runOn (db.watched log) =
      (((begin e).runOn db).1, ((begin e).runOn db).2.watched (log ++ [⟨"BEGIN", false⟩])) := by
  have hwatched : inTransaction e.watched (db.watched log) = false := hclosed
  rw [runOn_begin, runOn_begin, hwatched, hclosed, if_neg Bool.false_ne_true,
    if_neg Bool.false_ne_true, watched_bracket, hclosed]
  rfl

theorem watched_finish {db : Database σ S} (b : Bracket) (hopen : inTransaction e db = true)
    (log : List Sent) :
    (finish e.watched b).runOn (db.watched log) =
      (((finish e b).runOn db).1, ((finish e b).runOn db).2.watched (log ++ [⟨b.sql, true⟩])) := by
  have hwatched : inTransaction e.watched (db.watched log) = true := hopen
  rw [runOn_finish, runOn_finish, if_pos hwatched, if_pos hopen, watched_bracket, hopen]

theorem mirrors_begin : Mirrors (begin e) (begin e.watched) := by
  intro db log
  cases hopen : inTransaction e db with
  | false => exact ⟨_, watched_begin hopen log, List.forall_mem_singleton.2 .begin⟩
  | true =>
    have hwatched : inTransaction e.watched (db.watched log) = true := hopen
    refine ⟨[], ?_, List.forall_mem_nil _⟩
    rw [runOn_begin, runOn_begin, if_pos hwatched, if_pos hopen, List.append_nil]

theorem mirrors_finish {b : Bracket} (hb : Sent.Placed ⟨b.sql, true⟩) :
    Mirrors (finish e b) (finish e.watched b) := by
  intro db log
  cases hopen : inTransaction e db with
  | true => exact ⟨_, watched_finish b hopen log, List.forall_mem_singleton.2 hb⟩
  | false =>
    have hwatched : inTransaction e.watched (db.watched log) = false := hopen
    refine ⟨[], ?_, List.forall_mem_nil _⟩
    rw [runOn_finish, runOn_finish, hwatched, hopen, if_neg Bool.false_ne_true,
      if_neg Bool.false_ne_true, List.append_nil]

theorem mirrors_commit : Mirrors (commit e) (commit e.watched) := mirrors_finish .commit

theorem mirrors_rollback : Mirrors (rollback e) (rollback e.watched) := mirrors_finish .rollback

theorem mirrors_abort (error : Error) :
    Mirrors (abort e error : Run (Database σ S) α) (abort e.watched error) := by
  refine .get_bind fun db log => ?_
  show Mirrors (if !inTransaction e db then _ else _) (if !inTransaction e db then _ else _)
  cases inTransaction e db with
  | false => exact .throw error
  | true =>
    refine .bind mirrors_rollback.attempt fun outcome => ?_
    cases outcome with
    | ok => exact .throw error
    | error failure => exact .throw _

/-- What holds of the body holds of the transaction, however the body ends. -/
theorem mirrors_transaction {body : Run (Database σ S) α}
    {body' : Run (Database (σ × List Sent) S) α} (hbody : Mirrors body body') :
    Mirrors (transaction e body) (transaction e.watched body') := by
  refine .bind mirrors_begin fun _ => .bind hbody.attempt fun outcome => ?_
  cases outcome with
  | error error => exact mirrors_abort error
  | ok a =>
    refine .bind mirrors_commit.attempt fun outcome => ?_
    cases outcome with
    | ok => exact .pure a
    | error error => exact mirrors_abort error

end Database

open Database in
/-- By induction on the program: one step, and what comes after it. -/
theorem Program.mirrors {σ S α : Type} (e : Engine σ S) (p : Program α) :
    Mirrors (p.run e) (p.run e.watched) := by
  induction p with
  | done outcome => exact .ofExcept outcome
  | query sql params next ih =>
    exact .bind (mirrors_query sql params).attempt ih
  | execute sql params next ih =>
    exact .bind (mirrors_execute sql params).attempt ih
  | begin next ih => exact .bind mirrors_begin.attempt ih
  | commit next ih => exact .bind mirrors_commit.attempt ih
  | rollback next ih => exact .bind mirrors_rollback.attempt ih
  | transaction body next ihbody ih => exact .bind (mirrors_transaction ihbody).attempt ih

/-! ## Top theorem -/

open Database in
/-- What the engine sees of a program, and what a call out of turn comes to. -/
structure Engine.Controlled {σ S : Type} (e : Engine σ S) : Prop where
  /-- a whole program runs the same when it is watched, and its brackets are where they belong -/
  placed : ∀ {α : Type} (p : Program α), Mirrors (p.run e) (p.run e.watched)
  begin_sent : ∀ (db : Database σ S) (log : List Sent), inTransaction e db = false →
    (begin e.watched).runOn (db.watched log) =
      (((begin e).runOn db).1, ((begin e).runOn db).2.watched (log ++ [⟨"BEGIN", false⟩]))
  commit_sent : ∀ (db : Database σ S) (log : List Sent), inTransaction e db = true →
    (commit e.watched).runOn (db.watched log) =
      (((commit e).runOn db).1, ((commit e).runOn db).2.watched (log ++ [⟨"COMMIT", true⟩]))
  rollback_sent : ∀ (db : Database σ S) (log : List Sent), inTransaction e db = true →
    (rollback e.watched).runOn (db.watched log) =
      (((rollback e).runOn db).1, ((rollback e).runOn db).2.watched (log ++ [⟨"ROLLBACK", true⟩]))
  begin_refused : ∀ db : Database σ S, inTransaction e db = true →
    ∃ message, (begin e).runOn db = (.error (.transaction message), db)
  commit_refused : ∀ db : Database σ S, inTransaction e db = false →
    ∃ message, (commit e).runOn db = (.error (.transaction message), db)
  rollback_refused : ∀ db : Database σ S, inTransaction e db = false →
    ∃ message, (rollback e).runOn db = (.error (.transaction message), db)
  /-- whatever the body is: it is not run -/
  transaction_refused : ∀ {β : Type} (body : Run (Database σ S) β) (db : Database σ S),
    inTransaction e db = true →
      ∃ message, (transaction e body).runOn db = (.error (.transaction message), db)

/-- **Transaction control is never misused.**  Of every program, on every engine, each BEGIN is
sent while no transaction is open and each COMMIT and ROLLBACK while one is; nothing is asked of
how the engine changes its flag.  A call in its turn sends its bracket.  A call out of turn is an
error, and the handle and the engine are what they were; so is a transaction within another,
which stays open. -/
theorem transactions_are_controlled {σ S : Type} (e : Engine σ S) : e.Controlled where
  placed p := p.mirrors e
  begin_sent _ log hclosed := Database.watched_begin hclosed log
  commit_sent _ log hopen := Database.watched_finish .commit hopen log
  rollback_sent _ log hopen := Database.watched_finish .rollback hopen log
  begin_refused _ hopen := Database.begin_refused hopen
  commit_refused _ hclosed := Database.finish_refused .commit hclosed
  rollback_refused _ hclosed := Database.finish_refused .rollback hclosed
  transaction_refused _ _ hopen :=
    let ⟨message, hbegin⟩ := Database.begin_refused hopen
    ⟨message, Database.runOn_transaction_refused hbegin⟩

/-- A body that begins again, and then ends the transaction itself: the commit that follows it
finds none open and is not sent. -/
example :
    let inner : Program Unit := .begin fun _ => .transaction (.rollback .done) fun _ =>
      .commit .done
    let db := (Database.open default ⟨Sheet.empty, []⟩).watched []
    (((Program.transaction inner .done).run Sheet.engine.watched).runOn
      db).2.connection.engine.2 = [⟨"BEGIN", false⟩, ⟨"COMMIT", true⟩] := by
  decide

end TypedSql
