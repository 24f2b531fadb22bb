import TypedSql.Proofs.ByteCut
import TypedSql.Proofs.CacheTransparency

/-!
# The limit on reported statements

A handle may report no more than so many bytes of a statement.  What it reports is the text
itself or its longest front of whole characters with three dots behind it, and the limit shows
in the log only: with every limit a session comes to the same, leaves the engine and the cache
the same, and reports the same `events`, each with what its limit leaves of the text.

    (session.run e).runOn (db.limited limit log) =
      (outcome, db'.limited limit (log ++ events.map (.abridged limit)))       (Session.logOnly)

`LogOnly` says this of a run, for all limits at once; it goes along with a run step by step.
-/

namespace TypedSql

/-- The event with what the limit leaves of the statement in it. -/
def Event.abridged (limit : Option Nat) : Event → Event
  | batch sql => batch (Text.abridge limit sql)
  | statement kind paramCount lookup sql =>
    statement kind paramCount lookup (Text.abridge limit sql)
  | slow sql => slow (Text.abridge limit sql)
  | event => event

/-! ## Sessions -/

/-- Calls on a handle, reports and transactions, each step chosen by what came of those before
it.  The body of a transaction is again such a session. -/
inductive Session : Type → Type 1 where
  | done {α : Type} (outcome : Except Error α) : Session α
  | call {α : Type} (call : SessionCall) (next : Except Error SessionAnswer → Session α) :
      Session α
  /-- an insert was skipped -/
  | skipped {α : Type} (table : String) (next : Session α) : Session α
  | transaction {α β : Type} (body : Session β) (next : Except Error β → Session α) : Session α

def Session.run {σ S : Type} (e : Engine σ S) : {α : Type} → Session α → Run (Database σ S) α
  | _, done outcome => Run.ofExcept outcome
  | _, call c next => do (next (← (c.onHandle e).attempt)).run e
  | _, skipped table next => do
    liftM ((Database.client e).note (.insertSkipped table))
    next.run e
  | _, transaction body next => do
    (next (← (Database.transaction e (body.run e)).attempt)).run e

/-! ## Lemmas -/

namespace Database

variable {σ S α β : Type} {e : Engine σ S}

/-- The handle with this limit, after these reports. -/
def limited (limit : Option Nat) (log : List Event) (db : Database σ S) : Database σ S where
  config := { db.config with maxSqlLength := limit }
  cache := db.cache
  connection := ⟨db.connection.engine, log⟩

/-- With every limit the run comes to the same, and adds the same to the log but for what the
limit leaves of it. -/
def LogOnly (m : Option Nat → Run (Database σ S) α) : Prop :=
  ∀ (db : Database σ S) (log : Option Nat → List Event),
    ∃ (outcome : Except Error α) (db' : Database σ S) (events : List Event), ∀ limit,
      (m limit).runOn (db.limited limit (log limit)) =
        (outcome, db'.limited limit (log limit ++ events.map (.abridged limit)))

/-- What neither reports nor looks at the limit. -/
theorem LogOnly.of_eq {m : Run (Database σ S) α}
    (h : ∀ db limit log, m.runOn (db.limited limit log) =
      ((m.runOn db).1, (m.runOn db).2.limited limit log)) : LogOnly fun _ => m := by
  intro db log
  exact ⟨_, _, [], fun limit => by rw [List.map_nil, List.append_nil, h]⟩

theorem LogOnly.ofExcept (x : Except Error α) :
    LogOnly fun _ => (Run.ofExcept x : Run (Database σ S) α) :=
  .of_eq fun db limit log => by rw [Run.runOn_ofExcept, Run.runOn_ofExcept]

theorem LogOnly.pure (a : α) : LogOnly fun _ => (pure a : Run (Database σ S) α) :=
  .ofExcept (.ok a)

theorem LogOnly.throw (error : Error) : LogOnly fun _ => (throw error : Run (Database σ S) α) :=
  .ofExcept (.error error)

theorem LogOnly.bind {m : Option Nat → Run (Database σ S) α}
    {k : Option Nat → α → Run (Database σ S) β} (hm : LogOnly m)
    (hk : ∀ a, LogOnly fun limit => k limit a) : LogOnly fun limit => m limit >>= k limit := by
  intro db log
  obtain ⟨outcome, db₁, events, hfirst⟩ := hm db log
  cases outcome with
  | error error => exact ⟨_, db₁, events, fun limit => Run.runOn_bind_error (hfirst limit)⟩
  | ok a =>
    obtain ⟨outcome, db₂, events', hrest⟩ :=
      hk a db₁ fun limit => log limit ++ events.map (.abridged limit)
    refine ⟨outcome, db₂, events ++ events', fun limit => ?_⟩
    rw [Run.runOn_bind_ok (hfirst limit), hrest, List.map_append, List.append_assoc]

theorem LogOnly.attempt {m : Option Nat → Run (Database σ S) α} (hm : LogOnly m) :
    LogOnly fun limit => (m limit).attempt := by
  intro db log
  obtain ⟨outcome, db', events, hrun⟩ := hm db log
  exact ⟨.ok outcome, db', events, fun limit => by rw [Run.runOn_attempt, hrun]⟩

theorem LogOnly.map {m : Option Nat → Run (Database σ S) α} (hm : LogOnly m) (f : α → β) :
    LogOnly fun limit => f <$> m limit := by
  intro db log
  obtain ⟨outcome, db', events, hrun⟩ := hm db log
  exact ⟨outcome.map f, db', events, fun limit => by rw [Run.runOn_map, hrun]⟩

/-- What a run reads of the handle may be the limit too, and then it shows in what follows. -/
theorem LogOnly.get_bind {k : Option Nat → Database σ S → Run (Database σ S) α}
    (hk : ∀ (db : Database σ S) (log : Option Nat → List Event),
      LogOnly fun limit => k limit (db.limited limit (log limit))) :
    LogOnly fun limit => get >>= k limit := by
  intro db log
  obtain ⟨outcome, db', events, hrun⟩ := hk db log db log
  refine ⟨outcome, db', events, fun limit => ?_⟩
  rw [Run.runOn_bind_ok (Run.runOn_get _), hrun]

theorem logOnly_note (event : Event) :
    LogOnly fun limit => (note (event.abridged limit) : Run (Database σ S) Unit) :=
  fun db _ => ⟨.ok (), db, [event], fun _ => rfl⟩

theorem logOnly_call (f : σ → Except EngineFault α × σ) :
    LogOnly fun _ => (call f : Run (Database σ S) α) :=
  .of_eq fun _ _ _ => rfl

theorem logOnly_clearCache :
    LogOnly fun _ => (modify clearCache : Run (Database σ S) Unit) :=
  fun db _ => ⟨.ok (), { db with cache := db.cache.clear }, [.cacheCleared], fun _ => rfl⟩

/-! ### Statements -/

theorem logOnly_cached (sql : String) : LogOnly fun _ => cached e sql := by
  intro db log
  cases hstmt : db.cache.prepared[sql]? with
  | some stmt =>
    have hheld : ∀ limit, (db.limited limit (log limit)).cache.prepared[sql]? = some stmt :=
      fun _ => hstmt
    refine ⟨.ok (stmt, .hit), { db with cache := db.cache.used sql }, [], fun limit => ?_⟩
    rw [runOn_cached_hit e (hheld limit), List.map_nil, List.append_nil]
    rfl
  | none =>
    have hmissing : ∀ limit, (db.limited limit (log limit)).cache.prepared[sql]? = none :=
      fun _ => hstmt
    rcases hprepare : e.prepare sql db.connection.engine with ⟨fault | stmt, s⟩
    · refine ⟨.error (.ofEngine fault), db.moved s, [], fun limit => ?_⟩
      rw [runOn_cached_refused e (hmissing limit) hprepare, List.map_nil, List.append_nil]
      rfl
    · refine ⟨((cached e sql).runOn db).1, { db.moved s with cache := (db.cache.add sql stmt).1 },
        (db.cache.add sql stmt).2.map .evicted, fun limit => ?_⟩
      rw [runOn_cached_added e hstmt hprepare, runOn_cached_added e (hmissing limit) hprepare,
        List.map_map]
      rfl

theorem logOnly_prepared (sql : String) : LogOnly fun _ => prepared e sql := by
  refine .get_bind fun db log => ?_
  show LogOnly fun _ => if db.config.usesCache then _ else _
  cases db.config.usesCache with
  | true => exact logOnly_cached sql
  | false => exact .bind (logOnly_call _) fun stmt => .pure (stmt, Lookup.off)

/-- The statement is shown twice, and both times the limit says what of it. -/
theorem logOnly_withStatement (sql : String) (params : List Value)
    (use : S → σ → Except EngineFault α × σ) :
    LogOnly fun _ => withStatement e sql params use := by
  refine .get_bind fun db log => .bind (logOnly_prepared sql) fun found =>
    .get_bind fun db₁ log₁ => .bind
      (logOnly_note (.statement (.ofSql sql) params.length found.2 sql)) fun _ =>
        .bind (logOnly_call (use found.1)).attempt fun outcome => .get_bind fun db₂ log₂ => ?_
  have hconfig : ∀ limit, (db₂.limited limit (log₂ limit)).config.slowThreshold =
      db₂.config.slowThreshold := fun _ => rfl
  simp only [hconfig]
  cases db₂.config.slowThreshold with
  | none => exact .ofExcept outcome
  | some t =>
    show LogOnly fun limit =>
      if t ≤ e.clock db₂.connection.engine - e.clock db.connection.engine then _ else _
    split
    · exact .bind (logOnly_note (.slow sql)) fun _ => .ofExcept outcome
    · exact .ofExcept outcome

theorem logOnly_query (sql : String) (params : List Value) :
    LogOnly fun _ => (client e).query sql params :=
  logOnly_withStatement sql params fun stmt => e.query stmt params

theorem logOnly_execute (sql : String) (params : List Value) :
    LogOnly fun _ => (client e).execute sql params :=
  logOnly_withStatement sql params fun stmt => e.execute stmt params

/-! ### Batches and transactions -/

theorem logOnly_exec (sql : String) : LogOnly fun _ => exec e sql :=
  .get_bind fun _ _ => .bind (logOnly_note (.batch sql)) fun _ => logOnly_call _

theorem logOnly_bracket (b : Bracket) : LogOnly fun _ => bracket e b :=
  .bind (logOnly_note (.bracket b)) fun _ => logOnly_exec b.sql

theorem logOnly_begin : LogOnly fun _ => begin e := by
  refine .get_bind fun db log => ?_
  show LogOnly fun _ => if inTransaction e db then _ else _
  cases inTransaction e db with
  | true => exact .bind (.throw _) fun _ => logOnly_bracket .start
  | false => exact logOnly_bracket .start

theorem logOnly_finish (b : Bracket) : LogOnly fun _ => finish e b := by
  refine .get_bind fun db log => ?_
  show LogOnly fun _ => if !inTransaction e db then _ else _
  cases inTransaction e db with
  | true => exact logOnly_bracket b
  | false => exact .bind (.throw _) fun _ => logOnly_bracket b

theorem logOnly_abort (error : Error) :
    LogOnly fun _ => (abort e error : Run (Database σ S) α) := by
  refine .get_bind fun db log => ?_
  show LogOnly fun _ => if !inTransaction e db then _ else _
  cases inTransaction e db with
  | false => exact .throw error
  | true =>
    refine .bind (logOnly_finish .rollback).attempt fun outcome => ?_
    cases outcome with
    | ok => exact .throw error
    | error failure => exact .throw _

theorem logOnly_transaction {body : Run (Database σ S) α} (hbody : LogOnly fun _ => body) :
    LogOnly fun _ => transaction e body := by
  refine .bind logOnly_begin fun _ => .bind hbody.attempt fun outcome => ?_
  cases outcome with
  | error error => exact logOnly_abort error
  | ok a =>
    refine .bind (logOnly_finish .commit).attempt fun outcome => ?_
    cases outcome with
    | ok => exact .pure a
    | error error => exact logOnly_abort error

end Database

open Database

variable {σ S : Type}

theorem SessionCall.logOnly (e : Engine σ S) (call : SessionCall) :
    LogOnly fun _ => call.onHandle e := by
  cases call with
  | query sql params => exact (logOnly_query sql params).map _
  | execute sql params => exact (logOnly_execute sql params).map _
  | exec sql => exact (logOnly_exec sql).map _
  | lastInsertRowid => exact .of_eq fun _ _ _ => rfl
  | clearCache => exact logOnly_clearCache.map _
  | bracket b =>
    cases b with
    | start => exact logOnly_begin.map _
    | commit => exact (logOnly_finish .commit).map _
    | rollback => exact (logOnly_finish .rollback).map _

/-- By induction on the session: one step, and what comes after it. -/
theorem Session.logOnly (e : Engine σ S) {α : Type} (session : Session α) :
    LogOnly fun _ => session.run e := by
  induction session with
  | done outcome => exact .ofExcept outcome
  | call c next ih => exact .bind (c.logOnly e).attempt ih
  | skipped table next ih => exact .bind (logOnly_note (.insertSkipped table)) fun _ => ih
  | transaction body next ihbody ih => exact .bind (logOnly_transaction ihbody).attempt ih

/-! ## Top theorem -/

/-- **Abridging the log is safe, and it is silent.**  Under a limit of `m` bytes what is kept of
a text is its longest front of whole characters that fits; the bytes alone lead to the same
front, and the slice they are cut by ends at a boundary.  A text that fits is shown as it is, any
other one by that front and three dots.  Whatever a session does, on every engine, with every
limit and with none it comes to the same and leaves the engine and the cache the same; only the
texts in the log are other ones, those of the same events as the limit shows them. -/
theorem abridging_is_safe_and_silent (e : Engine σ S) (db : Database σ S) :
    (∀ (s : String) (m : Nat), ∃ front, Text.LongestFront m s front ∧
      Text.cutBytes? (Text.bytes s) m = some (Text.bytes front) ∧
      (db.limited (some m) db.connection.log).shown s =
        if s.utf8ByteSize ≤ m then s else front ++ "...") ∧
    ∀ {α : Type} (session : Session α),
      ∃ (outcome : Except Error α) (db' : Database σ S) (events : List Event), ∀ limit,
        (session.run e).runOn (db.limited limit db.connection.log) =
          (outcome, db'.limited limit (db.connection.log ++ events.map (.abridged limit))) := by
  refine ⟨fun s m => ?_, fun session => session.logOnly e db fun _ => db.connection.log⟩
  exact ⟨_, Text.longestFront_takeBytes m s, Text.cutBytes?_eq s m, rfl⟩

/-- The second of three bytes is the last of a character, which is left whole; one byte less,
and it is left out. -/
example : Text.abridge (some 3) "héllo" = "hé..." ∧ Text.abridge (some 2) "héllo" = "h..." := by
  decide

end TypedSql
