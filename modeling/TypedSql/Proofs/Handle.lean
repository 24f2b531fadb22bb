import TypedSql.Proofs.Outcome
import TypedSql.Proofs.Recency
import TypedSql.Session.Transaction

/-!
# Runs of a handle

What the steps of a handle come to: a call moves the engine and nothing else, a report
adds to the log and nothing else, and a statement is come by in one of three ways:

    from the cache, for nothing but a use          (runOn_cached_hit)
    not at all, and nothing is cached              (runOn_cached_refused)
    from the engine, and it is cached              (runOn_cached_miss)

Once it is there, running it is a call to the engine and some reports
(`runOn_withStatement_ok`); so are batches and the brackets of transactions.
-/

namespace TypedSql

/-- The statement was prepared from the text. -/
def Engine.Stands {σ S : Type} (e : Engine σ S) (sql : String) (stmt : S) : Prop :=
  ∃ s, (e.prepare sql s).1 = .ok stmt

namespace Connection

variable {σ α : Type}

@[simp] theorem runOn_call (f : σ → Except EngineFault α × σ) (c : Connection σ) :
    (call f).runOn c =
      ((f c.engine).1.mapError Error.ofEngine, { c with engine := (f c.engine).2 }) := rfl

end Connection

namespace Database

variable {σ S α : Type}

/-- The handle when its engine is in another state. -/
def moved (s : σ) (db : Database σ S) : Database σ S :=
  { db with connection := { db.connection with engine := s } }

/-- The handle when more has been reported. -/
def reported (events : List Event) (db : Database σ S) : Database σ S :=
  { db with connection := { db.connection with log := db.connection.log ++ events } }

@[simp] theorem engine_moved (s : σ) (db : Database σ S) :
    (db.moved s).connection.engine = s := rfl

@[simp] theorem cache_moved (s : σ) (db : Database σ S) : (db.moved s).cache = db.cache := rfl

@[simp] theorem config_moved (s : σ) (db : Database σ S) : (db.moved s).config = db.config := rfl

@[simp] theorem engine_reported (events : List Event) (db : Database σ S) :
    (db.reported events).connection.engine = db.connection.engine := rfl

@[simp] theorem config_reported (events : List Event) (db : Database σ S) :
    (db.reported events).config = db.config := rfl

@[simp] theorem runOn_call (f : σ → Except EngineFault α × σ) (db : Database σ S) :
    (call f).runOn db =
      ((f db.connection.engine).1.mapError Error.ofEngine,
        db.moved (f db.connection.engine).2) := rfl

@[simp] theorem runOn_note (event : Event) (db : Database σ S) :
    (note event).runOn db = (.ok (), db.reported [event]) := rfl

theorem reported_nil (db : Database σ S) : db.reported [] = db := by
  simp [reported]

theorem reported_reported (events events' : List Event) (db : Database σ S) :
    (db.reported events).reported events' = db.reported (events ++ events') := by
  simp [reported]

theorem runOn_forM_note {ι : Type} (xs : List ι) (event : ι → Event) (db : Database σ S) :
    (xs.forM fun x => (note (event x) : Run (Database σ S) Unit)).runOn db =
      (.ok (), db.reported (xs.map event)) := by
  induction xs generalizing db with
  | nil => rw [List.map_nil, reported_nil]; rfl
  | cons x xs ih =>
    show (note (event x) >>= fun _ => xs.forM fun x => note (event x)).runOn db = _
    rw [Run.runOn_bind_ok (runOn_note _ _), ih, reported_reported, List.map_cons,
      List.singleton_append]

/-! ## Coming by a statement -/

variable (e : Engine σ S) {db : Database σ S} {sql : String} {stmt : S} {s : σ}

theorem runOn_cached_hit (h : db.cache.prepared[sql]? = some stmt) :
    (cached e sql).runOn db =
      (.ok (stmt, .hit), { db with cache := (db.cache.used sql) }) := by
  rw [cached, Run.runOn_bind_ok (Run.runOn_get db), StatementCache.hit?_eq, h]
  rfl

theorem runOn_cached_refused (h : db.cache.prepared[sql]? = none) {fault : EngineFault}
    (hprepare : e.prepare sql db.connection.engine = (.error fault, s)) :
    (cached e sql).runOn db = (.error (.ofEngine fault), db.moved s) := by
  have hcall : (call (e.prepare sql)).runOn db = (.error (.ofEngine fault), db.moved s) := by
    rw [runOn_call, hprepare]
    rfl
  rw [cached, Run.runOn_bind_ok (Run.runOn_get db), StatementCache.hit?_eq, h]
  exact Run.runOn_bind_error hcall

/-- A text that was missing and could be prepared: what the cache has for it once it is
added is what comes of it. -/
theorem runOn_cached_added (h : db.cache.prepared[sql]? = none)
    (hprepare : e.prepare sql db.connection.engine = (.ok stmt, s)) :
    (cached e sql).runOn db =
      (match (db.cache.add sql stmt).1.prepared[sql]? with
        | some stmt => .ok (stmt, .miss)
        | none => .error (.other ("statement evicted before use: " ++ sql)),
      { (db.moved s).reported ((db.cache.add sql stmt).2.map .evicted) with
        cache := (db.cache.add sql stmt).1 }) := by
  have hcall : (call (e.prepare sql)).runOn db = (.ok stmt, db.moved s) := by
    rw [runOn_call, hprepare]
    rfl
  rw [cached, Run.runOn_bind_ok (Run.runOn_get db), StatementCache.hit?_eq, h]
  show Run.runOn (call (e.prepare sql) >>= _) db = _
  rw [Run.runOn_bind_ok hcall, Run.runOn_bind_ok (Run.runOn_get _)]
  show Run.runOn (modify _ >>= _) _ = _
  rw [Run.runOn_bind_ok (Run.runOn_modify _ _), Run.runOn_bind_ok (runOn_forM_note _ _ _),
    cache_moved]
  show Run.runOn (match (db.cache.add sql stmt).1.prepared[sql]? with
    | some stmt => (pure (stmt, Lookup.miss) : Run (Database σ S) (S × Lookup))
    | none => throw (.other ("statement evicted before use: " ++ sql))) _ = _
  cases (db.cache.add sql stmt).1.prepared[sql]? <;> rfl

theorem runOn_cached_miss (h : db.cache.prepared[sql]? = none)
    (hprepare : e.prepare sql db.connection.engine = (.ok stmt, s))
    (hkept : (db.cache.add sql stmt).1.prepared[sql]? = some stmt) :
    (cached e sql).runOn db =
      (.ok (stmt, .miss), { (db.moved s).reported ((db.cache.add sql stmt).2.map .evicted) with
        cache := (db.cache.add sql stmt).1 }) := by
  rw [runOn_cached_added e h hprepare, hkept]

/-! ## Running statements and batches -/

theorem runOn_withStatement_error {params : List Value}
    {use : S → σ → Except EngineFault α × σ} {error : Error} {db' : Database σ S}
    (h : (prepared e sql).runOn db = (.error error, db')) :
    (withStatement e sql params use).runOn db = (.error error, db') := by
  rw [withStatement, Run.runOn_bind_ok (Run.runOn_get db)]
  exact Run.runOn_bind_error h

theorem runOn_withStatement_ok (params : List Value)
    (use : S → σ → Except EngineFault α × σ) {how : Lookup} {db' : Database σ S}
    (h : (prepared e sql).runOn db = (.ok (stmt, how), db')) :
    ∃ events, (withStatement e sql params use).runOn db =
      ((use stmt db'.connection.engine).1.mapError Error.ofEngine,
        (db'.moved (use stmt db'.connection.engine).2).reported events) := by
  have hrun : ((call (use stmt)).attempt).runOn
      (db'.reported [.statement (.ofSql sql) params.length how (db'.shown sql)]) =
        (.ok ((use stmt db'.connection.engine).1.mapError Error.ofEngine),
          (db'.moved (use stmt db'.connection.engine).2).reported
            [.statement (.ofSql sql) params.length how (db'.shown sql)]) := rfl
  rw [withStatement, Run.runOn_bind_ok (Run.runOn_get db)]
  show ∃ events, Run.runOn (prepared e sql >>= _) db = _
  rw [Run.runOn_bind_ok h, Run.runOn_bind_ok (Run.runOn_get _),
    Run.runOn_bind_ok (runOn_note _ _), Run.runOn_bind_ok hrun,
    Run.runOn_bind_ok (Run.runOn_get _), config_reported, config_moved]
  cases db'.config.slowThreshold with
  | none => exact ⟨_, Run.runOn_ofExcept _ _⟩
  | some t =>
    dsimp only
    split
    · rw [Run.runOn_bind_ok (runOn_note _ _), Run.runOn_ofExcept, reported_reported]
      exact ⟨_, rfl⟩
    · exact ⟨_, Run.runOn_ofExcept _ _⟩

@[simp] theorem runOn_exec (sql : String) (db : Database σ S) :
    (exec e sql).runOn db =
      ((e.batch sql db.connection.engine).1.mapError Error.ofEngine,
        (db.reported [.batch (db.shown sql)]).moved (e.batch sql db.connection.engine).2) := rfl

theorem runOn_bracket (b : Bracket) (db : Database σ S) :
    (bracket e b).runOn db =
      ((e.batch b.sql db.connection.engine).1.mapError Error.ofEngine,
        (db.reported [.bracket b, .batch (db.shown b.sql)]).moved
          (e.batch b.sql db.connection.engine).2) := by
  rw [bracket, Run.runOn_bind_ok (runOn_note _ _), runOn_exec]
  simp [reported, moved, shown]

theorem runOn_begin (db : Database σ S) :
    (begin e).runOn db =
      if inTransaction e db then
        (.error (.transaction
          "a transaction is already open; nested transactions are not supported"), db)
      else (bracket e .start).runOn db := by
  rw [begin, Run.runOn_bind_ok (Run.runOn_get db)]
  cases h : inTransaction e db <;> rfl

theorem runOn_finish (b : Bracket) (db : Database σ S) :
    (finish e b).runOn db =
      if inTransaction e db then (bracket e b).runOn db
      else (.error (.transaction "no transaction is open"), db) := by
  rw [finish, Run.runOn_bind_ok (Run.runOn_get db)]
  cases h : inTransaction e db <;> rfl

end Database

end TypedSql
