import TypedSql.Proofs.Handle
import TypedSql.Proofs.Sheet

/-!
# The statement cache cannot be seen

On an engine whose prepared statements stand for their texts and stay good, a session on a
new handle comes to what it comes to on the bare connection, call by call, whatever the
configuration:

    transcript onHandle … (.open config connection) = transcript onConnection … connection
                                                                        (transcript_open)

A run on a handle agrees with a run on a connection (`Agrees`) if from the same state of
the engine both have one outcome and leave the engine in one state, and if the handle's
cache stays sound.
-/

namespace TypedSql

/-! ## Steady engines -/

namespace Engine

variable {σ S : Type}

/-- In this state the engine prepares the text. -/
def Prepares (e : Engine σ S) (sql : String) (s : σ) : Prop :=
  ∃ stmt, (e.prepare sql s).1 = .ok stmt

/-- Preparing leaves the engine as it is, a prepared statement does what its text says, and
a text that could be prepared once always can be. -/
structure Steady (e : Engine σ S) : Prop where
  prepare_state : ∀ sql s, (e.prepare sql s).2 = s
  query_text : ∀ {sql stmt stmt'}, e.Stands sql stmt → e.Stands sql stmt' →
    e.query stmt = e.query stmt'
  execute_text : ∀ {sql stmt stmt'}, e.Stands sql stmt → e.Stands sql stmt' →
    e.execute stmt = e.execute stmt'
  prepares_query : ∀ {sql s} stmt params, e.Prepares sql s →
    e.Prepares sql (e.query stmt params s).2
  prepares_execute : ∀ {sql s} stmt params, e.Prepares sql s →
    e.Prepares sql (e.execute stmt params s).2
  prepares_batch : ∀ {sql s} text, e.Prepares sql s → e.Prepares sql (e.batch text s).2

end Engine

/-! ## Sessions -/

namespace Connection

variable {σ S : Type} (e : Engine σ S)

/-- Begins a transaction on a bare connection. -/
def begin : Run (Connection σ) Unit := do
  if !e.autocommit (← get).engine then
    throw (.transaction "a transaction is already open; nested transactions are not supported")
  call (e.batch Bracket.start.sql)

/-- Commits or rolls back on a bare connection. -/
def finish (b : Bracket) : Run (Connection σ) Unit := do
  if e.autocommit (← get).engine then throw (.transaction "no transaction is open")
  call (e.batch b.sql)

end Connection

/-- A call of a session. -/
inductive SessionCall where
  | query (sql : String) (params : List Value)
  | execute (sql : String) (params : List Value)
  | exec (sql : String)
  /-- begins, commits or rolls back -/
  | bracket (b : Bracket)
  | lastInsertRowid
  | clearCache
deriving DecidableEq

inductive SessionAnswer where
  | rows (rows : List Row)
  | affected (n : Nat)
  | rowid (id : Int64)
  | done
deriving DecidableEq

namespace SessionCall

variable {σ S : Type} (e : Engine σ S)

def onHandle : SessionCall → Run (Database σ S) SessionAnswer
  | query sql params => .rows <$> (Database.client e).query sql params
  | execute sql params => .affected <$> (Database.client e).execute sql params
  | exec sql => (fun _ => .done) <$> Database.exec e sql
  | bracket .start => (fun _ => .done) <$> Database.begin e
  | bracket .commit => (fun _ => .done) <$> Database.commit e
  | bracket .rollback => (fun _ => .done) <$> Database.rollback e
  | lastInsertRowid => .rowid <$> (liftM (Database.client e).lastInsertRowid)
  | clearCache => (fun _ => .done) <$> (modify Database.clearCache : Run (Database σ S) Unit)

/-- The same call on a bare connection, where there is no cache to clear. -/
def onConnection : SessionCall → Run (Connection σ) SessionAnswer
  | query sql params => .rows <$> (Connection.client e).query sql params
  | execute sql params => .affected <$> (Connection.client e).execute sql params
  | exec sql => (fun _ => .done) <$> Connection.call (e.batch sql)
  | bracket .start => (fun _ => .done) <$> Connection.begin e
  | bracket b => (fun _ => .done) <$> Connection.finish e b
  | lastInsertRowid => .rowid <$> (liftM (Connection.client e).lastInsertRowid)
  | clearCache => return .done

/-- What the calls come to one after the other, each with the engine's state after it. -/
def transcript {τ : Type} (run : SessionCall → Run τ SessionAnswer) (engine : τ → σ) :
    List SessionCall → τ → List (Except Error SessionAnswer × σ)
  | [], _ => []
  | call :: calls, t =>
    let (answer, t) := (run call).runOn t
    (answer, engine t) :: transcript run engine calls t

end SessionCall

/-! ## Agreement -/

namespace Database

variable {σ S α β : Type} (e : Engine σ S)

/-- The cache is in order, and what it holds under a text stands for that text, which the
engine would prepare again. -/
structure Sound (db : Database σ S) : Prop where
  capacity : db.cache.capacity = db.config.cacheCapacity
  retains : ∃ uses, db.cache.Retains uses
  stands : ∀ {sql stmt}, db.cache.prepared[sql]? = some stmt → e.Stands sql stmt
  prepares : ∀ {sql stmt}, db.cache.prepared[sql]? = some stmt →
    e.Prepares sql db.connection.engine

/-- From one state of the engine both runs have one outcome and leave one state. -/
def Agrees (m : Run (Database σ S) α) (m' : Run (Connection σ) α) : Prop :=
  ∀ db c, Sound e db → db.connection.engine = c.engine →
    (m.runOn db).1 = (m'.runOn c).1 ∧
      (m.runOn db).2.connection.engine = (m'.runOn c).2.engine ∧ Sound e (m.runOn db).2

variable {e}

theorem sound_open (config : Config) (connection : Connection σ) :
    Sound e (Database.open config connection : Database σ S) where
  capacity := rfl
  retains := ⟨[], .new _⟩
  stands := fun h => by simp [Database.open, StatementCache.new] at h
  prepares := fun h => by simp [Database.open, StatementCache.new] at h

/-- A handle stays sound when its cache stays and the engine prepares what it did. -/
theorem Sound.of_cache_eq {db db' : Database σ S} (h : Sound e db)
    (hcache : db'.cache = db.cache) (hconfig : db'.config = db.config)
    (hs : ∀ sql, e.Prepares sql db.connection.engine → e.Prepares sql db'.connection.engine) :
    Sound e db' where
  capacity := by rw [hcache, hconfig, h.capacity]
  retains := hcache ▸ h.retains
  stands := fun hstmt => h.stands (hcache ▸ hstmt)
  prepares := fun hstmt => hs _ (h.prepares (hcache ▸ hstmt))

theorem Sound.clearCache {db : Database σ S} (h : Sound e db) : Sound e db.clearCache where
  capacity := h.capacity
  retains := ⟨[], .clear _⟩
  stands := fun hstmt => by simp [Database.clearCache, noted, StatementCache.clear] at hstmt
  prepares := fun hstmt => by simp [Database.clearCache, noted, StatementCache.clear] at hstmt

theorem Agrees.map {m : Run (Database σ S) α} {m' : Run (Connection σ) α} (h : Agrees e m m')
    (f : α → β) : Agrees e (f <$> m) (f <$> m') := by
  intro db c hdb hengine
  obtain ⟨houtcome, hstate, hsound⟩ := h db c hdb hengine
  rw [Run.runOn_map, Run.runOn_map]
  exact ⟨congrArg (Except.map f) houtcome, hstate, hsound⟩

/-! ## Statements -/

variable {db : Database σ S} {sql : String}

theorem Sound.used (h : Sound e db) (hsql : sql ∈ db.cache.recency) :
    Sound e { db with cache := db.cache.used sql } where
  capacity := h.capacity
  retains := by
    obtain ⟨uses, huses⟩ := h.retains
    exact ⟨_, huses.used hsql⟩
  stands := h.stands
  prepares := h.prepares

theorem Sound.added (h : Sound e db) (hsql : sql ∉ db.cache.recency) {stmt : S}
    (hprepare : (e.prepare sql db.connection.engine).1 = .ok stmt) :
    Sound e { db with cache := (db.cache.add sql stmt).1 } := by
  obtain ⟨uses, huses⟩ := h.retains
  refine ⟨h.capacity, ⟨_, huses.add hsql stmt⟩, fun hheld => ?_, fun hheld => ?_⟩
  · rcases StatementCache.held_of_add hheld with ⟨rfl, rfl⟩ | hold
    · exact ⟨_, hprepare⟩
    · exact h.stands hold
  · rcases StatementCache.held_of_add hheld with ⟨rfl, rfl⟩ | hold
    · exact ⟨_, hprepare⟩
    · exact h.prepares hold

/-- What the engine refuses the handle refuses alike. -/
theorem Sound.prepared_refused (h : Sound e db) {fault : EngineFault} {s : σ}
    (hprepare : e.prepare sql db.connection.engine = (.error fault, s)) :
    (prepared e sql).runOn db = (.error (.ofEngine fault), db.moved s) := by
  have hmissing : db.cache.prepared[sql]? = none := by
    cases hstmt : db.cache.prepared[sql]? with
    | none => rfl
    | some stmt =>
      obtain ⟨stmt', hstmt'⟩ := h.prepares hstmt
      rw [hprepare] at hstmt'
      cases hstmt'
  rw [prepared, Run.runOn_bind_ok (Run.runOn_get db)]
  cases db.config.usesCache with
  | true => exact runOn_cached_refused e hmissing hprepare
  | false =>
    have hcall : (call (e.prepare sql)).runOn db = (.error (.ofEngine fault), db.moved s) := by
      rw [runOn_call, hprepare]
      rfl
    exact Run.runOn_bind_error hcall

/-- What the engine prepares the handle has a statement for. -/
theorem Sound.prepared_ok (h : Sound e db) (he : e.Steady) {stmt : S}
    (hprepare : (e.prepare sql db.connection.engine).1 = .ok stmt) :
    ∃ stmt' how db', (prepared e sql).runOn db = (.ok (stmt', how), db') ∧
      e.Stands sql stmt' ∧ db'.connection.engine = db.connection.engine ∧ Sound e db' := by
  have hanswer : e.prepare sql db.connection.engine = (.ok stmt, db.connection.engine) :=
    Prod.ext hprepare (he.prepare_state sql _)
  rw [prepared, Run.runOn_bind_ok (Run.runOn_get db)]
  cases huse : db.config.usesCache with
  | false =>
    have hcall : (call (e.prepare sql)).runOn db = (.ok stmt, db) := by
      rw [runOn_call, hanswer]
      rfl
    exact ⟨stmt, .off, db, Run.runOn_bind_ok hcall, ⟨_, hprepare⟩, rfl, h⟩
  | true =>
    obtain ⟨uses, huses⟩ := h.retains
    by_cases hsql : sql ∈ db.cache.recency
    · have hstmt := Std.HashMap.getElem?_eq_some_getElem (huses.mem_iff.2 hsql)
      exact ⟨_, .hit, _, runOn_cached_hit e hstmt, h.stands hstmt, rfl, h.used hsql⟩
    · have hmissing := Std.HashMap.getElem?_eq_none fun hmem => hsql (huses.mem_iff.1 hmem)
      have hcapacity : 0 < db.cache.capacity := by
        have huse' := (Bool.and_eq_true _ _).mp huse
        rw [h.capacity]
        exact of_decide_eq_true huse'.2
      have hrun := runOn_cached_miss e hmissing hanswer
        (huses.getElem?_add_self hsql hcapacity stmt)
      refine ⟨_, .miss, _, hrun, ⟨_, hprepare⟩, rfl, ?_⟩
      exact (h.added hsql hprepare).of_cache_eq rfl rfl fun _ => id

/-- A statement on a handle agrees with one that is prepared for the occasion. -/
theorem agrees_withStatement (he : e.Steady) {params : List Value}
    {use : S → σ → Except EngineFault α × σ}
    (htext : ∀ {stmt stmt'}, e.Stands sql stmt → e.Stands sql stmt' → use stmt = use stmt')
    (hkeeps : ∀ {text s} stmt, e.Prepares text s → e.Prepares text (use stmt s).2) :
    Agrees e (withStatement e sql params use)
      (do Connection.call (use (← Connection.call (e.prepare sql)))) := by
  intro db c hdb hengine
  rcases hprepare : e.prepare sql c.engine with ⟨fault | stmt, s⟩
  · have hs : s = c.engine := by rw [← he.prepare_state sql c.engine, hprepare]
    have hcall : (Connection.call (e.prepare sql)).runOn c =
        (.error (.ofEngine fault), { c with engine := s }) := by
      rw [Connection.runOn_call, hprepare]
      rfl
    rw [Run.runOn_bind_error hcall,
      runOn_withStatement_error e (hdb.prepared_refused (hengine ▸ hprepare))]
    refine ⟨rfl, rfl, hdb.of_cache_eq rfl rfl fun _ hprepares => ?_⟩
    rwa [engine_moved, hs, ← hengine]
  · have hs : s = c.engine := by rw [← he.prepare_state sql c.engine, hprepare]
    have hcall : (Connection.call (e.prepare sql)).runOn c = (.ok stmt, c) := by
      rw [Connection.runOn_call, hprepare, hs]
      rfl
    have hok : (e.prepare sql db.connection.engine).1 = .ok stmt := by rw [hengine, hprepare]
    obtain ⟨stmt', how, db', hrun, hstands, hengine', hsound⟩ := hdb.prepared_ok he hok
    obtain ⟨events, hstmt⟩ := runOn_withStatement_ok e params use hrun
    have huse : use stmt' = use stmt := htext hstands ⟨_, hok⟩
    rw [Run.runOn_bind_ok hcall, hstmt, Connection.runOn_call, hengine', hengine, huse]
    refine ⟨rfl, rfl, hsound.of_cache_eq rfl rfl fun _ hprepares => ?_⟩
    rw [engine_reported, engine_moved, ← huse]
    exact hkeeps stmt' (by rwa [hengine', hengine] at hprepares)

/-! ## Calls and sessions -/

theorem agrees_exec (he : e.Steady) (text : String) :
    Agrees e (exec e text) (Connection.call (e.batch text)) := by
  intro db c hdb hengine
  rw [runOn_exec, Connection.runOn_call, hengine]
  refine ⟨rfl, rfl, hdb.of_cache_eq rfl rfl fun _ hprepares => ?_⟩
  rw [engine_moved, ← hengine]
  exact he.prepares_batch text hprepares

theorem agrees_bracket (he : e.Steady) (b : Bracket) :
    Agrees e (bracket e b) (Connection.call (e.batch b.sql)) := by
  intro db c hdb hengine
  rw [runOn_bracket, Connection.runOn_call, hengine]
  refine ⟨rfl, rfl, hdb.of_cache_eq rfl rfl fun _ hprepares => ?_⟩
  rw [engine_moved, ← hengine]
  exact he.prepares_batch b.sql hprepares

theorem agrees_begin (he : e.Steady) : Agrees e (begin e) (Connection.begin e) := by
  intro db c hdb hengine
  have hopen : inTransaction e db = !e.autocommit c.engine := by rw [inTransaction, hengine]
  rw [runOn_begin, Connection.begin, Run.runOn_bind_ok (Run.runOn_get c), hopen]
  cases e.autocommit c.engine with
  | true => exact agrees_bracket he .start db c hdb hengine
  | false => exact ⟨rfl, hengine, hdb⟩

theorem agrees_finish (he : e.Steady) (b : Bracket) :
    Agrees e (finish e b) (Connection.finish e b) := by
  intro db c hdb hengine
  have hopen : inTransaction e db = !e.autocommit c.engine := by rw [inTransaction, hengine]
  rw [runOn_finish, Connection.finish, Run.runOn_bind_ok (Run.runOn_get c), hopen]
  cases e.autocommit c.engine with
  | true => exact ⟨rfl, hengine, hdb⟩
  | false => exact agrees_bracket he b db c hdb hengine

end Database

namespace SessionCall

open Database

variable {σ S : Type} {e : Engine σ S}

theorem agrees (he : e.Steady) (call : SessionCall) :
    Agrees e (call.onHandle e) (call.onConnection e) := by
  cases call with
  | query sql params =>
    exact (agrees_withStatement he (fun h h' => by rw [he.query_text h h'])
      fun stmt => he.prepares_query stmt params).map _
  | execute sql params =>
    exact (agrees_withStatement he (fun h h' => by rw [he.execute_text h h'])
      fun stmt => he.prepares_execute stmt params).map _
  | exec text => exact (agrees_exec he text).map _
  | lastInsertRowid =>
    intro db c hdb hengine
    refine ⟨?_, hengine, hdb⟩
    show Except.ok (SessionAnswer.rowid (e.lastInsertRowid db.connection.engine)) = _
    rw [hengine]
    rfl
  | clearCache => exact fun db c hdb hengine => ⟨rfl, hengine, hdb.clearCache⟩
  | bracket b =>
    cases b with
    | start => exact (agrees_begin he).map _
    | commit => exact (agrees_finish he .commit).map _
    | rollback => exact (agrees_finish he .rollback).map _

theorem transcript_cons {τ : Type} (run : SessionCall → Run τ SessionAnswer) (engine : τ → σ)
    (call : SessionCall) (calls : List SessionCall) (t : τ) :
    transcript run engine (call :: calls) t =
      (((run call).runOn t).1, engine ((run call).runOn t).2) ::
        transcript run engine calls ((run call).runOn t).2 := rfl

/-- A session on a sound handle comes to what it comes to on a connection. -/
theorem transcript_eq (he : e.Steady) (calls : List SessionCall) {db : Database σ S}
    {c : Connection σ} (hdb : Sound e db) (hengine : db.connection.engine = c.engine) :
    transcript (onHandle e) (·.connection.engine) calls db =
      transcript (onConnection e) (·.engine) calls c := by
  induction calls generalizing db c with
  | nil => rfl
  | cons call calls ih =>
    obtain ⟨hanswer, hstate, hsound⟩ := call.agrees he db c hdb hengine
    rw [transcript_cons, transcript_cons, hanswer, hstate, ih hsound hstate]

/-! ## Top theorem -/

/-- No error of the run is one of the library's own that has no kind. -/
def HasKinds {τ α : Type} (m : Run τ α) : Prop :=
  ∀ t message, (m.runOn t).1 ≠ .error (.other message)

theorem HasKinds.bind {τ α β : Type} {m : Run τ α} {k : α → Run τ β} (hm : HasKinds m)
    (hk : ∀ a, HasKinds (k a)) : HasKinds (m >>= k) := by
  intro t message
  rcases hrun : m.runOn t with ⟨error | a, t'⟩
  · rw [Run.runOn_bind_error hrun]
    intro hother
    exact hm t message (by rw [hrun]; exact congrArg Except.error (Except.error.inj hother))
  · rw [Run.runOn_bind_ok hrun]
    exact hk a t' message

theorem HasKinds.map {τ α β : Type} {m : Run τ α} (hm : HasKinds m) (f : α → β) :
    HasKinds (f <$> m) := by
  rw [map_eq_pure_bind]
  exact hm.bind fun a t message => nofun

theorem hasKinds_call {α : Type} (f : σ → Except EngineFault α × σ) :
    HasKinds (Connection.call f) := by
  intro c message
  rw [Connection.runOn_call]
  rcases f c.engine with ⟨fault | a, s⟩
  · cases fault with
    | other text => nofun
    | failure code text =>
      show Except.error (Error.ofEngine (.failure code text)) ≠ _
      unfold Error.ofEngine
      split <;> nofun
  · nofun

theorem hasKinds_begin : HasKinds (Connection.begin e) := by
  intro c message
  rw [Connection.begin, Run.runOn_bind_ok (Run.runOn_get c)]
  cases e.autocommit c.engine with
  | true => exact hasKinds_call _ c message
  | false => nofun

theorem hasKinds_finish (b : Bracket) : HasKinds (Connection.finish e b) := by
  intro c message
  rw [Connection.finish, Run.runOn_bind_ok (Run.runOn_get c)]
  cases e.autocommit c.engine with
  | true => nofun
  | false => exact hasKinds_call _ c message

theorem hasKinds_onConnection (call : SessionCall) : HasKinds (call.onConnection e) := by
  cases call with
  | query sql params =>
    exact ((hasKinds_call _).bind fun stmt => hasKinds_call _).map _
  | execute sql params =>
    exact ((hasKinds_call _).bind fun stmt => hasKinds_call _).map _
  | exec text => exact (hasKinds_call _).map _
  | bracket b =>
    cases b with
    | start => exact hasKinds_begin.map _
    | commit => exact (hasKinds_finish .commit).map _
    | rollback => exact (hasKinds_finish .rollback).map _
  | lastInsertRowid => exact fun c message => nofun
  | clearCache => exact fun c message => nofun

theorem ne_other_of_mem_transcript (calls : List SessionCall) (c : Connection σ)
    {seen : Except Error SessionAnswer × σ}
    (h : seen ∈ transcript (onConnection e) (·.engine) calls c) (message : String) :
    seen.1 ≠ .error (.other message) := by
  induction calls generalizing c with
  | nil => cases h
  | cons call calls ih =>
    rw [transcript_cons, List.mem_cons] at h
    rcases h with rfl | hrest
    · exact hasKinds_onConnection call c message
    · exact ih _ hrest

/-- **The statement cache cannot be seen.**  On a steady engine a session on a new handle
comes to the same with every configuration, one without a cache among them, and to the same
as on the bare connection: the same answers and errors, with the engine in the same state
after each call.  No statement is lost between its preparation and its use. -/
theorem transcript_open (he : e.Steady) (config : Config) (connection : Connection σ)
    (calls : List SessionCall) :
    (∀ config' : Config,
      transcript (onHandle e) (·.connection.engine) calls (.open config connection) =
        transcript (onHandle e) (·.connection.engine) calls (.open config' connection)) ∧
    transcript (onHandle e) (·.connection.engine) calls (.open config connection) =
      transcript (onConnection e) (·.engine) calls connection ∧
    ∀ seen ∈ transcript (onHandle e) (·.connection.engine) calls (.open config connection),
      ∀ sql, seen.1 ≠ .error (.other ("statement evicted before use: " ++ sql)) := by
  have hplain : ∀ config : Config,
      transcript (onHandle e) (·.connection.engine) calls (.open config connection) =
        transcript (onConnection e) (·.engine) calls connection :=
    fun config => transcript_eq he calls (sound_open config connection) rfl
  refine ⟨fun config' => (hplain config).trans (hplain config').symm, hplain config, ?_⟩
  intro seen hseen sql
  rw [hplain config] at hseen
  exact ne_other_of_mem_transcript calls connection hseen _

end SessionCall

theorem Sheet.stands_unique {sql : String} {stmt stmt' : Sheet.Stmt}
    (h : Sheet.engine.Stands sql stmt) (h' : Sheet.engine.Stands sql stmt') : stmt = stmt' := by
  obtain ⟨_, h⟩ := h
  obtain ⟨_, h'⟩ := h'
  exact Except.ok.inj (h.symm.trans h')

theorem Sheet.steady : Sheet.engine.Steady where
  prepare_state := fun _ _ => rfl
  query_text := fun h h' => by rw [Sheet.stands_unique h h']
  execute_text := fun h h' => by rw [Sheet.stands_unique h h']
  prepares_query := fun _ _ h => h
  prepares_execute := fun _ _ h => h
  prepares_batch := fun _ h => h

open SessionCall in
/-- A value is inserted twice in a transaction that is rolled back, with a cache of one
statement that is cleared on the way. -/
theorem SessionCall.transcript_open_sheet :
    transcript (onHandle Sheet.engine) (·.connection.engine)
      [.bracket .start, .execute Sheet.Stmt.insertion.text [.integer 7],
        .query Sheet.Stmt.selection.text [], .clearCache,
        .execute Sheet.Stmt.insertion.text [.integer 7], .bracket .rollback, .lastInsertRowid]
      (.open (Config.new.apply (.statementCache 1)) ⟨.empty, []⟩) =
    [(.ok .done, ⟨[], some [], 0⟩),
      (.ok (.affected 1), ⟨[.integer 7], some [], 1⟩),
      (.ok (.rows [⟨[("v", .integer 7)]⟩]), ⟨[.integer 7], some [], 1⟩),
      (.ok .done, ⟨[.integer 7], some [], 1⟩),
      (.error (.uniqueViolation "UNIQUE constraint failed: t.v"), ⟨[.integer 7], some [], 1⟩),
      (.ok .done, ⟨[], none, 1⟩),
      (.ok (.rowid 1), ⟨[], none, 1⟩)] :=
  (transcript_open Sheet.steady (Config.new.apply (.statementCache 1)) ⟨.empty, []⟩ _).2.1.trans
    (by decide)

end TypedSql
