import TypedSql.Session.Config
import TypedSql.Session.Engine
import TypedSql.Session.StatementCache
import TypedSql.Text.Truncate

/-!
# Database handles

A handle runs its statements over a connection through a statement cache of its
own, and reports them.  A statement that cannot be prepared is neither cached
nor reported.
-/

namespace TypedSql

structure Database (σ S : Type) where
  config : Config
  cache : StatementCache S
  connection : Connection σ

namespace Database

variable {σ S : Type}

def «open» (config : Config) (connection : Connection σ) : Database σ S :=
  { config, cache := .new config.cacheCapacity, connection }

def noted (event : Event) (db : Database σ S) : Database σ S :=
  { db with connection := db.connection.noted event }

def note (event : Event) : Run (Database σ S) Unit := modify (noted event)

/-- A call to the engine; its faults become errors. -/
def call {α : Type} (f : σ → Except EngineFault α × σ) : Run (Database σ S) α :=
  ExceptT.mk fun db =>
    let (outcome, connection) := (Connection.call f).runOn db.connection
    (outcome, { db with connection })

/-- A statement as it is reported. -/
def shown (db : Database σ S) (sql : String) : String := Text.abridge db.config.maxSqlLength sql

section Statements

variable (e : Engine σ S)

/-- A prepared statement from the cache, where it is put if it is missing. -/
def cached (sql : String) : Run (Database σ S) (S × Lookup) := do
  match (← get).cache.hit? sql with
  | some (stmt, cache) =>
    modify fun db => { db with cache }
    return (stmt, .hit)
  | none =>
    let stmt ← call (e.prepare sql)
    let (cache, evicted) := (← get).cache.add sql stmt
    modify fun db => { db with cache }
    evicted.forM fun sql => note (.evicted sql)
    match cache.prepared[sql]? with
    | some stmt => return (stmt, .miss)
    | none => throw (.other ("statement evicted before use: " ++ sql))

/-- A prepared statement, and how it was come by. -/
def prepared (sql : String) : Run (Database σ S) (S × Lookup) := do
  if (← get).config.usesCache then cached e sql
  else return (← call (e.prepare sql), .off)

/-- Prepares a statement, reports it, and uses it; reports it again if that took
long, whatever came of it. -/
def withStatement {α : Type} (sql : String) (params : List Value)
    (use : S → σ → Except EngineFault α × σ) : Run (Database σ S) α := do
  let start := e.clock (← get).connection.engine
  let (stmt, lookup) ← prepared e sql
  let shown := (← get).shown sql
  note (.statement (.ofSql sql) params.length lookup shown)
  let outcome ← (call (use stmt)).attempt
  let db ← get
  match db.config.slowThreshold with
  | some t => if t ≤ e.clock db.connection.engine - start then note (.slow shown)
  | none => pure ()
  Run.ofExcept outcome

def client : Client (Database σ S) where
  query sql params := withStatement e sql params fun stmt => e.query stmt params
  execute sql params := withStatement e sql params fun stmt => e.execute stmt params
  lastInsertRowid := return e.lastInsertRowid (← get).connection.engine
  note event := modify (noted event)

/-- The connection under the handle as a client: no cache and no reports. -/
def bareClient : Client (Database σ S) :=
  (Connection.client e).within (·.connection) fun connection db => { db with connection }

/-- Runs statements without parameters, past the cache. -/
def exec (sql : String) : Run (Database σ S) Unit := do
  note (.batch ((← get).shown sql))
  call (e.batch sql)

end Statements

def clearCache (db : Database σ S) : Database σ S :=
  noted .cacheCleared { db with cache := db.cache.clear }

/-- Lets the cache go; the connection that is left. -/
def close (db : Database σ S) : Connection σ := db.clearCache.connection

end Database

end TypedSql
