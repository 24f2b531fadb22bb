import TypedSql.Session.Client
import TypedSql.Session.Fault

/-!
# Engines and bare connections

An engine is a state machine that prepares and runs statements.  `S` are its
prepared statements, `σ` its states.  A `Connection` is an engine's state with
the events reported so far; as a client it prepares every statement anew.
-/

namespace TypedSql

structure Engine (σ S : Type) where
  prepare : String → σ → Except EngineFault S × σ
  query : S → List Value → σ → Except EngineFault (List Row) × σ
  execute : S → List Value → σ → Except EngineFault Nat × σ
  /-- runs statements without parameters -/
  batch : String → σ → Except EngineFault Unit × σ
  /-- whether no transaction is open -/
  autocommit : σ → Bool
  lastInsertRowid : σ → Int64
  /-- the time in milliseconds -/
  clock : σ → Nat

/-- The same engine beside a notebook that it neither reads nor writes. -/
def Engine.beside {σ S : Type} (e : Engine σ S) (ν : Type) : Engine (σ × ν) S where
  prepare sql s := let (a, t) := e.prepare sql s.1; (a, t, s.2)
  query stmt params s := let (a, t) := e.query stmt params s.1; (a, t, s.2)
  execute stmt params s := let (a, t) := e.execute stmt params s.1; (a, t, s.2)
  batch sql s := let (a, t) := e.batch sql s.1; (a, t, s.2)
  autocommit s := e.autocommit s.1
  lastInsertRowid s := e.lastInsertRowid s.1
  clock s := e.clock s.1

structure Connection (σ : Type) where
  engine : σ
  log : List Event

namespace Connection

variable {σ S : Type}

def noted (event : Event) (c : Connection σ) : Connection σ := { c with log := c.log ++ [event] }

/-- A call to the engine; its faults become errors. -/
def call {α : Type} (f : σ → Except EngineFault α × σ) : Run (Connection σ) α :=
  ExceptT.mk fun c =>
    let (outcome, engine) := f c.engine
    (outcome.mapError Error.ofEngine, { c with engine })

def client (e : Engine σ S) : Client (Connection σ) where
  query sql params := do call (e.query (← call (e.prepare sql)) params)
  execute sql params := do call (e.execute (← call (e.prepare sql)) params)
  lastInsertRowid := return e.lastInsertRowid (← get).engine
  note event := modify (noted event)

end Connection

end TypedSql
