import TypedSql.Proofs.Terminals

/-!
# Transcripts

An errand is run over a client, whatever its state is.  Its transcript holds the calls that
it makes of the client, with their answers:

    m.Runs client s log outcome t        m makes the calls of log from s, and no other, and
                                         comes to the outcome with the client in t

The rules below follow an errand step by step: a call is one exchange, and what comes after
a success has its exchanges after those before it (`Runs.bind`).
-/

namespace TypedSql

/-- A call of a client, and its answer. -/
inductive Exchange where
  | query (stmt : Statement) (answer : Except Error (List Row))
  | execute (stmt : Statement) (answer : Except Error Nat)
  | lastInsertRowid (id : Int64)

def Exchange.call : Exchange → ClientCall
  | query stmt _ => .query stmt.text stmt.params
  | execute stmt _ => .execute stmt.text stmt.params
  | lastInsertRowid _ => .lastInsertRowid

/-- The same client, which writes down every call with its answer. -/
def Client.transcribed {σ : Type} (client : Client σ) : Client (σ × List Exchange) where
  query sql params := ExceptT.mk fun t =>
    let (answer, s) := (client.query sql params).runOn t.1
    (answer, s, t.2 ++ [.query ⟨sql, params⟩ answer])
  execute sql params := ExceptT.mk fun t =>
    let (answer, s) := (client.execute sql params).runOn t.1
    (answer, s, t.2 ++ [.execute ⟨sql, params⟩ answer])
  lastInsertRowid := fun t =>
    let (id, s) := client.lastInsertRowid t.1
    (id, s, t.2 ++ [.lastInsertRowid id])
  note event := fun t =>
    let (u, s) := client.note event t.1
    (u, s, t.2)

/-! ## Errands -/

abbrev Errand (α : Type) : Type 1 := {σ : Type} → Client σ → Run σ α

namespace Errand

variable {σ α β : Type} {client : Client σ} {s t u : σ} {log log' : List Exchange}

/-- From `s` the errand makes just the calls of `log`, which are answered as it says there,
comes to `outcome` and leaves the client in `t`. -/
structure Runs (m : Errand α) (client : Client σ) (s : σ) (log : List Exchange)
    (outcome : Except Error α) (t : σ) : Prop where
  outcome_eq : (m client).runOn s = (outcome, t)
  transcript_eq : ∀ before,
    (m client.transcribed).runOn (s, before) = (outcome, t, before ++ log)

theorem Runs.of_eq {m m' : Errand α} {outcome : Except Error α}
    (h : Runs m client s log outcome t)
    (hm : ∀ {τ : Type} (client : Client τ), m client = m' client) :
    Runs m' client s log outcome t where
  outcome_eq := hm client ▸ h.outcome_eq
  transcript_eq before := hm client.transcribed ▸ h.transcript_eq before

theorem Runs.ofExcept (x : Except Error α) :
    Runs (fun _ => Run.ofExcept x) client s [] x s where
  outcome_eq := Run.runOn_ofExcept x s
  transcript_eq before := by rw [Run.runOn_ofExcept, List.append_nil]

theorem Runs.pure (a : α) : Runs (fun _ => return a) client s [] (.ok a) s := ofExcept (.ok a)

theorem Runs.query {sql : String} {params : List Value} {answer : Except Error (List Row)}
    (h : (client.query sql params).runOn s = (answer, t)) :
    Runs (fun client => client.query sql params) client s [.query ⟨sql, params⟩ answer]
      answer t where
  outcome_eq := h
  transcript_eq before := by
    show (((client.query sql params).runOn s).1, ((client.query sql params).runOn s).2,
      before ++ [.query ⟨sql, params⟩ ((client.query sql params).runOn s).1]) = _
    rw [h]

theorem Runs.execute {sql : String} {params : List Value} {answer : Except Error Nat}
    (h : (client.execute sql params).runOn s = (answer, t)) :
    Runs (fun client => client.execute sql params) client s [.execute ⟨sql, params⟩ answer]
      answer t where
  outcome_eq := h
  transcript_eq before := by
    show (((client.execute sql params).runOn s).1, ((client.execute sql params).runOn s).2,
      before ++ [.execute ⟨sql, params⟩ ((client.execute sql params).runOn s).1]) = _
    rw [h]

theorem Runs.lastInsertRowid :
    Runs (fun client => liftM client.lastInsertRowid) client s
      [.lastInsertRowid (client.lastInsertRowid s).1] (.ok (client.lastInsertRowid s).1)
      (client.lastInsertRowid s).2 :=
  ⟨rfl, fun _ => rfl⟩

/-- What is noted is no exchange. -/
theorem Runs.note (event : Event) :
    Runs (fun client => liftM (client.note event)) client s [] (.ok ())
      (client.note event s).2 where
  outcome_eq := rfl
  transcript_eq before := by
    rw [List.append_nil]
    rfl

theorem Runs.bind {m : Errand α} {k : α → Errand β} {a : α} {outcome : Except Error β}
    (hm : Runs m client s log (.ok a) t) (hk : Runs (k a) client t log' outcome u) :
    Runs (fun client => m client >>= fun a => k a client) client s (log ++ log') outcome u where
  outcome_eq := by rw [Run.runOn_bind_ok hm.outcome_eq, hk.outcome_eq]
  transcript_eq before := by
    rw [Run.runOn_bind_ok (hm.transcript_eq before), hk.transcript_eq, List.append_assoc]

theorem Runs.bind_error {m : Errand α} {k : α → Errand β} {e : Error}
    (hm : Runs m client s log (.error e) t) :
    Runs (fun client => m client >>= fun a => k a client) client s log (.error e) t where
  outcome_eq := Run.runOn_bind_error hm.outcome_eq
  transcript_eq before := Run.runOn_bind_error (hm.transcript_eq before)

theorem Runs.map {m : Errand α} {outcome : Except Error α} (f : α → β)
    (h : Runs m client s log outcome t) :
    Runs (fun client => f <$> m client) client s log (outcome.map f) t where
  outcome_eq := by rw [Run.runOn_map, h.outcome_eq]
  transcript_eq before := by rw [Run.runOn_map, h.transcript_eq before]

/-- A statement that cannot be written is not sent. -/
theorem Runs.rendered_error {γ : Type} {x : Except RenderFault γ} {k : γ → Errand β}
    {fault : RenderFault} (h : x = .error fault) :
    Runs (fun client => Run.rendered x >>= fun a => k a client) client s []
      (.error fault.toError) s := by
  subst h
  exact .ofExcept (.error fault.toError)

theorem Runs.rendered_ok {γ : Type} {x : Except RenderFault γ} {k : γ → Errand β} {a : γ}
    {outcome : Except Error β} (h : x = .ok a) (hk : Runs (k a) client s log outcome t) :
    Runs (fun client => Run.rendered x >>= fun a => k a client) client s log outcome t := by
  subst h
  exact hk

/-- What is read off the rows is read off the answer to the query. -/
theorem Runs.rows {stmt : Statement} {answer : Except Error (List Row)}
    (read : List Row → Except Error β)
    (h : (client.query stmt.text stmt.params).runOn s = (answer, t)) :
    Runs (fun client => (Reading.rows read).send client stmt) client s [.query stmt answer]
      (answer.bind read) t := by
  cases answer with
  | error e => exact bind_error (query h)
  | ok rows =>
    exact bind (k := fun rows => fun _ => Run.ofExcept (read rows)) (query h) (.ofExcept _)

theorem Runs.written {stmt : Statement} {answer : Except Error Nat}
    (read : Nat → Except Error β)
    (h : (client.execute stmt.text stmt.params).runOn s = (answer, t)) :
    Runs (fun client => (Reading.written read).send client stmt) client s
      [.execute stmt answer] (answer.bind read) t := by
  cases answer with
  | error e => exact bind_error (execute h)
  | ok n => exact bind (k := fun n => fun _ => Run.ofExcept (read n)) (execute h) (.ofExcept _)

end Errand

/-! ## Terminals -/

namespace Terminal

open Errand

variable {σ β : Type} {client : Client σ} {s : σ}

/-- A terminal is its own errand. -/
def errand (t : Terminal β) : Errand β := fun client => t.run client

theorem runs_of_error (t : Terminal β) {fault : RenderFault} (h : t.statement = .error fault) :
    Runs t.errand client s [] (.error fault.toError) s :=
  (Runs.rendered_error (k := fun stmt => fun client => t.reading.send client stmt) h).of_eq
    fun client => (t.run_eq client).symm

theorem runs_of_ok (t : Terminal β) {stmt : Statement} (h : t.statement = .ok stmt)
    (client : Client σ) (s : σ) :
    ∃ x outcome u, Runs t.errand client s [x] outcome u ∧ x.call = t.reading.call stmt := by
  suffices hruns : ∃ x outcome u, Runs (fun client => t.reading.send client stmt) client s [x]
      outcome u ∧ x.call = t.reading.call stmt by
    obtain ⟨x, outcome, u, hruns, hcall⟩ := hruns
    exact ⟨x, outcome, u, (Runs.rendered_ok (k := fun stmt => fun client =>
      t.reading.send client stmt) h hruns).of_eq fun client => (t.run_eq client).symm, hcall⟩
  cases t.reading with
  | rows read => exact ⟨_, _, _, .rows read rfl, rfl⟩
  | written read => exact ⟨_, _, _, .written read rfl, rfl⟩

end Terminal

end TypedSql
