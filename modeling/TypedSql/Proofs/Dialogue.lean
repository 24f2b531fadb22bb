import TypedSql.Proofs.Handle

/-!
# Dialogues within a transaction

A dialogue talks to a client in queries and executions alone, each of which may depend on
the answers before it.  On a handle it stays within the transaction that was opened in `s`:

    e.Since s t    →  e.Since s u            if no text of it opens a transaction (Within.run)
    e.Inside s t   →  e.Inside s u, or the data are those of `s` again     (Within.run_prompt)

the latter if no text of it ends a transaction, if it stops at the first error, and if the
engine restores the data whenever it ends a transaction of its own accord.

One call to the engine is a step (`Since.called`), a statement is one or two of them
(`Within.withStatement`), and a dialogue is any number of statements.
-/

namespace TypedSql

/-! ## Calls to the engine -/

namespace Engine

variable {σ S D α : Type} (e : Engine σ S)

/-- A call to the engine, whether it succeeds, and the state that it leaves. -/
inductive Call (s : σ) : Bool → σ → Prop
  | prepare (sql : String) : Call s (e.prepare sql s).1.isOk (e.prepare sql s).2
  | query (stmt : S) (params : List Value) :
      Call s (e.query stmt params s).1.isOk (e.query stmt params s).2
  | execute (stmt : S) (params : List Value) :
      Call s (e.execute stmt params s).1.isOk (e.execute stmt params s).2
  | bracket (b : Bracket) : Call s (e.batch b.sql s).1.isOk (e.batch b.sql s).2

/-- The last call to succeed in opening a transaction was made in `s`: one that finds none
open and leaves one open. -/
inductive Since (s : σ) : σ → Prop
  | opened {t : σ} : e.Call s true t → e.autocommit s = true → e.autocommit t = false → Since s t
  /-- a call that fails, whatever it does, or that opens none -/
  | called {t u : σ} {ok : Bool} : Since s t → e.Call t ok u →
      (ok = true → e.autocommit t = true → e.autocommit u = true) → Since s u

/-- The transaction that was opened in `s` is still open. -/
def Inside (s t : σ) : Prop := e.Since s t ∧ e.autocommit t = false

/-- None is open any more, and the data are as they were in `s`. -/
def Back (data : σ → D) (s t : σ) : Prop := e.autocommit t = true ∧ data t = data s

/-- An engine that ends a transaction in a call that fails restores the data. -/
def Reverts (data : σ → D) : Prop :=
  ∀ {s t u}, e.Inside s t → e.Call t false u → e.autocommit u = true → data u = data s

/-- Such a call never succeeds in opening a transaction. -/
def OpensNone (f : σ → Except EngineFault α × σ) : Prop :=
  ∀ s, (f s).1.isOk = true → e.autocommit s = true → e.autocommit (f s).2 = true

/-- Such a call never succeeds in ending a transaction. -/
def EndsNone (f : σ → Except EngineFault α × σ) : Prop :=
  ∀ s, (f s).1.isOk = true → e.autocommit s = false → e.autocommit (f s).2 = false

/-- Every call that comes of the text is such: preparing it, and running it. -/
structure Every (P : ∀ {α : Type}, (σ → Except EngineFault α × σ) → Prop) (sql : String) :
    Prop where
  prepare : P (e.prepare sql)
  query : ∀ stmt params, e.Stands sql stmt → P (e.query stmt params)
  execute : ∀ stmt params, e.Stands sql stmt → P (e.execute stmt params)

variable {e} {s t u : σ}

theorem Inside.succeeds (h : e.Inside s t) (hcall : e.Call t true u)
    (hu : e.autocommit u = false) : e.Inside s u :=
  ⟨h.1.called hcall fun _ ht => absurd ht (by rw [h.2]; exact Bool.false_ne_true), hu⟩

theorem Inside.fails {data : σ → D} (h : e.Inside s t) (hreverts : e.Reverts data)
    (hcall : e.Call t false u) : e.Inside s u ∨ e.Back data s u := by
  cases hu : e.autocommit u with
  | false => exact .inl ⟨h.1.called hcall nofun, hu⟩
  | true => exact .inr ⟨hu, hreverts h hcall hu⟩

end Engine

/-! ## Statements on a handle -/

namespace Database

variable {σ S D α : Type} {e : Engine σ S} {s : σ} {db : Database σ S} {sql : String}

/-- What the cache holds under a text was prepared from it. -/
def Stands (e : Engine σ S) (db : Database σ S) : Prop :=
  ∀ sql stmt, db.cache.prepared[sql]? = some stmt → e.Stands sql stmt

theorem stands_open (config : Config) (connection : Connection σ) :
    Stands e (Database.open config connection : Database σ S) := fun sql stmt h => by
  simp [Database.open, StatementCache.new] at h

theorem Stands.add (h : Stands e db) {stmt : S} (hstmt : e.Stands sql stmt) {db' : Database σ S}
    (hdb' : db'.cache = (db.cache.add sql stmt).1) : Stands e db' := by
  intro text held hheld
  rw [hdb'] at hheld
  rcases StatementCache.held_of_add hheld with ⟨rfl, rfl⟩ | hold
  · exact hstmt
  · exact h _ _ hold

/-- The engine is in such a state, and the cache stands for its texts. -/
structure Within (e : Engine σ S) (I : σ → Prop) (db : Database σ S) : Prop where
  engine : I db.connection.engine
  stands : Stands e db

theorem Within.of_cache_eq {I J : σ → Prop} (h : Within e I db) {db' : Database σ S}
    (hcache : db'.cache = db.cache) (hengine : J db'.connection.engine) : Within e J db' where
  engine := hengine
  stands := fun _ _ hstmt => h.stands _ _ (hcache ▸ hstmt)

/-- From the states of `I` a success leads to such states again, a failure to those of `J`. -/
structure Leads (I J : σ → Prop) (f : σ → Except EngineFault α × σ) : Prop where
  ok : ∀ t, I t → (f t).1.isOk = true → I (f t).2
  error : ∀ t, I t → (f t).1.isOk = false → J (f t).2

/-- The same of a run of the handle, and its value is such. -/
def Ends (e : Engine σ S) (I J : σ → Prop) (P : α → Prop) :
    Except Error α × Database σ S → Prop
  | (.ok a, db) => Within e I db ∧ P a
  | (.error _, db) => Within e J db

section

variable {I J : σ → Prop}

theorem Within.refused (h : Within e I db) (hsql : Leads I J (e.prepare sql))
    {fault : EngineFault} {t : σ}
    (hprepare : e.prepare sql db.connection.engine = (.error fault, t)) :
    Within e J (db.moved t) := by
  have hengine := hsql.error _ h.engine (by rw [hprepare]; rfl)
  rw [hprepare] at hengine
  exact h.of_cache_eq rfl hengine

theorem Within.cached (h : Within e I db) (hIJ : ∀ t, I t → J t)
    (hsql : Leads I J (e.prepare sql)) :
    Ends e I J (fun found => e.Stands sql found.1) ((cached e sql).runOn db) := by
  cases hstmt : db.cache.prepared[sql]? with
  | some stmt =>
    rw [runOn_cached_hit e hstmt]
    exact ⟨⟨h.engine, h.stands⟩, h.stands _ _ hstmt⟩
  | none =>
    rcases hprepare : e.prepare sql db.connection.engine with ⟨fault | stmt, t⟩
    · rw [runOn_cached_refused e hstmt hprepare]
      exact h.refused hsql hprepare
    · have hengine := hsql.ok _ h.engine (by rw [hprepare]; rfl)
      rw [hprepare] at hengine
      rw [runOn_cached_added e hstmt hprepare]
      have hstands : Stands e { (db.moved t).reported
          ((db.cache.add sql stmt).2.map .evicted) with cache := (db.cache.add sql stmt).1 } :=
        h.stands.add ⟨_, by rw [hprepare]⟩ rfl
      cases hkept : (db.cache.add sql stmt).1.prepared[sql]? with
      | none => exact ⟨hIJ _ hengine, hstands⟩
      | some held => exact ⟨⟨hengine, hstands⟩, hstands _ _ hkept⟩

theorem Within.prepared (h : Within e I db) (hIJ : ∀ t, I t → J t)
    (hsql : Leads I J (e.prepare sql)) :
    Ends e I J (fun found => e.Stands sql found.1) ((prepared e sql).runOn db) := by
  rw [Database.prepared, Run.runOn_bind_ok (Run.runOn_get db)]
  cases db.config.usesCache with
  | true => exact h.cached hIJ hsql
  | false =>
    have hcall := runOn_call (e.prepare sql) db
    rcases hprepare : e.prepare sql db.connection.engine with ⟨fault | stmt, t⟩
    all_goals rw [hprepare] at hcall
    · exact (Run.runOn_bind_error hcall).symm ▸ h.refused hsql hprepare
    · have hengine := hsql.ok _ h.engine (by rw [hprepare]; rfl)
      rw [hprepare] at hengine
      exact (Run.runOn_bind_ok hcall).symm ▸
        ⟨h.of_cache_eq rfl hengine, ⟨_, by rw [hprepare]⟩⟩

/-- A statement leads where preparing its text and running what stands for it lead. -/
theorem Within.withStatement (h : Within e I db) (params : List Value)
    (use : S → σ → Except EngineFault α × σ) (hIJ : ∀ t, I t → J t)
    (hsql : Leads I J (e.prepare sql)) (huse : ∀ stmt, e.Stands sql stmt → Leads I J (use stmt)) :
    Ends e I J (fun _ => True) ((withStatement e sql params use).runOn db) := by
  have hprepared := h.prepared hIJ hsql
  rcases hrun : (Database.prepared e sql).runOn db with ⟨error | ⟨stmt, how⟩, db'⟩
  all_goals rw [hrun] at hprepared
  · rw [runOn_withStatement_error e hrun]
    exact hprepared
  · obtain ⟨hwithin, hstands⟩ := hprepared
    obtain ⟨events, hstmt⟩ := runOn_withStatement_ok e params use hrun
    rw [hstmt]
    rcases hresult : use stmt db'.connection.engine with ⟨fault | a, t⟩
    · have hengine := (huse stmt hstands).error _ hwithin.engine (by rw [hresult]; rfl)
      rw [hresult] at hengine
      exact hwithin.of_cache_eq rfl hengine
    · have hengine := (huse stmt hstands).ok _ hwithin.engine (by rw [hresult]; rfl)
      rw [hresult] at hengine
      exact ⟨hwithin.of_cache_eq rfl hengine, trivial⟩

/-- Whatever comes of it, if success and failure lead to the same. -/
theorem Ends.within {P : α → Prop} {r : Except Error α × Database σ S} (h : Ends e I I P r) :
    Within e I r.2 := by
  rcases r with ⟨error | a, db⟩
  · exact h
  · exact h.1

variable {P : ∀ {α : Type}, (σ → Except EngineFault α × σ) → Prop}

theorem Within.query (h : Within e I db) (hIJ : ∀ t, I t → J t) (hsql : e.Every P sql)
    (hP : ∀ {α : Type} (f : σ → Except EngineFault α × σ),
      (∀ t, e.Call t (f t).1.isOk (f t).2) → P f → Leads I J f) (params : List Value) :
    Ends e I J (fun _ => True) (((client e).query sql params).runOn db) :=
  h.withStatement params (fun stmt => e.query stmt params) hIJ
    (hP _ (fun _ => .prepare sql) hsql.prepare)
    fun stmt hstmt => hP _ (fun _ => .query stmt params) (hsql.query stmt params hstmt)

theorem Within.execute (h : Within e I db) (hIJ : ∀ t, I t → J t) (hsql : e.Every P sql)
    (hP : ∀ {α : Type} (f : σ → Except EngineFault α × σ),
      (∀ t, e.Call t (f t).1.isOk (f t).2) → P f → Leads I J f) (params : List Value) :
    Ends e I J (fun _ => True) (((client e).execute sql params).runOn db) :=
  h.withStatement params (fun stmt => e.execute stmt params) hIJ
    (hP _ (fun _ => .prepare sql) hsql.prepare)
    fun stmt hstmt => hP _ (fun _ => .execute stmt params) (hsql.execute stmt params hstmt)

end

/-- Whatever statements a handle runs, its cache stands for its texts. -/
theorem Stands.withStatement (h : Stands e db) (params : List Value)
    (use : S → σ → Except EngineFault α × σ) :
    Stands e ((withStatement e sql params use).runOn db).2 := by
  have hwithin : Within e (fun _ => True) db := ⟨trivial, h⟩
  have hleads : ∀ {α : Type} (f : σ → Except EngineFault α × σ),
      Leads (fun _ => True) (fun _ => True) f :=
    fun _ => ⟨fun _ _ _ => trivial, fun _ _ _ => trivial⟩
  have hends := hwithin.withStatement params use (fun _ => id) (hleads (e.prepare sql))
    fun stmt _ => hleads (use stmt)
  exact hends.within.stands

end Database

/-! ## Dialogues -/

/-- Queries and executions, each chosen by the answers to those before it. -/
inductive Dialogue (α : Type) where
  | done (outcome : Except Error α)
  | query (sql : String) (params : List Value) (next : Except Error (List Row) → Dialogue α)
  | execute (sql : String) (params : List Value) (next : Except Error Nat → Dialogue α)

namespace Dialogue

variable {σ S α : Type}

def run (client : Client σ) : Dialogue α → Run σ α
  | done outcome => Run.ofExcept outcome
  | query sql params next => do (next (← (client.query sql params).attempt)).run client
  | execute sql params next => do (next (← (client.execute sql params).attempt)).run client

/-- Every text that the dialogue may ever send is such. -/
def Sends (P : String → Prop) : Dialogue α → Prop
  | done _ => True
  | query sql _ next => P sql ∧ ∀ answer, (next answer).Sends P
  | execute sql _ next => P sql ∧ ∀ answer, (next answer).Sends P

/-- The dialogue is done when it meets an error. -/
def Prompt : Dialogue α → Prop
  | done _ => True
  | query _ _ next =>
    (∀ error, ∃ outcome, next (.error error) = done outcome) ∧ ∀ rows, (next (.ok rows)).Prompt
  | execute _ _ next =>
    (∀ error, ∃ outcome, next (.error error) = done outcome) ∧ ∀ n, (next (.ok n)).Prompt

end Dialogue

namespace Database.Within

variable {σ S D α : Type} {e : Engine σ S} {s : σ} {db : Database σ S}

/-- Calls that open no transaction stay within the last one. -/
theorem leads_since (f : σ → Except EngineFault α × σ)
    (hcall : ∀ t, e.Call t (f t).1.isOk (f t).2) (hf : e.OpensNone f) :
    Leads (e.Since s) (e.Since s) f where
  ok := fun t ht _ => ht.called (hcall t) (hf t)
  error := fun t ht _ => ht.called (hcall t) (hf t)

theorem run (h : Within e (e.Since s) db) {f : Dialogue α} (hf : f.Sends (e.Every e.OpensNone)) :
    Within e (e.Since s) ((f.run (client e)).runOn db).2 := by
  induction f generalizing db with
  | done outcome =>
    rw [Dialogue.run, Run.runOn_ofExcept]
    exact h
  | query sql params next ih =>
    rw [Dialogue.run, Run.runOn_bind_ok (Run.runOn_attempt _ db)]
    exact ih _ (h.query (fun _ => id) hf.1 leads_since params).within (hf.2 _)
  | execute sql params next ih =>
    rw [Dialogue.run, Run.runOn_bind_ok (Run.runOn_attempt _ db)]
    exact ih _ (h.execute (fun _ => id) hf.1 leads_since params).within (hf.2 _)

/-- Calls that end no transaction stay inside of it, or the engine reverts it. -/
theorem leads_inside {data : σ → D} (hreverts : e.Reverts data)
    (f : σ → Except EngineFault α × σ) (hcall : ∀ t, e.Call t (f t).1.isOk (f t).2)
    (hf : e.EndsNone f) : Leads (e.Inside s) (fun t => e.Inside s t ∨ e.Back data s t) f where
  ok := fun t ht hok => ht.succeeds (hok ▸ hcall t) (hf t hok ht.2)
  error := fun t ht herror => ht.fails hreverts (herror ▸ hcall t)

theorem run_prompt {data : σ → D} (hreverts : e.Reverts data) (h : Within e (e.Inside s) db)
    {f : Dialogue α} (hf : f.Sends (e.Every e.EndsNone)) (hprompt : f.Prompt) :
    Within e (fun t => e.Inside s t ∨ e.Back data s t) ((f.run (client e)).runOn db).2 := by
  induction f generalizing db with
  | done outcome =>
    rw [Dialogue.run, Run.runOn_ofExcept]
    exact h.of_cache_eq rfl (.inl h.engine)
  | query sql params next ih =>
    have hquery := h.query (fun _ => .inl) hf.1 (leads_inside hreverts) params
    rcases hrun : ((client e).query sql params).runOn db with ⟨error | rows, db'⟩
    all_goals rw [hrun] at hquery; rw [Dialogue.run, Run.runOn_attempt_bind hrun]
    · obtain ⟨outcome, hdone⟩ := hprompt.1 error
      rw [hdone, Dialogue.run, Run.runOn_ofExcept]
      exact hquery
    · exact ih _ hquery.1 (hf.2 _) (hprompt.2 rows)
  | execute sql params next ih =>
    have hexecute := h.execute (fun _ => .inl) hf.1 (leads_inside hreverts) params
    rcases hrun : ((client e).execute sql params).runOn db with ⟨error | n, db'⟩
    all_goals rw [hrun] at hexecute; rw [Dialogue.run, Run.runOn_attempt_bind hrun]
    · obtain ⟨outcome, hdone⟩ := hprompt.1 error
      rw [hdone, Dialogue.run, Run.runOn_ofExcept]
      exact hexecute
    · exact ih _ hexecute.1 (hf.2 _) (hprompt.2 n)

end Database.Within

end TypedSql
