import TypedSql.Proofs.Dialogue
import TypedSql.Proofs.Sheet

/-!
# What a transaction comes to

A transaction that begins runs its body once and either commits,

    (transaction e body).runOn db = (.ok a, db')
      ↔ body.runOn db₁ = (.ok a, db₂) and (commit e).runOn db₂ = (.ok (), db')      (ok_iff)

or the body or the commit fails, and what is then still open is cleaned up:

    (transaction e body).runOn db = (.error error', db')
      ↔ Fails e body db₁ error db₂ and Cleaned e error db₂ error' db'            (error_iff)

On an engine that restores at a rollback what was there when the transaction began, a body
of queries and executions whose failure finds the transaction open leaves the data as they
were (`Undoes`); and it is done altogether or not at all, if it ends with its first error and
the engine ends no transaction without restoring the data (`Atomic`).
-/

namespace TypedSql

/-- What the engine does at the brackets of a transaction when it succeeds; of a call that
fails nothing is asked. -/
structure Engine.Transactional {σ S D : Type} (e : Engine σ S) (data : σ → D) : Prop where
  begin_opens : ∀ {s t}, e.batch Bracket.start.sql s = (.ok (), t) → e.autocommit t = false
  commit_closes : ∀ {s t}, e.batch Bracket.commit.sql s = (.ok (), t) → e.autocommit t = true
  rollback_closes : ∀ {s t}, e.batch Bracket.rollback.sql s = (.ok (), t) → e.autocommit t = true
  rollback_restores : ∀ {s t u}, e.Since s t → e.batch Bracket.rollback.sql t = (.ok (), u) →
    data u = data s

/-- An error, and the failure of the rollback after it. -/
def Error.withRollback (error failure : Error) : Error :=
  .other (error.message ++ " (rollback failed: " ++ failure.message ++ ")")

theorem Error.ne_withRollback (error failure : Error) : error ≠ error.withRollback failure := by
  intro h
  have hmessage : error.message =
      error.message ++ " (rollback failed: " ++ failure.message ++ ")" :=
    congrArg Error.message h
  have hlength := congrArg String.length hmessage
  simp only [String.length_append] at hlength
  have hmarker : " (rollback failed: ".length = 19 := rfl
  omega

namespace Database

variable {σ S D α : Type} {e : Engine σ S} {db db' db₁ db₂ : Database σ S}

/-! ## Brackets -/

/-- A bracket is one call to the engine, and the cache stays. -/
theorem bracket_call {b : Bracket} {outcome : Except Error Unit}
    (h : (bracket e b).runOn db = (outcome, db')) :
    e.Call db.connection.engine outcome.isOk db'.connection.engine ∧ db'.cache = db.cache := by
  have hcall := Engine.Call.bracket (e := e) (s := db.connection.engine) b
  rw [runOn_bracket] at h
  cases h
  refine ⟨?_, rfl⟩
  rcases hbatch : e.batch b.sql db.connection.engine with ⟨fault | done, t⟩
  all_goals rw [hbatch] at hcall; exact hcall

theorem bracket_ok {b : Bracket} (h : (bracket e b).runOn db = (.ok (), db')) :
    e.batch b.sql db.connection.engine = (.ok (), db'.connection.engine) := by
  rw [runOn_bracket] at h
  rcases hbatch : e.batch b.sql db.connection.engine with ⟨fault | done, t⟩
  all_goals rw [hbatch] at h; cases h
  rfl

theorem begin_ok (h : (begin e).runOn db = (.ok (), db')) :
    inTransaction e db = false ∧ (bracket e .start).runOn db = (.ok (), db') := by
  rw [runOn_begin] at h
  split at h
  · cases h
  · next hopen => exact ⟨Bool.eq_false_iff.2 hopen, h⟩

theorem finish_ok {b : Bracket} (h : (finish e b).runOn db = (.ok (), db')) :
    inTransaction e db = true ∧ (bracket e b).runOn db = (.ok (), db') := by
  rw [runOn_finish] at h
  split at h
  · next hopen => exact ⟨hopen, h⟩
  · cases h

/-! ## Failures and what is done about them -/

/-- The body fails, or the commit after it. -/
inductive Fails (e : Engine σ S) (body : Run (Database σ S) α) (db₁ : Database σ S)
    (error : Error) (db₂ : Database σ S) : Prop
  | body : body.runOn db₁ = (.error error, db₂) → Fails e body db₁ error db₂
  | commit {a : α} {db : Database σ S} : body.runOn db₁ = (.ok a, db) →
      (commit e).runOn db = (.error error, db₂) → Fails e body db₁ error db₂

/-- What is left after an error, and the error that is given on. -/
inductive Cleaned (e : Engine σ S) (error : Error) (db₂ : Database σ S) :
    Error → Database σ S → Prop
  /-- nothing is open any more, and nothing is sent -/
  | gone : inTransaction e db₂ = false → Cleaned e error db₂ error db₂
  | undone {db' : Database σ S} : inTransaction e db₂ = true →
      (rollback e).runOn db₂ = (.ok (), db') → Cleaned e error db₂ error db'
  | stuck {failure : Error} {db' : Database σ S} : inTransaction e db₂ = true →
      (rollback e).runOn db₂ = (.error failure, db') →
      Cleaned e error db₂ (error.withRollback failure) db'

theorem Cleaned.runOn_abort {error error' : Error} (h : Cleaned e error db₂ error' db') :
    (abort e error : Run (Database σ S) α).runOn db₂ = (.error error', db') := by
  rw [abort, Run.runOn_bind_ok (Run.runOn_get db₂)]
  cases h with
  | gone hgone =>
    rw [hgone]
    rfl
  | undone hopen hrollback =>
    rw [hopen]
    exact Run.runOn_attempt_bind hrollback
  | stuck hopen hrollback =>
    rw [hopen]
    exact Run.runOn_attempt_bind hrollback

theorem exists_cleaned (e : Engine σ S) (error : Error) (db₂ : Database σ S) :
    ∃ error' db', Cleaned e error db₂ error' db' := by
  cases hopen : inTransaction e db₂ with
  | false => exact ⟨_, _, .gone hopen⟩
  | true =>
    rcases hrollback : (rollback e).runOn db₂ with ⟨failure | done, db'⟩
    · exact ⟨_, _, .stuck hopen hrollback⟩
    · exact ⟨_, _, .undone hopen hrollback⟩

/-- The error is given on with that of a rollback exactly if there was one. -/
theorem Cleaned.withRollback_iff {error error' : Error} (h : Cleaned e error db₂ error' db') :
    (∃ failure, error' = error.withRollback failure) ↔
      inTransaction e db₂ = true ∧
        ∃ failure db', (rollback e).runOn db₂ = (.error failure, db') := by
  cases h with
  | gone hgone =>
    refine ⟨fun ⟨failure, hfailure⟩ => absurd hfailure (error.ne_withRollback failure),
      fun ⟨hopen, _⟩ => ?_⟩
    rw [hgone] at hopen
    cases hopen
  | undone hopen hrollback =>
    refine ⟨fun ⟨failure, hfailure⟩ => absurd hfailure (error.ne_withRollback failure),
      fun ⟨_, failure, db'', hfailure⟩ => ?_⟩
    rw [hrollback] at hfailure
    cases hfailure
  | stuck hopen hrollback => exact ⟨fun _ => ⟨hopen, _, _, hrollback⟩, fun _ => ⟨_, rfl⟩⟩

/-- What is still open after the cleaning up is what could not be rolled back. -/
theorem Cleaned.open {data : σ → D} (he : e.Transactional data) {error error' : Error}
    (h : Cleaned e error db₂ error' db') (hopen : inTransaction e db' = true) :
    ∃ failure, inTransaction e db₂ = true ∧ (rollback e).runOn db₂ = (.error failure, db') := by
  cases h with
  | gone hgone =>
    rw [hgone] at hopen
    cases hopen
  | undone _ hrollback =>
    rw [inTransaction, he.rollback_closes (bracket_ok (finish_ok hrollback).2)] at hopen
    cases hopen
  | stuck hopen hrollback => exact ⟨_, hopen, hrollback⟩

/-! ## Transactions -/

theorem runOn_transaction_refused {body : Run (Database σ S) α} {error : Error}
    (h : (begin e).runOn db = (.error error, db₁)) :
    (transaction e body).runOn db = (.error error, db₁) := by
  rw [transaction, Run.runOn_bind_error h]

theorem runOn_transaction_committed {body : Run (Database σ S) α} {a : α}
    (hbegin : (begin e).runOn db = (.ok (), db₁)) (hbody : body.runOn db₁ = (.ok a, db₂))
    (hcommit : (commit e).runOn db₂ = (.ok (), db')) :
    (transaction e body).runOn db = (.ok a, db') := by
  rw [transaction, Run.runOn_bind_ok hbegin, Run.runOn_attempt_bind hbody]
  exact Run.runOn_attempt_bind hcommit

theorem runOn_transaction_failed {body : Run (Database σ S) α} {error error' : Error}
    (hbegin : (begin e).runOn db = (.ok (), db₁)) (hfails : Fails e body db₁ error db₂)
    (hcleaned : Cleaned e error db₂ error' db') :
    (transaction e body).runOn db = (.error error', db') := by
  rw [transaction, Run.runOn_bind_ok hbegin]
  cases hfails with
  | body hbody =>
    rw [Run.runOn_attempt_bind hbody]
    exact hcleaned.runOn_abort
  | commit hbody hcommit =>
    rw [Run.runOn_attempt_bind hbody]
    exact (Run.runOn_attempt_bind hcommit).trans hcleaned.runOn_abort

/-- A transaction that begins commits, or it fails and is cleaned up. -/
theorem transaction_cases (body : Run (Database σ S) α)
    (hbegin : (begin e).runOn db = (.ok (), db₁)) :
    (∃ a db₂ db', body.runOn db₁ = (.ok a, db₂) ∧ (commit e).runOn db₂ = (.ok (), db') ∧
      (transaction e body).runOn db = (.ok a, db')) ∨
    ∃ error db₂ error' db', Fails e body db₁ error db₂ ∧ Cleaned e error db₂ error' db' ∧
      (transaction e body).runOn db = (.error error', db') := by
  have hfailed : ∀ {error db₂}, Fails e body db₁ error db₂ →
      ∃ error db₂ error' db', Fails e body db₁ error db₂ ∧ Cleaned e error db₂ error' db' ∧
        (transaction e body).runOn db = (.error error', db') := by
    intro error db₂ hfails
    obtain ⟨error', db', hcleaned⟩ := exists_cleaned e error db₂
    exact ⟨error, db₂, error', db', hfails, hcleaned,
      runOn_transaction_failed hbegin hfails hcleaned⟩
  rcases hbody : body.runOn db₁ with ⟨error | a, db₂⟩
  · exact .inr (hfailed (.body hbody))
  · rcases hcommit : (commit e).runOn db₂ with ⟨error | done, db'⟩
    · exact .inr (hfailed (.commit hbody hcommit))
    · exact .inl ⟨a, db₂, db', rfl, hcommit, runOn_transaction_committed hbegin hbody hcommit⟩

/-! ## Top theorem -/

/-- What a transaction owes to whoever runs it. -/
structure Brackets (e : Engine σ S) (body : Run (Database σ S) α) (db : Database σ S) : Prop where
  /-- within another transaction nothing is sent and the body is not run; -/
  nested : inTransaction e db = true → (transaction e body).runOn db =
    (.error (.transaction
      "a transaction is already open; nested transactions are not supported"), db)
  /-- nor is it after a refusal to begin -/
  refused : ∀ {error db₁}, (begin e).runOn db = (.error error, db₁) →
    (transaction e body).runOn db = (.error error, db₁)
  ok_iff : ∀ {db₁}, (begin e).runOn db = (.ok (), db₁) → ∀ a db',
    (transaction e body).runOn db = (.ok a, db') ↔
      ∃ db₂, body.runOn db₁ = (.ok a, db₂) ∧ (commit e).runOn db₂ = (.ok (), db')
  error_iff : ∀ {db₁}, (begin e).runOn db = (.ok (), db₁) → ∀ error' db',
    (transaction e body).runOn db = (.error error', db') ↔
      ∃ error db₂, Fails e body db₁ error db₂ ∧ Cleaned e error db₂ error' db'
  /-- the errors are combined exactly when there are two -/
  combined_iff : ∀ {db₁}, (begin e).runOn db = (.ok (), db₁) → ∀ {error db₂},
    Fails e body db₁ error db₂ →
      ((∃ failure, ((transaction e body).runOn db).1 = .error (error.withRollback failure)) ↔
        inTransaction e db₂ = true ∧
          ∃ failure db', (rollback e).runOn db₂ = (.error failure, db'))
  /-- a transaction is left open only where it could not be rolled back -/
  closed : ∀ {db₁}, (begin e).runOn db = (.ok (), db₁) →
    inTransaction e ((transaction e body).runOn db).2 = true →
      ∃ error db₂ failure, Fails e body db₁ error db₂ ∧ inTransaction e db₂ = true ∧
        (rollback e).runOn db₂ = (.error failure, ((transaction e body).runOn db).2)

theorem brackets {data : σ → D} (he : e.Transactional data) (body : Run (Database σ S) α)
    (db : Database σ S) : Brackets e body db where
  nested := fun hopen => runOn_transaction_refused (by rw [runOn_begin, if_pos hopen])
  refused := runOn_transaction_refused
  ok_iff := fun {db₁} hbegin a db' => by
    refine ⟨fun hrun => ?_,
      fun ⟨db₂, hbody, hcommit⟩ => runOn_transaction_committed hbegin hbody hcommit⟩
    rcases transaction_cases body hbegin with
      ⟨a', db₂, db'', hbody, hcommit, hok⟩ | ⟨error, db₂, error', db'', -, -, herror⟩
    · rw [hok] at hrun
      cases hrun
      exact ⟨db₂, hbody, hcommit⟩
    · rw [herror] at hrun
      cases hrun
  error_iff := fun {db₁} hbegin error' db' => by
    refine ⟨fun hrun => ?_,
      fun ⟨error, db₂, hfails, hcleaned⟩ => runOn_transaction_failed hbegin hfails hcleaned⟩
    rcases transaction_cases body hbegin with
      ⟨a, db₂, db'', -, -, hok⟩ | ⟨error, db₂, error'', db'', hfails, hcleaned, herror⟩
    · rw [hok] at hrun
      cases hrun
    · rw [herror] at hrun
      cases hrun
      exact ⟨error, db₂, hfails, hcleaned⟩
  combined_iff := fun {db₁} hbegin {error db₂} hfails => by
    obtain ⟨error', db', hcleaned⟩ := exists_cleaned e error db₂
    rw [runOn_transaction_failed hbegin hfails hcleaned, ← hcleaned.withRollback_iff]
    exact ⟨fun ⟨failure, h⟩ => ⟨failure, Except.error.inj h⟩,
      fun ⟨failure, h⟩ => ⟨failure, congrArg Except.error h⟩⟩
  closed := fun {db₁} hbegin hopen => by
    rcases transaction_cases body hbegin with
      ⟨a, db₂, db', -, hcommit, hok⟩ | ⟨error, db₂, error', db', hfails, hcleaned, herror⟩
    · rw [hok, inTransaction, he.commit_closes (bracket_ok (finish_ok hcommit).2)] at hopen
      cases hopen
    · rw [herror] at hopen ⊢
      obtain ⟨failure, hopen', hrollback⟩ := hcleaned.open he hopen
      exact ⟨error, db₂, failure, hfails, hopen', hrollback⟩

/-! ## Dialogues -/

/-- The handle is inside the transaction that it has begun. -/
theorem Within.begun {data : σ → D} (he : e.Transactional data) (hdb : Stands e db)
    (h : (begin e).runOn db = (.ok (), db₁)) : Within e (e.Inside db.connection.engine) db₁ := by
  obtain ⟨hclosed, hbracket⟩ := begin_ok h
  obtain ⟨hcall, hcache⟩ := bracket_call hbracket
  have hauto : e.autocommit db.connection.engine = true := by simpa [inTransaction] using hclosed
  have hopen := he.begin_opens (bracket_ok hbracket)
  exact ⟨⟨.opened hcall hauto hopen, hopen⟩, fun _ _ hstmt => hdb _ _ (hcache ▸ hstmt)⟩

/-- What a body leads to, the commit that fails after it leads to too, if calls that fail in
an open transaction do. -/
theorem Within.failed {I : σ → Prop} {body : Run (Database σ S) α} {error : Error}
    (h : Within e I (body.runOn db₁).2)
    (hI : ∀ {t u}, I t → e.autocommit t = false → e.Call t false u → I u)
    (hfails : Fails e body db₁ error db₂) : Within e I db₂ := by
  cases hfails with
  | body hbody =>
    rw [hbody] at h
    exact h
  | @commit a db hbody hcommit =>
    rw [hbody] at h
    rw [commit, runOn_finish] at hcommit
    split at hcommit
    · next hopen =>
      obtain ⟨hcall, hcache⟩ := bracket_call hcommit
      have hauto : e.autocommit db.connection.engine = false := by
        simpa [inTransaction] using hopen
      exact h.of_cache_eq hcache (hI h.engine hauto hcall)
    · cases hcommit
      exact h

/-- What a dialogue in a transaction comes to, if it opens none itself. -/
structure Undoes (e : Engine σ S) (data : σ → D) (f : Dialogue α) (db : Database σ S) :
    Prop where
  /-- what is committed is the transaction that was begun -/
  committed : ∀ {db₁ a db'}, (begin e).runOn db = (.ok (), db₁) →
    (transaction e (f.run (client e))).runOn db = (.ok a, db') →
      ∃ db₂, (f.run (client e)).runOn db₁ = (.ok a, db₂) ∧
        e.Since db.connection.engine db₂.connection.engine ∧
        (bracket e .commit).runOn db₂ = (.ok (), db')
  /-- an error with the transaction still open leaves the data as they were before it, or it
  tells of a rollback that failed -/
  undone : ∀ {db₁ error db₂}, (begin e).runOn db = (.ok (), db₁) →
    Fails e (f.run (client e)) db₁ error db₂ → inTransaction e db₂ = true →
      ∃ error' db', (transaction e (f.run (client e))).runOn db = (.error error', db') ∧
        ((error' = error ∧ inTransaction e db' = false ∧
            data db'.connection.engine = data db.connection.engine) ∨
          ∃ failure, error' = error.withRollback failure ∧
            (rollback e).runOn db₂ = (.error failure, db'))

theorem undoes {data : σ → D} (he : e.Transactional data) (hdb : Stands e db)
    {f : Dialogue α} (hf : f.Sends (e.Every e.OpensNone)) : Undoes e data f db where
  committed := fun {db₁ a db'} hbegin hrun => by
    obtain ⟨db₂, hbody, hcommit⟩ := ((brackets he _ db).ok_iff hbegin a db').1 hrun
    have hbegun := Within.begun he hdb hbegin
    have hwithin := (hbegun.of_cache_eq rfl hbegun.engine.1).run hf
    rw [hbody] at hwithin
    exact ⟨db₂, hbody, hwithin.engine, (finish_ok hcommit).2⟩
  undone := fun {db₁ error db₂} hbegin hfails hopen => by
    have hbegun := Within.begun he hdb hbegin
    have hwithin := ((hbegun.of_cache_eq rfl hbegun.engine.1).run hf).failed
      (fun ht _ hcall => ht.called hcall nofun) hfails
    obtain ⟨error', db', hcleaned⟩ := exists_cleaned e error db₂
    refine ⟨error', db', runOn_transaction_failed hbegin hfails hcleaned, ?_⟩
    cases hcleaned with
    | gone hgone =>
      rw [hgone] at hopen
      cases hopen
    | undone _ hrollback =>
      have hbatch := bracket_ok (finish_ok hrollback).2
      refine .inl ⟨rfl, ?_, he.rollback_restores hwithin.engine hbatch⟩
      rw [inTransaction, he.rollback_closes hbatch]
      rfl
    | stuck _ hrollback => exact .inr ⟨_, rfl, hrollback⟩

/-- What a dialogue in a transaction comes to, if it neither ends it itself nor goes on after
an error: all of it or nothing, unless nothing could be done about it. -/
structure Atomic (e : Engine σ S) (data : σ → D) (f : Dialogue α) (db : Database σ S) :
    Prop where
  all : ∀ {db₁ a db'}, (begin e).runOn db = (.ok (), db₁) →
    (transaction e (f.run (client e))).runOn db = (.ok a, db') →
      ∃ db₂, (f.run (client e)).runOn db₁ = (.ok a, db₂) ∧
        e.Inside db.connection.engine db₂.connection.engine ∧
        (bracket e .commit).runOn db₂ = (.ok (), db')
  nothing : ∀ {db₁ error' db'}, (begin e).runOn db = (.ok (), db₁) →
    (transaction e (f.run (client e))).runOn db = (.error error', db') →
      data db'.connection.engine = data db.connection.engine ∨
        ∃ error db₂ failure, Fails e (f.run (client e)) db₁ error db₂ ∧
          error' = error.withRollback failure ∧ (rollback e).runOn db₂ = (.error failure, db')

theorem atomic {data : σ → D} (he : e.Transactional data) (hreverts : e.Reverts data)
    (hdb : Stands e db) {f : Dialogue α} (hf : f.Sends (e.Every e.EndsNone))
    (hprompt : f.Prompt) : Atomic e data f db where
  all := fun {db₁ a db'} hbegin hrun => by
    obtain ⟨db₂, hbody, hcommit⟩ := ((brackets he _ db).ok_iff hbegin a db').1 hrun
    have hwithin := (Within.begun he hdb hbegin).run_prompt hreverts hf hprompt
    obtain ⟨hopen, hbracket⟩ := finish_ok hcommit
    rw [hbody] at hwithin
    refine ⟨db₂, hbody, hwithin.engine.resolve_right fun hback => ?_, hbracket⟩
    rw [inTransaction, hback.1] at hopen
    cases hopen
  nothing := fun {db₁ error' db'} hbegin hrun => by
    obtain ⟨error, db₂, hfails, hcleaned⟩ := ((brackets he _ db).error_iff hbegin error' db').1 hrun
    have hwithin := ((Within.begun he hdb hbegin).run_prompt hreverts hf hprompt).failed
      (fun {t u} ht hopen hcall => by
        rcases ht with hinside | hback
        · exact hinside.fails hreverts hcall
        · rw [hback.1] at hopen
          cases hopen) hfails
    cases hcleaned with
    | gone hgone =>
      rcases hwithin.engine with hinside | hback
      · rw [inTransaction, hinside.2] at hgone
        cases hgone
      · exact .inl hback.2
    | undone hopen hrollback =>
      rcases hwithin.engine with hinside | hback
      · exact .inl (he.rollback_restores hinside.1 (bracket_ok (finish_ok hrollback).2))
      · rw [inTransaction, hback.1] at hopen
        cases hopen
    | stuck _ hrollback => exact .inr ⟨error, db₂, _, hfails, rfl, hrollback⟩

/-! ## Top theorem -/

/-- **What a transaction comes to.**  On an engine that keeps to the brackets when they
succeed, whatever its failures do, a transaction runs its body once, after BEGIN, and gives
its result after COMMIT; else it gives the error of the body or the commit, and that of the
rollback with it if this failed too; and it leaves nothing open but what could not be rolled
back.  A body of queries and executions that opens no transaction itself is undone after an
error that finds the transaction open; and where the engine ends transactions only by
restoring the data, one that ends with its first error is done altogether or not at all. -/
theorem transaction_brackets {data : σ → D} (he : e.Transactional data) (db : Database σ S) :
    (∀ {α : Type} (body : Run (Database σ S) α), Brackets e body db) ∧
    (∀ {α : Type} (f : Dialogue α), Stands e db → f.Sends (e.Every e.OpensNone) →
      Undoes e data f db) ∧
    (e.Reverts data → ∀ {α : Type} (f : Dialogue α), Stands e db →
      f.Sends (e.Every e.EndsNone) → f.Prompt → Atomic e data f db) :=
  ⟨fun body => brackets he body db, fun _ hdb hf => undoes he hdb hf,
    fun hreverts _ _ hdb hf hprompt => atomic he hreverts hdb hf hprompt⟩

end Database

/-! ## Sheets -/

namespace Sheet

/-- A call keeps what a sheet has saved; if it succeeds, it may drop it or save what is
there. -/
theorem saved_of_call {s t : Sheet} {ok : Bool} (h : engine.Call s ok t) :
    t.saved = s.saved ∨
      (ok = true ∧ (t.saved = none ∨ (s.saved = none ∧ t.saved = some s.values))) := by
  cases h with
  | prepare sql => exact .inl rfl
  | query stmt params => exact .inl (query_saved stmt params s)
  | execute stmt params => exact .inl (execute_saved stmt params s)
  | bracket b =>
    rcases s with ⟨values, _ | saved, rowid⟩
    · cases b with
      | start => exact .inr ⟨rfl, .inr ⟨rfl, rfl⟩⟩
      | commit => exact .inl rfl
      | rollback => exact .inl rfl
    · cases b with
      | start => exact .inl rfl
      | commit => exact .inr ⟨rfl, .inl rfl⟩
      | rollback => exact .inr ⟨rfl, .inl rfl⟩

/-- What a sheet has saved it had when the transaction was opened. -/
theorem saved_of_since {s t : Sheet} (h : engine.Since s t) {saved : List Value}
    (hsaved : t.saved = some saved) : saved = s.values := by
  induction h with
  | opened hcall hs _ =>
    rcases saved_of_call hcall with hkept | ⟨-, hdropped | ⟨-, htaken⟩⟩
    · rw [hsaved] at hkept
      rw [autocommit_eq, ← hkept] at hs
      cases hs
    · rw [hdropped] at hsaved
      cases hsaved
    · exact Option.some.inj (hsaved.symm.trans htaken)
  | called _ hcall hnone ih =>
    rcases saved_of_call hcall with hkept | ⟨hok, hdropped | ⟨hs, htaken⟩⟩
    · exact ih (hkept ▸ hsaved)
    · rw [hdropped] at hsaved
      cases hsaved
    · have hclosed := hnone hok (by rw [autocommit_eq, hs]; rfl)
      rw [autocommit_eq, htaken] at hclosed
      cases hclosed

theorem transactional : engine.Transactional Sheet.values where
  begin_opens := fun {s t} h => by
    rcases s with ⟨values, _ | saved, rowid⟩ <;> cases h
    rfl
  commit_closes := fun {s t} h => by
    rcases s with ⟨values, _ | saved, rowid⟩ <;> cases h
    rfl
  rollback_closes := fun {s t} h => by
    rcases s with ⟨values, _ | saved, rowid⟩ <;> cases h
    rfl
  rollback_restores := fun {s t u} hsince h => by
    rcases t with ⟨values, _ | saved, rowid⟩ <;> cases h
    exact saved_of_since hsince rfl

/-- A sheet ends no transaction of its own accord. -/
theorem reverts : engine.Reverts Sheet.values := by
  intro s t u hinside hcall hu
  rcases saved_of_call hcall with hkept | ⟨hok, -⟩
  · have hopen := hinside.2
    rw [autocommit_eq, ← hkept, ← autocommit_eq, hu] at hopen
    cases hopen
  · cases hok

theorem every_endsNone (sql : String) : engine.Every engine.EndsNone sql where
  prepare := fun s _ h => h
  query := fun stmt params _ s _ h => by rwa [autocommit_eq, query_saved]
  execute := fun stmt params _ s _ h => by rwa [autocommit_eq, execute_saved]

/-- Inserts values as far as that goes. -/
def insertAll : List Value → Dialogue Unit
  | [] => .done (.ok ())
  | v :: vs => .execute Stmt.insertion.text [v] fun
    | .ok _ => insertAll vs
    | .error error => .done (.error error)

theorem sends_insertAll (vs : List Value) :
    (insertAll vs).Sends (engine.Every engine.EndsNone) := by
  induction vs with
  | nil => trivial
  | cons v vs ih =>
    refine ⟨every_endsNone _, fun answer => ?_⟩
    cases answer with
    | ok n => exact ih
    | error error => trivial

theorem prompt_insertAll (vs : List Value) : (insertAll vs).Prompt := by
  induction vs with
  | nil => trivial
  | cons v vs ih => exact ⟨fun error => ⟨_, rfl⟩, fun n => ih⟩

end Sheet

open Database in
/-- Two equal values are not inserted in one transaction, and then neither of them is. -/
theorem Database.transaction_brackets_sheet :
    let db : Database Sheet Sheet.Stmt :=
      .open (Config.new.apply .noStatementCache) ⟨⟨[.integer 1], none, 1⟩, []⟩
    ∃ db', (transaction Sheet.engine
        ((Sheet.insertAll [.integer 7, .integer 7]).run (client Sheet.engine))).runOn db =
          (.error (.uniqueViolation "UNIQUE constraint failed: t.v"), db') ∧
      db'.connection.engine.values = [.integer 1] := by
  intro db
  have hatomic := (transaction_brackets Sheet.transactional db).2.2 Sheet.reverts
    (Sheet.insertAll [.integer 7, .integer 7]) (stands_open _ _) (Sheet.sends_insertAll _)
    (Sheet.prompt_insertAll _)
  refine ⟨_, rfl, ?_⟩
  rcases hatomic.nothing rfl rfl with hdata | ⟨error, db₂, failure, -, herror, -⟩
  · exact hdata
  · cases herror

end TypedSql
