import TypedSql.Proofs.OwnRow
import TypedSql.Proofs.RowCells

/-!
# Records in a variable

An update writes a payload to the stored row and answers with the record as it is then.  Where the
record is kept in a variable, the answer takes its place:

    an update that fails        leaves the record as it was
    an update that succeeds     leaves its mirror: what was written, over what was there before

A record may as well be changed where it stands, cell by cell, once the row is written; that comes
to the same record, and to the old one if the row is not written (`Held.runOn_updateInPlace`).
-/

namespace TypedSql

/-- A record in a variable, beside the state of a client. -/
structure Held (σ : Type) where
  record : Record
  state : σ

namespace Held

variable {σ : Type}

/-- A change of the variable. -/
inductive Edit where
  | set (column : String) (v : Value)
  | update (p : Payload)
deriving DecidableEq

/-- The variable after a change; an update that fails does not come to a record. -/
def Edit.apply (client : Client σ) (h : Held σ) : Edit → Held σ
  | set column v => { h with record := h.record.set column v }
  | update p =>
    match (h.record.update client p).runOn h.state with
    | (.ok (_, r), s) => ⟨r, s⟩
    | (.error _, s) => ⟨h.record, s⟩

/-- What the edits leave, made one after the other; one that fails does not stop the others. -/
def edit (client : Client σ) (h : Held σ) (edits : List Edit) : Held σ :=
  edits.foldl (Edit.apply client) h

/-! ## In place -/

/-- The same client beside the variable, of which it knows nothing. -/
def beside (client : Client σ) : Client (Held σ) :=
  client.within Held.state fun s h => { h with state := s }

def set (column : String) (v : Value) : Run (Held σ) Unit :=
  modify fun h => { h with record := h.record.set column v }

/-- Updates the record where it stands: the stored row, and then cell by cell. -/
def updateInPlace (client : Client σ) (p : Payload) : Run (Held σ) Nat := do
  let h ← get
  let filter ← Run.ofExcept h.record.keyFilter
  let affected ← ((Update.new h.record.table p).apply (.scope (.andWhere filter))).run
    (beside client)
  p.entries.forM fun e => set e.1 e.2
  return affected

end Held

namespace Record

open Errand

/-- The record with the payload over its row: what was written is there, and all else is as
before, each column in its place and new ones behind. -/
structure Mirrors (r : Record) (p : Payload) (r' : Record) : Prop where
  table : r'.table = r.table
  primaryKey : r'.primaryKey = r.primaryKey
  written {column : String} {v : Value} :
    p.get? column = some v → r'.row.value? column = some v
  kept {column : String} : column ∉ p.columns → r'.row.value? column = r.row.value? column
  columns : r'.row.columns = r.row.columns ++ p.columns.filter (· ∉ r.row.columns)

/-- Why an update fails, and what was sent until then. -/
inductive Refused (r : Record) (p : Payload) : List Exchange → Error → Prop where
  | unkeyed {message : String} : r.Unkeyed → Refused r p [] (.configuration message)
  | unwritable {key : String} {v : Value} {message : String} : r.Keyed key v →
      ¬ (Act.update p).Writable r key → Refused r p [] (.render message)
  | byClient {key : String} {v : Value} {e : Error} : r.Keyed key v →
      Refused r p [.execute (Act.updateStatement r key v p) (.error e)] e

/-- Whatever is done with the record is done by this value of its key; a null is none. -/
structure ActsBy (r : Record) (key : String) (v : Value) : Prop where
  null : v = .null → ∀ {σ α : Type} (act : Act α) (client : Client σ) (s : σ),
    ∃ message, Runs (act.run r) client s [] (.error (.configuration message)) s
  id_eq : v ≠ .null → r.id = .ok (key, v)
  runs : v ≠ .null → ∀ {σ α : Type} (act : Act α) (client : Client σ) (s : σ),
    ∃ log outcome t, Runs (act.run r) client s log outcome t ∧
      ((log = [] ∧ (act.idle? r key ≠ none ∨ ¬ act.Writable r key)) ∨
        ∃ x, log = [x] ∧ x.call = act.call r key v)

/-! ## Lemmas: records -/

theorem setAll_eq (r : Record) (p : Payload) :
    r.setAll p = { r with row := r.row.setMany p.entries } := by
  have hfold : ∀ (writes : List (String × Value)) (r : Record),
      writes.foldl (fun r e => r.set e.1 e.2) r = { r with row := r.row.setMany writes } := by
    intro writes
    induction writes with
    | nil => exact fun _ => rfl
    | cons w writes ih => exact fun r => ih (r.set w.1 w.2)
  exact hfold p.entries r

theorem mirrors_setAll (r : Record) (p : Payload) : r.Mirrors p (r.setAll p) := by
  rw [setAll_eq]
  refine ⟨rfl, rfl, fun h => ?_, fun h => ?_, ?_⟩
  · rw [Row.value?_setMany, ColumnMap.lookup_reverse_entries, h]
    rfl
  · rw [Row.value?_setMany, ColumnMap.lookup_reverse_entries, (p.get?_eq_none_iff).2 h]
    exact Option.none_or
  · rw [Row.columns_setMany]
    exact congrArg _ (ColumnMap.eraseDups_of_nodup (p.nodup.filter _))

/-- A column of the mirror shows what was written, or else what it showed before. -/
theorem Mirrors.value?_eq {r r' : Record} {p : Payload} (h : r.Mirrors p r') (column : String) :
    r'.row.value? column = (p.get? column).or (r.row.value? column) := by
  cases hget : p.get? column with
  | some v => exact h.written hget
  | none => exact h.kept (p.get?_eq_none_iff.1 hget)

theorem actsBy {r : Record} {key : String} {v : Value} (hkey : r.primaryKey = some key)
    (hv : r.row.value? key = some v) : r.ActsBy key v where
  null hnull _ _ act client s :=
    (act.keepsToItsRow r client s).unkeyed (.inr ⟨key, hkey, .inr (hnull ▸ hv)⟩)
  id_eq hnull := Keyed.id_eq ⟨hkey, hv, hnull⟩
  runs hnull _ _ act client s := Act.exists_runs ⟨hkey, hv, hnull⟩ act client s

/-- An update is refused, or it is sent and what it answers is the mirror. -/
theorem runs_update {σ : Type} (r : Record) (p : Payload) (client : Client σ) (s : σ) :
    ∃ log, ∃ answer : Except Error Nat, ∃ t,
      Runs (fun client => r.update client p) client s log (answer.map fun n => (n, r.setAll p)) t ∧
      (∀ e, answer = .error e → r.Refused p log e) ∧
      ∀ n, answer = .ok n → ∃ key v, r.Keyed key v ∧
        log = [.execute (Act.updateStatement r key v p) (.ok n)] := by
  rcases r.unkeyed_or_keyed with hunkeyed | ⟨key, v, hkeyed⟩
  · obtain ⟨message, hruns⟩ := ((Act.update p).keepsToItsRow r client s).unkeyed hunkeyed
    refine ⟨[], .error (.configuration message), s, hruns, fun e he => ?_, fun n hn => ?_⟩
    · cases he
      exact .unkeyed hunkeyed
    · cases hn
  by_cases hw : (Act.update p).Writable r key
  · -- the statement is sent, and its answer decides
    have hstmt : (Act.rowUpdate r key v p).statement = .ok (Act.updateStatement r key v p) := by
      have hempty := (hw.payload rfl).1
      exact (asks_update_byKey r.table key v p hempty).statement_eq rfl
        ((Act.writable_iff_of_some rfl hempty).1 hw)
    rcases hanswer : (client.execute (Act.updateStatement r key v p).text
      (Act.updateStatement r key v p).params).runOn s with ⟨answer, t⟩
    have hsent : Runs (fun client => (Act.rowUpdate r key v p).run client) client s
        [.execute (Act.updateStatement r key v p) answer] answer t :=
      .rendered_ok hstmt (.execute hanswer)
    refine ⟨_, answer, t, (hsent.map fun n => (n, r.setAll p)).of_eq fun client => ?_,
      fun e he => ?_, fun n hn => ?_⟩
    · rw [map_eq_pure_bind, update, hkeyed.keyFilter_eq]
      rfl
    · subst he
      exact .byClient hkeyed
    · subst hn
      exact ⟨key, v, hkeyed, rfl⟩
  · obtain ⟨message, hruns⟩ := ((Act.update p).keepsToItsRow r client s).unwritable hkeyed rfl hw
    refine ⟨[], .error (.render message), s, hruns, fun e he => ?_, fun n hn => ?_⟩
    · cases he
      exact .unwritable hkeyed hw
    · cases hn

end Record

namespace Held

variable {σ : Type}

/-! ## Lemmas: the variable -/

theorem runOn_run_beside (client : Client σ) (q : Update) (h : Held σ) :
    (q.run (beside client)).runOn h =
      (((q.run client).runOn h.state).1, { h with state := ((q.run client).runOn h.state).2 }) := by
  show (Client.write _ q.statement).runOn h = _
  rw [Update.run]
  cases q.statement <;> rfl

theorem runOn_forM_set (writes : List (String × Value)) (h : Held σ) :
    (writes.forM fun e => set e.1 e.2).runOn h =
      (.ok (), { h with record := { h.record with row := h.record.row.setMany writes } }) := by
  induction writes generalizing h with
  | nil => rfl
  | cons w writes ih => exact ih { h with record := h.record.set w.1 w.2 }

/-- In place an update comes to the same as the update whose answer takes the record's place. -/
theorem runOn_updateInPlace (client : Client σ) (p : Payload) (h : Held σ) :
    (updateInPlace client p).runOn h =
      (((h.record.update client p).runOn h.state).1.map Prod.fst,
        (Edit.update p).apply client h) := by
  rw [updateInPlace, Run.runOn_bind_ok (Run.runOn_get h), Edit.apply, Record.update]
  cases hfilter : h.record.keyFilter with
  | error e =>
    rw [Run.runOn_bind_error (Run.runOn_ofExcept (.error e) h),
      Run.runOn_bind_error (Run.runOn_ofExcept (.error e) h.state)]
    rfl
  | ok filter =>
    rw [Run.runOn_bind_ok (Run.runOn_ofExcept (.ok filter) h),
      Run.runOn_bind_ok (Run.runOn_ofExcept (.ok filter) h.state)]
    generalize (Update.new h.record.table p).apply (.scope (.andWhere filter)) = q
    have hbeside := runOn_run_beside client q h
    rcases hanswer : (q.run client).runOn h.state with ⟨answer, t⟩
    rw [hanswer] at hbeside
    cases answer with
    | error e =>
      rw [Run.runOn_bind_error hbeside, Run.runOn_bind_error hanswer]
      rfl
    | ok n =>
      rw [Run.runOn_bind_ok hbeside, Run.runOn_bind_ok hanswer,
        Run.runOn_bind_ok (runOn_forM_set p.entries _), ← Record.setAll_eq]
      rfl

/-! ## Lemmas: edits -/

/-- An edit sets cells, none where it fails. -/
theorem exists_writes_apply (client : Client σ) (h : Held σ) (e : Edit) :
    ∃ writes, (e.apply client h).record =
      { h.record with row := h.record.row.setMany writes } := by
  cases e with
  | set column v => exact ⟨[(column, v)], rfl⟩
  | update p =>
    obtain ⟨log, answer, t, hruns, -, -⟩ := h.record.runs_update p client h.state
    rw [Edit.apply, hruns.outcome_eq]
    cases answer with
    | error e => exact ⟨[], rfl⟩
    | ok n => exact ⟨p.entries, h.record.setAll_eq p⟩

/-- So do any number of them. -/
theorem exists_writes_edit (client : Client σ) (edits : List Edit) (h : Held σ) :
    ∃ writes, (h.edit client edits).record =
      { h.record with row := h.record.row.setMany writes } := by
  induction edits generalizing h with
  | nil => exact ⟨[], rfl⟩
  | cons e edits ih =>
    obtain ⟨first, hfirst⟩ := exists_writes_apply client h e
    obtain ⟨rest, hrest⟩ := ih (e.apply client h)
    refine ⟨first ++ rest, ?_⟩
    rw [Row.setMany_append]
    rw [hfirst] at hrest
    exact hrest

/-- A record that has a value for its key has one after any edits, and is known by that. -/
theorem exists_actsBy_edit (client : Client σ) (edits : List Edit) {h : Held σ} {key : String}
    {v : Value} (hkey : h.record.primaryKey = some key) (hv : h.record.row.value? key = some v) :
    ∃ w, (h.edit client edits).record.row.value? key = some w ∧
      (h.edit client edits).record.ActsBy key w := by
  obtain ⟨writes, hwrites⟩ := exists_writes_edit client edits h
  have hvalue : (h.edit client edits).record.row.value? key =
      some ((writes.reverse.lookup key).getD v) := by
    rw [hwrites, Row.value?_setMany, hv]
    cases writes.reverse.lookup key <;> rfl
  refine ⟨_, hvalue, Record.actsBy ?_ hvalue⟩
  rw [hwrites]
  exact hkey

end Held

/-! ## Top theorem -/

/-- **Updates are atomic, and mirrored exactly.**  An update that fails comes to no record, and one
in place leaves the record as it was; it fails for want of a key or of a statement, with no call,
or because the client does.  One that succeeds, whatever number of rows was written, has sent one
statement, about the row of the key value that the record had; the record that it answers with,
which an update in place leaves, mirrors the payload.  What is done with that record next is done
by the key value that it then has, as it is after any edits that follow. -/
theorem updates_mirror {σ : Type} (r : Record) (p : Payload) (client : Client σ) (s : σ) :
    ∃ log outcome t,
      Errand.Runs (fun client => r.update client p) client s log outcome t ∧
      (∀ e, outcome = .error e → r.Refused p log e ∧
        (Held.updateInPlace client p).runOn ⟨r, s⟩ = (.error e, ⟨r, t⟩)) ∧
      ∀ n r', outcome = .ok (n, r') →
        (Held.updateInPlace client p).runOn ⟨r, s⟩ = (.ok n, ⟨r', t⟩) ∧
        r.Mirrors p r' ∧
        ∃ key v, r.id = .ok (key, v) ∧
          log = [.execute (Record.Act.updateStatement r key v p) (.ok n)] ∧
          r'.ActsBy key ((p.get? key).getD v) ∧
          ∀ edits, ∃ w, (Held.edit client ⟨r', t⟩ edits).record.row.value? key = some w ∧
            (Held.edit client ⟨r', t⟩ edits).record.ActsBy key w := by
  obtain ⟨log, answer, t, hruns, herror, hok⟩ := r.runs_update p client s
  have hplace := Held.runOn_updateInPlace client p ⟨r, s⟩
  rw [Held.Edit.apply, hruns.outcome_eq] at hplace
  refine ⟨log, _, t, hruns, ?_⟩
  cases answer with
  | error e =>
    refine ⟨fun e' he => ?_, fun n r' hn => ?_⟩
    · cases he
      exact ⟨herror e rfl, hplace⟩
    · cases hn
  | ok n =>
    refine ⟨fun e' he => ?_, fun n' r' hn => ?_⟩
    · cases he
    cases hn
    obtain ⟨key, v, hkeyed, hlog⟩ := hok n rfl
    have hmirrors := r.mirrors_setAll p
    have hkey : (r.setAll p).primaryKey = some key := hmirrors.primaryKey.trans hkeyed.primaryKey
    have hvalue : (r.setAll p).row.value? key = some ((p.get? key).getD v) := by
      rw [hmirrors.value?_eq, hkeyed.value?]
      cases p.get? key <;> rfl
    exact ⟨hplace, hmirrors, key, v, hkeyed.id_eq, hlog, Record.actsBy hkey hvalue,
      fun edits => Held.exists_actsBy_edit client edits hkey hvalue⟩

/-- A null for the key is mirrored too, and the record is then known by nothing. -/
example :
    let h : Held Script := ⟨⟨"t", some "id", ⟨[("id", .integer 1), ("v", .null)]⟩⟩,
      ⟨[.answer none [] 1], 0, []⟩⟩
    let h' := h.edit Script.client [.update (.single "id" .null)]
    h'.state.calls = [.execute "UPDATE \"t\" SET \"id\" = ? WHERE \"id\" = ?"
      [.null, .integer 1]] ∧
    ((h'.record.delete Script.client).runOn h'.state).2.calls = h'.state.calls := by
  decide

end TypedSql
