import TypedSql.Proofs.ColumnWrites
import TypedSql.Proofs.KeyStatements
import TypedSql.Proofs.Transcript
import TypedSql.Table.Basic

/-!
# A record keeps to its own row

What is done with a record is done to the one row that its key value names:

    no key, or no value for it       a configuration error, and no call
    nothing to save                  0, and no call
    no name, or nothing to set       a render error, and no call
    else                             one call, … WHERE key = ? …, with the key value last

`Act.KeepsToItsRow` has a field for each of these (`acts_keep_to_their_row`).
-/

namespace TypedSql

namespace Record

open Errand

/-- What is done with a record, by the type of its result. -/
inductive Act : Type → Type where
  | delete : Act Nat
  | update (p : Payload) : Act (Nat × Record)
  | save : Act Nat
  | refresh : Act (Option Record)
  | exists? : Act Bool

/-- The row names no row: there is no key, or the row's first cell for it is missing or null. -/
def Unkeyed (r : Record) : Prop :=
  r.primaryKey = none ∨
    ∃ key, r.primaryKey = some key ∧ (r.row.value? key = none ∨ r.row.value? key = some .null)

/-- The row names a row by this value of its key. -/
structure Keyed (r : Record) (key : String) (v : Value) : Prop where
  primaryKey : r.primaryKey = some key
  value? : r.row.value? key = some v
  ne_null : v ≠ .null

namespace Act

variable {α : Type}

def run (r : Record) : {α : Type} → Act α → Errand α
  | _, delete => fun client => r.delete client
  | _, update p => fun client => r.update client p
  | _, save => fun client => r.save client
  | _, refresh => fun client => r.refresh client
  | _, exists? => fun client => r.exists? client

/-- The result where there is nothing to do: a row of nothing but its key is not saved. -/
def idle? (r : Record) (key : String) : {α : Type} → Act α → Option α
  | _, save => if ∀ column ∈ r.row.columns, column = key then some 0 else none
  | _, _ => none

/-- What is written to the row. -/
def payload? (r : Record) (key : String) : {α : Type} → Act α → Option Payload
  | _, update p => some p
  | _, save => some (r.nonKeyPayload key)
  | _, _ => none

/-- The statement can be written: all its names are accepted, and an update sets something. -/
structure Writable (act : Act α) (r : Record) (key : String) : Prop where
  table_accepted : Name.Accepted r.table
  key_accepted : Name.Accepted key
  payload {p : Payload} : act.payload? r key = some p →
    p.isEmpty = false ∧ ∀ column ∈ p.columns, Name.Accepted column

def updateStatement (r : Record) (key : String) (v : Value) (p : Payload) : Statement :=
  .onKey ("UPDATE " ++ Name.written r.table ++ " SET " ++ p.assignments) p.values key v ""

/-- The one call, which is about the row with this value of the key. -/
def call (r : Record) (key : String) (v : Value) : {α : Type} → Act α → ClientCall
  | _, delete => executed (.onKey ("DELETE FROM " ++ Name.written r.table) [] key v "")
  | _, update p => executed (updateStatement r key v p)
  | _, save => executed (updateStatement r key v (r.nonKeyPayload key))
  | _, refresh => queried (.onKey ("SELECT * FROM " ++ Name.written r.table) [] key v " LIMIT 1")
  | _, exists? => queried (.onKey ("SELECT EXISTS(SELECT * FROM " ++ Name.written r.table) [] key v
      ") AS \"exists\"")
where
  executed (stmt : Statement) : ClientCall := .execute stmt.text stmt.params
  queried (stmt : Statement) : ClientCall := .query stmt.text stmt.params

/-- From `s` the act does nothing, or it makes its one call. -/
structure KeepsToItsRow {σ : Type} (act : Act α) (r : Record) (client : Client σ) (s : σ) :
    Prop where
  unkeyed : r.Unkeyed →
    ∃ message, Runs (act.run r) client s [] (.error (.configuration message)) s
  idle {key : String} {v : Value} {a : α} : r.Keyed key v → act.idle? r key = some a →
    Runs (act.run r) client s [] (.ok a) s
  unwritable {key : String} {v : Value} : r.Keyed key v → act.idle? r key = none →
    ¬ act.Writable r key → ∃ message, Runs (act.run r) client s [] (.error (.render message)) s
  sent {key : String} {v : Value} : r.Keyed key v → act.idle? r key = none →
    act.Writable r key →
    ∃ x outcome t, Runs (act.run r) client s [x] outcome t ∧ x.call = act.call r key v

end Act

/-! ## Lemmas -/

theorem id_eq_of_unkeyed {r : Record} (h : r.Unkeyed) :
    ∃ message, r.id = .error (.configuration message) := by
  rcases h with hnone | ⟨key, hkey, hvalue | hvalue⟩
  · exact ⟨_, by rw [id, hnone]; rfl⟩
  · exact ⟨_, by rw [id, hkey]; simp only [hvalue]; rfl⟩
  · exact ⟨_, by rw [id, hkey]; simp only [hvalue]; rfl⟩

theorem Keyed.id_eq {r : Record} {key : String} {v : Value} (h : r.Keyed key v) :
    r.id = .ok (key, v) := by
  have hnull : v.isNull = false := by
    rw [← Bool.not_eq_true, Value.isNull_iff]
    exact h.ne_null
  rw [id, h.primaryKey]
  simp [h.value?, hnull]

theorem Keyed.keyFilter_eq {r : Record} {key : String} {v : Value} (h : r.Keyed key v) :
    r.keyFilter = .ok (.single key (.scalar v)) := by
  rw [keyFilter, h.id_eq]
  rfl

/-- A save assigns the columns of the row but for the key. -/
theorem mem_columns_nonKeyPayload (r : Record) (key column : String) :
    column ∈ (r.nonKeyPayload key).columns ↔ column ∈ r.row.columns ∧ column ≠ key := by
  rw [nonKeyPayload, ColumnMap.columns_ofList, List.mem_eraseDups, Row.columns]
  simp only [List.mem_map, List.mem_filter, bne_iff_ne]
  constructor
  · rintro ⟨cell, ⟨hcell, hne⟩, rfl⟩
    exact ⟨⟨cell, hcell, rfl⟩, hne⟩
  · rintro ⟨⟨cell, hcell, rfl⟩, hne⟩
    exact ⟨cell, ⟨hcell, hne⟩, rfl⟩

theorem isEmpty_nonKeyPayload (r : Record) (key : String) :
    (r.nonKeyPayload key).isEmpty = true ↔ ∀ column ∈ r.row.columns, column = key := by
  have hempty : (r.nonKeyPayload key).isEmpty = true ↔ (r.nonKeyPayload key).columns = [] := by
    rw [ColumnMap.isEmpty, List.isEmpty_iff, ColumnMap.columns, List.map_eq_nil_iff]
  rw [hempty, List.eq_nil_iff_forall_not_mem]
  simp only [mem_columns_nonKeyPayload, not_and, not_not]

namespace Act

variable {α β : Type} {act : Act α} {r : Record} {key : String} {v : Value}

theorem writable_iff_of_none (h : act.payload? r key = none) :
    act.Writable r key ↔ ∀ text ∈ [r.table, key], Name.Accepted text := by
  rw [List.forall_mem_cons, List.forall_mem_singleton]
  constructor
  · exact fun hw => ⟨hw.table_accepted, hw.key_accepted⟩
  · exact fun ⟨htable, hkey⟩ => ⟨htable, hkey, by simp [h]⟩

theorem writable_iff_of_some {p : Payload} (h : act.payload? r key = some p)
    (hp : p.isEmpty = false) :
    act.Writable r key ↔ ∀ text ∈ r.table :: p.columns ++ [key], Name.Accepted text := by
  rw [List.forall_mem_append, List.forall_mem_cons, List.forall_mem_singleton]
  constructor
  · exact fun hw => ⟨⟨hw.table_accepted, (hw.payload h).2⟩, hw.key_accepted⟩
  · rintro ⟨⟨htable, hcolumns⟩, hkey⟩
    refine ⟨htable, hkey, fun hp' => ?_⟩
    rw [h] at hp'
    cases hp'
    exact ⟨hp, hcolumns⟩

/-- The act is a terminal, with what `f` makes of the result. -/
structure SentBy (act : Act α) (r : Record) (key : String) (v : Value) (t : Terminal β)
    (f : β → α) : Prop where
  run_eq : ∀ {σ : Type} (client : Client σ), f <$> t.run client = act.run r client
  writable : act.Writable r key →
    ∃ stmt, t.statement = .ok stmt ∧ t.reading.call stmt = act.call r key v
  unwritable : ¬ act.Writable r key → ∃ fault, t.statement = .error fault

theorem SentBy.of_asks {t : Terminal β} {f : β → α} {request : Request} {names : List String}
    {stmt : Statement} (hasks : request.Asks names stmt)
    (hstmt : request.statement? = t.statement.map some)
    (hnames : act.Writable r key ↔ ∀ text ∈ names, Name.Accepted text)
    (hcall : t.reading.call stmt = act.call r key v)
    (hrun : ∀ {σ : Type} (client : Client σ), f <$> t.run client = act.run r client) :
    act.SentBy r key v t f where
  run_eq := hrun
  writable h := ⟨stmt, hasks.statement_eq hstmt (hnames.1 h), hcall⟩
  unwritable h := hasks.fault hstmt (mt hnames.2 h)

/-- The update of the row with this value of the key. -/
def rowUpdate (r : Record) (key : String) (v : Value) (p : Payload) : Update :=
  (Update.new r.table p).apply (.scope (.andWhere (.single key (.scalar v))))

theorem SentBy.update {p : Payload} {f : Nat → α} (hp : act.payload? r key = some p)
    (hcall : act.call r key v = call.executed (updateStatement r key v p))
    (hrun : ∀ {σ : Type} (client : Client σ),
      f <$> (rowUpdate r key v p).run client = act.run r client) :
    act.SentBy r key v (.updateRun (rowUpdate r key v p)) f := by
  cases hempty : p.isEmpty with
  | true =>
    refine ⟨hrun, fun h => ?_, fun _ => ⟨.nothingToSet r.table, ?_⟩⟩
    · rw [(h.payload hp).1] at hempty
      cases hempty
    · show (rowUpdate r key v p).render.statement = _
      rw [Update.render_of_isEmpty _ hempty]
      rfl
  | false =>
    exact .of_asks (asks_update_byKey r.table key v p hempty) rfl (writable_iff_of_some hp hempty)
      hcall.symm hrun

theorem exists_sentBy (h : r.Keyed key v) (hidle : act.idle? r key = none) :
    ∃ (β : Type) (t : Terminal β) (f : β → α), act.SentBy r key v t f := by
  cases act with
  | delete =>
    refine ⟨Nat, .deleteRun ((Delete.new r.table).apply (.andWhere (.single key (.scalar v)))),
      fun n => n, .of_asks (asks_delete_byKey r.table key v) rfl (writable_iff_of_none rfl) rfl
        fun client => ?_⟩
    show _ = r.delete client
    rw [id_map', Record.delete, h.keyFilter_eq]
    rfl
  | update p =>
    refine ⟨Nat, _, fun n => (n, r.setAll p), .update rfl rfl fun client => ?_⟩
    show _ = r.update client p
    rw [map_eq_pure_bind, Record.update, h.keyFilter_eq]
    rfl
  | save =>
    have hsave : (r.nonKeyPayload key).isEmpty = false := by
      rw [← Bool.not_eq_true, isEmpty_nonKeyPayload]
      intro hall
      rw [idle?, if_pos hall] at hidle
      cases hidle
    refine ⟨Nat, _, fun n => n, .update rfl rfl fun client => ?_⟩
    show _ = r.save client
    rw [id_map', Record.save, h.id_eq, h.keyFilter_eq]
    show _ = (if (r.nonKeyPayload key).isEmpty then _ else _)
    rw [hsave]
    rfl
  | refresh =>
    refine ⟨_, .first (Select.byKey r.table key v (some key)), fun a => a,
      .of_asks (asks_rows_byKey r.table key v (some key)) rfl (writable_iff_of_none rfl) rfl
        fun client => ?_⟩
    show _ = r.refresh client
    rw [id_map', Record.refresh, Record.selection, h.keyFilter_eq, h.primaryKey]
    rfl
  | exists? =>
    refine ⟨_, .exists? (Select.byKey r.table key v (some key)), fun a => a,
      .of_asks (asks_existence_byKey r.table key v (some key)) rfl (writable_iff_of_none rfl) rfl
        fun client => ?_⟩
    show _ = r.exists? client
    rw [id_map', Record.exists?, Record.selection, h.keyFilter_eq, h.primaryKey]
    rfl

theorem run_eq_of_id_eq_error {e : Error} (h : r.id = .error e) {σ : Type} (client : Client σ) :
    Run.ofExcept (.error e) = act.run r client := by
  have hfilter : r.keyFilter = .error e := by
    rw [keyFilter, h]
    rfl
  have hselection : r.selection = .error e := by
    rw [selection, hfilter]
    rfl
  cases act with
  | delete | update p => simp only [run, Record.delete, Record.update, hfilter]; rfl
  | save => simp only [run, Record.save, h]; rfl
  | refresh | exists? => simp only [run, Record.refresh, Record.exists?, hselection]; rfl

theorem run_eq_of_idle {a : α} (h : r.Keyed key v) (hidle : act.idle? r key = some a) {σ : Type}
    (client : Client σ) : Run.ofExcept (.ok a) = act.run r client := by
  cases act with
  | save =>
    rw [idle?] at hidle
    split at hidle
    · next hall =>
      cases hidle
      show _ = r.save client
      rw [Record.save, h.id_eq]
      show _ = (if (r.nonKeyPayload key).isEmpty then _ else _)
      rw [(r.isEmpty_nonKeyPayload key).2 hall]
      rfl
    · cases hidle
  | delete | update | refresh | exists? => cases hidle

theorem keepsToItsRow {σ : Type} (act : Act α) (r : Record) (client : Client σ) (s : σ) :
    act.KeepsToItsRow r client s where
  unkeyed h := by
    obtain ⟨message, hid⟩ := id_eq_of_unkeyed h
    exact ⟨message, (Runs.ofExcept _).of_eq fun client => run_eq_of_id_eq_error hid client⟩
  idle h hidle := (Runs.ofExcept _).of_eq fun client => run_eq_of_idle h hidle client
  unwritable h hidle hw := by
    obtain ⟨β, t, f, hsent⟩ := exists_sentBy h hidle
    obtain ⟨fault, hfault⟩ := hsent.unwritable hw
    exact ⟨fault.message, ((t.runs_of_error hfault).map f).of_eq hsent.run_eq⟩
  sent h hidle hw := by
    obtain ⟨β, t, f, hsent⟩ := exists_sentBy h hidle
    obtain ⟨stmt, hstmt, hcall⟩ := hsent.writable hw
    obtain ⟨x, outcome, u, hruns, hx⟩ := t.runs_of_ok hstmt client s
    exact ⟨x, _, u, (hruns.map f).of_eq hsent.run_eq, hx.trans hcall⟩

/-- What is done with a record that names a row: nothing, or the one call about that row. -/
theorem exists_runs (h : r.Keyed key v) {σ : Type} (act : Act α) (client : Client σ) (s : σ) :
    ∃ log outcome t, Runs (act.run r) client s log outcome t ∧
      ((log = [] ∧ (act.idle? r key ≠ none ∨ ¬ act.Writable r key)) ∨
        ∃ x, log = [x] ∧ x.call = act.call r key v) := by
  have hkeeps := act.keepsToItsRow r client s
  cases hidle : act.idle? r key with
  | some a => exact ⟨_, _, _, hkeeps.idle h hidle, .inl ⟨rfl, .inl (Option.some_ne_none a)⟩⟩
  | none =>
    by_cases hw : act.Writable r key
    · obtain ⟨x, outcome, t, hruns, hx⟩ := hkeeps.sent h hidle hw
      exact ⟨_, _, _, hruns, .inr ⟨x, rfl, hx⟩⟩
    · obtain ⟨message, hruns⟩ := hkeeps.unwritable h hidle hw
      exact ⟨_, _, _, hruns, .inl ⟨rfl, .inr hw⟩⟩

end Act

theorem unkeyed_or_keyed (r : Record) : r.Unkeyed ∨ ∃ key v, r.Keyed key v := by
  cases hkey : r.primaryKey with
  | none => exact .inl (.inl hkey)
  | some key =>
    cases hvalue : r.row.value? key with
    | none => exact .inl (.inr ⟨key, hkey, .inl hvalue⟩)
    | some v =>
      by_cases hnull : v = .null
      · exact .inl (.inr ⟨key, hkey, .inr (hnull ▸ hvalue)⟩)
      · exact .inr ⟨key, v, hkey, hvalue, hnull⟩

end Record

/-! ## Top theorem -/

/-- **A record keeps to its own row.**  An act on a record that names no row is a configuration
error; a save with nothing to save gives 0; a statement that cannot be written is a render
error; none of these makes a call.  Else there is one call, with the statement of the act, whose
filter is the one equality on the key and whose last value is the value that `id` reads.  So
whatever is sent has this filter, and a save assigns every column but the key. -/
theorem acts_keep_to_their_row {σ α : Type} (act : Record.Act α) (r : Record) (client : Client σ)
    (s : σ) :
    act.KeepsToItsRow r client s ∧
    (r.Unkeyed ∨ ∃ key v, r.Keyed key v ∧ r.id = .ok (key, v)) ∧
    (∃ log outcome t, Errand.Runs (act.run r) client s log outcome t ∧
      (log = [] ∨ ∃ key v x, r.id = .ok (key, v) ∧ log = [x] ∧ x.call = act.call r key v)) ∧
    ∀ key column, column ∈ (r.nonKeyPayload key).columns ↔
      column ∈ r.row.columns ∧ column ≠ key := by
  have hkeeps := act.keepsToItsRow r client s
  refine ⟨hkeeps, ?_, ?_, r.mem_columns_nonKeyPayload⟩
  · exact r.unkeyed_or_keyed.imp_right fun ⟨key, v, h⟩ => ⟨key, v, h, h.id_eq⟩
  · rcases r.unkeyed_or_keyed with h | ⟨key, v, h⟩
    · obtain ⟨message, hruns⟩ := hkeeps.unkeyed h
      exact ⟨_, _, _, hruns, .inl rfl⟩
    · obtain ⟨log, outcome, t, hruns, ⟨hnil, -⟩ | ⟨x, hlog, hx⟩⟩ :=
        Record.Act.exists_runs h act client s
      · exact ⟨log, outcome, t, hruns, .inl hnil⟩
      · exact ⟨log, outcome, t, hruns, .inr ⟨key, v, x, h.id_eq, hlog, hx⟩⟩

/-- Of cells with one name the first has the key value and the last is the one to save. -/
example :
    let row : Row := ⟨[("id", .integer 1), ("v", .integer 2), ("id", .null), ("v", .null)]⟩
    ((Record.save ⟨"t", some "id", row⟩ Script.client).runOn ⟨[], 0, []⟩).2.calls =
      [.execute "UPDATE \"t\" SET \"v\" = ? WHERE \"id\" = ?" [.null, .integer 1]] := by
  decide

end TypedSql
