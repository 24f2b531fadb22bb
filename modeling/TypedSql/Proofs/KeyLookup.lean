import TypedSql.Proofs.Handle
import TypedSql.Proofs.InsertResults
import TypedSql.Proofs.OwnRow

/-!
# Looking a row up by its key

A table finds the row with a value of its key, a record reads itself again, and an insertion
reads back what it has written.  All of them ask by one statement:

    t.lookup? key v = .ok ⟨"SELECT * FROM table WHERE key = ? LIMIT 1", [v]⟩

or fail because one of its names is none.  A record that comes of it has the table and the key
that it was looked up by, so it can be looked up again: this goes on along any chain of look-ups
whose answers keep the value of the key (`Table.Chain.keyed`).
-/

namespace TypedSql

namespace Table

open Errand

/-- The statement that asks for the row with this value of the key. -/
def lookup (t : Table) (key : String) (v : Value) : Statement :=
  ⟨"SELECT * FROM " ++ Name.written t.name ++ " WHERE " ++ Name.written key ++ " = ? LIMIT 1", [v]⟩

/-- The same, or the fault of the first of its names that is none. -/
def lookup? (t : Table) (key : String) (v : Value) : Except RenderFault Statement :=
  match Name.parse t.name, Name.parse key with
  | .error fault, _ => .error (.badName fault)
  | .ok _, .error fault => .error (.badName fault)
  | .ok _, .ok _ => .ok (t.lookup key v)

/-- The errand sends this one statement, and makes the first row of the answer a record of the
table; where there is no such statement, nothing is sent. -/
structure LooksUp (t : Table) (key : String) (v : Value) (m : Errand (Option Record)) : Prop where
  sent {stmt : Statement} : t.lookup? key v = .ok stmt →
    ∀ {σ : Type} {client : Client σ} {s u : σ} {answer : Except Error (List Row)},
      (client.query stmt.text stmt.params).runOn s = (answer, u) →
      Runs m client s [.query stmt answer]
        (answer.map fun rows => rows.head?.map (Record.mk t.name (some key))) u
  unwritten {fault : RenderFault} : t.lookup? key v = .error fault →
    ∀ {σ : Type} (client : Client σ) (s : σ), Runs m client s [] (.error fault.toError) s

/-- Records that come of each other by look-ups, all answered with the same value of the key; the
client may be another one each time. -/
inductive Chain (t : Table) (key : String) (v : Value) : Record → Prop where
  | start {r : Record} : r.table = t.name → r.primaryKey = some key → r.id = .ok (key, v) →
      Chain t key v r
  | find {σ : Type} {client : Client σ} {s u : σ} {r : Record} :
      (t.find client v).runOn s = (.ok (some r), u) → r.row.value? key = some v →
      Chain t key v r
  | refresh {σ : Type} {client : Client σ} {s u : σ} {r r' : Record} : Chain t key v r →
      (r.refresh client).runOn s = (.ok (some r'), u) → r'.row.value? key = some v →
      Chain t key v r'

/-- An insertion through the table, with whatever is called on it before it is run. -/
def insertion (t : Table) (p : Payload) (calls : List Insert.Call) : Insert :=
  calls.foldl Insert.apply (t.insert p)

/-- All look-ups by this value of the key are the same. -/
structure OneLookup (t : Table) (key : String) (v : Value) : Prop where
  find : t.LooksUp key v fun client => t.find client v
  refresh {r : Record} : r.table = t.name → r.primaryKey = some key → r.id = .ok (key, v) →
    t.LooksUp key v fun client => r.refresh client
  /-- along a chain the record stays the same but for its row -/
  chain {r : Record} : t.Chain key v r →
    r.table = t.name ∧ r.primaryKey = some key ∧ r.id = .ok (key, v) ∧
      t.LooksUp key v fun client => r.refresh client
  /-- what is executed without error, and writes, is read back by the statement -/
  refetch {p : Payload} {calls : List Insert.Call} :
    (∀ column, .primaryKey column ∈ calls → column = key) →
    (t.insertion p calls).payload.get? key = some v →
    ∀ {σ : Type} (client : Client σ) (s : σ), ∃ log outcome u,
      Runs (t.insertion p calls).run client s log outcome u ∧
      ∀ stmt n, .execute stmt (.ok n) ∈ log → n ≠ 0 →
        t.lookup? key v = .ok (t.lookup key v) ∧
        ∃ asked answer,
          log = asked ++ [.execute stmt (.ok n), .query (t.lookup key v) answer] ∧
          outcome = answer.map List.head?
  /-- a handle that has it in its cache uses it, and prepares nothing -/
  cached {σ S : Type} {e : Engine σ S} {db : Database σ S} {held : S} :
    db.config.usesCache = true → db.cache.prepared[(t.lookup key v).text]? = some held →
    (((Database.client e).query (t.lookup key v).text (t.lookup key v).params).runOn db).2.cache =
      db.cache.used (t.lookup key v).text

end Table

/-! ## Lemmas: the statement -/

theorem Request.eq_error_of_fault? {r : Request} {x : Except RenderFault Statement}
    {fault : RenderFault} (hx : r.statement? = x.map some) (h : r.fault? = some fault) :
    x = .error fault := by
  rw [statement?_eq, h] at hx
  cases x with
  | ok stmt => cases hx
  | error fault' => cases hx; rfl

/-- On a handle a statement that the cache holds is used, and no other is prepared. -/
theorem Database.cache_query_of_held {σ S : Type} {e : Engine σ S} {db : Database σ S}
    {sql : String} {held : S} (hcache : db.config.usesCache = true)
    (hheld : db.cache.prepared[sql]? = some held) (params : List Value) :
    (((client e).query sql params).runOn db).2.cache = db.cache.used sql := by
  have hprepared : (prepared e sql).runOn db =
      (.ok (held, .hit), { db with cache := db.cache.used sql }) := by
    rw [prepared, Run.runOn_bind_ok (Run.runOn_get db), if_pos hcache]
    exact runOn_cached_hit e hheld
  obtain ⟨events, hstmt⟩ :=
    runOn_withStatement_ok e params (fun stmt => e.query stmt params) hprepared
  show ((withStatement e sql params fun stmt => e.query stmt params).runOn db).2.cache = _
  rw [hstmt]
  rfl

/-- A record is known by what its key is. -/
theorem Record.keyed_of_id_eq {r : Record} {key : String} {v : Value} (h : r.id = .ok (key, v)) :
    r.Keyed key v := by
  rcases r.unkeyed_or_keyed with hunkeyed | ⟨key', v', hkeyed⟩
  · obtain ⟨message, hid⟩ := id_eq_of_unkeyed hunkeyed
    rw [h] at hid
    cases hid
  · rw [hkeyed.id_eq] at h
    cases h
    exact hkeyed

namespace Table

open Errand

theorem lookup_eq_onKey (t : Table) (key : String) (v : Value) :
    t.lookup key v = .onKey ("SELECT * FROM " ++ Name.written t.name) [] key v " LIMIT 1" := by
  have htail : " = ?" ++ " LIMIT 1" = " = ? LIMIT 1" := rfl
  rw [Statement.onKey, String.append_assoc, htail]
  rfl

/-- The selection by the key is the look-up. -/
theorem statement_byKey (t : Table) (key : String) (v : Value) (primaryKey : Option String) :
    (Select.byKey t.name key v primaryKey).single.statement = t.lookup? key v := by
  have hasks := asks_rows_byKey t.name key v primaryKey
  have hfault : (Request.rows (Select.byKey t.name key v primaryKey).single).fault? =
      (Step.firstFault? [.read t.name, .read key, .bind v]).map .badName := rfl
  cases hname : Name.parse t.name with
  | error fault =>
    rw [lookup?, hname]
    refine Request.eq_error_of_fault? (r := .rows _) rfl ?_
    rw [hfault]
    simp [Step.firstFault?, Step.fault?, hname]
  | ok n =>
    cases hkey : Name.parse key with
    | error fault =>
      rw [lookup?, hname, hkey]
      refine Request.eq_error_of_fault? (r := .rows _) rfl ?_
      rw [hfault]
      simp [Step.firstFault?, Step.fault?, hname, hkey]
    | ok k =>
      rw [lookup?, hname, hkey, lookup_eq_onKey]
      exact hasks.statement_eq rfl
        (List.forall_mem_cons.2 ⟨⟨n, hname⟩, List.forall_mem_singleton.2 ⟨k, hkey⟩⟩)

/-! ## Lemmas: tables and records -/

variable {t : Table} {key : String} {v : Value} {m m' : Errand (Option Record)}

theorem LooksUp.of_eq (h : t.LooksUp key v m)
    (hm : ∀ {τ : Type} (client : Client τ), m client = m' client) : t.LooksUp key v m' where
  sent hstmt _ _ _ _ _ hanswer := (h.sent hstmt hanswer).of_eq hm
  unwritten hfault _ client s := (h.unwritten hfault client s).of_eq hm

theorem looksUp_byKey (t : Table) (key : String) (v : Value) :
    t.LooksUp key v fun client => (Select.byKey t.name key v (some key)).first client := by
  have hstmt : (Terminal.first (Select.byKey t.name key v (some key))).statement =
      t.lookup? key v := statement_byKey t key v (some key)
  constructor
  · intro stmt h σ client s u answer hanswer
    have hread : (answer.bind fun rows => .ok (rows.head?.map (Record.mk t.name (some key)))) =
        answer.map fun rows => rows.head?.map (Record.mk t.name (some key)) := by
      cases answer <;> rfl
    rw [← hread]
    exact (Runs.rendered_ok (hstmt.trans h) (.rows _ hanswer)).of_eq fun client =>
      ((Terminal.first (Select.byKey t.name key v (some key))).run_eq client).symm
  · intro fault h σ client s
    exact Terminal.runs_of_error _ (hstmt.trans h)

theorem looksUp_find (hkey : t.primaryKey = some key) (v : Value) :
    t.LooksUp key v fun client => t.find client v :=
  (looksUp_byKey t key v).of_eq fun client => by
    rw [find, Table.key, select, hkey]
    rfl

theorem looksUp_refresh {r : Record} (htable : r.table = t.name) (hr : r.Keyed key v) :
    t.LooksUp key v fun client => r.refresh client :=
  (looksUp_byKey t key v).of_eq fun client => by
    rw [Record.refresh, Record.selection, hr.keyFilter_eq, hr.primaryKey, htable]
    rfl

/-- The record that comes of a look-up is of the table, with its key. -/
theorem LooksUp.eq_mk (h : t.LooksUp key v m) {σ : Type} {client : Client σ} {s u : σ} {r : Record}
    (hrun : (m client).runOn s = (.ok (some r), u)) :
    ∃ row, r = ⟨t.name, some key, row⟩ := by
  cases hstmt : t.lookup? key v with
  | error fault =>
    rw [(h.unwritten hstmt client s).outcome_eq] at hrun
    cases hrun
  | ok stmt =>
    rcases hanswer : (client.query stmt.text stmt.params).runOn s with ⟨answer, u'⟩
    rw [(h.sent hstmt hanswer).outcome_eq] at hrun
    cases answer with
    | error e => cases hrun
    | ok rows =>
      cases rows with
      | nil => cases hrun
      | cons row rows =>
        cases hrun
        exact ⟨row, rfl⟩

/-- What one look-up along a chain keeps. -/
theorem LooksUp.keyed (h : t.LooksUp key v m) (hv : v ≠ .null) {σ : Type} {client : Client σ}
    {s u : σ} {r : Record} (hrun : (m client).runOn s = (.ok (some r), u))
    (hkept : r.row.value? key = some v) : r.table = t.name ∧ r.Keyed key v := by
  obtain ⟨row, rfl⟩ := h.eq_mk hrun
  exact ⟨rfl, rfl, hkept, hv⟩

theorem Chain.keyed (hkey : t.primaryKey = some key) (hv : v ≠ .null) {r : Record}
    (h : t.Chain key v r) : r.table = t.name ∧ r.Keyed key v := by
  induction h with
  | start htable hprimary hid => exact ⟨htable, Record.keyed_of_id_eq hid⟩
  | find hrun hkept => exact (looksUp_find hkey v).keyed hv hrun hkept
  | refresh _ hrun hkept ih => exact (looksUp_refresh ih.1 ih.2).keyed hv hrun hkept

/-! ## Lemmas: insertions -/

theorem table_insertion (t : Table) (p : Payload) (calls : List Insert.Call) :
    (t.insertion p calls).table = t.name := by
  induction calls using List.reverseRecOn with
  | nil =>
    rw [insertion, insert]
    cases t.primaryKey <;> rfl
  | append_singleton calls c ih =>
    rw [insertion, List.foldl_append]
    cases c <;> exact ih

/-- An insertion keeps the key of the table, if it is given no other. -/
theorem primaryKey_insertion (hkey : t.primaryKey = some key) (p : Payload)
    {calls : List Insert.Call} (hcalls : ∀ column, .primaryKey column ∈ calls → column = key) :
    (t.insertion p calls).primaryKey = some key := by
  induction calls using List.reverseRecOn with
  | nil =>
    rw [insertion, insert, hkey]
    rfl
  | append_singleton calls c ih =>
    have hlast : ∀ column, c = .primaryKey column → column = key := by
      rintro column rfl
      exact hcalls column (by simp)
    rw [insertion, List.foldl_append]
    cases c with
    | primaryKey column => exact congrArg some (hlast column rfl)
    | _ => exact ih fun column hmem => hcalls column (List.mem_append_left _ hmem)

/-- The query for the stored row is the look-up. -/
theorem refetchStatement_eq {q : Insert} (htable : q.table = t.name) (key : String) (v : Value) :
    q.refetchStatement key v = t.lookup key v := by
  rw [Insert.refetchStatement, htable, lookup_eq_onKey]

theorem runs_refetch {q : Insert} (htable : q.table = t.name) (hkey : q.primaryKey = some key)
    (hget : q.payload.get? key = some v) (hv : v ≠ .null) {σ : Type} (client : Client σ) (s : σ) :
    ∃ log outcome u, Runs q.run client s log outcome u ∧
      ∀ stmt n, .execute stmt (.ok n) ∈ log → n ≠ 0 →
        t.lookup? key v = .ok (t.lookup key v) ∧
        ∃ asked answer, log = asked ++ [.execute stmt (.ok n), .query (t.lookup key v) answer] ∧
          outcome = answer.map List.head? := by
  obtain ⟨log, outcome, u, hruns, hprotocol⟩ := q.runs_protocol client s
  refine ⟨log, outcome, u, hruns, fun stmt n hmem hn => ?_⟩
  obtain ⟨asked, rest, rfl, -, hstmt, hexecuted⟩ := hprotocol.executed hmem
  have hlookup := refetchStatement_eq htable key v
  cases hexecuted with
  | leftOut => exact absurd rfl hn
  | unkeyed _ hnone =>
    rw [hkey] at hnone
    cases hnone
  | @fetched _ key' column located v' answer _ hkey' hlocated =>
    cases hkey.symm.trans hkey'
    cases hlocated with
    | filled hnull => exact absurd (hnull v hget) hv
    | supplied hget' hv' =>
      cases hget.symm.trans hget'
      have hwritten := (Insert.Located.supplied hget hv).statement_eq hstmt
      refine ⟨?_, asked, answer, ?_, rfl⟩
      · rw [← hlookup, ← hwritten, ← statement_byKey t key v none, ← htable]
        rfl
      · rw [hlookup]
        rfl

theorem oneLookup (hkey : t.primaryKey = some key) (hv : v ≠ .null) : t.OneLookup key v where
  find := looksUp_find hkey v
  refresh htable _ hid := looksUp_refresh htable (Record.keyed_of_id_eq hid)
  chain hchain := by
    obtain ⟨htable, hkeyed⟩ := hchain.keyed hkey hv
    exact ⟨htable, hkeyed.primaryKey, hkeyed.id_eq, looksUp_refresh htable hkeyed⟩
  refetch hcalls hget _ client s :=
    runs_refetch (t.table_insertion _ _) (primaryKey_insertion hkey _ hcalls) hget hv client s
  cached hcache hheld := Database.cache_query_of_held hcache hheld _

end Table

/-! ## Top theorem -/

/-- **All look-ups by a key are one statement.**  In a table with a key, a find by a value that is
not null, a refresh of a record with that value, and the query by which an insertion with that
value reads back its row, send the same text with this one value, or fail alike.  So they share
one entry of a statement cache.  A find and a refresh give the first row of the answer as a record
of the same table and key, and along a chain of them the statement stays the same, as long as the
answers keep the value.  In a table without a key a find fails, and nothing is sent. -/
theorem lookups_are_one_statement (t : Table) {v : Value} (hv : v ≠ .null) :
    (∀ key, t.primaryKey = some key → t.OneLookup key v) ∧
    (t.primaryKey = none → ∀ {σ : Type} (client : Client σ) (s : σ),
      Errand.Runs (fun client => t.find client v) client s []
        (.error (.configuration ("table \"" ++ t.name ++ "\" has no primary key"))) s) := by
  refine ⟨fun key hkey => Table.oneLookup hkey hv, fun hkey σ client s => ?_⟩
  refine (Errand.Runs.ofExcept (.error (Record.noPrimaryKey t.name))).of_eq fun client => ?_
  rw [Table.find, Table.key, hkey]
  rfl

/-- A table whose name has two parts, and a key with a quote in it. -/
theorem lookups_are_one_statement_quoted :
    let t : Table := ⟨"main.orders", some "a\"b"⟩
    Value.integer 7 ≠ .null ∧ t.primaryKey = some "a\"b" ∧ t.OneLookup "a\"b" (.integer 7) ∧
    t.lookup? "a\"b" (.integer 7) =
      .ok ⟨"SELECT * FROM \"main\".\"orders\" WHERE \"a\"\"b\" = ? LIMIT 1", [.integer 7]⟩ :=
  ⟨by decide, rfl, (lookups_are_one_statement ⟨"main.orders", some "a\"b"⟩ (by decide)).1 _ rfl,
    by decide +kernel⟩

end TypedSql
