import TypedSql.Proofs.InsertProtocol

/-!
# What an insertion comes to

By the calls that an insertion has made, and their answers:

    no execution          no row, just where the check has found a stored one
    execution refused     the error of the execution
    no row written        no row
    rows written          no row, just where the stored row is asked for and not found again;
                          an error, just where the query for it is refused

`Insert.Executed` has a rule for every way that an execution is followed.  The last query can
always be written, since its names were read for the insertion (`Insert.Located.statement_eq`);
but a row that was written may not be given back (`written_row_not_given_back`).
-/

namespace TypedSql

namespace Insert

/-- All that was asked is whether a stored row stands against the insertion, and one does. -/
def Blocked (q : Insert) (log : List Exchange) : Prop :=
  ∃ check rows, q.precondition? = .ok (some check) ∧ found rows = .ok true ∧
    log = [.query check (.ok rows)]

/-- What follows an execution that is answered so, and the result. -/
inductive Executed (q : Insert) :
    Except Error Nat → List Exchange → Except Error (Option Row) → Prop where
  | refused {e : Error} : Executed q (.error e) [] (.error e)
  | leftOut : Executed q (.ok 0) [] (.ok none)
  | unkeyed {n : Nat} : n ≠ 0 → q.primaryKey = none →
      Executed q (.ok n) [] (.ok (some (.ofPayload q.payload)))
  | fetched {n : Nat} {key column : String} {located : List Exchange} {v : Value}
      {answer : Except Error (List Row)} : n ≠ 0 → q.primaryKey = some key →
      q.Located key located column v →
      Executed q (.ok n) (located ++ [.query (q.refetchStatement column v) answer])
        (answer.map List.head?)

/-- The stored row is asked for by its key, and this is the answer. -/
def Refetched (q : Insert) (rest : List Exchange) (answer : Except Error (List Row)) : Prop :=
  ∃ key located column v, q.primaryKey = some key ∧ q.Located key located column v ∧
    rest = located ++ [.query (q.refetchStatement column v) answer]

/-! ## Lemmas: the check -/

variable {q : Insert} {asked log rest : List Exchange} {outcome : Except Error (Option Row)}
  {stmt : Statement} {answer : Except Error Nat}

theorem Asked.execute_notMem {o : Except Error Bool} (h : q.Asked asked o) :
    .execute stmt answer ∉ asked := by
  intro hmem
  have hfalse := h.isExecute_eq_false _ hmem
  cases hfalse

/-- A check that was answered could be written, if there was one. -/
theorem Asked.exists_precondition {b : Bool} (h : q.Asked asked (.ok b)) :
    ∃ check?, q.precondition? = .ok check? := by
  generalize ho : (Except.ok b : Except Error Bool) = o at h
  cases h with
  | unconditional hnone => exact ⟨none, by rw [precondition?, hnone]⟩
  | unwritable => cases ho
  | answered hpre => exact ⟨_, hpre⟩

theorem Asked.eq_ok_true_iff {o : Except Error Bool} (h : q.Asked asked o) :
    o = .ok true ↔ q.Blocked asked := by
  cases h with
  | unconditional | unwritable =>
    refine ⟨nofun, ?_⟩
    rintro ⟨check, rows, -, -, hlog⟩
    cases hlog
  | @answered check answer hpre =>
    constructor
    · intro hfound
      cases answer with
      | error e => cases hfound
      | ok rows => exact ⟨check, rows, hpre, hfound, rfl⟩
    · rintro ⟨check', rows, -, hfound, hlog⟩
      cases hlog
      exact hfound

/-! ## Lemmas: the execution -/

theorem Executed.execute_notMem {answer' : Except Error Nat}
    (h : q.Executed answer rest outcome) : .execute stmt answer' ∉ rest := by
  cases h with
  | refused | leftOut | unkeyed => exact List.not_mem_nil
  | fetched _ _ hlocated => cases hlocated <;> simp

theorem not_refetched_nil {rows : Except Error (List Row)} : ¬ q.Refetched [] rows := by
  rintro ⟨key, located, column, v, -, -, hnil⟩
  exact List.append_ne_nil_of_right_ne_nil located (List.cons_ne_nil _ _) hnil.symm

theorem Refetched.answer_eq {located : List Exchange} {refetch : Statement}
    {rows rows' : Except Error (List Row)}
    (h : q.Refetched (located ++ [.query refetch rows]) rows') : rows = rows' := by
  obtain ⟨key, located', column, v, -, -, hlog⟩ := h
  have hlast := (List.append_inj' hlog rfl).2
  cases hlast
  rfl

/-- An execution leads to no row if it writes none, or if the stored row is not found again. -/
theorem Executed.eq_ok_none_iff (h : q.Executed answer rest outcome) :
    outcome = .ok none ↔ answer = .ok 0 ∨ q.Refetched rest (.ok []) := by
  cases h with
  | refused =>
    refine ⟨nofun, ?_⟩
    rintro (hanswer | hrefetched)
    · cases hanswer
    · exact absurd hrefetched not_refetched_nil
  | leftOut => exact ⟨fun _ => .inl rfl, fun _ => rfl⟩
  | unkeyed hn =>
    refine ⟨nofun, ?_⟩
    rintro (hanswer | hrefetched)
    · exact absurd (Except.ok.inj hanswer) hn
    · exact absurd hrefetched not_refetched_nil
  | @fetched n key column located v rows hn hkey hlocated =>
    constructor
    · intro hnone
      right
      match rows, hnone with
      | .ok [], _ => exact ⟨key, located, column, v, hkey, hlocated, rfl⟩
    · rintro (hanswer | hrefetched)
      · exact absurd (Except.ok.inj hanswer) hn
      · rw [hrefetched.answer_eq]
        rfl

/-- After a success nothing fails but the query for the stored row. -/
theorem Executed.refetched_of_error {n : Nat} {e : Error}
    (h : q.Executed (.ok n) rest (.error e)) : q.Refetched rest (.error e) := by
  generalize ho : (Except.error e : Except Error (Option Row)) = o at h
  cases h with
  | leftOut | unkeyed => cases ho
  | @fetched _ key column located v rows _ hkey hlocated =>
    cases rows with
    | ok rows => cases ho
    | error e' =>
      cases ho
      exact ⟨key, located, column, v, hkey, hlocated, rfl⟩

/-- That query can be written, since the insertion could. -/
theorem Located.statement_eq {key column : String} {located : List Exchange} {v : Value}
    (h : q.Located key located column v) (hstmt : q.statement = .ok stmt) :
    (q.refetchSelect column v).statement = .ok (q.refetchStatement column v) := by
  obtain ⟨htable, hcolumns⟩ := List.forall_mem_cons.1 (q.accepted hstmt)
  exact (asks_rows_byKey q.table column v none).statement_eq rfl
    (List.forall_mem_cons.2 ⟨htable, List.forall_mem_singleton.2 (h.accepted hcolumns)⟩)

/-! ## Lemmas: the whole insertion -/

/-- An insertion ends with its check, or is executed and goes on by that. -/
theorem Protocol.asked_or_executed (h : q.Protocol log outcome) :
    (∃ o, q.Asked log o ∧ (outcome = .ok none ↔ o = .ok true)) ∨
      ∃ asked stmt answer rest, log = asked ++ .execute stmt answer :: rest ∧
        q.Asked asked (.ok false) ∧ q.statement = .ok stmt ∧ q.Executed answer rest outcome := by
  cases h with
  | failed hasked => exact .inl ⟨_, hasked, nofun, nofun⟩
  | blocked hasked => exact .inl ⟨_, hasked, fun _ => rfl, fun _ => rfl⟩
  | unwritable hasked => exact .inl ⟨_, hasked, nofun, nofun⟩
  | refused hasked hstmt => exact .inr ⟨_, _, _, _, rfl, hasked, hstmt, .refused⟩
  | leftOut hasked hstmt => exact .inr ⟨_, _, _, _, rfl, hasked, hstmt, .leftOut⟩
  | unkeyed hasked hstmt hn hkey =>
    exact .inr ⟨_, _, _, _, rfl, hasked, hstmt, .unkeyed hn hkey⟩
  | fetched hasked hstmt hn hkey hlocated =>
    exact .inr ⟨_, _, _, _, rfl, hasked, hstmt, .fetched hn hkey hlocated⟩

theorem Protocol.eq_ok_none_iff (h : q.Protocol log outcome)
    (hlog : ∀ x ∈ log, x.isExecute = false) : outcome = .ok none ↔ q.Blocked log := by
  rcases h.asked_or_executed with ⟨o, hasked, hnone⟩ | ⟨asked, stmt, answer, rest, rfl, -, -, -⟩
  · exact hnone.trans hasked.eq_ok_true_iff
  · have hfalse := hlog (.execute stmt answer) (by simp)
    cases hfalse

theorem Protocol.executed (h : q.Protocol log outcome) (hexecute : .execute stmt answer ∈ log) :
    ∃ asked rest, log = asked ++ .execute stmt answer :: rest ∧ q.Asked asked (.ok false) ∧
      q.statement = .ok stmt ∧ q.Executed answer rest outcome := by
  rcases h.asked_or_executed with
    ⟨o, hasked, -⟩ | ⟨asked, stmt', answer', rest, rfl, hasked, hstmt, hexecuted⟩
  · exact absurd hexecute hasked.execute_notMem
  · have hrest := (List.mem_append.1 hexecute).resolve_left hasked.execute_notMem
    rcases List.mem_cons.1 hrest with heq | hmem
    · cases heq
      exact ⟨asked, rest, rfl, hasked, hstmt, hexecuted⟩
    · exact absurd hmem hexecuted.execute_notMem

end Insert

/-! ## Top theorems -/

/-- **When an insertion gives no row.**  One that was not executed gives none just where a
stored row stands against it.  One that was executed gives none just where the engine wrote none
or the stored row, asked for by its key, is not found again.  So no row means that none was
written, except in this last case. -/
theorem insertions_without_a_row {σ : Type} (q : Insert) (client : Client σ) (s : σ) :
    ∃ log outcome t,
      Errand.Runs q.run client s log outcome t ∧
      ((∀ x ∈ log, x.isExecute = false) → (outcome = .ok none ↔ q.Blocked log)) ∧
      ∀ stmt answer, .execute stmt answer ∈ log →
        ∃ asked rest, log = asked ++ .execute stmt answer :: rest ∧ ¬ q.Blocked asked ∧
          (outcome = .ok none ↔ answer = .ok 0 ∨ q.Refetched rest (.ok [])) := by
  obtain ⟨log, outcome, t, hruns, hprotocol⟩ := q.runs_protocol client s
  refine ⟨log, outcome, t, hruns, hprotocol.eq_ok_none_iff, fun stmt answer hexecute => ?_⟩
  obtain ⟨asked, rest, hlog, hasked, -, hexecuted⟩ := hprotocol.executed hexecute
  refine ⟨asked, rest, hlog, fun hblocked => ?_, hexecuted.eq_ok_none_iff⟩
  cases hasked.eq_ok_true_iff.2 hblocked

/-- A row is written, and no row is given for it: the query for it finds none. -/
theorem written_row_not_given_back :
    let q := Insert.ofCalls "t" (.ofList [("id", .integer 1), ("v", .integer 2)])
      [.primaryKey "id"]
    let script : Script := ⟨[.answer none [] 1, .answer none [] 0], 0, []⟩
    ((q.run Script.client).runOn script).1 = .ok none ∧
    ((q.run Script.client).runOn script).2.calls =
      [.execute "INSERT INTO \"t\" (\"id\", \"v\") VALUES (?, ?)" [.integer 1, .integer 2],
        .query "SELECT * FROM \"t\" WHERE \"id\" = ? LIMIT 1" [.integer 1]] := by
  decide

/-- **Once it has written, an insertion can be read again.**  If the insertion was executed, its
statement and that of the check, if there is one, could be written.  Once the execution has
succeeded, the query for the stored row can be written, whatever the key is called and whatever
the id of the row inserted last; and what fails then is this query, with the error that the
client answers. -/
theorem written_insertions_can_be_refetched {σ : Type} (q : Insert) (client : Client σ) (s : σ) :
    ∃ log outcome t,
      Errand.Runs q.run client s log outcome t ∧
      (∀ stmt answer, .execute stmt answer ∈ log →
        q.statement = .ok stmt ∧ ∃ check?, q.precondition? = .ok check?) ∧
      ∀ stmt n, .execute stmt (.ok n) ∈ log →
        (∀ key located column v, q.Located key located column v →
          (q.refetchSelect column v).statement = .ok (q.refetchStatement column v)) ∧
        ∃ asked rest, log = asked ++ .execute stmt (.ok n) :: rest ∧
          ∀ e, outcome = .error e → q.Refetched rest (.error e) := by
  obtain ⟨log, outcome, t, hruns, hprotocol⟩ := q.runs_protocol client s
  refine ⟨log, outcome, t, hruns, fun stmt answer hexecute => ?_, fun stmt n hexecute => ?_⟩
  · obtain ⟨asked, rest, -, hasked, hstmt, -⟩ := hprotocol.executed hexecute
    exact ⟨hstmt, hasked.exists_precondition⟩
  · obtain ⟨asked, rest, hlog, hasked, hstmt, hexecuted⟩ := hprotocol.executed hexecute
    refine ⟨fun key located column v hlocated => hlocated.statement_eq hstmt, asked, rest, hlog,
      fun e he => ?_⟩
    rw [he] at hexecuted
    exact hexecuted.refetched_of_error

end TypedSql
