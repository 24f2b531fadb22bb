import TypedSql.Proofs.DelimitedNames

/-!
# The first text that is no name

A request reads its names in one order and stops at the first text that is none.  What it reads
are all names of the clauses it has, also the column of operators that are empty and leave no
text:

    rows, existence   columns, table, base, alternatives, groups, HAVING, sort keys
    count             table, base
    aggregate         its column, table, base, groups
    precondition      table, its columns
    insert            table, columns
    update            table, columns, base, alternatives, sort keys if there is a bound
    delete            table, base, alternatives, sort keys if there is a bound

An update that sets nothing fails before it reads a name.  Every other failure is that of the
first text of `Request.namesRead` that is no name (`requests_report_first_fault`).
-/

namespace TypedSql

/-! ## The names that are read -/

/-- A write without bounds does not look at its sort keys. -/
def Scope.namesRead (s : Scope) : List String :=
  s.filter.conditions.flatMap ColumnMap.columns ++
    if s.bounds.isNone then [] else s.order.map SortKey.column

/-- The names of a request in the order of reading. -/
def Request.namesRead : Request → List String
  | rows q | existence q =>
    q.selected ++ [q.table] ++ q.filter.conditions.flatMap ColumnMap.columns ++ q.groups ++
      q.having.columns ++ q.order.map SortKey.column
  | count q => q.table :: q.filter.base.columns
  | aggregate q _ column => column :: q.table :: q.filter.base.columns ++ q.groups
  | insert q => q.table :: q.payload.columns
  | precondition q => (q.unlessExists.map fun c => q.table :: c.columns).getD []
  | update q => q.table :: q.payload.columns ++ q.toScope.namesRead
  | delete q => q.table :: q.toScope.namesRead

/-- The request is an update of this table that sets nothing. -/
inductive Request.SetsNothing : Request → String → Prop
  | update {q : Update} (h : q.payload.isEmpty = true) : SetsNothing (.update q) q.table

namespace Name

/-- Why the text is no name, if it is none. -/
def fault? (text : String) : Option NameFault := Step.fault? (.read text)

/-- Of the texts, the first that is no name has this fault. -/
def IsFirstFault (fault : NameFault) (texts : List String) : Prop :=
  ∃ before text after, texts = before ++ text :: after ∧ (∀ t ∈ before, Accepted t) ∧
    parse text = .error fault

end Name

/-! ## Names of steps -/

namespace Step

/-- Binding a value does not fail. -/
theorem firstFault?_eq (steps : List Step) :
    firstFault? steps = (names steps).findSome? Name.fault? := by
  induction steps with
  | nil => rfl
  | cons step steps ih =>
    cases step with
    | bind v => exact ih
    | read text =>
      rw [names_cons_read, List.findSome?_cons, ← ih]
      exact List.findSome?_cons

end Step

theorem Scope.names_steps (s : Scope) : Step.names s.steps = s.namesRead := by
  rw [steps, namesRead, Step.names_append, Filter.names_steps]
  split
  · rfl
  · rw [orderSteps, Step.names_reads]

theorem Select.names_steps (q : Select) : Step.names q.steps = (Request.rows q).namesRead := by
  simp [steps, columnSteps_eq, Filter.names_steps, Conditions.names_steps, orderSteps,
    Request.namesRead]

namespace Request

theorem names_steps (r : Request) : Step.names r.steps = r.namesRead := by
  cases r with
  | rows q | existence q => exact q.names_steps
  | count q => simp [steps, Select.countSteps, Conditions.names_steps, namesRead]
  | aggregate q f column =>
    simp [steps, Select.aggregateSteps, Conditions.names_steps, namesRead]
  | insert q => simp [steps, Insert.steps, Payload.names_steps, namesRead]
  | precondition q =>
    rw [steps, namesRead]
    cases q.unlessExists with
    | none => rfl
    | some c => simp [Insert.preconditionSteps, Conditions.names_steps]
  | update q => simp [steps, Update.steps, Payload.names_steps, Scope.names_steps, namesRead]
  | delete q => simp [steps, Delete.steps, Scope.names_steps, namesRead]

theorem statement?_eq_error_iff {r : Request} {fault : RenderFault} :
    r.statement? = .error fault ↔ r.fault? = some fault := by
  rw [statement?_eq]
  cases r.fault? with
  | none => exact ⟨nofun, nofun⟩
  | some fault' => exact ⟨fun h => congrArg _ (Except.error.inj h), fun h => by cases h; rfl⟩

theorem fault?_of_setsNothing {r : Request} {table : String} (h : r.SetsNothing table) :
    r.fault? = some (.nothingToSet table) := by
  cases h with
  | update h => rw [fault?, if_pos h]

theorem fault?_of_not_setsNothing {r : Request} (h : ∀ table, ¬ r.SetsNothing table) :
    r.fault? = (r.namesRead.findSome? Name.fault?).map .badName := by
  rw [← names_steps, ← Step.firstFault?_eq]
  cases r with
  | update q =>
    have hsets : ¬ q.payload.isEmpty = true := fun hempty => h q.table (.update hempty)
    rw [fault?, if_neg hsets]
    rfl
  | _ => rfl

end Request

theorem Name.fault?_eq_none_iff {text : String} : fault? text = none ↔ Accepted text := by
  rw [fault?, Step.fault?, Accepted]
  cases parse text with
  | ok n => exact ⟨fun _ => ⟨n, rfl⟩, fun _ => rfl⟩
  | error fault =>
    constructor
    · intro h
      cases h
    · rintro ⟨n, hn⟩
      cases hn

theorem Name.fault?_eq_some_iff {text : String} {fault : NameFault} :
    fault? text = some fault ↔ parse text = .error fault := by
  rw [fault?, Step.fault?]
  cases parse text with
  | ok n => constructor <;> (intro h; cases h)
  | error fault' => exact ⟨fun h => congrArg _ (Option.some.inj h), fun h => by cases h; rfl⟩

/-- The fault of the first text that is no name. -/
theorem Name.findSome?_fault?_eq_some_iff {texts : List String} {fault : NameFault} :
    texts.findSome? fault? = some fault ↔ IsFirstFault fault texts := by
  rw [List.findSome?_eq_some_iff]
  constructor
  · rintro ⟨before, text, after, rfl, hfault, hbefore⟩
    exact ⟨before, text, after, rfl, fun t ht => fault?_eq_none_iff.1 (hbefore t ht),
      fault?_eq_some_iff.1 hfault⟩
  · rintro ⟨before, text, after, rfl, hbefore, hfault⟩
    exact ⟨before, text, after, rfl, fault?_eq_some_iff.2 hfault,
      fun t ht => fault?_eq_none_iff.2 (hbefore t ht)⟩

/-! ## Top theorem -/

/-- **Requests report the first text that is no name.**  A request fails exactly if a text that
it reads is no name or it is an update that sets nothing.  The fault is that it sets nothing, and
otherwise that of the first text, in the order of reading, that is no name. -/
theorem requests_report_first_fault (r : Request) :
    ((∃ fault, r.statement? = .error fault) ↔
      (∃ name ∈ r.namesRead, ¬ Name.Accepted name) ∨ ∃ table, r.SetsNothing table) ∧
    ∀ fault, r.statement? = .error fault ↔
      (∃ table, r.SetsNothing table ∧ fault = .nothingToSet table) ∨
      ((∀ table, ¬ r.SetsNothing table) ∧
        ∃ f, Name.IsFirstFault f r.namesRead ∧ fault = .badName f) := by
  by_cases hempty : ∃ table, r.SetsNothing table
  · obtain ⟨table, hr⟩ := hempty
    have hfault := Request.fault?_of_setsNothing hr
    refine ⟨?_, fun fault => ?_⟩
    · simp only [Request.statement?_eq_error_iff, hfault]
      exact ⟨fun _ => .inr ⟨table, hr⟩, fun _ => ⟨_, rfl⟩⟩
    · rw [Request.statement?_eq_error_iff, hfault]
      constructor
      · intro h
        exact .inl ⟨table, hr, (Option.some.inj h).symm⟩
      · rintro (⟨table', hr', rfl⟩ | ⟨hnot, -⟩)
        · cases hr
          cases hr'
          rfl
        · exact absurd hr (hnot table)
  · have hnot : ∀ table, ¬ r.SetsNothing table := fun table hr => hempty ⟨table, hr⟩
    have hfault := Request.fault?_of_not_setsNothing hnot
    refine ⟨?_, fun fault => ?_⟩
    · have hnone : r.fault? = none ↔ ∀ name ∈ r.namesRead, Name.Accepted name := by
        rw [hfault, Option.map_eq_none_iff, List.findSome?_eq_none_iff]
        simp only [Name.fault?_eq_none_iff]
      simp only [Request.statement?_eq_error_iff, ← Option.ne_none_iff_exists', or_iff_left hempty]
      rw [Ne, hnone]
      simp only [not_forall, exists_prop]
    · rw [Request.statement?_eq_error_iff, hfault, Option.map_eq_some_iff]
      simp only [Name.findSome?_fault?_eq_some_iff]
      constructor
      · rintro ⟨f, hf, rfl⟩
        exact .inr ⟨hnot, f, hf, rfl⟩
      · rintro (⟨table, hr, -⟩ | ⟨-, f, hf, rfl⟩)
        · exact absurd hr (hnot table)
        · exact ⟨f, hf, rfl⟩

/-- The column of empty operators counts, and it stands in front of the sort keys. -/
example : (Select.ofCalls "t" [.orderByAsc "", .scope (.orWhere (.single "a..b"
    (.operators .empty)))]).statement = .error (.badName (.emptySegment "a..b")) := by
  decide +kernel

end TypedSql
