import TypedSql.Proofs.ColumnWrites
import TypedSql.Proofs.Terminals
import TypedSql.Proofs.ValueBlindness

/-!
# The order of calls

A builder is made by a chain of calls, and every call is about one clause.  A clause comes
of the calls about it, in their order; how these stand among the calls about other clauses
makes no difference:

    Select.ofCalls table calls = .ofClauses table (byClause Call.clause calls)
                                                               (Select.ofCalls_eq_ofClauses)

`ofClauses` says what each clause comes to: conditions merge, alternatives and sort keys
line up, and of columns, groups, bounds, keys and modes the last counts.  So the builder
is the same for all chains that agree clause by clause (`clauses_decide`).
-/

namespace TypedSql

/-- What a call is about. -/
inductive Clause where
  | columns
  | distinct
  | base
  | alternatives
  | groups
  | having
  | order
  | bounds
  | key
  | payload
  | conflict
  | precondition
deriving DecidableEq

/-- The calls about each clause, in their order. -/
def byClause {α : Type} (clause : α → Clause) (calls : List α) (k : Clause) : List α :=
  calls.filter fun c => clause c = k

/-! ## What the clauses come to -/

namespace Scope

def Call.clause : Call → Clause
  | andWhere _ | whereCmp .. => .base
  | orWhere _ | orWhereCmp .. => .alternatives
  | orderBy .. => .order
  | limit _ | offset _ => .bounds

/-- What the call writes into the base of the filter. -/
def Call.baseWrites : Call → List (String × Constraint)
  | andWhere c => c.entries
  | whereCmp column symbol v => [(column, .compare symbol v)]
  | _ => []

def Call.alternative? : Call → Option Conditions
  | orWhere c => some c
  | orWhereCmp column symbol v => some (.single column (.compare symbol v))
  | _ => none

def Call.sortKey? : Call → Option SortKey
  | orderBy column direction => some ⟨column, direction⟩
  | _ => none

def Call.limit? : Call → Option Int64
  | limit n => some n
  | _ => none

def Call.offset? : Call → Option Int64
  | offset n => some n
  | _ => none

/-- The scope whose clauses come of these calls. -/
def ofClauses (calls : Clause → List Call) : Scope where
  filter :=
    { base := .ofList ((calls .base).flatMap Call.baseWrites)
      alternatives := (calls .alternatives).filterMap Call.alternative? }
  order := (calls .order).filterMap Call.sortKey?
  bounds :=
    { limit := ((calls .bounds).filterMap Call.limit?).getLast?
      offset := ((calls .bounds).filterMap Call.offset?).getLast? }

end Scope

namespace Select

def Call.clause : Call → Clause
  | scope c => c.clause
  | orderByAsc _ | orderByDesc _ => .order
  | primaryKey _ => .key
  | select _ | selectRaw _ => .columns
  | distinct => .distinct
  | groupBy _ => .groups
  | having _ | havingCmp .. => .having
  | paginate .. => .bounds

/-- The calls on the scope that the call stands for. -/
def Call.scopeCalls : Call → List Scope.Call
  | scope c => [c]
  | orderByAsc column => [.orderBy column .ascending]
  | orderByDesc column => [.orderBy column .descending]
  | paginate page perPage =>
    (pageBounds page perPage).limit.toList.map .limit ++
      (pageBounds page perPage).offset.toList.map .offset
  | _ => []

def Call.columns? : Call → Option (List String)
  | select columns => some columns
  | _ => none

def Call.expression? : Call → Option String
  | selectRaw expression => some expression
  | _ => none

def Call.groups? : Call → Option (List String)
  | groupBy columns => some columns
  | _ => none

def Call.havingWrites : Call → List (String × Constraint)
  | having c => c.entries
  | havingCmp column symbol v => [(column, .compare symbol v)]
  | _ => []

def Call.key? : Call → Option String
  | primaryKey column => some column
  | _ => none

/-- The selection whose clauses come of these calls.  The last columns are kept, but an
expression stands in their place if it was given after them. -/
def ofClauses (table : String) (calls : Clause → List Call) : Select :=
  { Scope.ofClauses fun k => (calls k).flatMap Call.scopeCalls with
    table
    columns := ((calls .columns).filterMap Call.columns?).getLast?.getD []
    expression := (calls .columns).getLast?.bind Call.expression?
    distinct := !(calls .distinct).isEmpty
    groups := ((calls .groups).filterMap Call.groups?).getLast?.getD []
    having := .ofList ((calls .having).flatMap Call.havingWrites)
    primaryKey := ((calls .key).filterMap Call.key?).getLast? }

end Select

namespace Update

def Call.clause : Call → Clause
  | scope c => c.clause
  | set .. => .payload

def Call.scopeCalls : Call → List Scope.Call
  | scope c => [c]
  | set .. => []

def Call.writes : Call → List (String × Value)
  | set column v => [(column, v)]
  | scope _ => []

def ofClauses (table : String) (payload : Payload) (calls : Clause → List Call) : Update :=
  { Scope.ofClauses fun k => (calls k).flatMap Call.scopeCalls with
    table
    payload := payload.insertMany ((calls .payload).flatMap Call.writes) }

end Update

def Delete.ofClauses (table : String) (calls : Clause → List Scope.Call) : Delete :=
  { Scope.ofClauses calls with table }

namespace Insert

def Call.clause : Call → Clause
  | primaryKey _ => .key
  | set .. => .payload
  | onConflict _ | orIgnore | orReplace => .conflict
  | ifNotExists _ => .precondition

def Call.writes : Call → List (String × Value)
  | set column v => [(column, v)]
  | _ => []

def Call.mode? : Call → Option ConflictMode
  | onConflict mode => some mode
  | orIgnore => some .ignore
  | orReplace => some .replace
  | _ => none

def Call.condition? : Call → Option Conditions
  | ifNotExists c => some c
  | _ => none

def Call.key? : Call → Option String
  | primaryKey column => some column
  | _ => none

def ofClauses (table : String) (payload : Payload) (calls : Clause → List Call) : Insert where
  table
  payload := payload.insertMany ((calls .payload).flatMap Call.writes)
  conflict := ((calls .conflict).filterMap Call.mode?).getLast?.getD .abort
  unlessExists := ((calls .precondition).filterMap Call.condition?).getLast?
  primaryKey := ((calls .key).filterMap Call.key?).getLast?

end Insert

/-! ## Lemmas -/

section

variable {α β : Type}

theorem byClause_concat (clause : α → Clause) (calls : List α) (c : α) (k : Clause) :
    byClause clause (calls ++ [c]) k =
      byClause clause calls k ++ if clause c = k then [c] else [] := by
  rw [byClause, List.filter_append, byClause]
  by_cases h : clause c = k <;> simp [h]

/-- Calls that stand for calls about the same clause each. -/
theorem byClause_flatMap {clause : α → Clause} {clause' : β → Clause} {f : α → List β}
    (h : ∀ c, ∀ c' ∈ f c, clause' c' = clause c) (calls : List α) (k : Clause) :
    byClause clause' (calls.flatMap f) k = (byClause clause calls k).flatMap f := by
  induction calls with
  | nil => rfl
  | cons c calls ih =>
    have hc : (f c).filter (fun c' => clause' c' = k) = if clause c = k then f c else [] := by
      split
      · next hk => exact List.filter_eq_self.2 fun c' hc' => by simpa [h c c' hc'] using hk
      · next hk => exact List.filter_eq_nil_iff.2 fun c' hc' => by simpa [h c c' hc'] using hk
    simp only [byClause] at ih ⊢
    rw [List.flatMap_cons, List.filter_append, ih, hc, List.filter_cons]
    by_cases hk : clause c = k <;> simp [hk]

/-- If one more call does to `f calls` what it does to a builder, `f calls` is the builder
that the calls make. -/
theorem foldl_eq_of_concat {σ : Type} {apply : σ → α → σ} {s : σ} (f : List α → σ)
    (hnil : f [] = s) (hconcat : ∀ calls c, f (calls ++ [c]) = apply (f calls) c)
    (calls : List α) : calls.foldl apply s = f calls := by
  induction calls using List.reverseRecOn with
  | nil => exact hnil.symm
  | append_singleton calls c ih =>
    rw [List.foldl_append, ih, hconcat, List.foldl_cons, List.foldl_nil]

end

namespace Scope

theorem ofClauses_concat (calls : List Call) (c : Call) :
    ofClauses (byClause Call.clause (calls ++ [c])) =
      (ofClauses (byClause Call.clause calls)).apply c := by
  cases c <;>
    simp [ofClauses, byClause_concat, Call.clause, Call.baseWrites, Call.alternative?,
      Call.sortKey?, Call.limit?, Call.offset?, apply, Filter.andWhere, Filter.andColumn,
      Filter.orWhere, ColumnMap.ofList_append_entries, ColumnMap.ofList_concat]

theorem foldl_apply (calls : List Call) :
    calls.foldl apply all = ofClauses (byClause Call.clause calls) :=
  foldl_eq_of_concat (fun cs => ofClauses (byClause Call.clause cs)) rfl ofClauses_concat calls

/-- Where calls stand for calls on the scope, one more call does to the scope what those
do that it stands for. -/
theorem ofClauses_flatMap_concat {α : Type} {clause : α → Clause} {f : α → List Call}
    (h : ∀ c, ∀ c' ∈ f c, c'.clause = clause c) (calls : List α) (c : α) :
    ofClauses (fun k => (byClause clause (calls ++ [c]) k).flatMap f) =
      (f c).foldl apply (ofClauses fun k => (byClause clause calls k).flatMap f) := by
  have hfold : ∀ cs : List α,
      ofClauses (fun k => (byClause clause cs k).flatMap f) = (cs.flatMap f).foldl apply all := by
    intro cs
    rw [foldl_apply]
    exact congrArg ofClauses (funext fun k => (byClause_flatMap h cs k).symm)
  rw [hfold, hfold, List.flatMap_append, List.foldl_append, List.flatMap_singleton]

end Scope

namespace Select

theorem Call.clause_of_mem_scopeCalls (c : Call) :
    ∀ c' ∈ c.scopeCalls, c'.clause = c.clause := by
  cases c <;> simp [scopeCalls, clause, Scope.Call.clause, pageBounds]

theorem ofClauses_concat (table : String) (calls : List Call) (c : Call) :
    ofClauses table (byClause Call.clause (calls ++ [c])) =
      (ofClauses table (byClause Call.clause calls)).apply c := by
  rw [ofClauses, Scope.ofClauses_flatMap_concat Call.clause_of_mem_scopeCalls, ofClauses]
  cases c with
  | scope c =>
    cases c <;>
      simp [byClause_concat, Call.clause, Scope.Call.clause, Call.scopeCalls, apply]
  | _ =>
    simp [byClause_concat, Call.clause, Call.scopeCalls, Call.columns?, Call.expression?,
      Call.groups?, Call.havingWrites, Call.key?, apply, ColumnMap.ofList_append_entries,
      ColumnMap.ofList_concat, Scope.apply, pageBounds]

/-- A selection is what its clauses come to. -/
theorem ofCalls_eq_ofClauses (table : String) (calls : List Call) :
    ofCalls table calls = ofClauses table (byClause Call.clause calls) :=
  foldl_eq_of_concat (fun cs => ofClauses table (byClause Call.clause cs)) rfl
    (ofClauses_concat table) calls

end Select

namespace Update

theorem Call.clause_of_mem_scopeCalls (c : Call) :
    ∀ c' ∈ c.scopeCalls, c'.clause = c.clause := by
  cases c <;> simp [scopeCalls, clause]

theorem ofClauses_concat (table : String) (payload : Payload) (calls : List Call) (c : Call) :
    ofClauses table payload (byClause Call.clause (calls ++ [c])) =
      (ofClauses table payload (byClause Call.clause calls)).apply c := by
  rw [ofClauses, Scope.ofClauses_flatMap_concat Call.clause_of_mem_scopeCalls, ofClauses]
  cases c with
  | scope c =>
    cases c <;>
      simp [byClause_concat, Call.clause, Scope.Call.clause, Call.scopeCalls, apply]
  | set column v =>
    simp [byClause_concat, Call.clause, Call.scopeCalls, Call.writes, apply,
      ColumnMap.insertMany_concat]

theorem ofCalls_eq_ofClauses (table : String) (payload : Payload) (calls : List Call) :
    ofCalls table payload calls = ofClauses table payload (byClause Call.clause calls) :=
  foldl_eq_of_concat (fun cs => ofClauses table payload (byClause Call.clause cs)) rfl
    (ofClauses_concat table payload) calls

end Update

theorem Delete.ofCalls_eq_ofClauses (table : String) (calls : List Scope.Call) :
    ofCalls table calls = ofClauses table (byClause Scope.Call.clause calls) := by
  refine foldl_eq_of_concat (fun cs => ofClauses table (byClause Scope.Call.clause cs)) rfl
    (fun calls c => ?_) calls
  rw [ofClauses, Scope.ofClauses_concat]
  rfl

namespace Insert

theorem ofClauses_concat (table : String) (payload : Payload) (calls : List Call) (c : Call) :
    ofClauses table payload (byClause Call.clause (calls ++ [c])) =
      (ofClauses table payload (byClause Call.clause calls)).apply c := by
  cases c <;>
    simp [ofClauses, byClause_concat, Call.clause, Call.writes, Call.mode?, Call.condition?,
      Call.key?, apply, ColumnMap.insertMany_concat]

theorem ofCalls_eq_ofClauses (table : String) (payload : Payload) (calls : List Call) :
    ofCalls table payload calls = ofClauses table payload (byClause Call.clause calls) :=
  foldl_eq_of_concat (fun cs => ofClauses table payload (byClause Call.clause cs)) rfl
    (ofClauses_concat table payload) calls

end Insert

/-! ## Chains of calls -/

namespace Chain

def builder : Chain → Builder
  | select table calls => .select (.ofCalls table calls)
  | insert table payload calls => .insert (.ofCalls table payload calls)
  | update table payload calls => .update (.ofCalls table payload calls)
  | delete table calls => .delete (.ofCalls table calls)

/-- The builder that the calls about each clause come to. -/
def ofClauses : Chain → Builder
  | select table calls => .select (.ofClauses table (byClause Select.Call.clause calls))
  | insert table payload calls =>
    .insert (.ofClauses table payload (byClause Insert.Call.clause calls))
  | update table payload calls =>
    .update (.ofClauses table payload (byClause Update.Call.clause calls))
  | delete table calls => .delete (.ofClauses table (byClause Scope.Call.clause calls))

/-- Both chains make a builder of one kind on one table, from one payload, and hold the
same calls about each clause. -/
inductive SameClauses : Chain → Chain → Prop
  | select {table : String} {calls calls' : List Select.Call} :
    (∀ k, byClause Select.Call.clause calls k = byClause Select.Call.clause calls' k) →
      SameClauses (select table calls) (select table calls')
  | insert {table : String} {payload : Payload} {calls calls' : List Insert.Call} :
    (∀ k, byClause Insert.Call.clause calls k = byClause Insert.Call.clause calls' k) →
      SameClauses (insert table payload calls) (insert table payload calls')
  | update {table : String} {payload : Payload} {calls calls' : List Update.Call} :
    (∀ k, byClause Update.Call.clause calls k = byClause Update.Call.clause calls' k) →
      SameClauses (update table payload calls) (update table payload calls')
  | delete {table : String} {calls calls' : List Scope.Call} :
    (∀ k, byClause Scope.Call.clause calls k = byClause Scope.Call.clause calls' k) →
      SameClauses (delete table calls) (delete table calls')

theorem builder_eq_ofClauses (c : Chain) : c.builder = c.ofClauses := by
  cases c with
  | select table calls => exact congrArg Builder.select (Select.ofCalls_eq_ofClauses table calls)
  | insert table payload calls =>
    exact congrArg Builder.insert (Insert.ofCalls_eq_ofClauses table payload calls)
  | update table payload calls =>
    exact congrArg Builder.update (Update.ofCalls_eq_ofClauses table payload calls)
  | delete table calls => exact congrArg Builder.delete (Delete.ofCalls_eq_ofClauses table calls)

theorem SameClauses.ofClauses_eq {a b : Chain} (h : a.SameClauses b) :
    a.ofClauses = b.ofClauses := by
  cases h with
  | select h | insert h | update h | delete h => rw [ofClauses, ofClauses, funext h]

end Chain

/-! ## Counts and aggregates -/

namespace Select

theorem base_ofCalls (table : String) (calls : List Call) :
    (ofCalls table calls).filter.base =
      .ofList ((byClause Call.clause calls .base).flatMap fun c =>
        c.scopeCalls.flatMap Scope.Call.baseWrites) := by
  rw [ofCalls_eq_ofClauses, ofClauses, Scope.ofClauses, List.flatMap_assoc]

theorem groups_ofCalls (table : String) (calls : List Call) :
    (ofCalls table calls).groups =
      ((byClause Call.clause calls .groups).filterMap Call.groups?).getLast?.getD [] := by
  rw [ofCalls_eq_ofClauses, ofClauses]

theorem table_ofCalls (table : String) (calls : List Call) :
    (ofCalls table calls).table = table := by
  rw [ofCalls_eq_ofClauses, ofClauses]

theorem countStatement_congr {q q' : Select} (htable : q.table = q'.table)
    (hbase : q.filter.base = q'.filter.base) : q.countStatement = q'.countStatement := by
  rw [countStatement, countStatement, renderCount, renderCount, Filter.renderBase,
    Filter.renderBase, htable, hbase]

theorem aggregateStatement_congr {q q' : Select} (htable : q.table = q'.table)
    (hbase : q.filter.base = q'.filter.base) (hgroups : q.groups = q'.groups) (f : Aggregate)
    (column : String) : q.aggregateStatement f column = q'.aggregateStatement f column := by
  rw [aggregateStatement, aggregateStatement, renderAggregate, renderAggregate,
    Filter.renderBase, Filter.renderBase, renderGroups, renderGroups, htable, hbase, hgroups]

end Select

/-! ## Top theorem -/

/-- **A builder depends on the order within each clause only.**  Chains with the same calls
about each clause make one builder, so all that it shows and sends is the same; and what
they make is what `ofClauses` says, where conditions that merge keep each column at its
first place with its last constraint.  A count depends on the base of the filter alone, and
an aggregate on the base and the groups, whatever the other clauses hold. -/
theorem clauses_decide :
    (∀ a b : Chain, a.SameClauses b → a.builder = b.builder) ∧
    (∀ a : Chain, a.builder = a.ofClauses) ∧
    (∀ (writes : List (String × Constraint)),
      (ColumnMap.ofList writes).columns = (writes.map Prod.fst).eraseDups ∧
      ∀ column, (ColumnMap.ofList writes).get? column = writes.reverse.lookup column) ∧
    (∀ (table : String) (calls calls' : List Select.Call),
      byClause Select.Call.clause calls .base = byClause Select.Call.clause calls' .base →
        (Select.ofCalls table calls).countStatement =
          (Select.ofCalls table calls').countStatement ∧
        (byClause Select.Call.clause calls .groups = byClause Select.Call.clause calls' .groups →
          ∀ f column, (Select.ofCalls table calls).aggregateStatement f column =
            (Select.ofCalls table calls').aggregateStatement f column)) := by
  refine ⟨fun a b h => ?_, Chain.builder_eq_ofClauses, fun writes =>
    ⟨ColumnMap.columns_ofList writes, ColumnMap.get?_ofList writes⟩,
    fun table calls calls' hbase => ?_⟩
  · rw [a.builder_eq_ofClauses, b.builder_eq_ofClauses, h.ofClauses_eq]
  · have htable : (Select.ofCalls table calls).table = (Select.ofCalls table calls').table := by
      rw [Select.table_ofCalls, Select.table_ofCalls]
    have hfilter : (Select.ofCalls table calls).filter.base =
        (Select.ofCalls table calls').filter.base := by
      rw [Select.base_ofCalls, Select.base_ofCalls, hbase]
    refine ⟨Select.countStatement_congr htable hfilter, fun hgroups f column => ?_⟩
    refine Select.aggregateStatement_congr htable hfilter ?_ f column
    rw [Select.groups_ofCalls, Select.groups_ofCalls, hgroups]

/-- An expression gives way to columns that come after it, a page to a later limit; and a
count looks at no name but those of the base. -/
theorem clauses_decide_search :
    let base : Select.Call := .scope (.andWhere (.single "name" (.scalar (.text "x"))))
    let calls : List Select.Call := [.selectRaw "COUNT(*)", base, .paginate 3 10,
      .select ["id"], .orderByDesc "", .scope (.limit 5), .scope (.whereCmp "name" "like" .null)]
    let calls' : List Select.Call := [.orderByDesc "", .paginate 3 10, .scope (.limit 5), base,
      .scope (.whereCmp "name" "like" .null), .selectRaw "COUNT(*)", .select ["id"]]
    (Chain.select "users" calls).builder = (Chain.select "users" calls').builder ∧
    (Select.ofCalls "users" calls).countStatement =
      .ok ⟨"SELECT COUNT(*) AS \"count\" FROM \"users\" WHERE \"name\" LIKE ?", [.null]⟩ := by
  intro base calls calls'
  have hcount := (clauses_decide.2.2.2 "users" calls
    [base, .scope (.whereCmp "name" "like" .null)] rfl).1
  refine ⟨clauses_decide.1 _ _ (.select fun k => by cases k <;> rfl), hcount.trans ?_⟩
  decide

end TypedSql
