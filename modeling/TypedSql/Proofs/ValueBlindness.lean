import TypedSql.Proofs.MapValues

/-!
# Values stay out of the text

A builder is made by a chain of calls.  Two chains that differ in nothing but the
values they bind ask for the same texts, or fail with the same fault:

    a.blank = b.blank → a.request? k = some r →
      ∃ r', b.request? k = some r' ∧ Agree r.statement? r'.statement?
                                                            (statements_agree_of_blank_eq)

Every call does the same to a builder whatever its values are (`apply_mapValues`), so
a whole chain does (`request?_mapValues`).
-/

namespace TypedSql

variable (f : Value → Value)

/-! ## Calls -/

namespace Filter

theorem andWhere_mapValues (w : Filter) (c : Conditions) :
    (w.andWhere c).mapValues f = (w.mapValues f).andWhere (c.mapValues f) := by
  rw [andWhere, mapValues, Conditions.mapValues, ColumnMap.merge_map]
  rfl

theorem andColumn_mapValues (w : Filter) (column : String) (k : Constraint) :
    (w.andColumn column k).mapValues f = (w.mapValues f).andColumn column (k.mapValues f) := by
  rw [andColumn, mapValues, Conditions.mapValues, ColumnMap.insert_map]
  rfl

theorem orWhere_mapValues (w : Filter) (c : Conditions) :
    (w.orWhere c).mapValues f = (w.mapValues f).orWhere (c.mapValues f) := by
  rw [orWhere, mapValues, List.map_append]
  rfl

end Filter

namespace Scope

def Call.mapValues : Call → Call
  | andWhere c => andWhere (c.mapValues f)
  | whereCmp column symbol v => whereCmp column symbol (f v)
  | orWhere c => orWhere (c.mapValues f)
  | orWhereCmp column symbol v => orWhereCmp column symbol (f v)
  | orderBy column direction => orderBy column direction
  | limit n => limit n
  | offset n => offset n

theorem apply_mapValues (s : Scope) (c : Call) :
    (s.apply c).mapValues f = (s.mapValues f).apply (c.mapValues f) := by
  cases c with
  | andWhere c =>
    rw [apply, mapValues, Filter.andWhere_mapValues]
    rfl
  | whereCmp column symbol v =>
    rw [apply, mapValues, Filter.andColumn_mapValues, Constraint.compare_mapValues]
    rfl
  | orWhere c =>
    rw [apply, mapValues, Filter.orWhere_mapValues]
    rfl
  | orWhereCmp column symbol v =>
    have hsingle : Conditions.mapValues f (.single column (.compare symbol v)) =
        .single column (.compare symbol (f v)) := by
      rw [Conditions.mapValues, ColumnMap.single, ColumnMap.insert_map,
        Constraint.compare_mapValues]
      rfl
    rw [apply, mapValues, Filter.orWhere_mapValues, hsingle]
    rfl
  | orderBy column direction => rfl
  | limit n => rfl
  | offset n => rfl

end Scope

namespace Select

def Call.mapValues : Call → Call
  | scope c => scope (c.mapValues f)
  | having c => having (c.mapValues f)
  | havingCmp column symbol v => havingCmp column symbol (f v)
  | call => call

theorem apply_mapValues (q : Select) (c : Call) :
    (q.apply c).mapValues f = (q.mapValues f).apply (c.mapValues f) := by
  cases c with
  | scope c =>
    rw [apply, mapValues, Scope.apply_mapValues]
    rfl
  | having c =>
    rw [apply, mapValues, Conditions.mapValues, ColumnMap.merge_map]
    rfl
  | havingCmp column symbol v =>
    rw [apply, mapValues, Conditions.mapValues, ColumnMap.insert_map,
      Constraint.compare_mapValues]
    rfl
  | _ => rfl

end Select

namespace Insert

def Call.mapValues : Call → Call
  | set column v => set column (f v)
  | ifNotExists c => ifNotExists (c.mapValues f)
  | call => call

theorem apply_mapValues (q : Insert) (c : Call) :
    (q.apply c).mapValues f = (q.mapValues f).apply (c.mapValues f) := by
  cases c with
  | set column v =>
    rw [apply, mapValues, Payload.mapValues, ColumnMap.insert_map]
    rfl
  | _ => rfl

end Insert

namespace Update

def Call.mapValues : Call → Call
  | scope c => scope (c.mapValues f)
  | set column v => set column (f v)

theorem apply_mapValues (q : Update) (c : Call) :
    (q.apply c).mapValues f = (q.mapValues f).apply (c.mapValues f) := by
  cases c with
  | scope c =>
    rw [apply, mapValues, Scope.apply_mapValues]
    rfl
  | set column v =>
    rw [apply, mapValues, Payload.mapValues, ColumnMap.insert_map]
    rfl

end Update

theorem Delete.apply_mapValues (q : Delete) (c : Scope.Call) :
    (q.apply c).mapValues f = (q.mapValues f).apply (c.mapValues f) := by
  rw [apply, mapValues, Scope.apply_mapValues]
  rfl

/-- Calls that do the same to builders whatever the values are do so one after the
other. -/
theorem foldl_mapValues {σ α : Type} {apply : σ → α → σ} {g : σ → σ} {h : α → α}
    (happly : ∀ s c, g (apply s c) = apply (g s) (h c)) (s : σ) (calls : List α) :
    g (calls.foldl apply s) = (calls.map h).foldl apply (g s) := by
  induction calls generalizing s with
  | nil => rfl
  | cons c calls ih => rw [List.foldl_cons, ih, happly, List.map_cons, List.foldl_cons]

/-! ## Chains of calls -/

/-- What a program calls to make a builder. -/
inductive Chain where
  | select (table : String) (calls : List Select.Call)
  | insert (table : String) (payload : Payload) (calls : List Insert.Call)
  | update (table : String) (payload : Payload) (calls : List Update.Call)
  | delete (table : String) (calls : List Scope.Call)

/-- What can be asked of a builder. -/
inductive Question where
  /-- its own statement, which reads or writes rows -/
  | rows
  | existence
  | count
  | aggregate (a : Select.Aggregate) (column : String)
  | precondition

namespace Chain

/-- The builder that the calls make, asked for one of its statements. -/
def request? : Chain → Question → Option Request
  | select table calls, .rows => some (.rows (.ofCalls table calls))
  | select table calls, .existence => some (.existence (.ofCalls table calls))
  | select table calls, .count => some (.count (.ofCalls table calls))
  | select table calls, .aggregate a column => some (.aggregate (.ofCalls table calls) a column)
  | insert table payload calls, .rows => some (.insert (.ofCalls table payload calls))
  | insert table payload calls, .precondition =>
    some (.precondition (.ofCalls table payload calls))
  | update table payload calls, .rows => some (.update (.ofCalls table payload calls))
  | delete table calls, .rows => some (.delete (.ofCalls table calls))
  | _, _ => none

def mapValues : Chain → Chain
  | select table calls => select table (calls.map (Select.Call.mapValues f))
  | insert table payload calls =>
    insert table (payload.mapValues f) (calls.map (Insert.Call.mapValues f))
  | update table payload calls =>
    update table (payload.mapValues f) (calls.map (Update.Call.mapValues f))
  | delete table calls => delete table (calls.map (Scope.Call.mapValues f))

/-- The chain with NULL in the place of every value. -/
def blank : Chain → Chain := mapValues fun _ => .null

theorem request?_mapValues (c : Chain) (k : Question) :
    (c.mapValues f).request? k = (c.request? k).map (Request.mapValues f) := by
  cases c with
  | select table calls =>
    have hq : Select.ofCalls table (calls.map (Select.Call.mapValues f)) =
        (Select.ofCalls table calls).mapValues f :=
      (foldl_mapValues (Select.apply_mapValues f) (Select.new table) calls).symm
    cases k <;> simp only [mapValues, request?, hq] <;> rfl
  | insert table payload calls =>
    have hq : Insert.ofCalls table (payload.mapValues f) (calls.map (Insert.Call.mapValues f)) =
        (Insert.ofCalls table payload calls).mapValues f :=
      (foldl_mapValues (Insert.apply_mapValues f) (Insert.new table payload) calls).symm
    cases k <;> simp only [mapValues, request?, hq] <;> rfl
  | update table payload calls =>
    have hq : Update.ofCalls table (payload.mapValues f) (calls.map (Update.Call.mapValues f)) =
        (Update.ofCalls table payload calls).mapValues f :=
      (foldl_mapValues (Update.apply_mapValues f) (Update.new table payload) calls).symm
    cases k <;> simp only [mapValues, request?, hq] <;> rfl
  | delete table calls =>
    have hq : Delete.ofCalls table (calls.map (Scope.Call.mapValues f)) =
        (Delete.ofCalls table calls).mapValues f :=
      (foldl_mapValues (Delete.apply_mapValues f) (Delete.new table) calls).symm
    cases k <;> simp only [mapValues, request?, hq] <;> rfl

end Chain

/-! ## Top theorem -/

/-- Both fail with the same fault, or neither has a statement, or their statements
have one text and equally many parameters. -/
def Agree : Except RenderFault (Option Statement) → Except RenderFault (Option Statement) → Prop
  | .error fault, .error fault' => fault = fault'
  | .ok none, .ok none => True
  | .ok (some s), .ok (some s') => s.text = s'.text ∧ s.params.length = s'.params.length
  | _, _ => False

theorem agree_of_mapValues {x y : Except RenderFault (Option Statement)}
    (h : x.map (Option.map (Statement.mapValues f)) = y.map (Option.map (Statement.mapValues f))) :
    Agree x y := by
  cases x with
  | error fault =>
    cases y with
    | error fault' => exact Except.error.inj h
    | ok o => cases h
  | ok o =>
    cases y with
    | error fault' => cases h
    | ok o' =>
      have ho := Except.ok.inj h
      cases o with
      | none =>
        cases o' with
        | none => trivial
        | some s' => cases ho
      | some s =>
        cases o' with
        | none => cases ho
        | some s' =>
          have hs : Statement.mapValues f s = Statement.mapValues f s' := Option.some.inj ho
          obtain ⟨htext, hparams⟩ := Statement.mk.inj hs
          have hlength := congrArg List.length hparams
          rw [List.length_map, List.length_map] at hlength
          exact ⟨htext, hlength⟩

/-- **Values never reach the text.**  Whatever can be asked of a builder can be asked
of one that is made by the same calls with other values, and the answers agree: one
text with as many parameters, or the same fault.  Where the values are replaced one by
one, the parameters are replaced in their places. -/
theorem statements_agree_of_blank_eq (a b : Chain) (h : a.blank = b.blank) (k : Question)
    (r : Request) (hr : a.request? k = some r) :
    (∃ r', b.request? k = some r' ∧ Agree r.statement? r'.statement?) ∧
    ∀ f : Value → Value, ∃ r', (a.mapValues f).request? k = some r' ∧
      r'.statement? = r.statement?.map (Option.map (Statement.mapValues f)) := by
  constructor
  · have hblank : (a.request? k).map (Request.mapValues fun _ => .null) =
        (b.request? k).map (Request.mapValues fun _ => .null) := by
      rw [← Chain.request?_mapValues, ← Chain.request?_mapValues]
      exact congrArg (Chain.request? · k) h
    rw [hr] at hblank
    obtain ⟨r', hr', hmap⟩ := Option.map_eq_some_iff.1 hblank.symm
    refine ⟨r', hr', agree_of_mapValues (fun _ => .null) ?_⟩
    rw [← Request.statement?_mapValues, ← Request.statement?_mapValues, hmap]
  · intro f
    refine ⟨r.mapValues f, ?_, r.statement?_mapValues f⟩
    rw [Chain.request?_mapValues, hr]
    rfl

/-- A search whose values are left open. -/
def searchBy (name id id' least : Value) : Chain :=
  .select "users" [.scope (.whereCmp "name" "not  like" name),
    .scope (.orWhere (.single "id" (.operators (.single (.oneOf [id, id']))))),
    .scope (.whereCmp "name" "<>" name), .groupBy ["name"], .havingCmp "total" ">=" least]

theorem statements_agree_searchBy :
    ∃ r r', (searchBy (.text "x' OR \"1\" = ?") (.integer 1) .null (.integer 9)).request? .rows =
        some r ∧
      (searchBy .null (.text "") (.integer 2) (.text "?, ?")).request? .rows = some r' ∧
      Agree r.statement? r'.statement? := by
  have hblank : (searchBy (.text "x' OR \"1\" = ?") (.integer 1) .null (.integer 9)).blank =
      (searchBy .null (.text "") (.integer 2) (.text "?, ?")).blank := rfl
  obtain ⟨⟨r', hr', hagree⟩, -⟩ := statements_agree_of_blank_eq _ _ hblank .rows _ rfl
  exact ⟨_, r', rfl, hr', hagree⟩

end TypedSql
