import TypedSql.Proofs.Symbols
import TypedSql.Proofs.ValueBlindness

/-!
# Two ways to write a comparison

A comparison is written as a symbol with a value, or as a mapping from the column to the
operator that the symbol denotes; a value alone will do for equality.  Which one is taken
makes no difference to what can be asked of a builder:

    a.Rephrased b → (a.request? k).map Request.statement? = (b.request? k).map Request.statement?
                                                                       (conventions_converge)

It does make one to the builder, since a value alone is not a set of operators.  Written out,
where every value alone is a set with the operator of equality, the two builders are the same
(`Rephrased.expand_eq`): writing out goes along with every call (`apply_expand`) and changes
no statement (`statement?_expand`).
-/

namespace TypedSql

/-! ## Rephrasing -/

/-- The constraint is the operator and nothing else. -/
inductive Constraint.Expresses : Constraint → Op → Prop
  | operator (op : Op) : Expresses (.operators (.single op)) op
  | scalar (v : Value) : Expresses (.scalar v) (.eq v)

/-- The constraint says what the symbol does with its value. -/
def Constraint.Says (k : Constraint) (symbol : String) (v : Value) : Prop :=
  ∃ op, Op.Denoted symbol v op ∧ k.Expresses op

/-- The same call, or one with a mapping in the place of one with a symbol. -/
inductive Scope.Call.Rephrased : Scope.Call → Scope.Call → Prop
  | refl (c : Scope.Call) : Rephrased c c
  | andWhere {column symbol : String} {v : Value} {k : Constraint} (h : k.Says symbol v) :
    Rephrased (.whereCmp column symbol v) (.andWhere (.single column k))
  | orWhere {column symbol : String} {v : Value} {k : Constraint} (h : k.Says symbol v) :
    Rephrased (.orWhereCmp column symbol v) (.orWhere (.single column k))

inductive Select.Call.Rephrased : Select.Call → Select.Call → Prop
  | refl (c : Select.Call) : Rephrased c c
  | scope {c c' : Scope.Call} (h : c.Rephrased c') : Rephrased (.scope c) (.scope c')
  | having {column symbol : String} {v : Value} {k : Constraint} (h : k.Says symbol v) :
    Rephrased (.havingCmp column symbol v) (.having (.single column k))

inductive Update.Call.Rephrased : Update.Call → Update.Call → Prop
  | refl (c : Update.Call) : Rephrased c c
  | scope {c c' : Scope.Call} (h : c.Rephrased c') : Rephrased (.scope c) (.scope c')

/-- The same chain but for calls that are rephrased. -/
inductive Chain.Rephrased : Chain → Chain → Prop
  | select (table : String) {calls calls' : List Select.Call}
    (h : calls.Forall₂ Select.Call.Rephrased calls') :
    Rephrased (.select table calls) (.select table calls')
  | update (table : String) (payload : Payload) {calls calls' : List Update.Call}
    (h : calls.Forall₂ Update.Call.Rephrased calls') :
    Rephrased (.update table payload calls) (.update table payload calls')
  | delete (table : String) {calls calls' : List Scope.Call}
    (h : calls.Forall₂ Scope.Call.Rephrased calls') :
    Rephrased (.delete table calls) (.delete table calls')

/-! ## Conditions written out -/

namespace Constraint

def expand : Constraint → Constraint
  | scalar v => operators (.single (.eq v))
  | operators os => operators os

theorem ops_expand (k : Constraint) : k.expand.ops = k.ops := by
  cases k <;> rfl

theorem Says.expand_eq {symbol : String} {v : Value} {k : Constraint} (h : k.Says symbol v) :
    k.expand = compare symbol v := by
  obtain ⟨op, hop, hk⟩ := h
  rw [compare, Operators.ofSymbol, ← hop.eq_ofSymbol]
  cases hk <;> rfl

end Constraint

namespace Conditions

def expand (c : Conditions) : Conditions := c.map Constraint.expand

theorem expand_single (column : String) (k : Constraint) :
    expand (.single column k) = .single column k.expand :=
  ColumnMap.insert_map _ _ _ _

/-- Only the operators are written. -/
theorem render_expand (c : Conditions) : c.expand.render = c.render := by
  have hatoms : atoms c.expand.entries = atoms c.entries := by
    have hentry (e : String × Constraint) : columnAtoms e.1 e.2.expand = columnAtoms e.1 e.2 := by
      rw [columnAtoms, columnAtoms, Constraint.ops_expand]
    simp only [atoms, expand, ColumnMap.map, List.mapM_map, Function.comp_def, hentry]
  rw [render, render, hatoms]

end Conditions

namespace Filter

def expand (w : Filter) : Filter := ⟨w.base.expand, w.alternatives.map Conditions.expand⟩

theorem render_expand (w : Filter) : w.expand.render = w.render := by
  have hconditions : w.expand.base :: w.expand.alternatives =
      (w.base :: w.alternatives).map Conditions.expand := rfl
  simp only [render, hconditions, List.mapM_map, Function.comp_def, Conditions.render_expand]

theorem andWhere_expand (w : Filter) (c : Conditions) :
    (w.andWhere c).expand = w.expand.andWhere c.expand := by
  rw [andWhere, expand, Conditions.expand, ColumnMap.merge_map]
  rfl

/-- To write to a column is to merge a mapping of that column alone. -/
theorem andColumn_expand (w : Filter) (column : String) (k : Constraint) :
    (w.andColumn column k).expand = w.expand.andWhere (.single column k.expand) := by
  rw [← Conditions.expand_single, ← andWhere_expand]
  rfl

theorem orWhere_expand (w : Filter) (c : Conditions) :
    (w.orWhere c).expand = w.expand.orWhere c.expand := by
  rw [orWhere, expand, List.map_append]
  rfl

end Filter

/-! ## Builders written out -/

namespace Scope

def expand (s : Scope) : Scope := { s with filter := s.filter.expand }

/-- Comparisons by a symbol are mappings too. -/
def Call.expand : Call → Call
  | andWhere c => andWhere c.expand
  | whereCmp column symbol v => andWhere (.single column (.compare symbol v))
  | orWhere c => orWhere c.expand
  | orWhereCmp column symbol v => orWhere (.single column (.compare symbol v))
  | call => call

theorem renderRestriction_expand (s : Scope) (table : Token) :
    s.expand.renderRestriction table = s.renderRestriction table := by
  have hfilter : s.expand.filter.render = s.filter.render := s.filter.render_expand
  rw [renderRestriction, renderRestriction, hfilter]
  rfl

theorem apply_expand (s : Scope) (c : Call) :
    (s.apply c).expand = s.expand.apply c.expand := by
  cases c with
  | andWhere c =>
    rw [apply, expand, Filter.andWhere_expand]
    rfl
  | whereCmp column symbol v =>
    rw [apply, expand, Filter.andColumn_expand]
    rfl
  | orWhere c =>
    rw [apply, expand, Filter.orWhere_expand]
    rfl
  | orWhereCmp column symbol v =>
    rw [apply, expand, Filter.orWhere_expand, Conditions.expand_single]
    rfl
  | orderBy column direction => rfl
  | limit n => rfl
  | offset n => rfl

theorem Call.Rephrased.expand_eq {c c' : Call} (h : c.Rephrased c') : c.expand = c'.expand := by
  cases h with
  | refl => rfl
  | andWhere h => rw [Call.expand, Call.expand, Conditions.expand_single, h.expand_eq]
  | orWhere h => rw [Call.expand, Call.expand, Conditions.expand_single, h.expand_eq]

end Scope

namespace Select

def expand (q : Select) : Select :=
  { q with toScope := q.toScope.expand, having := q.having.expand }

def Call.expand : Call → Call
  | scope c => scope c.expand
  | having c => having c.expand
  | havingCmp column symbol v => having (.single column (.compare symbol v))
  | call => call

theorem render_expand (q : Select) : q.expand.render = q.render := by
  have hfilter : q.expand.filter.render = q.filter.render := q.filter.render_expand
  have hhaving : q.expand.having.render = q.having.render := q.having.render_expand
  rw [render, render, hfilter, hhaving]
  rfl

theorem renderBase_expand (q : Select) : q.expand.filter.renderBase = q.filter.renderBase :=
  q.filter.base.render_expand

theorem renderCount_expand (q : Select) : q.expand.renderCount = q.renderCount := by
  rw [renderCount, renderCount, renderBase_expand]
  rfl

theorem renderAggregate_expand (q : Select) (f : Aggregate) (column : String) :
    q.expand.renderAggregate f column = q.renderAggregate f column := by
  rw [renderAggregate, renderAggregate, renderBase_expand]
  rfl

theorem apply_expand (q : Select) (c : Call) :
    (q.apply c).expand = q.expand.apply c.expand := by
  cases c with
  | scope c =>
    rw [apply, expand, Scope.apply_expand]
    rfl
  | having c =>
    rw [apply, expand, Conditions.expand, ColumnMap.merge_map]
    rfl
  | havingCmp column symbol v =>
    rw [apply, expand, Conditions.expand, ColumnMap.insert_map]
    rfl
  | _ => rfl

theorem Call.Rephrased.expand_eq {c c' : Call} (h : c.Rephrased c') : c.expand = c'.expand := by
  cases h with
  | refl => rfl
  | scope h => rw [Call.expand, Call.expand, h.expand_eq]
  | having h => rw [Call.expand, Call.expand, Conditions.expand_single, h.expand_eq]

end Select

namespace Update

def expand (q : Update) : Update := { q with toScope := q.toScope.expand }

def Call.expand : Call → Call
  | scope c => scope c.expand
  | call => call

theorem render_expand (q : Update) : q.expand.render = q.render := by
  have hrestriction : q.expand.toScope.renderRestriction = q.toScope.renderRestriction :=
    funext q.toScope.renderRestriction_expand
  rw [render, render, hrestriction]
  rfl

theorem apply_expand (q : Update) (c : Call) :
    (q.apply c).expand = q.expand.apply c.expand := by
  cases c with
  | scope c =>
    rw [apply, expand, Scope.apply_expand]
    rfl
  | set column v => rfl

theorem Call.Rephrased.expand_eq {c c' : Call} (h : c.Rephrased c') : c.expand = c'.expand := by
  cases h with
  | refl => rfl
  | scope h => rw [Call.expand, Call.expand, h.expand_eq]

end Update

namespace Delete

def expand (q : Delete) : Delete := { q with toScope := q.toScope.expand }

theorem render_expand (q : Delete) : q.expand.render = q.render := by
  have hrestriction : q.expand.toScope.renderRestriction = q.toScope.renderRestriction :=
    funext q.toScope.renderRestriction_expand
  rw [render, render, hrestriction]
  rfl

theorem apply_expand (q : Delete) (c : Scope.Call) :
    (q.apply c).expand = q.expand.apply c.expand := by
  rw [apply, expand, Scope.apply_expand]
  rfl

end Delete

/-! ## Chains written out -/

def Request.expand : Request → Request
  | rows q => rows q.expand
  | existence q => existence q.expand
  | count q => count q.expand
  | aggregate q f column => aggregate q.expand f column
  | update q => update q.expand
  | delete q => delete q.expand
  | r => r

theorem Request.statement?_expand (r : Request) : r.expand.statement? = r.statement? := by
  cases r with
  | rows q =>
    show q.expand.render.statement.map some = q.render.statement.map some
    rw [Select.render_expand]
  | existence q =>
    show q.expand.renderExists.statement.map some = q.renderExists.statement.map some
    rw [Select.renderExists, Select.render_expand]
    rfl
  | count q =>
    show q.expand.renderCount.statement.map some = q.renderCount.statement.map some
    rw [Select.renderCount_expand]
  | aggregate q f column =>
    show (q.expand.renderAggregate f column).statement.map some =
      (q.renderAggregate f column).statement.map some
    rw [Select.renderAggregate_expand]
  | insert q => rfl
  | precondition q => rfl
  | update q =>
    show q.expand.render.statement.map some = q.render.statement.map some
    rw [Update.render_expand]
  | delete q =>
    show q.expand.render.statement.map some = q.render.statement.map some
    rw [Delete.render_expand]

namespace Chain

def expand : Chain → Chain
  | select table calls => select table (calls.map Select.Call.expand)
  | update table payload calls => update table payload (calls.map Update.Call.expand)
  | delete table calls => delete table (calls.map Scope.Call.expand)
  | c => c

/-- Whatever the calls are, the builder that they make is written out as they are. -/
theorem request?_expand (c : Chain) (k : Question) :
    c.expand.request? k = (c.request? k).map Request.expand := by
  cases c with
  | select table calls =>
    have hq : Select.ofCalls table (calls.map Select.Call.expand) =
        (Select.ofCalls table calls).expand :=
      (foldl_mapValues Select.apply_expand (Select.new table) calls).symm
    cases k <;> simp only [expand, request?, hq] <;> rfl
  | insert table payload calls => cases k <;> rfl
  | update table payload calls =>
    have hq : Update.ofCalls table payload (calls.map Update.Call.expand) =
        (Update.ofCalls table payload calls).expand :=
      (foldl_mapValues Update.apply_expand (Update.new table payload) calls).symm
    cases k <;> simp only [expand, request?, hq] <;> rfl
  | delete table calls =>
    have hq : Delete.ofCalls table (calls.map Scope.Call.expand) =
        (Delete.ofCalls table calls).expand :=
      (foldl_mapValues Delete.apply_expand (Delete.new table) calls).symm
    cases k <;> simp only [expand, request?, hq] <;> rfl

theorem statements_expand (c : Chain) (k : Question) :
    (c.expand.request? k).map Request.statement? = (c.request? k).map Request.statement? := by
  rw [request?_expand, Option.map_map]
  exact congrArg (fun f => (c.request? k).map f) (funext Request.statement?_expand)

theorem map_eq_of_forall₂ {α : Type} {R : α → α → Prop} {calls calls' : List α} (f : α → α)
    (h : calls.Forall₂ R calls') (hf : ∀ c c', R c c' → f c = f c') : calls.map f = calls'.map f := by
  induction h with
  | nil => rfl
  | cons hc _ ih => rw [List.map_cons, List.map_cons, hf _ _ hc, ih]

theorem Rephrased.expand_eq {a b : Chain} (h : a.Rephrased b) : a.expand = b.expand := by
  cases h with
  | select table h =>
    rw [expand, expand, map_eq_of_forall₂ _ h fun _ _ hc => hc.expand_eq]
  | update table payload h =>
    rw [expand, expand, map_eq_of_forall₂ _ h fun _ _ hc => hc.expand_eq]
  | delete table h =>
    rw [expand, expand, map_eq_of_forall₂ _ h fun _ _ hc => hc.expand_eq]

end Chain

/-! ## Top theorem -/

/-- **Symbols and mappings say the same.**  A symbol denotes one operator, which is the one that
it is read as, and a builder that is given comparisons by their symbols cannot be told from one
that is given mappings to the operators they denote: whatever is asked of both, they answer with
one statement, or fail with one fault. -/
theorem conventions_converge :
    (∀ symbol v op, Op.ofSymbol symbol v = op ↔ Op.Denoted symbol v op) ∧
    ∀ a b : Chain, a.Rephrased b → ∀ k,
      (a.request? k).map Request.statement? = (b.request? k).map Request.statement? := by
  refine ⟨fun symbol v op => Op.ofSymbol_eq_iff, fun a b h k => ?_⟩
  rw [← a.statements_expand, ← b.statements_expand, h.expand_eq]

/-- Comparisons by symbols that are spelled in several ways or not known. -/
def comparing : Chain :=
  .select "orders" [.scope (.whereCmp "status" "\tnot  like" .null),
    .scope (.andWhere (.single "kind" (.scalar (.text "web")))),
    .scope (.whereCmp "kind" "LI\u212aE" (.integer 3)),
    .scope (.orWhereCmp "total" "> =" (.integer 9)),
    .groupBy ["status"], .havingCmp "total" " <>" .null]

/-- The same by mappings. -/
def mapping : Chain :=
  .select "orders" [.scope (.andWhere (.single "status" (.operators (.single (.notLike .null))))),
    .scope (.andWhere (.single "kind" (.scalar (.text "web")))),
    .scope (.andWhere (.single "kind" (.scalar (.integer 3)))),
    .scope (.orWhere (.single "total" (.operators (.single (.eq (.integer 9)))))),
    .groupBy ["status"], .having (.single "total" (.operators (.single (.ne .null))))]

theorem conventions_converge_orders :
    comparing.Rephrased mapping ∧ (comparing.request? .rows).map Request.statement? =
      (mapping.request? .rows).map Request.statement? := by
  have hdenoted := conventions_converge.1
  have hrephrased : comparing.Rephrased mapping := by
    refine .select "orders" (.cons (.scope (.andWhere ⟨_, (hdenoted _ _ _).1 rfl, .operator _⟩))
      (.cons (.refl _) (.cons (.scope (.andWhere ⟨_, (hdenoted _ _ _).1 rfl, .scalar _⟩)) ?_)))
    exact .cons (.scope (.orWhere ⟨_, (hdenoted _ _ _).1 rfl, .operator _⟩))
      (.cons (.refl _) (.cons (.having ⟨_, (hdenoted _ _ _).1 rfl, .operator _⟩) .nil))
  exact ⟨hrephrased, conventions_converge.2 _ _ hrephrased .rows⟩

end TypedSql
