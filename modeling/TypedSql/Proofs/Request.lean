import TypedSql.Proofs.QueryDraft

/-!
# Requests

A request is one of the statements that a builder can be asked for.  It fails by
`fault?` alone, and what it asks for is written in `draft?`:

    r.statement? = .error fault                         if r.fault? = some fault
    r.statement? = .ok (r.draft?.map Draft.statement)   if r.fault? = none    (statement?_eq)

An insertion without conditions has no precondition to ask, so its precondition
is a request for no statement.
-/

namespace TypedSql

open Render

/-- The text and the values of a draft. -/
def Draft.statement (d : Draft) : Statement := ⟨d.sql.text, d.values⟩

inductive Request where
  | rows (q : Select)
  | existence (q : Select)
  | count (q : Select)
  | aggregate (q : Select) (f : Select.Aggregate) (column : String)
  | insert (q : Insert)
  | precondition (q : Insert)
  | update (q : Update)
  | delete (q : Delete)
deriving DecidableEq

namespace Request

/-- The statement that is asked for, if there is one. -/
def statement? : Request → Except RenderFault (Option Statement)
  | rows q => q.statement.map some
  | existence q => q.existsStatement.map some
  | count q => q.countStatement.map some
  | aggregate q f column => (q.aggregateStatement f column).map some
  | insert q => q.statement.map some
  | precondition q => q.precondition?
  | update q => q.statement.map some
  | delete q => q.statement.map some

def steps : Request → List Step
  | rows q | existence q => q.steps
  | count q => q.countSteps
  | aggregate q _ column => q.aggregateSteps column
  | insert q => q.steps
  | precondition q => (q.unlessExists.map q.preconditionSteps).getD []
  | update q => q.steps
  | delete q => q.steps

def draft? : Request → Option Draft
  | rows q => some q.draft
  | existence q => some q.existsDraft
  | count q => some q.countDraft
  | aggregate q f column => some (q.aggregateDraft f column)
  | insert q => some q.draft
  | precondition q => q.unlessExists.map q.preconditionDraft
  | update q => some q.draft
  | delete q => some q.draft

/-- Why the statement cannot be written. -/
def fault? : Request → Option RenderFault
  | update q =>
    if q.payload.isEmpty then some (.nothingToSet q.table)
    else (Step.firstFault? q.steps).map .badName
  | r => (Step.firstFault? r.steps).map .badName

/-- The values that the statement binds: those to write, then those of the base
of the filter, of its alternatives and of HAVING, of the clauses it has. -/
def values : Request → List Value
  | rows q | existence q => q.filter.values ++ q.having.values
  | count q | aggregate q _ _ => q.filter.base.values
  | insert q => q.payload.values
  | precondition q => (q.unlessExists.map Conditions.values).getD []
  | update q => q.payload.values ++ q.filter.values
  | delete q => q.filter.values

/-! ## Lemmas -/

theorem values_steps (r : Request) : Step.values r.steps = r.values := by
  cases r with
  | rows q | existence q => exact q.values_steps
  | count q => exact q.values_countSteps
  | aggregate q f column => exact q.values_aggregateSteps column
  | insert q => exact q.values_steps
  | precondition q =>
    rw [steps, values]
    cases q.unlessExists with
    | none => rfl
    | some c => exact q.values_preconditionSteps c
  | update q => exact q.values_steps
  | delete q => exact q.values_steps

theorem values_draft {r : Request} {d : Draft} (h : r.draft? = some d) : d.values = r.values := by
  cases r with
  | rows q => cases h; exact q.values_draft
  | existence q => cases h; exact q.values_existsDraft
  | count q => cases h; exact q.values_countDraft
  | aggregate q f column => cases h; exact q.values_aggregateDraft f column
  | insert q => cases h; exact q.values_draft
  | precondition q =>
    obtain ⟨c, hc, rfl⟩ := Option.map_eq_some_iff.1 h
    simp only [values, hc]
    exact q.values_preconditionDraft c
  | update q => cases h; exact q.values_draft
  | delete q => cases h; exact q.values_draft

/-- A trace that ends in a draft gives the statement of the draft. -/
theorem statement_of_eq_emit {r : Render Sql} {steps : List Step} {d : Draft}
    (h : r = emit steps d.sql) (hv : Step.values steps = d.values) :
    r.statement =
      match (Step.firstFault? steps).map RenderFault.badName with
      | none => .ok d.statement
      | some fault => .error fault := by
  rw [h, statement_emit, hv]
  cases Step.firstFault? steps <;> rfl

/-- A request fails by its fault alone, and otherwise asks for its draft. -/
theorem statement?_eq (r : Request) :
    r.statement? =
      match r.fault? with
      | none => .ok (r.draft?.map Draft.statement)
      | some fault => .error fault := by
  have hmap : ∀ (o : Option RenderFault) (s : Statement),
      ((match o with
        | none => Except.ok s
        | some fault => Except.error fault : Except RenderFault Statement).map some) =
      match o with
        | none => .ok (some s)
        | some fault => .error fault := by
    intro o s
    cases o <;> rfl
  cases r with
  | rows q =>
    have h := statement_of_eq_emit q.render_eq_emit (q.values_steps.trans q.values_draft.symm)
    rw [statement?, Select.statement, h, hmap]
    rfl
  | existence q =>
    have h := statement_of_eq_emit q.renderExists_eq_emit
      (q.values_steps.trans q.values_existsDraft.symm)
    rw [statement?, Select.existsStatement, h, hmap]
    rfl
  | count q =>
    have h := statement_of_eq_emit q.renderCount_eq_emit
      (q.values_countSteps.trans q.values_countDraft.symm)
    rw [statement?, Select.countStatement, h, hmap]
    rfl
  | aggregate q f column =>
    have h := statement_of_eq_emit (q.renderAggregate_eq_emit f column)
      ((q.values_aggregateSteps column).trans (q.values_aggregateDraft f column).symm)
    rw [statement?, Select.aggregateStatement, h, hmap]
    rfl
  | insert q =>
    have h := statement_of_eq_emit q.render_eq_emit (q.values_steps.trans q.values_draft.symm)
    rw [statement?, Insert.statement, h, hmap]
    rfl
  | precondition q =>
    rw [statement?, Insert.precondition?]
    cases hc : q.unlessExists with
    | none => simp only [fault?, steps, draft?, hc]; rfl
    | some c =>
      have h := statement_of_eq_emit (q.renderPrecondition_eq_emit c)
        ((q.values_preconditionSteps c).trans (q.values_preconditionDraft c).symm)
      simp only [fault?, steps, draft?, hc, h, hmap]
      rfl
  | update q =>
    rw [statement?, Update.statement]
    cases he : q.payload.isEmpty with
    | true =>
      rw [q.render_of_isEmpty he, fault?, if_pos he]
      rfl
    | false =>
      have h := statement_of_eq_emit (q.render_eq_emit he)
        (q.values_steps.trans q.values_draft.symm)
      rw [h, hmap, fault?, if_neg (by rw [he]; exact Bool.false_ne_true)]
      rfl
  | delete q =>
    have h := statement_of_eq_emit q.render_eq_emit (q.values_steps.trans q.values_draft.symm)
    rw [statement?, Delete.statement, h, hmap]
    rfl

/-- A request renders when its names are accepted and, for an update, it sets
something. -/
theorem fault?_eq_none_iff (r : Request) :
    r.fault? = none ↔ Step.firstFault? r.steps = none ∧
      ∀ q, r = .update q → q.payload.isEmpty = false := by
  cases r with
  | update q =>
    rw [fault?]
    cases he : q.payload.isEmpty with
    | true =>
      constructor
      · intro h
        cases h
      · intro h
        have hne := h.2 q rfl
        rw [he] at hne
        cases hne
    | false =>
      rw [if_neg nofun, Option.map_eq_none_iff]
      constructor
      · intro h
        refine ⟨h, fun q' hq' => ?_⟩
        cases hq'
        exact he
      · exact And.left
  | _ => exact ⟨fun h => ⟨Option.map_eq_none_iff.1 h, nofun⟩, fun h => Option.map_eq_none_iff.2 h.1⟩

/-- What a request that renders asks for is its draft. -/
theorem draft?_of_statement? {r : Request} {s : Statement} (h : r.statement? = .ok (some s)) :
    r.fault? = none ∧ ∃ d, r.draft? = some d ∧ s = d.statement := by
  rw [statement?_eq] at h
  cases hf : r.fault? with
  | some fault => rw [hf] at h; cases h
  | none =>
    rw [hf] at h
    obtain ⟨d, hd, rfl⟩ := Option.map_eq_some_iff.1 (Except.ok.inj h)
    exact ⟨rfl, d, hd, rfl⟩

end Request

end TypedSql
