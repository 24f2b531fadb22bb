import Mathlib.Data.List.TakeWhile
import TypedSql.Sql.Render

/-!
# What a rendering does, step by step

A rendering reads names and binds values, and does nothing else to its
surroundings.  `emit steps a` reads the names and binds the values of `steps`, in
their order, and then gives `a`; it stops at the first text that is no name.

    (emit steps a).runOn p = (the first fault of steps, or a; p with what is bound before it)
                                                                            (runOn_emit)
    (emit steps sql).statement = the first fault of steps, or the text of sql with
                                 all that steps bind                        (statement_emit)

Every rendering of the library equals such an `emit`; the rules below put the
`emit`s of its parts together.
-/

namespace TypedSql

/-- One thing that a rendering does. -/
inductive Step where
  /-- reads a text as a name -/
  | read (text : String)
  /-- binds a value to the next placeholder -/
  | bind (v : Value)
deriving DecidableEq

namespace Step

/-- Why a text that is read is no name. -/
def fault? : Step → Option NameFault
  | read text => match Name.parse text with
    | .ok _ => none
    | .error fault => some fault
  | bind _ => none

def value? : Step → Option Value
  | read _ => none
  | bind v => some v

def name? : Step → Option String
  | read text => some text
  | bind _ => none

def perform : Step → Render Unit
  | read text => do let _ ← Render.name text
  | bind v => do let _ ← Render.slot v

/-- The first text that is no name. -/
def firstFault? (steps : List Step) : Option NameFault := steps.findSome? fault?

/-- The values of the steps up to the first fault. -/
def bound (steps : List Step) : List Value :=
  (steps.takeWhile fun s => s.fault?.isNone).filterMap value?

/-- All values of the steps. -/
def values (steps : List Step) : List Value := steps.filterMap value?

/-- The texts that are read, in their order. -/
def names (steps : List Step) : List String := steps.filterMap name?

def reads (texts : List String) : List Step := texts.map read

def binds (values : List Value) : List Step := values.map bind

@[simp] theorem values_append (s t : List Step) : values (s ++ t) = values s ++ values t :=
  List.filterMap_append

@[simp] theorem values_cons_read (text : String) (s : List Step) :
    values (.read text :: s) = values s := rfl

@[simp] theorem values_reads (texts : List String) : values (reads texts) = [] := by
  induction texts with
  | nil => rfl
  | cons text texts ih => exact ih

@[simp] theorem values_binds (vs : List Value) : values (binds vs) = vs := by
  induction vs with
  | nil => rfl
  | cons v vs ih => exact congrArg (v :: ·) ih

theorem values_flatMap {α : Type} (f : α → List Step) (xs : List α) :
    values (xs.flatMap f) = xs.flatMap fun x => values (f x) := List.filterMap_flatMap

@[simp] theorem names_nil : names [] = [] := rfl

@[simp] theorem names_append (s t : List Step) : names (s ++ t) = names s ++ names t :=
  List.filterMap_append

@[simp] theorem names_cons_read (text : String) (s : List Step) :
    names (.read text :: s) = text :: names s := rfl

@[simp] theorem names_cons_bind (v : Value) (s : List Step) : names (.bind v :: s) = names s := rfl

@[simp] theorem names_reads (texts : List String) : names (reads texts) = texts := by
  induction texts with
  | nil => rfl
  | cons text texts ih => exact congrArg (text :: ·) ih

@[simp] theorem names_binds (vs : List Value) : names (binds vs) = [] := by
  induction vs with
  | nil => rfl
  | cons v vs ih => exact ih

theorem names_flatMap {α : Type} (f : α → List Step) (xs : List α) :
    names (xs.flatMap f) = xs.flatMap fun x => names (f x) := List.filterMap_flatMap

theorem mem_names_iff {text : String} {steps : List Step} :
    text ∈ names steps ↔ read text ∈ steps := by
  rw [names, List.mem_filterMap]
  constructor
  · rintro ⟨step, hstep, hname⟩
    cases step with
    | bind v => cases hname
    | read text' => cases hname; exact hstep
  · exact fun h => ⟨read text, h, rfl⟩

/-- Without a fault everything is bound. -/
theorem bound_eq_values {steps : List Step} (h : firstFault? steps = none) :
    bound steps = values steps := by
  have hall : ∀ s ∈ steps, (s.fault?.isNone) = true := by
    simpa [firstFault?, List.findSome?_eq_none_iff] using h
  rw [bound, List.takeWhile_eq_self_iff.2 hall, values]

/-- There is no fault when everything that is read is a name. -/
theorem firstFault?_eq_none_iff {steps : List Step} :
    firstFault? steps = none ↔ ∀ text, .read text ∈ steps → ∃ n, Name.parse text = .ok n := by
  rw [firstFault?, List.findSome?_eq_none_iff]
  constructor
  · intro h text htext
    have hfault := h _ htext
    rw [fault?] at hfault
    cases hparse : Name.parse text with
    | ok n => exact ⟨n, rfl⟩
    | error fault => rw [hparse] at hfault; cases hfault
  · intro h step hstep
    cases step with
    | bind v => rfl
    | read text =>
      obtain ⟨n, hn⟩ := h text hstep
      rw [fault?, hn]

end Step

/-- The token of a text that is a name; the star for one that is none. -/
def Token.ofText (text : String) : Token :=
  match Name.parse text with
  | .ok n => .name n
  | .error _ => .name .all

theorem Params.ofList_toList (p : Params) : ofList p.toList = p := by
  cases p; simp [ofList, toList]

namespace Render

/-- Performs the steps in their order and gives `a`. -/
def emit {α : Type} (steps : List Step) (a : α) : Render α := do
  forM steps Step.perform
  return a

variable {α β : Type}

/-! ## Rules for the parts of a rendering -/

theorem pure_eq_emit (a : α) : (pure a : Render α) = emit [] a := by
  simp [emit]

theorem name_eq_emit (text : String) : name text = emit [.read text] (.ofText text) := by
  unfold name Token.ofText
  cases h : Name.parse text with
  | ok n => simp [emit, Step.perform, name, h]
  | error fault => simp [emit, Step.perform, name, h]

theorem slot_eq_emit (v : Value) : slot v = emit [.bind v] .slot := by
  simp [emit, Step.perform, slot]

/-- The steps of a part stand in front of the steps of what follows it. -/
theorem emit_bind {s t : List Step} {a : α} {b : β} {k : α → Render β} (h : k a = emit t b) :
    emit s a >>= k = emit (s ++ t) b := by
  simp only [emit, bind_assoc, pure_bind, List.forM_append]
  rw [h, emit]

theorem emit_bind_pure (s : List Step) (a : α) (f : α → β) :
    (emit s a >>= fun x => pure (f x)) = emit s (f a) := by
  simp [emit]

theorem mapM_emit {ι : Type} (xs : List ι) (f : ι → Render α) (s : ι → List Step) (g : ι → α)
    (h : ∀ x ∈ xs, f x = emit (s x) (g x)) : xs.mapM f = emit (xs.flatMap s) (xs.map g) := by
  induction xs with
  | nil => simp [emit]
  | cons x xs ih =>
    have hx := h x List.mem_cons_self
    have hxs := ih fun y hy => h y (List.mem_cons_of_mem _ hy)
    rw [List.mapM_cons, hx, List.flatMap_cons, List.map_cons]
    apply emit_bind
    rw [hxs]
    exact emit_bind_pure _ _ _

/-! ## Running the steps -/

theorem runOn_bind (r : Render α) (k : α → Render β) (p : Params) :
    (r >>= k).runOn p =
      match r.runOn p with
      | (.ok a, q) => (k a).runOn q
      | (.error fault, q) => (.error fault, q) := by
  simp only [runOn, ExceptT.run_bind, StateT.run_bind]
  show (match r.run.run p with | (a, q) => _) = _
  rcases r.run.run p with ⟨outcome, q⟩
  cases outcome <;> rfl

theorem runOn_perform (step : Step) (p : Params) :
    step.perform.runOn p =
      match step.fault? with
      | none => (.ok (), .ofList (p.toList ++ step.value?.toList))
      | some fault => (.error (.badName fault), p) := by
  cases step with
  | read text =>
    simp only [Step.perform, Step.fault?, Step.value?, name]
    cases Name.parse text with
    | ok n => simp [Params.ofList_toList]; rfl
    | error fault => rfl
  | bind v =>
    have hpush : (p.push v).2 = .ofList (p.toList ++ [v]) := by
      rw [← Params.toList_push, Params.ofList_toList]
    simp only [Step.fault?, Step.value?, Option.toList_some, ← hpush]
    rfl

/-- The outcome is the first fault, or `a`; what is bound before it stays bound. -/
theorem runOn_emit (steps : List Step) (a : α) (p : Params) :
    (emit steps a).runOn p =
      (match Step.firstFault? steps with
        | none => .ok a
        | some fault => .error (.badName fault),
       .ofList (p.toList ++ Step.bound steps)) := by
  induction steps generalizing p with
  | nil =>
    simp only [Step.firstFault?, Step.bound, List.findSome?_nil, List.takeWhile_nil,
      List.filterMap_nil, List.append_nil, Params.ofList_toList]
    rfl
  | cons step steps ih =>
    have hcons : emit (step :: steps) a = (step.perform >>= fun _ => emit steps a) := by
      simp [emit]
    rw [hcons, runOn_bind, runOn_perform]
    cases h : step.fault? with
    | some fault =>
      simp [Step.firstFault?, Step.bound, h, Params.ofList_toList]
    | none =>
      simp only [ih, Params.toList_ofList, Step.firstFault?, Step.bound, List.findSome?_cons, h,
        List.takeWhile_cons, Option.isNone_none, if_true, List.append_assoc]
      cases hv : step.value? <;> simp [hv]

theorem statement_emit (steps : List Step) (sql : Sql) :
    (emit steps sql).statement =
      match Step.firstFault? steps with
      | none => .ok ⟨sql.text, Step.values steps⟩
      | some fault => .error (.badName fault) := by
  rw [statement, runOn_emit]
  cases h : Step.firstFault? steps with
  | none => simp [Step.bound_eq_values h]
  | some fault => rfl

end Render

end TypedSql
