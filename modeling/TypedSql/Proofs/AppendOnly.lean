import TypedSql.Proofs.FirstFault

/-!
# Compiling only appends

A mapping is compiled entry by entry: the column is read as a name, then the values of the entry
are bound.  A filter goes through the entries of its base and then those of each alternative.
With `es` for these entries, `vs` for their values and `p` for what is bound before,

    all columns are names              r.runOn p = (.ok sql, p ++ vs)          the same sql for all p
    es = before ++ (column, k) :: …    r.runOn p = (.error fault, p ++ values of before)

where `column` is the first that is no name and `fault` is its own (`Entries.Compiled`).  So a
filter behind other clauses is what it is alone, with its values behind theirs.
-/

namespace TypedSql

open Render

/-! ## Entries -/

abbrev Entries := List (String × Constraint)

namespace Entries

/-- The values of the entries, in their order. -/
def values (es : Entries) : List Value := es.flatMap fun e => e.2.values

/-- An entry reads its column and then binds its values. -/
def steps (es : Entries) : List Step := es.flatMap fun e => .read e.1 :: Step.binds e.2.values

/-- The rendering compiles these entries and does nothing else. -/
structure Compiled (es : Entries) (r : Render Sql) : Prop where
  /-- what is bound before has no influence and stays in front -/
  alone : ∀ p, r.runOn p = ((r.runOn .empty).1, .ofList (p.toList ++ (r.runOn .empty).2.toList))
  fails_iff : ∀ p, (∃ fault, (r.runOn p).1 = .error fault) ↔ ∃ e ∈ es, ¬ Name.Accepted e.1
  accepted : (∀ e ∈ es, Name.Accepted e.1) →
    ∃ sql, ∀ p, r.runOn p = (.ok sql, .ofList (p.toList ++ es.values))
  rejected : ∀ (before : Entries) (column : String) (k : Constraint) (after : Entries)
    (fault : NameFault), es = before ++ (column, k) :: after →
      (∀ e ∈ before, Name.Accepted e.1) → Name.parse column = .error fault →
        ∀ p, r.runOn p = (.error (.badName fault), .ofList (p.toList ++ before.values))

end Entries

/-! ## What steps bind -/

namespace Step

/-- Behind steps without a fault everything of theirs is bound. -/
theorem bound_append {s : List Step} (h : firstFault? s = none) (t : List Step) :
    bound (s ++ t) = values s ++ bound t := by
  have hall : ∀ step ∈ s, (step.fault?.isNone) = true := by
    simpa [firstFault?, List.findSome?_eq_none_iff] using h
  rw [bound, List.takeWhile_append_of_pos hall, List.filterMap_append, values, bound]

theorem bound_cons_of_fault {step : Step} {fault : NameFault} (h : step.fault? = some fault)
    (steps : List Step) : bound (step :: steps) = [] := by
  rw [bound, List.takeWhile_cons, h]
  rfl

end Step

namespace Entries

theorem values_steps (es : Entries) : Step.values es.steps = es.values := by
  rw [steps, values, Step.values_flatMap]
  refine List.flatMap_congr fun e _ => ?_
  rw [Step.values_cons_read, Step.values_binds]

theorem names_steps (es : Entries) : Step.names es.steps = es.map Prod.fst := by
  rw [steps, Step.names_flatMap, List.map_eq_flatMap]
  refine List.flatMap_congr fun e _ => ?_
  rw [Step.names_cons_read, Step.names_binds]

theorem steps_append (es es' : Entries) : steps (es ++ es') = es.steps ++ es'.steps :=
  List.flatMap_append

theorem firstFault?_steps_eq_none_iff {es : Entries} :
    Step.firstFault? es.steps = none ↔ ∀ e ∈ es, Name.Accepted e.1 := by
  rw [Step.firstFault?_eq, names_steps, List.findSome?_eq_none_iff, List.forall_mem_map]
  simp only [Name.fault?_eq_none_iff]

/-- A trace of the steps of entries compiles them. -/
theorem compiled_of_eq_emit {es : Entries} {r : Render Sql} {sql : Sql}
    (h : r = emit es.steps sql) : es.Compiled r where
  alone := by
    intro p
    rw [h, runOn_emit, runOn_emit, Params.toList_ofList]
    rfl
  fails_iff := by
    intro p
    have hnone : ¬ Step.firstFault? es.steps = none ↔ ∃ e ∈ es, ¬ Name.Accepted e.1 := by
      rw [firstFault?_steps_eq_none_iff, not_forall]
      simp only [not_forall, exists_prop]
    rw [← hnone, h, runOn_emit]
    cases Step.firstFault? es.steps with
    | none => exact ⟨nofun, fun h => absurd rfl h⟩
    | some fault => exact ⟨fun _ => nofun, fun _ => ⟨_, rfl⟩⟩
  accepted := by
    intro haccepted
    have hnone := firstFault?_steps_eq_none_iff.2 haccepted
    refine ⟨sql, fun p => ?_⟩
    rw [h, runOn_emit, hnone, Step.bound_eq_values hnone, values_steps]
  rejected := by
    rintro before column k after fault rfl hbefore hfault p
    have hnone := firstFault?_steps_eq_none_iff.2 hbefore
    have hread : Step.fault? (.read column) = some fault := Name.fault?_eq_some_iff.2 hfault
    have hfirst : Step.firstFault? (steps (before ++ (column, k) :: after)) = some fault := by
      rw [Step.firstFault?_eq, names_steps, Name.findSome?_fault?_eq_some_iff, List.map_append]
      exact ⟨_, column, _, rfl, List.forall_mem_map.2 hbefore, hfault⟩
    have hbound : Step.bound (steps (before ++ (column, k) :: after)) = before.values := by
      rw [steps_append, Step.bound_append hnone, values_steps]
      exact (congrArg _ (Step.bound_cons_of_fault hread _)).trans (List.append_nil _)
    rw [h, runOn_emit, hfirst, hbound]

end Entries

theorem Filter.steps_eq (f : Filter) :
    f.steps = Entries.steps (f.conditions.flatMap ColumnMap.entries) := by
  rw [Entries.steps, List.flatMap_assoc]
  rfl

/-! ## Top theorem -/

/-- **Compiling only appends.**  A mapping compiles its entries, a filter those of its base and
then those of its alternatives, and the base of a filter its own: the values that are bound
before stay as they are, with names for columns all values of the entries come behind them and
the text is always the same, and at the first column that is no name it fails by the fault of
that column, with the values of the entries before it bound. -/
theorem compiling_only_appends :
    (∀ c : Conditions, Entries.Compiled c.entries c.render) ∧
    ∀ f : Filter, Entries.Compiled (f.conditions.flatMap ColumnMap.entries) f.render ∧
      Entries.Compiled f.base.entries f.renderBase := by
  have hconditions (c : Conditions) : Entries.Compiled c.entries c.render :=
    Entries.compiled_of_eq_emit c.render_eq_emit
  refine ⟨hconditions, fun f => ⟨?_, hconditions f.base⟩⟩
  have hrender := f.render_eq_emit
  rw [f.steps_eq] at hrender
  exact Entries.compiled_of_eq_emit hrender

/-- A filter whose alternative has a bad column between two good ones. -/
def brokenFilter : Filter :=
  ⟨.single "a" (.scalar (.integer 1)),
    [.ofList [("b", .operators (.single (.oneOf [.null, .text "x"]))), ("c..d", .operators .empty),
      ("e", .scalar (.integer 5))]]⟩

theorem brokenFilter_stops :
    brokenFilter.render.runOn (.ofList [.integer 7]) =
        (.error (.badName (.emptySegment "c..d")),
          .ofList [.integer 7, .integer 1, .null, .text "x"]) ∧
      brokenFilter.renderBase.runOn (.ofList [.integer 7]) =
        ((brokenFilter.renderBase.runOn .empty).1, .ofList [.integer 7, .integer 1]) := by
  obtain ⟨hfull, hbase⟩ := compiling_only_appends.2 brokenFilter
  refine ⟨?_, hbase.alone _⟩
  refine hfull.rejected [("a", .scalar (.integer 1)),
    ("b", .operators (.single (.oneOf [.null, .text "x"])))] "c..d" (.operators .empty)
    [("e", .scalar (.integer 5))] _ rfl (fun e he => ?_) (by decide +kernel) _
  rcases List.mem_cons.1 he with rfl | he
  · exact ⟨_, rfl⟩
  · rw [List.mem_singleton.1 he]
    exact ⟨_, rfl⟩

end TypedSql
