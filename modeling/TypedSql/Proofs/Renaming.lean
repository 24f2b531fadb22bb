import Mathlib.Data.List.Forall2
import TypedSql.Proofs.Expression
import TypedSql.Proofs.Request

/-!
# Other names in the same places

`q.Renamed q'` says that `q'` is `q` with other names of tables and columns, one for
one: each of them is accepted and has as many parts as the name it stands for, or both
are the star.  The names of a mapping stay different from each other, since no mapping
holds a name twice.

The drafts of the two then differ in names alone, and only in names that are read:

    r.Renamed r' → r.draft? = some d →
      ∃ d', r'.draft? = some d' ∧ Parallel r.steps r'.steps d d'    (Request.exists_parallel)
-/

namespace TypedSql

/-! ## Names -/

/-- The number of parts of an identifier; there is none for the star. -/
def Name.arity? : Name → Option Nat
  | all => none
  | ident i => some i.parts.length

/-- `text'` is a name that may stand in the place of `text`. -/
def Alike (text text' : String) : Prop :=
  ∃ n', Name.parse text' = .ok n' ∧ ∀ n, Name.parse text = .ok n → n.arity? = n'.arity?

/-- Two pieces that differ in their names alone. -/
inductive Piece.Alike : Piece → Piece → Prop where
  | token (t : Token) : Alike (.token t) (.token t)
  | name {text text' : String} (h : TypedSql.Alike text text') : Alike (.name text) (.name text')
  | slot (v : Value) : Alike (.slot v) (.slot v)

abbrev Draft.Alike (d d' : Draft) : Prop := List.Forall₂ Piece.Alike d d'

/-- The steps and the drafts of two renderings that differ in names alone. -/
structure Parallel (s s' : List Step) (d d' : Draft) : Prop where
  accepted : ∀ text, .read text ∈ s' → ∃ n, Name.parse text = .ok n
  /-- each name that is written has been read -/
  read : ∀ text, .name text ∈ d → .read text ∈ s
  alike : d.Alike d'

/-- The same of several drafts that belong to the same steps. -/
structure ParallelAll (s s' : List Step) (ds ds' : List Draft) : Prop where
  accepted : ∀ text, .read text ∈ s' → ∃ n, Name.parse text = .ok n
  read : ∀ d ∈ ds, ∀ text, .name text ∈ d → .read text ∈ s
  alike : List.Forall₂ Draft.Alike ds ds'

/-! ## Rules for drafts -/

theorem Draft.exists_of_name_mem_join {text separator : String} {drafts : List Draft}
    (h : .name text ∈ Draft.join separator drafts) : ∃ d ∈ drafts, .name text ∈ d := by
  cases drafts with
  | nil => exact absurd h List.not_mem_nil
  | cons d ds =>
    rw [Draft.join, intercalate_cons] at h
    rcases List.mem_append.1 h with hmem | hmem
    · exact ⟨d, List.mem_cons_self, hmem⟩
    · obtain ⟨e, he, hmem⟩ := List.mem_flatMap.1 hmem
      rcases List.mem_cons.1 hmem with hword | hmem
      · cases hword
      · exact ⟨e, List.mem_cons_of_mem _ he, hmem⟩

theorem Draft.name_notMem_ofSql (sql : Sql) (text : String) : .name text ∉ Draft.ofSql sql := by
  intro h
  obtain ⟨t, -, ht⟩ := List.mem_map.1 h
  cases ht

theorem Draft.name_notMem_slots (vs : List Value) (text : String) :
    .name text ∉ Draft.slots vs := by
  intro h
  obtain ⟨d, hd, hmem⟩ := exists_of_name_mem_join h
  obtain ⟨v, -, rfl⟩ := List.mem_map.1 hd
  cases List.mem_singleton.1 hmem

namespace Parallel

variable {s s' t t' : List Step} {d d' e e' : Draft}

/-- What holds no name is the same on both sides. -/
theorem fixed {d : Draft} (h : ∀ text, .name text ∉ d) : Parallel [] [] d d where
  accepted := fun _ htext => absurd htext List.not_mem_nil
  read := fun text htext => absurd htext (h text)
  alike := by
    refine List.forall₂_same.2 fun piece hpiece => ?_
    cases piece with
    | token t => exact .token t
    | name text => exact absurd hpiece (h text)
    | slot v => exact .slot v

theorem tokens (sql : Sql) : Parallel [] [] (Draft.ofSql sql) (Draft.ofSql sql) :=
  fixed (Draft.name_notMem_ofSql sql)

theorem name {text text' : String} (h : Alike text text') :
    Parallel [.read text] [.read text'] [.name text] [.name text'] where
  accepted := by
    intro x hx
    obtain ⟨n', hn', -⟩ := h
    cases List.mem_singleton.1 hx
    exact ⟨n', hn'⟩
  read := by
    intro x hx
    cases List.mem_singleton.1 hx
    exact List.mem_singleton.2 rfl
  alike := .cons (.name h) .nil

theorem slot (v : Value) : Parallel [.bind v] [.bind v] [.slot v] [.slot v] where
  accepted := by
    intro text htext
    cases List.mem_singleton.1 htext
  read := by
    intro text htext
    cases List.mem_singleton.1 htext
  alike := .cons (.slot v) .nil

/-- What is read need not be written. -/
theorem unwritten (h : Parallel s s' d d') : Parallel s s' [] [] where
  accepted := h.accepted
  read := fun _ htext => absurd htext List.not_mem_nil
  alike := .nil

theorem append (h : Parallel s s' d d') (k : Parallel t t' e e') :
    Parallel (s ++ t) (s' ++ t') (d ++ e) (d' ++ e') where
  accepted := by
    intro text htext
    rcases List.mem_append.1 htext with hs | ht
    · exact h.accepted text hs
    · exact k.accepted text ht
  read := by
    intro text htext
    rcases List.mem_append.1 htext with hd | he
    · exact List.mem_append_left t (h.read text hd)
    · exact List.mem_append_right s (k.read text he)
  alike := List.rel_append h.alike k.alike

theorem append_fixed (h : Parallel s s' d d') (he : ∀ text, .name text ∉ e) :
    Parallel s s' (d ++ e) (d' ++ e) := by
  have hall := h.append (fixed he)
  rwa [List.append_nil, List.append_nil] at hall

theorem append_tokens (h : Parallel s s' d d') (sql : Sql) :
    Parallel s s' (d ++ Draft.ofSql sql) (d' ++ Draft.ofSql sql) :=
  h.append_fixed (Draft.name_notMem_ofSql sql)

theorem word (text : String) (h : Parallel s s' d d') :
    Parallel s s' (.word text :: d) (.word text :: d') :=
  (tokens [.word text]).append h

/-- What is read once more elsewhere need not be read here. -/
theorem mono (h : Parallel s s' d d') (hs : s ⊆ t) (hs' : t' ⊆ s') : Parallel t t' d d' where
  accepted := fun text htext => h.accepted text (hs' htext)
  read := fun text htext => hs (h.read text htext)
  alike := h.alike

theorem isEmpty_eq (h : d.Alike d') : d.isEmpty = d'.isEmpty := by
  cases h <;> rfl

theorem clause (keyword : String) (h : Parallel s s' d d') :
    Parallel s s' (Draft.clause keyword d) (Draft.clause keyword d') := by
  have hempty := isEmpty_eq h.alike
  rw [Draft.clause, Draft.clause, hempty]
  split
  · exact h.unwritten
  · exact h.word keyword

theorem single (h : Parallel s s' d d') : ParallelAll s s' [d] [d'] where
  accepted := h.accepted
  read := by
    intro x hx
    rw [List.mem_singleton.1 hx]
    exact h.read
  alike := .cons h.alike .nil

end Parallel

namespace ParallelAll

variable {s s' t t' : List Step} {ds ds' es es' : List Draft}

theorem nil : ParallelAll [] [] [] [] where
  accepted := fun _ h => absurd h List.not_mem_nil
  read := fun _ h => absurd h List.not_mem_nil
  alike := .nil

theorem append (h : ParallelAll s s' ds ds') (k : ParallelAll t t' es es') :
    ParallelAll (s ++ t) (s' ++ t') (ds ++ es) (ds' ++ es') where
  accepted := by
    intro text htext
    rcases List.mem_append.1 htext with hs | ht
    · exact h.accepted text hs
    · exact k.accepted text ht
  read := by
    intro d hd text htext
    rcases List.mem_append.1 hd with hd | hd
    · exact List.mem_append_left t (h.read d hd text htext)
    · exact List.mem_append_right s (k.read d hd text htext)
  alike := List.rel_append h.alike k.alike

theorem flatMap {ι ι' : Type} {R : ι → ι' → Prop} {xs : List ι} {xs' : List ι'}
    {steps : ι → List Step} {steps' : ι' → List Step} {drafts : ι → List Draft}
    {drafts' : ι' → List Draft} (h : List.Forall₂ R xs xs')
    (hx : ∀ x x', R x x' → ParallelAll (steps x) (steps' x') (drafts x) (drafts' x')) :
    ParallelAll (xs.flatMap steps) (xs'.flatMap steps') (xs.flatMap drafts)
      (xs'.flatMap drafts') := by
  induction h with
  | nil => exact nil
  | cons hxx' _ ih => exact (hx _ _ hxx').append ih

theorem map {ι ι' : Type} {R : ι → ι' → Prop} {xs : List ι} {xs' : List ι'}
    {steps : ι → List Step} {steps' : ι' → List Step} {draft : ι → Draft} {draft' : ι' → Draft}
    (h : List.Forall₂ R xs xs')
    (hx : ∀ x x', R x x' → Parallel (steps x) (steps' x') (draft x) (draft' x')) :
    ParallelAll (xs.flatMap steps) (xs'.flatMap steps') (xs.map draft) (xs'.map draft') := by
  rw [List.map_eq_flatMap, List.map_eq_flatMap]
  exact flatMap h fun x x' hxx' => (hx x x' hxx').single

theorem join (separator : String) (h : ParallelAll s s' ds ds') :
    Parallel s s' (Draft.join separator ds) (Draft.join separator ds') where
  accepted := h.accepted
  read := by
    intro text htext
    obtain ⟨d, hd, hmem⟩ := Draft.exists_of_name_mem_join htext
    exact h.read d hd text hmem
  alike := by
    cases h.alike with
    | nil => exact .nil
    | cons hd hds =>
      rw [Draft.join, intercalate_cons, Draft.join, intercalate_cons]
      exact List.rel_append hd (List.rel_flatMap hds fun e e' he => .cons (.token _) he)

theorem parenthesised (h : ParallelAll s s' ds ds') :
    ParallelAll s s' (ds.map Draft.parenthesised) (ds'.map Draft.parenthesised) where
  accepted := h.accepted
  read := by
    intro x hx text htext
    obtain ⟨d, hd, rfl⟩ := List.mem_map.1 hx
    rcases List.mem_append.1 htext with hmem | hmem
    · rcases List.mem_cons.1 hmem with hword | hmem
      · cases hword
      · exact h.read d hd text hmem
    · cases List.mem_singleton.1 hmem
  alike := by
    refine List.rel_map (fun d d' hd => ?_) h.alike
    exact List.rel_append (.cons (.token _) hd) (.cons (.token _) .nil)

theorem disjunction (h : ParallelAll s s' ds ds') :
    Parallel s s' (Draft.disjunction ds) (Draft.disjunction ds') := by
  have hmany := h.parenthesised.join " OR "
  obtain ⟨haccepted, hread, halike⟩ := h
  cases halike with
  | nil => exact hmany.unwritten
  | @cons d d' ds ds' hd hds =>
    cases hds with
    | nil => exact ⟨haccepted, hread d List.mem_cons_self, hd⟩
    | cons he hes => exact hmany

/-- Renaming leaves nothing out that was there and writes nothing that was left out. -/
theorem filter_nonempty (h : ParallelAll s s' ds ds') :
    ParallelAll s s' (ds.filter fun d => !d.isEmpty) (ds'.filter fun d => !d.isEmpty) where
  accepted := h.accepted
  read := fun d hd => h.read d (List.mem_filter.1 hd).1
  alike := by
    refine List.rel_filter (fun d d' hd => ?_) h.alike
    show (!d.isEmpty) = true ↔ (!d'.isEmpty) = true
    rw [Parallel.isEmpty_eq hd]

end ParallelAll

theorem Parallel.names {texts texts' : List String} (h : List.Forall₂ Alike texts texts') :
    Parallel (Step.reads texts) (Step.reads texts') (Draft.names texts) (Draft.names texts') := by
  have hall := ParallelAll.map h fun text text' htext => Parallel.name htext
  rw [← List.map_eq_flatMap, ← List.map_eq_flatMap] at hall
  exact hall.join ", "

/-! ## Conditions and filters -/

/-- The same values under other names. -/
def ColumnMap.Renamed {α : Type} (m m' : ColumnMap α) : Prop :=
  List.Forall₂ (fun e e' => Alike e.1 e'.1 ∧ e.2 = e'.2) m.entries m'.entries

structure Filter.Renamed (w w' : Filter) : Prop where
  base : w.base.Renamed w'.base
  alternatives : List.Forall₂ ColumnMap.Renamed w.alternatives w'.alternatives

/-- Every operator reads its column, and an operator on no values does not write it. -/
theorem Op.parallel_draft {column column' : String} (h : Alike column column') (op : Op) :
    Parallel [.read column] [.read column'] (op.draft column) (op.draft column') := by
  have hcolumn : ∀ d : Draft, (∀ text, .name text ∉ d) →
      Parallel [.read column] [.read column'] (.name column :: d) (.name column' :: d) :=
    fun d hd => (Parallel.name h).append (.fixed hd)
  cases op with
  | oneOf vs | noneOf vs =>
    cases vs with
    | nil => exact (Parallel.name h).unwritten.append (.tokens [.word _])
    | cons v vs =>
      refine hcolumn (.word _ :: (Draft.slots (v :: vs) ++ [.word ")"])) fun text htext => ?_
      rcases List.mem_cons.1 htext with hword | htext
      · cases hword
      · rcases List.mem_append.1 htext with hslot | hword
        · exact Draft.name_notMem_slots (v :: vs) text hslot
        · cases List.mem_singleton.1 hword
  | isNull b => cases b <;> exact hcolumn [.word _] (by simp [Piece.word])
  | between low high => exact hcolumn _ (by simp [Piece.word])
  | _ => exact hcolumn [.word _, .slot _] (by simp [Piece.word])

theorem Constraint.parallel {column column' : String} (h : Alike column column')
    (k : Constraint) :
    ParallelAll (.read column :: Step.binds k.values) (.read column' :: Step.binds k.values)
      (k.ops.map (Op.draft column)) (k.ops.map (Op.draft column')) where
  accepted := by
    intro text htext
    rcases List.mem_cons.1 htext with hread | hbind
    · exact (Parallel.name h).accepted text (List.mem_singleton.2 hread)
    · obtain ⟨v, -, hv⟩ := List.mem_map.1 hbind
      cases hv
  read := by
    intro d hd text htext
    obtain ⟨op, -, rfl⟩ := List.mem_map.1 hd
    have hread := (Op.parallel_draft h op).read text htext
    exact List.mem_cons.2 (.inl (List.mem_singleton.1 hread))
  alike := by
    rw [List.forall₂_map_left_iff, List.forall₂_map_right_iff]
    exact List.forall₂_same.2 fun op _ => (Op.parallel_draft h op).alike

theorem Conditions.parallel {c c' : Conditions} (h : c.Renamed c') :
    Parallel c.steps c'.steps c.draft c'.draft := by
  refine (ParallelAll.flatMap h fun e e' he => ?_).join " AND "
  obtain ⟨hcolumn, hconstraint⟩ := he
  rw [← hconstraint]
  exact e.2.parallel hcolumn

theorem Filter.parallel {w w' : Filter} (h : w.Renamed w') :
    Parallel w.steps w'.steps w.draft w'.draft := by
  have hall := ParallelAll.map (.cons h.base h.alternatives) fun _ _ => Conditions.parallel
  exact hall.filter_nonempty.disjunction

/-! ## Builders -/

def SortKey.Renamed (k k' : SortKey) : Prop := Alike k.column k'.column ∧ k.direction = k'.direction

structure Scope.Renamed (s s' : Scope) : Prop where
  filter : s.filter.Renamed s'.filter
  order : List.Forall₂ SortKey.Renamed s.order s'.order
  bounds : s.bounds = s'.bounds

/-- A selection that has columns and not an expression; the key of its records is in
none of its statements. -/
structure Select.Renamed (q q' : Select) : Prop where
  scope : q.toScope.Renamed q'.toScope
  table : Alike q.table q'.table
  columns : List.Forall₂ Alike q.columns q'.columns
  expression : q.expression = none ∧ q'.expression = none
  distinct : q.distinct = q'.distinct
  groups : List.Forall₂ Alike q.groups q'.groups
  having : q.having.Renamed q'.having

structure Insert.Renamed (q q' : Insert) : Prop where
  table : Alike q.table q'.table
  payload : q.payload.Renamed q'.payload
  conflict : q.conflict = q'.conflict
  unlessExists : Option.Rel ColumnMap.Renamed q.unlessExists q'.unlessExists

structure Update.Renamed (q q' : Update) : Prop where
  scope : q.toScope.Renamed q'.toScope
  table : Alike q.table q'.table
  payload : q.payload.Renamed q'.payload

structure Delete.Renamed (q q' : Delete) : Prop where
  scope : q.toScope.Renamed q'.toScope
  table : Alike q.table q'.table

theorem SortKey.parallel {k k' : SortKey} (h : k.Renamed k') :
    Parallel [.read k.column] [.read k'.column] k.draft k'.draft := by
  rw [draft, draft, ← h.2]
  exact (Parallel.name h.1).append_tokens [.word _]

theorem parallel_order {keys keys' : List SortKey} (h : List.Forall₂ SortKey.Renamed keys keys') :
    Parallel (orderSteps keys) (orderSteps keys') (orderDraft keys) (orderDraft keys') := by
  have hsteps : ∀ keys : List SortKey,
      orderSteps keys = keys.flatMap fun k => [.read k.column] := by
    intro keys
    rw [orderSteps, Step.reads, List.map_map]
    exact List.map_eq_flatMap
  rw [hsteps, hsteps]
  exact ((ParallelAll.map h fun _ _ => SortKey.parallel).join ", ").clause " ORDER BY "

/-- The restriction of a write names the table once more where it is bounded. -/
theorem Scope.parallel {s s' : Scope} (h : s.Renamed s') {table table' : String}
    (htable : Alike table table') :
    Parallel (.read table :: s.steps) (.read table' :: s'.steps) (s.draft table)
      (s'.draft table') := by
  have hfilter := (Filter.parallel h.filter).clause " WHERE "
  rw [steps, steps, draft, draft, ← h.bounds]
  cases s.bounds.isNone with
  | true =>
    rw [if_pos rfl, if_pos rfl, if_pos rfl, if_pos rfl, List.append_nil, List.append_nil]
    exact (Parallel.name htable).unwritten.append hfilter
  | false =>
    rw [if_neg Bool.false_ne_true, if_neg Bool.false_ne_true, if_neg Bool.false_ne_true,
      if_neg Bool.false_ne_true, nestedDraft, nestedDraft, ← h.bounds]
    have hnested := ((((Parallel.name htable).word "SELECT rowid FROM ").append hfilter).append
      (parallel_order h.order)).append_tokens s.bounds.sql
    exact (hnested.word " WHERE rowid IN (").append_tokens [.word ")"]

/-- Behind a head that has read the table, a restriction reads the rest. -/
theorem Scope.parallel_append {s s' : Scope} (h : s.Renamed s') {table table' : String}
    (htable : Alike table table') {t t' : List Step} {e e' : Draft}
    (hhead : Parallel (.read table :: t) (.read table' :: t') e e') :
    Parallel (.read table :: t ++ s.steps) (.read table' :: t' ++ s'.steps) (e ++ s.draft table)
      (e' ++ s'.draft table') := by
  refine (hhead.append (Scope.parallel h htable)).mono ?_ ?_
  · intro step hstep
    simp only [List.mem_append, List.mem_cons] at hstep ⊢
    tauto
  · intro step hstep
    simp only [List.mem_append, List.mem_cons] at hstep ⊢
    tauto

namespace Select

variable {q q' : Select}

theorem parallel_columns (h : q.Renamed q') :
    Parallel q.columnSteps q'.columnSteps q.columnDraft q'.columnDraft := by
  obtain ⟨hnone, hnone'⟩ := h.expression
  rw [columnSteps, columnSteps, columnDraft, columnDraft, hnone, hnone']
  have hcolumns := h.columns
  generalize q.columns = columns at hcolumns
  generalize q'.columns = columns' at hcolumns
  cases hcolumns with
  | nil => exact .tokens [.name .all]
  | cons hc hcs => exact Parallel.names (.cons hc hcs)

theorem parallel_groups (h : q.Renamed q') :
    Parallel (Step.reads q.groups) (Step.reads q'.groups) q.groupDraft q'.groupDraft :=
  (Parallel.names h.groups).clause " GROUP BY "

theorem parallel_draft (h : q.Renamed q') : Parallel q.steps q'.steps q.draft q'.draft := by
  have hhead : Parallel [] [] (.word "SELECT " :: if q.distinct then [.word "DISTINCT "] else [])
      (.word "SELECT " :: if q.distinct then [.word "DISTINCT "] else []) := by
    split
    · exact .tokens [.word _, .word _]
    · exact .tokens [.word _]
  have htable := (Parallel.name h.table).word " FROM "
  have hfilter := (Filter.parallel h.scope.filter).clause " WHERE "
  have hhaving := (Conditions.parallel h.having).clause " HAVING "
  rw [draft, draft, ← h.distinct, ← h.scope.bounds]
  exact ((((((hhead.append (parallel_columns h)).append htable).append hfilter).append
    (parallel_groups h)).append hhaving).append (parallel_order h.scope.order)).append_tokens _

theorem parallel_existsDraft (h : q.Renamed q') :
    Parallel q.steps q'.steps q.existsDraft q'.existsDraft :=
  ((parallel_draft h).word "SELECT EXISTS(").append_tokens (.word ")" :: Sql.named "exists")

theorem parallel_countDraft (h : q.Renamed q') :
    Parallel q.countSteps q'.countSteps q.countDraft q'.countDraft := by
  have hhead := Parallel.tokens (.word "SELECT COUNT(*)" :: Sql.named "count")
  have htable := (Parallel.name h.table).word " FROM "
  have hfilter := (Conditions.parallel h.scope.filter.base).clause " WHERE "
  exact (hhead.append htable).append hfilter

theorem parallel_aggregateDraft (h : q.Renamed q') (f : Aggregate) {column column' : String}
    (hcolumn : Alike column column') :
    Parallel (q.aggregateSteps column) (q'.aggregateSteps column')
      (q.aggregateDraft f column) (q'.aggregateDraft f column') := by
  have hhead : Parallel [.read column] [.read column']
      ([.word "SELECT ", .word f.word, .word "(", .name column, .word ")"] ++
        Draft.ofSql (Sql.named "aggregate"))
      ([.word "SELECT ", .word f.word, .word "(", .name column', .word ")"] ++
        Draft.ofSql (Sql.named "aggregate")) :=
    ((((Parallel.name hcolumn).append_tokens (.word ")" :: Sql.named "aggregate")).word "(").word
      f.word).word "SELECT "
  have htable := (Parallel.name h.table).word " FROM "
  have hfilter := (Conditions.parallel h.scope.filter.base).clause " WHERE "
  exact ((hhead.append htable).append hfilter).append (parallel_groups h)

end Select

/-! ## Writes -/

namespace Payload

variable {d d' : Payload}

theorem values_eq (h : d.Renamed d') : d.values = d'.values := by
  have hsame : List.Forall₂ (fun e e' : String × Value => e.2 = e'.2) d.entries d'.entries :=
    h.imp fun e e' he => he.2
  have hvalues : List.Forall₂ Eq d.values d'.values := by
    rw [values, values, List.forall₂_map_left_iff, List.forall₂_map_right_iff]
    exact hsame
  rwa [List.forall₂_eq_eq_eq] at hvalues

theorem isEmpty_eq (h : d.Renamed d') : d.isEmpty = d'.isEmpty := by
  unfold ColumnMap.Renamed at h
  unfold ColumnMap.isEmpty
  generalize d.entries = entries at h
  generalize d'.entries = entries' at h
  cases h <;> rfl

theorem parallel_assignments (h : d.Renamed d') :
    Parallel d.steps d'.steps (Draft.join ", " d.assignmentDrafts)
      (Draft.join ", " d'.assignmentDrafts) := by
  refine (ParallelAll.map h fun e e' he => ?_).join ", "
  rw [← he.2]
  exact (Parallel.name he.1).append ((Parallel.slot e.2).word " = ")

/-- In an insertion the columns stand in one list and the placeholders in another. -/
theorem parallel_columns (h : d.Renamed d') :
    Parallel d.steps d'.steps (Draft.names d.columns) (Draft.names d'.columns) := by
  have hentry : ∀ e e' : String × Value, Alike e.1 e'.1 ∧ e.2 = e'.2 →
      Parallel [.read e.1, .bind e.2] [.read e'.1, .bind e'.2] [.name e.1] [.name e'.1] := by
    intro e e' he
    rw [← he.2]
    exact (Parallel.name he.1).append (Parallel.slot e.2).unwritten
  have hnames : ∀ d : Payload, d.columns.map (fun text => [Piece.name text]) =
      d.entries.map fun e => [.name e.1] := by
    intro d
    rw [ColumnMap.columns, List.map_map]
    rfl
  rw [Draft.names, Draft.names, hnames, hnames]
  exact (ParallelAll.map h hentry).join ", "

end Payload

namespace Insert

variable {q q' : Insert}

theorem parallel_draft (h : q.Renamed q') : Parallel q.steps q'.steps q.draft q'.draft := by
  have hcolumns := Payload.parallel_columns h.payload
  rw [draft, draft, ← h.conflict, ← Payload.isEmpty_eq h.payload, ← Payload.values_eq h.payload]
  split
  · have hall := (((Parallel.name h.table).append hcolumns.unwritten).append_tokens
      [.word " DEFAULT VALUES"]).word q.conflict.keyword
    exact hall
  · have hhead := ((Parallel.name h.table).append_tokens [.word " ("]).word q.conflict.keyword
    have hslots := ((hhead.append hcolumns).append_tokens [.word ") VALUES ("]).append_fixed
      (Draft.name_notMem_slots q.payload.values)
    exact hslots.append_tokens [.word ")"]

theorem parallel_preconditionDraft (h : q.Renamed q') {c c' : Conditions} (hc : c.Renamed c') :
    Parallel (q.preconditionSteps c) (q'.preconditionSteps c') (q.preconditionDraft c)
      (q'.preconditionDraft c') := by
  have hhead := ((Parallel.name h.table).word "SELECT 1 FROM ").word "SELECT EXISTS("
  have hfilter := (Conditions.parallel hc).clause " WHERE "
  exact (hhead.append hfilter).append_tokens (.word ")" :: Sql.named "exists")

end Insert

theorem Update.parallel_draft {q q' : Update} (h : q.Renamed q') :
    Parallel q.steps q'.steps q.draft q'.draft := by
  have hhead := ((Parallel.name h.table).append_tokens [.word " SET "]).word "UPDATE "
  have hset := hhead.append (Payload.parallel_assignments h.payload)
  exact Scope.parallel_append h.scope h.table hset

theorem Delete.parallel_draft {q q' : Delete} (h : q.Renamed q') :
    Parallel q.steps q'.steps q.draft q'.draft := by
  have hhead := (Parallel.name h.table).word "DELETE FROM "
  exact Scope.parallel_append h.scope h.table hhead

/-! ## Requests -/

inductive Request.Renamed : Request → Request → Prop where
  | rows {q q' : Select} (h : q.Renamed q') : Renamed (.rows q) (.rows q')
  | existence {q q' : Select} (h : q.Renamed q') : Renamed (.existence q) (.existence q')
  | count {q q' : Select} (h : q.Renamed q') : Renamed (.count q) (.count q')
  | aggregate {q q' : Select} {column column' : String} (h : q.Renamed q') (f : Select.Aggregate)
    (hcolumn : Alike column column') : Renamed (.aggregate q f column) (.aggregate q' f column')
  | insert {q q' : Insert} (h : q.Renamed q') : Renamed (.insert q) (.insert q')
  | precondition {q q' : Insert} (h : q.Renamed q') : Renamed (.precondition q) (.precondition q')
  | update {q q' : Update} (h : q.Renamed q') : Renamed (.update q) (.update q')
  | delete {q q' : Delete} (h : q.Renamed q') : Renamed (.delete q) (.delete q')

namespace Request

variable {r r' : Request}

theorem exists_parallel (h : r.Renamed r') {d : Draft} (hd : r.draft? = some d) :
    ∃ d', r'.draft? = some d' ∧ Parallel r.steps r'.steps d d' := by
  cases h with
  | rows h => cases hd; exact ⟨_, rfl, Select.parallel_draft h⟩
  | existence h => cases hd; exact ⟨_, rfl, Select.parallel_existsDraft h⟩
  | count h => cases hd; exact ⟨_, rfl, Select.parallel_countDraft h⟩
  | aggregate h f hcolumn =>
    cases hd
    exact ⟨_, rfl, Select.parallel_aggregateDraft h f hcolumn⟩
  | insert h => cases hd; exact ⟨_, rfl, Insert.parallel_draft h⟩
  | @precondition q q' h =>
    rw [draft?, steps, steps] at *
    have hrel := h.unlessExists
    generalize q.unlessExists = o at hrel hd
    generalize q'.unlessExists = o' at hrel
    cases hrel with
    | none => cases hd
    | some hc =>
      cases hd
      exact ⟨_, rfl, Insert.parallel_preconditionDraft h hc⟩
  | update h => cases hd; exact ⟨_, rfl, Update.parallel_draft h⟩
  | delete h => cases hd; exact ⟨_, rfl, Delete.parallel_draft h⟩

/-- A renamed request does not fail where the original does not. -/
theorem fault?_of_renamed (h : r.Renamed r') {d : Draft} (hd : r.draft? = some d)
    (hr : r.fault? = none) : r'.fault? = none := by
  obtain ⟨d', -, hparallel⟩ := exists_parallel h hd
  rw [fault?_eq_none_iff] at hr ⊢
  refine ⟨Step.firstFault?_eq_none_iff.2 hparallel.accepted, ?_⟩
  intro q' hq'
  cases h with
  | @update q q'' h =>
    cases hq'
    rw [← Payload.isEmpty_eq h.payload]
    exact hr.2 q rfl
  | _ => cases hq'

end Request

end TypedSql
