import TypedSql.Proofs.KeyStatements
import TypedSql.Proofs.NameGrammar

/-!
# Names stand in double quotes

A statement writes the names that a request gives it, and writes each of them as parts in
double quotes with a dot between each two.  The one name that stands bare is the star:

    Name.parse text = .ok (.ident i)   →   Delimited (Name.written text).toList i.parts
    Name.written "*" = "*"

`Request.mentions` has the names of a request in the order of the text.  Two kinds of names in
a filter go with it: those that are read, which are all columns of its mappings, and those that
are written, which are the columns of its atoms.  The text is that of the draft with the names
that are written, and a name that is read and is none fails the request
(`written_names_are_delimited`).
-/

namespace TypedSql

/-! ## One name -/

namespace Ident

/-- Parts in double quotes, with a dot between each two. -/
abbrev Delimited : List Char → List String → Prop := Dotted QuotedPart

theorem Delimited.head?_eq {w : List Char} {parts : List String} (h : Delimited w parts) :
    w.head? = some '"' := by
  cases h with
  | single h => cases h; rfl
  | cons h _ => cases h; rfl

theorem Delimited.spelling {w : List Char} {parts : List String} (h : Delimited w parts) :
    Spelling w parts := by
  induction h with
  | single h => exact .single (.quoted h)
  | cons h _ ih => exact .cons (.quoted h) ih

theorem items_flatMap (part : List Char) : Items (part.flatMap partChar) part := by
  induction part with
  | nil => exact .nil
  | cons c part ih =>
    rw [List.flatMap_cons, partChar]
    split
    · next hquote =>
      rw [hquote]
      exact .quote ih
    · next hchar => exact .char hchar ih

theorem quotedPart_partChars {part : String} (h : part ≠ "") :
    QuotedPart (partChars part) part.toList :=
  .quoted (items_flatMap part.toList) (mt String.toList_eq_nil_iff.1 h)

/-- An identifier is written in quotes as long as no part of it is empty. -/
theorem delimited_chars {i : Ident} (hne : i.parts ≠ []) (hparts : ∀ part ∈ i.parts, part ≠ "") :
    Delimited i.chars i.parts := by
  obtain ⟨parts⟩ := i
  induction parts with
  | nil => exact absurd rfl hne
  | cons part parts ih =>
    obtain ⟨hpart, hparts⟩ := List.forall_mem_cons.1 hparts
    have hquoted := quotedPart_partChars hpart
    cases parts with
    | nil => simpa [chars] using Dotted.single_iff.2 hquoted
    | cons part' parts =>
      have htail := ih (List.cons_ne_nil _ _) hparts
      have hchars : chars ⟨part :: part' :: parts⟩ =
          partChars part ++ '.' :: chars ⟨part' :: parts⟩ := by
        simp [chars]
      rw [hchars]
      simpa using Dotted.cons hquoted htail

end Ident

namespace Name

theorem written_of_parse {text : String} {n : Name} (h : parse text = .ok n) :
    written text = String.ofList n.chars := by
  rw [written, Token.ofText, h, Sql.text, Sql.chars_cons, Sql.chars_nil, List.append_nil]
  rfl

theorem delimited_of_parse {text : String} {i : Ident} (h : parse text = .ok (.ident i)) :
    Ident.Delimited (written text).toList i.parts := by
  rw [written_of_parse h, String.toList_ofList]
  rcases plain_or_spelling h with ⟨-, hne, rfl⟩ | hspelled
  · exact Ident.delimited_chars (List.cons_ne_nil _ _) (List.forall_mem_singleton.2 hne)
  · exact Ident.delimited_chars hspelled.parts_ne_nil hspelled.part_ne_empty

/-- A name is written in quotes, but for the star. -/
theorem star_or_delimited {text : String} (h : Accepted text) :
    (text = "*" ∧ written text = "*") ∨
      ∃ i, parse text = .ok (.ident i) ∧ Ident.Delimited (written text).toList i.parts := by
  obtain ⟨n, hn⟩ := h
  cases n with
  | all => exact .inl ⟨parse_eq_all_iff.1 hn, written_of_parse hn⟩
  | ident i => exact .inr ⟨i, hn, delimited_of_parse hn⟩

end Name

/-! ## The names of a draft -/

def Piece.name? : Piece → Option String
  | name text => some text
  | _ => none

/-- The text of a piece, a name being written by `write`. -/
def Piece.textWith (write : String → String) : Piece → String
  | token t => Sql.text [t]
  | name text => write text
  | slot _ => "?"

namespace Draft

/-- The names that the draft writes, from left to right. -/
def mentions (d : Draft) : List String := d.filterMap Piece.name?

def textWith (write : String → String) (d : Draft) : String :=
  String.join (d.map (Piece.textWith write))

theorem text_sql (d : Draft) : d.sql.text = d.textWith Name.written := by
  induction d with
  | nil => rfl
  | cons piece d ih =>
    have hpiece : Sql.text [piece.toToken] = piece.textWith Name.written := by
      cases piece <;> rfl
    rw [sql_cons, ← List.singleton_append, Sql.text_append, hpiece, ih, textWith, textWith,
      List.map_cons, String.join_cons]

@[simp] theorem mentions_nil : mentions [] = [] := rfl

@[simp] theorem mentions_append (a b : Draft) : mentions (a ++ b) = mentions a ++ mentions b :=
  List.filterMap_append

@[simp] theorem mentions_cons_word (s : String) (d : Draft) :
    mentions (.word s :: d) = mentions d := rfl

@[simp] theorem mentions_cons_token (t : Token) (d : Draft) :
    mentions (.token t :: d) = mentions d := rfl

@[simp] theorem mentions_cons_name (text : String) (d : Draft) :
    mentions (.name text :: d) = text :: mentions d := rfl

@[simp] theorem mentions_cons_slot (v : Value) (d : Draft) :
    mentions (.slot v :: d) = mentions d := rfl

@[simp] theorem mentions_ofSql (s : Sql) : mentions (ofSql s) = [] := by
  induction s with
  | nil => rfl
  | cons t s ih => exact ih

@[simp] theorem mentions_join (separator : String) (drafts : List Draft) :
    mentions (join separator drafts) = drafts.flatMap mentions :=
  filterMap_join (fun _ => rfl) separator drafts

@[simp] theorem mentions_clause (keyword : String) (d : Draft) :
    mentions (clause keyword d) = mentions d :=
  filterMap_clause (fun _ => rfl) keyword d

@[simp] theorem mentions_slots (values : List Value) : mentions (slots values) = [] := by
  simp [slots, List.flatMap_map]

@[simp] theorem mentions_names (texts : List String) : mentions (names texts) = texts := by
  simp [names, List.flatMap_map]

end Draft

/-! ## The names of a request -/

/-- An atom of the operator names its column; the constant for no values does not. -/
def Op.namesColumn : Op → Bool
  | oneOf vs | noneOf vs => !vs.isEmpty
  | _ => true

/-- The columns of the atoms, which are not all columns of the mapping. -/
def Conditions.atomColumns (c : Conditions) : List String :=
  c.entries.flatMap fun e => (e.2.ops.filter Op.namesColumn).map fun _ => e.1

/-- The names of a restriction, `columns` being the names of a mapping: only one with bounds has
sort keys, and it names the table again. -/
def Scope.mentions (columns : Conditions → List String) (s : Scope) (table : String) :
    List String :=
  if s.bounds.isNone then s.filter.conditions.flatMap columns
  else table :: s.filter.conditions.flatMap columns ++ s.order.map SortKey.column

/-- The selected columns that are names. -/
def Select.selected (q : Select) : List String :=
  match q.expression with
  | some _ => []
  | none => q.columns

/-- The names of a request in the order of its text, `columns` being the names of a mapping. -/
def Request.mentions (columns : Conditions → List String) : Request → List String
  | rows q | existence q =>
    q.selected ++ [q.table] ++ q.filter.conditions.flatMap columns ++ q.groups ++
      columns q.having ++ q.order.map SortKey.column
  | count q => q.table :: columns q.filter.base
  | aggregate q _ column => column :: q.table :: columns q.filter.base ++ q.groups
  | insert q => q.table :: q.payload.columns
  | precondition q => (q.unlessExists.map fun c => q.table :: columns c).getD []
  | update q => q.table :: q.payload.columns ++ q.toScope.mentions columns q.table
  | delete q => q.table :: q.toScope.mentions columns q.table

theorem Op.mentions_draft (column : String) (op : Op) :
    (op.draft column).mentions = if op.namesColumn then [column] else [] := by
  cases op with
  | eq v | ne v | gt v | gte v | lt v | lte v | like v | notLike v => rfl
  | oneOf vs | noneOf vs => cases vs <;> simp [draft, membershipDraft, namesColumn]
  | between low high => rfl
  | isNull b => cases b <;> rfl

theorem Conditions.mentions_draft (c : Conditions) : c.draft.mentions = c.atomColumns := by
  rw [draft, Draft.mentions_join, atomDrafts, atomColumns, List.flatMap_assoc]
  refine List.flatMap_congr fun e _ => ?_
  rw [List.flatMap_map]
  induction e.2.ops with
  | nil => rfl
  | cons op ops ih =>
    rw [List.flatMap_cons, ih, Op.mentions_draft, List.filter_cons]
    split <;> rfl

theorem Filter.mentions_draft (f : Filter) :
    f.draft.mentions = f.conditions.flatMap Conditions.atomColumns :=
  (f.filterMap_draft fun _ => rfl).trans (List.flatMap_congr fun c _ => c.mentions_draft)

theorem mentions_orderDraft (keys : List SortKey) :
    (orderDraft keys).mentions = keys.map SortKey.column := by
  rw [orderDraft, Draft.mentions_clause, Draft.mentions_join, List.flatMap_map]
  exact List.map_eq_flatMap.symm

theorem Scope.mentions_draft (s : Scope) (table : String) :
    (s.draft table).mentions = s.mentions Conditions.atomColumns table := by
  rw [draft, mentions]
  split <;> simp [nestedDraft, Filter.mentions_draft, mentions_orderDraft]

theorem Select.mentions_columnDraft (q : Select) : q.columnDraft.mentions = q.selected := by
  rw [columnDraft, selected]
  cases q.expression with
  | some e => rfl
  | none => cases hc : q.columns <;> simp

theorem Select.mentions_groupDraft (q : Select) : q.groupDraft.mentions = q.groups := by
  simp [groupDraft]

theorem Select.mentions_draft (q : Select) :
    q.draft.mentions = (Request.rows q).mentions Conditions.atomColumns := by
  cases hd : q.distinct <;>
    simp [draft, hd, mentions_columnDraft, mentions_groupDraft, Filter.mentions_draft,
      Conditions.mentions_draft, mentions_orderDraft, Request.mentions]

theorem Payload.mentions_assignmentDrafts (p : Payload) :
    p.assignmentDrafts.flatMap Draft.mentions = p.columns := by
  rw [assignmentDrafts, ColumnMap.columns, List.flatMap_map]
  exact List.map_eq_flatMap.symm

theorem Conditions.atomColumns_subset (c : Conditions) : c.atomColumns ⊆ c.columns := by
  intro text h
  obtain ⟨e, he, h⟩ := List.mem_flatMap.1 h
  obtain ⟨_, -, rfl⟩ := List.mem_map.1 h
  exact List.mem_map_of_mem he

/-! ## The names that are read -/

theorem Scope.mem_names_steps_iff (s : Scope) (table text : String) :
    text = table ∨ text ∈ Step.names s.steps ↔
      text = table ∨ text ∈ s.mentions ColumnMap.columns table := by
  rw [steps, mentions]
  split <;> simp [Filter.names_steps, orderSteps]

theorem Select.columnSteps_eq (q : Select) : q.columnSteps = Step.reads q.selected := by
  rw [columnSteps, selected]
  cases q.expression <;> rfl

namespace Request

theorem read_mem_steps_iff (r : Request) (text : String) :
    .read text ∈ r.steps ↔ text ∈ r.mentions ColumnMap.columns := by
  rw [← Step.mem_names_iff]
  cases r with
  | rows q | existence q =>
    simp [steps, Select.steps, mentions, Select.columnSteps_eq, Filter.names_steps,
      Conditions.names_steps, orderSteps]
  | count q => simp [steps, Select.countSteps, mentions, Conditions.names_steps]
  | aggregate q f column =>
    simp [steps, Select.aggregateSteps, mentions, Conditions.names_steps]
  | insert q => simp [steps, Insert.steps, mentions, Payload.names_steps]
  | precondition q =>
    rw [steps, mentions]
    cases q.unlessExists with
    | none => simp
    | some c => simp [Insert.preconditionSteps, Conditions.names_steps]
  | update q =>
    have hscope := q.toScope.mem_names_steps_iff q.table text
    simp only [steps, Update.steps, mentions, Step.names_append, Payload.names_steps,
      Step.names_cons_read, Step.names_nil, List.mem_append, List.mem_cons, List.not_mem_nil,
      or_false, or_assoc]
    rw [or_left_comm, hscope, or_left_comm]
  | delete q =>
    have hscope := q.toScope.mem_names_steps_iff q.table text
    simp [steps, Delete.steps, mentions, hscope]

/-- A draft writes the names of its request, each where it stands. -/
theorem mentions_draft {r : Request} {d : Draft} (h : r.draft? = some d) :
    d.mentions = r.mentions Conditions.atomColumns := by
  cases r with
  | rows q => cases h; exact q.mentions_draft
  | existence q =>
    cases h
    simp [Select.existsDraft, q.mentions_draft, mentions]
  | count q =>
    cases h
    simp [Select.countDraft, Conditions.mentions_draft, mentions]
  | aggregate q f column =>
    cases h
    simp [Select.aggregateDraft, Conditions.mentions_draft, Select.mentions_groupDraft, mentions]
  | insert q =>
    cases h
    rw [Insert.draft]
    split
    · next hempty =>
      have hcolumns : q.payload.columns = [] := by
        rw [ColumnMap.columns, List.isEmpty_iff.1 hempty, List.map_nil]
      simp [mentions, hcolumns]
    · simp [mentions]
  | precondition q =>
    obtain ⟨c, hc, rfl⟩ := Option.map_eq_some_iff.1 h
    simp [Insert.preconditionDraft, Conditions.mentions_draft, mentions, hc]
  | update q =>
    cases h
    simp [Update.draft, Payload.mentions_assignmentDrafts, Scope.mentions_draft, mentions]
  | delete q =>
    cases h
    simp [Delete.draft, Scope.mentions_draft, mentions]

/-- What is written has been read. -/
theorem mentions_subset (r : Request) :
    r.mentions Conditions.atomColumns ⊆ r.mentions ColumnMap.columns := by
  intro text
  have hconditions (c : Conditions) : text ∈ c.atomColumns → text ∈ c.columns :=
    fun h => c.atomColumns_subset h
  have hfilter (f : Filter) : text ∈ f.conditions.flatMap Conditions.atomColumns →
      text ∈ f.conditions.flatMap ColumnMap.columns := by
    rw [List.mem_flatMap, List.mem_flatMap]
    exact fun ⟨c, hc, h⟩ => ⟨c, hc, hconditions c h⟩
  have hscope (s : Scope) (table : String) : text ∈ s.mentions Conditions.atomColumns table →
      text ∈ s.mentions ColumnMap.columns table := by
    rw [Scope.mentions, Scope.mentions]
    split
    · exact hfilter s.filter
    · simp only [List.mem_append, List.mem_cons]
      exact Or.imp_left (Or.imp_right (hfilter s.filter))
  cases r with
  | rows q | existence q =>
    have hwhere := hfilter q.filter
    have hhaving := hconditions q.having
    simp only [mentions, List.mem_append]
    tauto
  | count q =>
    simp only [mentions, List.mem_cons]
    exact Or.imp_right (hconditions _)
  | aggregate q f column =>
    simp only [mentions, List.mem_append, List.mem_cons]
    exact Or.imp_left (Or.imp_right (Or.imp_right (hconditions _)))
  | insert q => exact id
  | precondition q =>
    rw [mentions, mentions]
    cases q.unlessExists with
    | none => exact id
    | some c =>
      simp only [Option.map_some, Option.getD_some, List.mem_cons]
      exact Or.imp_right (hconditions c)
  | update q =>
    simp only [mentions, List.mem_append]
    exact Or.imp_right (hscope _ _)
  | delete q =>
    simp only [mentions, List.mem_cons]
    exact Or.imp_right (hscope _ _)

end Request

/-! ## Top theorem -/

/-- **Names are delimited, but for the star.**  A request fails exactly if a text that it reads
is no name, or it is an update that sets nothing.  The text of what it renders is that of its
draft, in which the names of the request stand in their order: each is written as parts in double
quotes with a dot between each two, and only the star is written as it is. -/
theorem written_names_are_delimited (r : Request) :
    ((∃ fault, r.statement? = .error fault) ↔
      (∃ name ∈ r.mentions ColumnMap.columns, ¬ Name.Accepted name) ∨
        ∃ q, r = .update q ∧ q.payload.isEmpty = true) ∧
    ∀ s, r.statement? = .ok (some s) →
      ∃ d, r.draft? = some d ∧ s.text = d.textWith Name.written ∧
        d.mentions = r.mentions Conditions.atomColumns ∧
        ∀ name ∈ d.mentions,
          (name = "*" ∧ Name.written name = "*") ∨
          ∃ i, Name.parse name = .ok (.ident i) ∧
            Ident.Delimited (Name.written name).toList i.parts := by
  have hnone : r.fault? = none ↔ (∀ name ∈ r.mentions ColumnMap.columns, Name.Accepted name) ∧
      ∀ q, r = .update q → q.payload.isEmpty = false := by
    rw [Request.fault?_eq_none_iff, Step.firstFault?_eq_none_iff]
    simp only [Request.read_mem_steps_iff]
    rfl
  have hfails : (∃ fault, r.statement? = .error fault) ↔ r.fault? ≠ none := by
    rw [Request.statement?_eq]
    cases r.fault? <;> simp
  refine ⟨?_, fun s hs => ?_⟩
  · rw [hfails, Ne, hnone, not_and_or]
    simp only [not_forall, Bool.not_eq_false, exists_prop]
  · obtain ⟨hfault, d, hd, rfl⟩ := Request.draft?_of_statement? hs
    have hmentions := Request.mentions_draft hd
    refine ⟨d, hd, d.text_sql, hmentions, fun name hname => ?_⟩
    rw [hmentions] at hname
    exact Name.star_or_delimited ((hnone.1 hfault).1 name (r.mentions_subset hname))

/-- A selection that names its table and four columns, one of them in a filter of two atoms. -/
def rankedSelection : Select :=
  .ofCalls "staff" [.select ["team"], .scope (.andWhere (.single "age" (.operators
    ((Operators.single (.gt (.integer 30))).set (.noneOf []))))),
    .groupBy ["team"], .havingCmp "a\"b" "<" (.integer 9), .orderByDesc "Full Name"]

theorem rankedSelection_delimited :
    ∃ s, (Request.rows rankedSelection).statement? = .ok (some s) ∧
      s.text = "SELECT \"team\" FROM \"staff\" WHERE \"age\" > ? AND 1=1 GROUP BY \"team\"" ++
        " HAVING \"a\"\"b\" < ? ORDER BY \"Full Name\" DESC" ∧
      ∃ d, (Request.rows rankedSelection).draft? = some d ∧ s.text = d.textWith Name.written ∧
        d.mentions = ["team", "staff", "age", "team", "a\"b", "Full Name"] := by
  have hs : (Request.rows rankedSelection).statement? = .ok (some
      ⟨"SELECT \"team\" FROM \"staff\" WHERE \"age\" > ? AND 1=1 GROUP BY \"team\"" ++
        " HAVING \"a\"\"b\" < ? ORDER BY \"Full Name\" DESC", [.integer 30, .integer 9]⟩) := by
    decide +kernel
  obtain ⟨d, hd, htext, hmentions, -⟩ := (written_names_are_delimited _).2 _ hs
  exact ⟨_, hs, rfl, d, hd, htext, hmentions⟩

/-- The star stands bare for a column of a filter too, and sort keys that no bound needs are not
looked at. -/
theorem star_stands_bare :
    (Delete.ofCalls "t" [.whereCmp "*" "=" (.integer 1)]).statement =
      .ok ⟨"DELETE FROM \"t\" WHERE * = ?", [.integer 1]⟩ ∧
    (∀ parts, ¬ Ident.Delimited (Name.written "*").toList parts) ∧
    (Delete.ofCalls "t" [.orderBy "" .ascending]).statement = .ok ⟨"DELETE FROM \"t\"", []⟩ ∧
    ¬ Name.Accepted "" := by
  refine ⟨by decide, fun parts h => absurd h.head?_eq (by decide), by decide, ?_⟩
  rintro ⟨n, hn⟩
  cases hn

end TypedSql
