import TypedSql.Proofs.Request
import TypedSql.Query.Fetch

/-!
# Statements about one key

A statement whose filter asks for one value of one column has one equality for a filter, and
the value is the last that it binds:

    delete      DELETE FROM table WHERE key = ?
    update      UPDATE table SET column = ?, … WHERE key = ?
    rows        SELECT * FROM table WHERE key = ?
    existence   SELECT EXISTS(SELECT * FROM table WHERE key = ?) AS "exists"

It fails exactly if one of its names is none (`Request.Asks.fault`), and is otherwise this
very text (`Request.Asks.statement_eq`).
-/

namespace TypedSql

namespace Name

/-- The text is a name. -/
def Accepted (text : String) : Prop := ∃ n, parse text = .ok n

/-- How an accepted name stands in a statement. -/
def written (text : String) : String := Sql.text [.ofText text]

end Name

/-- The statement with this equality for a filter: what stands before and after it, and the
values that are bound before that of the key. -/
def Statement.onKey (head : String) (values : List Value) (key : String) (v : Value)
    (tail : String) : Statement :=
  ⟨head ++ " WHERE " ++ Name.written key ++ " = ?" ++ tail, values ++ [v]⟩

/-- `column = ?` for every column. -/
def Payload.assignments (p : Payload) : String :=
  ", ".intercalate (p.columns.map fun column => Name.written column ++ " = ?")

/-! ## Texts -/

namespace Sql

theorem text_append (a b : Sql) : text (a ++ b) = text a ++ text b := by
  rw [text, chars_append, String.ofList_append, text, text]

theorem text_cons_cons (t t' : Token) (sql : Sql) :
    text (t :: t' :: sql) = text [t] ++ text (t' :: sql) :=
  text_append [t] (t' :: sql)

theorem text_word (s : String) : text [.word s] = s := by
  rw [text, chars_cons, chars_nil, List.append_nil]
  exact String.ofList_toList

theorem text_join (separator : String) (pieces : List Sql) :
    text (join separator pieces) = separator.intercalate (pieces.map text) := by
  apply String.toList_injective
  rw [text, String.toList_ofList, String.toList_intercalate, List.map_map]
  induction pieces with
  | nil => rfl
  | cons piece pieces ih =>
    cases pieces with
    | nil => simp [join, text]
    | cons piece' pieces =>
      simp only [join, List.map_cons, List.intercalate_cons_cons, chars_append] at ih ⊢
      rw [ih]
      simp [text, Token.chars]

end Sql

theorem Payload.read_mem_steps_iff (p : Payload) (text : String) :
    Step.read text ∈ p.steps ↔ text ∈ p.columns := by
  rw [← Step.mem_names_iff, names_steps]

theorem Payload.text_assignmentDrafts (p : Payload) :
    (Draft.join ", " p.assignmentDrafts).sql.text = p.assignments := by
  rw [Draft.sql_join, Sql.text_join, assignmentDrafts, assignments, ColumnMap.columns, List.map_map,
    List.map_map, List.map_map]
  congr 1
  refine List.map_congr_left fun e _ => ?_
  show Sql.text [.ofText e.1, .word " = ", .slot] = Name.written e.1 ++ " = ?"
  rw [Sql.text_cons_cons, Name.written]
  rfl

/-! ## What a request asks for -/

/-- The request reads just these names, and if they are accepted asks for this statement. -/
structure Request.Asks (r : Request) (names : List String) (stmt : Statement) : Prop where
  mem_names_iff : ∀ text, .read text ∈ r.steps ↔ text ∈ names
  sets : ∀ q, r = .update q → q.payload.isEmpty = false
  draft : ∃ d, r.draft? = some d ∧ d.statement = stmt

namespace Request.Asks

variable {r : Request} {names : List String} {stmt : Statement}

theorem fault?_eq_none_iff (h : r.Asks names stmt) :
    r.fault? = none ↔ ∀ text ∈ names, Name.Accepted text := by
  rw [Request.fault?_eq_none_iff, Step.firstFault?_eq_none_iff, and_iff_left h.sets]
  exact forall_congr' fun text => imp_congr_left (h.mem_names_iff text)

variable {x : Except RenderFault Statement}

theorem statement_eq (h : r.Asks names stmt) (hx : r.statement? = x.map some)
    (hnames : ∀ text ∈ names, Name.Accepted text) : x = .ok stmt := by
  obtain ⟨d, hd, rfl⟩ := h.draft
  rw [Request.statement?_eq, h.fault?_eq_none_iff.2 hnames, hd] at hx
  cases x with
  | ok stmt => cases hx; rfl
  | error fault => cases hx

theorem fault (h : r.Asks names stmt) (hx : r.statement? = x.map some)
    (hnames : ¬ ∀ text ∈ names, Name.Accepted text) : ∃ fault, x = .error fault := by
  obtain ⟨fault, hfault⟩ := Option.ne_none_iff_exists'.1 (mt h.fault?_eq_none_iff.1 hnames)
  rw [Request.statement?_eq, hfault] at hx
  cases x with
  | ok stmt => cases hx
  | error fault => exact ⟨fault, rfl⟩

end Request.Asks

/-! ## Statements about one key -/

/-- The selection by one value of one column. -/
def Select.byKey (table key : String) (v : Value) (primaryKey : Option String) : Select :=
  { (Select.new table).apply (.scope (.andWhere (.single key (.scalar v)))) with primaryKey }

section

variable (table key : String) (v : Value)

/-- The equality as it stands in a draft, with the word in front of it. -/
def Draft.onKey : Draft := [.word " WHERE ", .name key, .word " = ", .slot v]

theorem Draft.text_onKey : (onKey key v).sql.text = " WHERE " ++ Name.written key ++ " = ?" := by
  show Sql.text [.word " WHERE ", .ofText key, .word " = ", .slot] = _
  rw [Sql.text_cons_cons, Sql.text_word, Sql.text_cons_cons, String.append_assoc]
  rfl

/-- Fixed words with a name after them. -/
theorem Draft.text_named (words : Draft) {head : String} (h : words.sql.text = head) :
    (Draft.sql (words ++ [.name table])).text = head ++ Name.written table := by
  rw [sql_append, Sql.text_append, h]
  rfl

/-- A draft with no values after the equality. -/
theorem Draft.statement_onKey {before : Draft} (after : Draft) {head tail : String}
    {values : List Value}
    (hhead : before.sql.text = head) (htail : after.sql.text = tail)
    (hbefore : before.values = values) (hafter : after.values = []) :
    (before ++ onKey key v ++ after).statement = .onKey head values key v tail := by
  rw [statement, Statement.onKey, sql_append, sql_append, Sql.text_append, Sql.text_append,
    text_onKey, values_append, values_append, hhead, htail, hbefore, hafter, List.append_nil]
  simp only [String.append_assoc]
  rfl

theorem asks_delete_byKey :
    Request.Asks (.delete ((Delete.new table).apply (.andWhere (.single key (.scalar v)))))
      [table, key] (.onKey ("DELETE FROM " ++ Name.written table) [] key v "") where
  mem_names_iff text := by
    show Step.read text ∈ [.read table, .read key, .bind v] ↔ _
    simp
  sets := nofun
  draft := by
    have hhead := Draft.text_named table [.word "DELETE FROM "] rfl
    exact ⟨_, rfl, Draft.statement_onKey key v [] hhead rfl rfl rfl⟩

/-- What an update has in front of its restriction. -/
def Payload.headDraft (p : Payload) : Draft :=
  [.word "UPDATE "] ++ [.name table] ++ [.word " SET "] ++ Draft.join ", " p.assignmentDrafts

theorem Payload.text_headDraft (p : Payload) :
    (p.headDraft table).sql.text = "UPDATE " ++ Name.written table ++ " SET " ++ p.assignments := by
  have hhead := Draft.text_named table [.word "UPDATE "] rfl
  rw [headDraft, Draft.sql_append, Sql.text_append, p.text_assignmentDrafts, Draft.sql_append,
    Sql.text_append, hhead]
  rfl

theorem Payload.values_headDraft (p : Payload) : (p.headDraft table).values = p.values := by
  rw [headDraft, Draft.values_append, Draft.values_join, p.values_assignmentDrafts]
  rfl

theorem asks_update_byKey (p : Payload) (hp : p.isEmpty = false) :
    Request.Asks
      (.update ((Update.new table p).apply (.scope (.andWhere (.single key (.scalar v))))))
      (table :: p.columns ++ [key])
      (.onKey ("UPDATE " ++ Name.written table ++ " SET " ++ p.assignments) p.values key v "") where
  mem_names_iff text := by
    show Step.read text ∈ [.read table] ++ p.steps ++ [.read key, .bind v] ↔ _
    simp [p.read_mem_steps_iff]
  sets := by
    rintro _ ⟨⟩
    exact hp
  draft := by
    refine ⟨p.headDraft table ++ Draft.onKey key v ++ [],
      congrArg some (List.append_nil _).symm, ?_⟩
    exact Draft.statement_onKey key v [] (p.text_headDraft table) rfl (p.values_headDraft table) rfl

theorem Select.draft_byKey (primaryKey : Option String) (bounds : Bounds) :
    ({ byKey table key v primaryKey with bounds := bounds } : Select).draft =
      [.word "SELECT ", .token (.name .all), .word " FROM "] ++ [.name table] ++
        Draft.onKey key v ++ Draft.ofSql bounds.sql := rfl

theorem asks_rows_byKey (primaryKey : Option String) :
    Request.Asks (.rows (Select.byKey table key v primaryKey).single) [table, key]
      (.onKey ("SELECT * FROM " ++ Name.written table) [] key v " LIMIT 1") where
  mem_names_iff text := by
    show Step.read text ∈ [.read table, .read key, .bind v] ↔ _
    simp
  sets := nofun
  draft := by
    have hhead := Draft.text_named table
      [.word "SELECT ", .token (.name .all), .word " FROM "] rfl
    have htail : (Draft.ofSql (Bounds.sql ⟨some 1, none⟩)).sql.text = " LIMIT 1" := by
      rw [Draft.sql_ofSql]
      rfl
    refine ⟨_, rfl, ?_⟩
    rw [Select.single, Select.apply, Scope.apply, Select.draft_byKey]
    exact Draft.statement_onKey key v _ hhead htail rfl (Draft.values_ofSql _)

theorem asks_existence_byKey (primaryKey : Option String) :
    Request.Asks (.existence (Select.byKey table key v primaryKey)) [table, key]
      (.onKey ("SELECT EXISTS(SELECT * FROM " ++ Name.written table) [] key v
        ") AS \"exists\"") where
  mem_names_iff text := by
    show Step.read text ∈ [.read table, .read key, .bind v] ↔ _
    simp
  sets := nofun
  draft := by
    have hhead := Draft.text_named table
      [.word "SELECT EXISTS(", .word "SELECT ", .token (.name .all), .word " FROM "] rfl
    have htext := Draft.statement_onKey key v
      (.word ")" :: Draft.ofSql (Sql.named "exists")) hhead rfl rfl rfl
    refine ⟨_, rfl, ?_⟩
    rw [Select.existsDraft]
    exact htext

end

end TypedSql
