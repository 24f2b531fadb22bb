import Mathlib.Data.List.Basic
import TypedSql.Proofs.Trace
import TypedSql.Query.Delete
import TypedSql.Query.Insert
import TypedSql.Query.Select
import TypedSql.Query.Update

/-!
# Drafts

A draft is a piece of SQL in which names are still texts and placeholders still
hold their values.  It is what a rendering writes when all its names are
accepted, and `steps` is what the rendering does on the way:

    f.render = emit f.steps f.draft.sql                        (Filter.render_eq_emit)
    q.render = emit q.steps q.draft.sql        (render_eq_emit of Select, Insert, Delete)

A builder so has two descriptions that involve no state: `steps` decides whether
it renders and what it binds, `draft` decides the text.  In the draft every value
stands where its placeholder stands.
-/

namespace TypedSql

open Render

inductive Piece where
  /-- a token that is the same whatever the names and the values are -/
  | token (t : Token)
  | name (text : String)
  /-- the placeholder of a value -/
  | slot (v : Value)
deriving DecidableEq

namespace Piece

def word (s : String) : Piece := token (.word s)

def toToken : Piece → Token
  | token t => t
  | name text => .ofText text
  | slot _ => .slot

def value? : Piece → Option Value
  | slot v => some v
  | _ => none

end Piece

abbrev Draft := List Piece

namespace Draft

def sql (d : Draft) : Sql := d.map Piece.toToken

/-- The values of the placeholders, from left to right. -/
def values (d : Draft) : List Value := d.filterMap Piece.value?

def ofSql (sql : Sql) : Draft := sql.map Piece.token

def join (separator : String) (drafts : List Draft) : Draft :=
  [Piece.word separator].intercalate drafts

def clause (keyword : String) (body : Draft) : Draft :=
  if body.isEmpty then [] else .word keyword :: body

def slots (values : List Value) : Draft := join ", " (values.map fun v => [.slot v])

def names (texts : List String) : Draft := join ", " (texts.map fun text => [.name text])

def parenthesised (d : Draft) : Draft := .word "(" :: d ++ [.word ")"]

def disjunction : List Draft → Draft
  | [] => []
  | [d] => d
  | ds => join " OR " (ds.map parenthesised)

/-! ## Lemmas -/

@[simp] theorem sql_nil : sql [] = [] := rfl

@[simp] theorem sql_cons (piece : Piece) (d : Draft) : sql (piece :: d) = piece.toToken :: sql d :=
  rfl

@[simp] theorem sql_append (a b : Draft) : sql (a ++ b) = sql a ++ sql b := List.map_append

@[simp] theorem toToken_word (s : String) : (Piece.word s).toToken = .word s := rfl

@[simp] theorem toToken_name (text : String) : (Piece.name text).toToken = .ofText text := rfl

@[simp] theorem toToken_slot (v : Value) : (Piece.slot v).toToken = .slot := rfl

@[simp] theorem toToken_token (t : Token) : (Piece.token t).toToken = t := rfl

@[simp] theorem sql_ofSql (s : Sql) : sql (ofSql s) = s := by
  induction s with
  | nil => rfl
  | cons t s ih => exact congrArg (t :: ·) ih

theorem sql_join (separator : String) (drafts : List Draft) :
    sql (join separator drafts) = Sql.join separator (drafts.map sql) := by
  induction drafts with
  | nil => rfl
  | cons d drafts ih =>
    cases drafts with
    | nil => simp [join, Sql.join]
    | cons e drafts =>
      simp only [join, Sql.join, List.map_cons, List.intercalate_cons_cons, sql_append] at ih ⊢
      rw [ih]
      rfl

theorem sql_clause (keyword : String) (d : Draft) :
    sql (clause keyword d) = Sql.clause keyword (sql d) := by
  cases d <;> rfl

theorem sql_slots (values : List Value) :
    sql (slots values) = Sql.join ", " ((values.map fun _ => Token.slot).map ([·])) := by
  rw [slots, sql_join, List.map_map, List.map_map]
  rfl

theorem sql_names (texts : List String) :
    sql (names texts) = Sql.join ", " ((texts.map Token.ofText).map ([·])) := by
  rw [names, sql_join, List.map_map, List.map_map]
  rfl

theorem sql_parenthesised (d : Draft) : sql (parenthesised d) = Filter.parenthesised (sql d) := by
  simp [parenthesised, Filter.parenthesised]

theorem sql_disjunction (ds : List Draft) :
    sql (disjunction ds) = Filter.disjunction (ds.map sql) := by
  match ds with
  | [] => rfl
  | [d] => rfl
  | d :: e :: ds =>
    have hmap : ∀ l : List Draft,
        (l.map parenthesised).map sql = (l.map sql).map Filter.parenthesised := by
      intro l
      simp only [List.map_map]
      exact List.map_congr_left fun d _ => sql_parenthesised d
    show sql (join " OR " ((d :: e :: ds).map parenthesised)) =
      Sql.join " OR " (((d :: e :: ds).map sql).map Filter.parenthesised)
    rw [sql_join, hmap]

/-! Words hold neither names nor values, so picking these out of a draft leaves its words alone. -/

section

variable {β : Type} {pick : Piece → Option β} (hword : ∀ s, pick (.word s) = none)

include hword

theorem filterMap_join (separator : String) (drafts : List Draft) :
    (join separator drafts).filterMap pick = drafts.flatMap (List.filterMap pick) := by
  induction drafts with
  | nil => rfl
  | cons d drafts ih =>
    cases drafts with
    | nil => simp [join]
    | cons e drafts =>
      simp only [join, List.intercalate_cons_cons, List.filterMap_append, List.flatMap_cons] at ih ⊢
      rw [ih, List.filterMap_cons_none (hword separator)]
      simp

theorem filterMap_clause (keyword : String) (d : Draft) :
    (clause keyword d).filterMap pick = d.filterMap pick := by
  cases d with
  | nil => rfl
  | cons piece d => exact List.filterMap_cons_none (hword keyword)

theorem filterMap_parenthesised (d : Draft) :
    (parenthesised d).filterMap pick = d.filterMap pick := by
  rw [parenthesised, List.cons_append, List.filterMap_cons_none (hword _), List.filterMap_append,
    List.filterMap_cons_none (hword _), List.filterMap_nil, List.append_nil]

theorem filterMap_disjunction (ds : List Draft) :
    (disjunction ds).filterMap pick = ds.flatMap (List.filterMap pick) := by
  match ds with
  | [] => rfl
  | [d] => simp [disjunction]
  | d :: e :: ds =>
    show (join " OR " ((d :: e :: ds).map parenthesised)).filterMap pick = _
    rw [filterMap_join hword, List.flatMap_map]
    exact List.flatMap_congr fun d _ => filterMap_parenthesised hword d

end

@[simp] theorem values_nil : values [] = [] := rfl

@[simp] theorem values_append (a b : Draft) : values (a ++ b) = values a ++ values b :=
  List.filterMap_append

@[simp] theorem values_cons_word (s : String) (d : Draft) : values (.word s :: d) = values d := rfl

@[simp] theorem values_cons_token (t : Token) (d : Draft) : values (.token t :: d) = values d := rfl

@[simp] theorem values_cons_name (text : String) (d : Draft) :
    values (.name text :: d) = values d := rfl

@[simp] theorem values_cons_slot (v : Value) (d : Draft) : values (.slot v :: d) = v :: values d :=
  rfl

@[simp] theorem values_ofSql (s : Sql) : values (ofSql s) = [] := by
  induction s with
  | nil => rfl
  | cons t s ih => exact ih

@[simp] theorem values_join (separator : String) (drafts : List Draft) :
    values (join separator drafts) = drafts.flatMap values :=
  filterMap_join (fun _ => rfl) separator drafts

@[simp] theorem values_clause (keyword : String) (d : Draft) :
    values (clause keyword d) = values d :=
  filterMap_clause (fun _ => rfl) keyword d

@[simp] theorem values_slots (vs : List Value) : values (slots vs) = vs := by
  rw [slots, values_join]
  induction vs with
  | nil => rfl
  | cons v vs ih => exact congrArg (v :: ·) ih

@[simp] theorem values_names (texts : List String) : values (names texts) = [] := by
  rw [names, values_join]
  induction texts with
  | nil => rfl
  | cons text texts ih => exact ih

theorem isEmpty_sql (d : Draft) : (sql d).isEmpty = d.isEmpty := by
  cases d <;> rfl

end Draft

/-! ## Lists of names and of placeholders -/

theorem names_eq_emit (texts : List String) :
    Render.names texts = emit (Step.reads texts) (Draft.names texts).sql := by
  have hread : texts.mapM Render.name = emit (Step.reads texts) (texts.map Token.ofText) := by
    rw [mapM_emit texts _ (fun text => [.read text]) _ fun text _ => name_eq_emit text]
    exact congrArg (emit · _) List.map_eq_flatMap.symm
  rw [Render.names, hread, emit_bind_pure, Draft.sql_names]

theorem slots_eq_emit (values : List Value) :
    Render.slots values = emit (Step.binds values) (Draft.slots values).sql := by
  have hbind : values.mapM slot = emit (Step.binds values) (values.map fun _ => Token.slot) := by
    rw [mapM_emit values _ (fun v => [.bind v]) _ fun v _ => slot_eq_emit v]
    exact congrArg (emit · _) List.map_eq_flatMap.symm
  rw [Render.slots, hbind, emit_bind_pure, Draft.sql_slots]

/-! ## Operators -/

namespace Op

def comparisonDraft (column operator : String) (v : Value) : Draft :=
  [.name column, .word (" " ++ operator ++ " "), .slot v]

def membershipDraft (column operator constant : String) (values : List Value) : Draft :=
  if values.isEmpty then [.word constant]
  else [.name column, .word (" " ++ operator ++ " (")] ++ Draft.slots values ++ [.word ")"]

def draft (column : String) : Op → Draft
  | eq v => comparisonDraft column "=" v
  | ne v => comparisonDraft column "!=" v
  | gt v => comparisonDraft column ">" v
  | gte v => comparisonDraft column ">=" v
  | lt v => comparisonDraft column "<" v
  | lte v => comparisonDraft column "<=" v
  | like v => comparisonDraft column "LIKE" v
  | notLike v => comparisonDraft column "NOT LIKE" v
  | oneOf vs => membershipDraft column "IN" "1=0" vs
  | noneOf vs => membershipDraft column "NOT IN" "1=1" vs
  | between low high =>
    [.name column, .word " BETWEEN ", .slot low, .word " AND ", .slot high]
  | isNull true => [.name column, .word " IS NULL"]
  | isNull false => [.name column, .word " IS NOT NULL"]

theorem comparison_eq_emit (column operator : String) (v : Value) :
    comparison (.ofText column) operator v =
      emit (Step.binds [v]) (comparisonDraft column operator v).sql := by
  rw [comparison, slot_eq_emit, emit_bind_pure]
  rfl

theorem membership_eq_emit (column operator constant : String) (values : List Value) :
    membership (.ofText column) operator constant values =
      emit (Step.binds values) (membershipDraft column operator constant values).sql := by
  cases values with
  | nil => exact pure_eq_emit _
  | cons v vs =>
    show (Render.slots (v :: vs) >>= fun s => pure (_ ++ s ++ _)) = _
    rw [slots_eq_emit, emit_bind_pure]
    simp only [membershipDraft, List.isEmpty_cons, Bool.false_eq_true, if_false, Draft.sql_append,
      Draft.sql_cons, Draft.sql_nil, Draft.toToken_word, Draft.toToken_name]

theorem render_eq_emit (column : String) (op : Op) :
    op.render (.ofText column) = emit (Step.binds op.operands) (op.draft column).sql := by
  cases op with
  | eq v | ne v | gt v | gte v | lt v | lte v | like v | notLike v =>
    exact comparison_eq_emit column _ v
  | oneOf vs | noneOf vs => exact membership_eq_emit column _ _ vs
  | between low high =>
    show (Render.slot low >>= fun a => Render.slot high >>= fun b => pure _) = _
    rw [slot_eq_emit low]
    refine emit_bind (t := [.bind high]) ?_
    rw [slot_eq_emit high, emit_bind_pure]
    rfl
  | isNull b => cases b <;> exact pure_eq_emit _

theorem values_draft (column : String) (op : Op) : (op.draft column).values = op.operands := by
  cases op with
  | eq v | ne v | gt v | gte v | lt v | lte v | like v | notLike v => rfl
  | oneOf vs | noneOf vs => cases vs <;> simp [draft, membershipDraft, operands]
  | between low high => rfl
  | isNull b => cases b <;> rfl

end Op

/-! ## Conditions and filters -/

namespace Constraint

/-- The values of the operators, in the order of their slots. -/
def values (k : Constraint) : List Value := k.ops.flatMap Op.operands

end Constraint

namespace Conditions

/-- The values of the entries, in the order of insertion. -/
def values (c : Conditions) : List Value := c.entries.flatMap fun e => e.2.values

/-- The name of a column is read before its operators are looked at. -/
def steps (c : Conditions) : List Step :=
  c.entries.flatMap fun e => .read e.1 :: Step.binds e.2.values

def atomDrafts (c : Conditions) : List Draft :=
  c.entries.flatMap fun e => e.2.ops.map (Op.draft e.1)

def draft (c : Conditions) : Draft := Draft.join " AND " c.atomDrafts

theorem columnAtoms_eq_emit (column : String) (k : Constraint) :
    columnAtoms column k =
      emit (.read column :: Step.binds k.values) ((k.ops.map (Op.draft column)).map Draft.sql) := by
  rw [columnAtoms, name_eq_emit]
  refine emit_bind (t := Step.binds k.values) ?_
  rw [mapM_emit k.ops _ _ _ fun op _ => Op.render_eq_emit column op, List.map_map]
  congr 1
  rw [Step.binds, Constraint.values, List.map_flatMap]
  rfl

theorem atoms_eq_emit (c : Conditions) :
    atoms c.entries = emit c.steps (c.atomDrafts.map Draft.sql) := by
  rw [atoms, mapM_emit c.entries _ _ _ fun e _ => columnAtoms_eq_emit e.1 e.2, emit_bind_pure,
    atomDrafts, List.map_flatMap]
  rfl

theorem render_eq_emit (c : Conditions) : c.render = emit c.steps c.draft.sql := by
  rw [render, atoms_eq_emit, emit_bind_pure, draft, Draft.sql_join]

theorem values_steps (c : Conditions) : Step.values c.steps = c.values := by
  rw [steps, values, Step.values_flatMap]
  refine List.flatMap_congr fun e _ => ?_
  rw [Step.values_cons_read, Step.values_binds]

theorem names_steps (c : Conditions) : Step.names c.steps = c.columns := by
  rw [steps, Step.names_flatMap, ColumnMap.columns, List.map_eq_flatMap]
  refine List.flatMap_congr fun e _ => ?_
  rw [Step.names_cons_read, Step.names_binds]

theorem values_draft (c : Conditions) : c.draft.values = c.values := by
  rw [draft, Draft.values_join, atomDrafts, values, List.flatMap_assoc]
  refine List.flatMap_congr fun e _ => ?_
  rw [List.flatMap_map, Constraint.values]
  exact List.flatMap_congr fun op _ => Op.values_draft e.1 op

end Conditions

namespace Filter

def conditions (f : Filter) : List Conditions := f.base :: f.alternatives

/-- The values of the base, then those of each alternative. -/
def values (f : Filter) : List Value := f.conditions.flatMap Conditions.values

def steps (f : Filter) : List Step := f.conditions.flatMap Conditions.steps

def fragments (f : Filter) : List Draft :=
  (f.conditions.map Conditions.draft).filter fun d => !d.isEmpty

def draft (f : Filter) : Draft := Draft.disjunction f.fragments

theorem mapM_render_eq_emit (f : Filter) : f.conditions.mapM Conditions.render =
    emit f.steps ((f.conditions.map Conditions.draft).map Draft.sql) := by
  rw [mapM_emit _ _ _ _ fun c _ => Conditions.render_eq_emit c, List.map_map]
  rfl

theorem render_eq_emit (f : Filter) : f.render = emit f.steps f.draft.sql := by
  have hall := f.mapM_render_eq_emit
  rw [conditions] at hall
  rw [render, hall, emit_bind_pure, draft, Draft.sql_disjunction, fragments, List.filter_map]
  simp only [Function.comp_def, Draft.isEmpty_sql]
  rfl

theorem values_steps (f : Filter) : Step.values f.steps = f.values := by
  rw [steps, values, Step.values_flatMap]
  exact List.flatMap_congr fun c _ => c.values_steps

theorem names_steps (f : Filter) :
    Step.names f.steps = f.conditions.flatMap ColumnMap.columns := by
  rw [steps, Step.names_flatMap]
  exact List.flatMap_congr fun c _ => c.names_steps

/-- Fragments that are left out hold nothing. -/
theorem filterMap_draft {β : Type} {pick : Piece → Option β} (hword : ∀ s, pick (.word s) = none)
    (f : Filter) :
    f.draft.filterMap pick = f.conditions.flatMap fun c => c.draft.filterMap pick := by
  rw [draft, Draft.filterMap_disjunction hword, fragments]
  induction f.conditions with
  | nil => rfl
  | cons c rest ih =>
    rw [List.map_cons, List.filter_cons, List.flatMap_cons]
    split
    · rw [List.flatMap_cons, ih]
    · next hempty =>
      have hnil : c.draft = [] := by simpa using hempty
      rw [ih, hnil, List.filterMap_nil, List.nil_append]

theorem values_draft (f : Filter) : f.draft.values = f.values :=
  (f.filterMap_draft fun _ => rfl).trans (List.flatMap_congr fun c _ => c.values_draft)

end Filter

end TypedSql
