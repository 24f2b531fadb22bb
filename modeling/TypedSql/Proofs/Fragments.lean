import Mathlib.Data.List.Forall2
import TypedSql.Proofs.AppendOnly
import TypedSql.Proofs.FilterLexemes

/-!
# Which constraints leave text

A mapping constrains something if one of its entries is a value or has an operator, be it one
with an empty list.  Only then does it leave text, and what AND and OR join has text too:

    (c.draft.sql.text = "")  ↔  c.constrains = false                 (Conditions.isFragment_draft)
    (f.draft.sql.text = "")  ↔  no mapping of f constrains                (Filter.isFragment_draft)

Neither text holds WHERE or HAVING.  `Token.keywords` counts these in the fixed words of a
statement; a name may well hold the same letters.
-/

namespace TypedSql

open Render

/-! ## What constrains -/

/-- The entry leaves an atom. -/
def Constraint.constrains : Constraint → Bool
  | scalar _ => true
  | operators os => !os.isEmpty

def Conditions.constrains (c : Conditions) : Bool := c.entries.any fun e => e.2.constrains

/-- Some mapping constrains something. -/
def Conditions.anyConstrains (cs : List Conditions) : Bool := cs.any constrains

/-! ## Keywords -/

/-- The WHEREs and HAVINGs among the fixed words. -/
def Token.keywords : Token → List String
  | word s =>
    ((Text.words s.toList).map String.ofList).filter fun w => w = "WHERE" ∨ w = "HAVING"
  | _ => []

def Sql.keywords (sql : Sql) : List String := sql.flatMap Token.keywords

/-! ## What is to be shown -/

/-- Operators leave text if a slot is set, be it to an empty list. -/
structure Operators.LeavesText (os : Operators) : Prop where
  isEmpty_iff : os.isEmpty = true ↔ ∀ op, op ∉ os.toList
  isEmpty_eq_equals : os.isEmpty = os.equals .empty
  isEmpty_set : ∀ op, (os.set op).isEmpty = false
  fragment : ∀ column p, ∃ atoms,
    ((os.toList.mapM (Op.render (.ofText column))).runOn p).1 = .ok atoms ∧
      ((Sql.join " AND " atoms).text = "" ↔ os.isEmpty = true)

/-- Conditions leave text unless the operators of every column are empty, and each of the atoms
between which AND stands has text. -/
structure Conditions.LeavesText (c : Conditions) : Prop where
  compile : (∀ e ∈ c.entries, Name.Accepted e.1) → ∃ s, c.compile = .ok s ∧
    (s.text = "" ↔ ∀ e ∈ c.entries, ∃ os : Operators, e.2 = .operators os ∧ os.isEmpty = true)
  joined : ∀ p sql q, c.render.runOn p = (.ok sql, q) → ∃ atoms,
    (Conditions.atoms c.entries).runOn p = (.ok atoms, q) ∧ sql = Sql.join " AND " atoms ∧
      ∀ atom ∈ atoms, atom.text ≠ ""

/-- Of the texts of the mappings those that are not empty are joined, and these are the texts of
the mappings that constrain something. -/
def Filter.JoinsTexts (f : Filter) : Prop :=
  ∀ p sql q, f.render.runOn p = (.ok sql, q) → ∃ texts,
    (f.conditions.mapM Conditions.render).runOn p = (.ok texts, q) ∧
      sql = Filter.disjunction (texts.filter fun text => text.text ≠ "") ∧
      List.Forall₂ (fun c text => Sql.text text = "" ↔ c.constrains = false) f.conditions texts

/-! ## Texts that are not empty -/

namespace Sql

theorem text_eq_empty_iff {sql : Sql} : sql.text = "" ↔ sql.chars = [] :=
  String.ofList_eq_empty_iff

theorem text_ne_empty_of_mem {sql : Sql} {t : Token} (h : t ∈ sql) (ht : t.chars ≠ []) :
    sql.text ≠ "" := by
  rw [Ne, text_eq_empty_iff, chars, List.flatMap_eq_nil_iff]
  exact fun hall => ht (hall t h)

/-- A join has text as soon as its first piece has. -/
theorem text_join_cons_ne_empty (separator : String) {piece : Sql} (h : piece.text ≠ "")
    (pieces : List Sql) : (join separator (piece :: pieces)).text ≠ "" := by
  rw [Ne, text_eq_empty_iff, join, intercalate_cons, chars_append, List.append_eq_nil_iff]
  exact fun hnil => h (text_eq_empty_iff.2 hnil.1)

@[simp] theorem keywords_nil : keywords [] = [] := rfl

@[simp] theorem keywords_cons (t : Token) (sql : Sql) :
    keywords (t :: sql) = t.keywords ++ keywords sql := rfl

@[simp] theorem keywords_append (a b : Sql) : keywords (a ++ b) = keywords a ++ keywords b :=
  List.flatMap_append

theorem keywords_join {separator : String} (hs : (Token.word separator).keywords = [])
    {pieces : List Sql} (h : ∀ piece ∈ pieces, piece.keywords = []) :
    (join separator pieces).keywords = [] := by
  cases pieces with
  | nil => rfl
  | cons piece pieces =>
    obtain ⟨hpiece, hpieces⟩ := List.forall_mem_cons.1 h
    rw [join, intercalate_cons, keywords_append, hpiece, List.nil_append, keywords,
      List.flatMap_assoc, List.flatMap_eq_nil_iff]
    intro piece' hmem
    rw [List.flatMap_cons, hs, List.nil_append]
    exact hpieces piece' hmem

end Sql

namespace Token

@[simp] theorem keywords_ofText (text : String) : (ofText text).keywords = [] := by
  unfold ofText
  cases Name.parse text <;> rfl

@[simp] theorem keywords_slot : slot.keywords = [] := rfl

@[simp] theorem keywords_raw (s : String) : (raw s).keywords = [] := rfl

@[simp] theorem keywords_name (n : Name) : (name n).keywords = [] := rfl

@[simp] theorem keywords_number (n : Int) : (number n).keywords = [] := rfl

end Token

/-! ## Fragments -/

namespace Draft

/-- A draft for the body of a clause: it has text if there is something to say, and no keyword. -/
structure IsFragment (d : Draft) (given : Bool) : Prop where
  isEmpty_eq : d.isEmpty = !given
  text_eq_empty_iff : d.sql.text = "" ↔ given = false
  keywords_eq : d.sql.keywords = []

theorem isFragment_nil : IsFragment [] false := ⟨rfl, ⟨fun _ => rfl, fun _ => rfl⟩, rfl⟩

theorem IsFragment.of_text_ne {d : Draft} (htext : d.sql.text ≠ "") (hd : d.sql.keywords = []) :
    d.IsFragment true := by
  refine ⟨?_, ⟨fun h => absurd h htext, nofun⟩, hd⟩
  cases d with
  | nil => exact absurd rfl htext
  | cons piece d => rfl

theorem IsFragment.sql_clause {d : Draft} {given : Bool} (h : d.IsFragment given)
    (keyword : String) :
    (clause keyword d).sql = if given then .word keyword :: d.sql else [] := by
  rw [clause, h.isEmpty_eq]
  cases given <;> rfl

theorem IsFragment.keywords_clause {d : Draft} {given : Bool} (h : d.IsFragment given)
    (keyword : String) :
    (clause keyword d).sql.keywords = if given then (Token.word keyword).keywords else [] := by
  rw [h.sql_clause]
  split
  · rw [Sql.keywords_cons, h.keywords_eq, List.append_nil]
  · rfl

theorem keywords_clause {keyword : String} (hk : (Token.word keyword).keywords = [])
    {d : Draft} (h : d.sql.keywords = []) : (clause keyword d).sql.keywords = [] := by
  rw [clause]
  split
  · rfl
  · rw [sql_cons, toToken_word, Sql.keywords_cons, hk, h]
    rfl

theorem keywords_join {separator : String} (hs : (Token.word separator).keywords = [])
    {drafts : List Draft} (h : ∀ d ∈ drafts, d.sql.keywords = []) :
    (join separator drafts).sql.keywords = [] := by
  rw [sql_join]
  exact Sql.keywords_join hs (List.forall_mem_map.2 h)

@[simp] theorem keywords_names (texts : List String) : (names texts).sql.keywords = [] :=
  keywords_join (by decide) (List.forall_mem_map.2 fun text _ => by simp)

@[simp] theorem keywords_slots (vs : List Value) : (slots vs).sql.keywords = [] :=
  keywords_join (by decide) (List.forall_mem_map.2 fun v _ => rfl)

theorem keywords_parenthesised {d : Draft} (h : d.sql.keywords = []) :
    (parenthesised d).sql.keywords = [] := by
  simp +decide [parenthesised, h]

/-- A disjunction of fragments that have text has text, unless it is one of none. -/
theorem isFragment_disjunction {ds : List Draft} (h : ∀ d ∈ ds, d.IsFragment true) :
    (disjunction ds).IsFragment (!ds.isEmpty) := by
  match ds with
  | [] => exact isFragment_nil
  | [d] => exact h d List.mem_cons_self
  | d :: e :: ds =>
    refine .of_text_ne ?_ (keywords_join (by decide) (List.forall_mem_map.2 fun d hd =>
      keywords_parenthesised (h d hd).keywords_eq))
    have hopen : Token.word "(" ∈ (parenthesised d).sql := List.mem_cons_self
    show (join " OR " ((d :: e :: ds).map parenthesised)).sql.text ≠ ""
    rw [List.map_cons, sql_join, List.map_cons]
    exact Sql.text_join_cons_ne_empty _ (Sql.text_ne_empty_of_mem hopen (by decide)) _

end Draft

namespace Op

theorem keywords_comparisonDraft {operator : String}
    (h : (Token.word (" " ++ operator ++ " ")).keywords = []) (column : String) (v : Value) :
    (comparisonDraft column operator v).sql.keywords = [] := by
  simp [comparisonDraft, h]

theorem keywords_membershipDraft {operator constant : String}
    (h : (Token.word (" " ++ operator ++ " (")).keywords = [])
    (hc : (Token.word constant).keywords = []) (column : String) (vs : List Value) :
    (membershipDraft column operator constant vs).sql.keywords = [] := by
  rw [membershipDraft]
  split
  · simp [hc]
  · simp +decide [h]

theorem keywords_draft (column : String) (op : Op) : (op.draft column).sql.keywords = [] := by
  cases op with
  | eq v | ne v | gt v | gte v | lt v | lte v | like v | notLike v =>
    exact keywords_comparisonDraft (by decide) column v
  | oneOf vs | noneOf vs => exact keywords_membershipDraft (by decide) (by decide) column vs
  | between low high => simp +decide [draft]
  | isNull b => cases b <;> simp +decide [draft]

/-- Every operator writes a word or a placeholder. -/
theorem text_draft_ne_empty (column : String) (op : Op) : (op.draft column).sql.text ≠ "" := by
  cases op with
  | eq v | ne v | gt v | gte v | lt v | lte v | like v | notLike v | between low high =>
    exact Sql.text_ne_empty_of_mem
      (List.mem_cons_of_mem _ (List.mem_cons_of_mem _ List.mem_cons_self))
      (List.cons_ne_nil '?' [])
  | oneOf vs | noneOf vs =>
    cases vs with
    | nil => exact Sql.text_ne_empty_of_mem List.mem_cons_self (by decide)
    | cons v vs =>
      have hclose (operator constant : String) :
          Token.word ")" ∈ (membershipDraft column operator constant (v :: vs)).sql := by
        simp [membershipDraft]
      exact Sql.text_ne_empty_of_mem (hclose _ _) (by decide)
  | isNull b =>
    cases b <;>
      exact Sql.text_ne_empty_of_mem (List.mem_cons_of_mem _ List.mem_cons_self) (by decide)

end Op

namespace Conditions

theorem constrains_eq (c : Conditions) : c.constrains = !c.predicates.isEmpty := by
  rw [constrains, predicates]
  induction c.entries with
  | nil => rfl
  | cons e es ih =>
    rw [List.any_cons, List.flatMap_cons, ih]
    cases e.2 with
    | scalar v => rfl
    | operators os =>
      rw [Constraint.constrains, Operators.isEmpty, Constraint.ops]
      cases os.toList <;> rfl

/-- Conditions leave text exactly if they constrain something. -/
theorem isFragment_draft (c : Conditions) : c.draft.IsFragment c.constrains := by
  have hkeywords : c.draft.sql.keywords = [] := by
    refine Draft.keywords_join (by decide) fun d hd => ?_
    rw [atomDrafts_eq] at hd
    obtain ⟨p, -, rfl⟩ := List.mem_map.1 hd
    exact Op.keywords_draft p.1 p.2
  cases hc : c.constrains with
  | false =>
    have hnil : c.draft = [] := by
      rw [← List.isEmpty_iff, isEmpty_draft, ← Bool.not_eq_false', ← constrains_eq, hc]
    rw [hnil]
    exact Draft.isFragment_nil
  | true =>
    refine .of_text_ne ?_ hkeywords
    rw [constrains_eq] at hc
    rw [draft, atomDrafts_eq, Draft.sql_join]
    cases hp : c.predicates with
    | nil => rw [hp] at hc; cases hc
    | cons p ps => exact Sql.text_join_cons_ne_empty _ (Op.text_draft_ne_empty p.1 p.2) _

end Conditions

namespace Filter

theorem isEmpty_effective (f : Filter) :
    f.effective.isEmpty = !Conditions.anyConstrains f.conditions := by
  rw [effective, Conditions.anyConstrains]
  induction f.conditions with
  | nil => rfl
  | cons c cs ih =>
    rw [List.filter_cons, List.any_cons, ← Conditions.constrains_eq]
    cases c.constrains with
    | true => rfl
    | false => exact ih

theorem isFragment_draft (f : Filter) :
    f.draft.IsFragment (Conditions.anyConstrains f.conditions) := by
  have hall : ∀ d ∈ f.fragments, d.IsFragment true := by
    intro d hd
    rw [fragments_eq] at hd
    obtain ⟨c, hc, rfl⟩ := List.mem_map.1 hd
    have hconstrains := (List.mem_filter.1 hc).2
    rw [← Conditions.constrains_eq] at hconstrains
    rw [← hconstrains]
    exact c.isFragment_draft
  have hfragment := Draft.isFragment_disjunction hall
  rwa [fragments_eq, List.isEmpty_map, isEmpty_effective, Bool.not_not, ← fragments_eq] at hfragment

end Filter

/-! ## What is joined -/

/-- What ends a trace that succeeds could be anything. -/
theorem eq_of_runOn_emit {α : Type} {steps : List Step} {a b : α} {p q : Params}
    (h : (emit steps a).runOn p = (.ok b, q)) :
    b = a ∧ ∀ {β : Type} (x : β), (emit steps x).runOn p = (.ok x, q) := by
  rw [runOn_emit] at h
  cases hfault : Step.firstFault? steps with
  | some fault => rw [hfault] at h; cases h
  | none =>
    rw [hfault] at h
    cases h
    exact ⟨rfl, fun x => by rw [runOn_emit, hfault]⟩

theorem Op.runOn_mapM_render (column : String) (ops : List Op) (p : Params) :
    ((ops.mapM (Op.render (.ofText column))).runOn p).1 =
      .ok (ops.map fun op => (op.draft column).sql) := by
  have hnames : Step.names (ops.flatMap fun op => Step.binds op.operands) = [] := by
    rw [Step.names_flatMap, List.flatMap_eq_nil_iff]
    exact fun op _ => Step.names_binds _
  rw [mapM_emit ops _ _ _ fun op _ => Op.render_eq_emit column op, runOn_emit, Step.firstFault?_eq,
    hnames]
  rfl

namespace Operators

theorem leavesText (os : Operators) : os.LeavesText where
  isEmpty_iff := by
    rw [isEmpty, List.isEmpty_iff, List.eq_nil_iff_forall_not_mem]
  isEmpty_eq_equals := by
    rw [isEmpty, equals]
    cases os.toList <;> rfl
  isEmpty_set op := by
    show (setOp op os.toList).isEmpty = false
    cases os.toList with
    | nil => rfl
    | cons o ops =>
      rw [setOp]
      split
      · rfl
      · split <;> rfl
  fragment column p := by
    refine ⟨_, Op.runOn_mapM_render column os.toList p, ?_⟩
    rw [isEmpty]
    cases os.toList with
    | nil => exact ⟨fun _ => rfl, fun _ => rfl⟩
    | cons op ops =>
      have hne := Sql.text_join_cons_ne_empty " AND " (op.text_draft_ne_empty column)
        (ops.map fun op => (op.draft column).sql)
      exact ⟨fun h => absurd h hne, fun h => Bool.noConfusion h⟩

end Operators

namespace Conditions

theorem constrains_eq_false_iff {c : Conditions} : c.constrains = false ↔
    ∀ e ∈ c.entries, ∃ os : Operators, e.2 = .operators os ∧ os.isEmpty = true := by
  rw [constrains, List.any_eq_false]
  refine forall₂_congr fun e _ => ?_
  cases e.2 with
  | scalar v => exact ⟨fun h => absurd rfl h, nofun⟩
  | operators os => simp [Constraint.constrains]

theorem leavesText (c : Conditions) : c.LeavesText where
  compile hcolumns := by
    have hfault : Step.firstFault? c.steps = none := Entries.firstFault?_steps_eq_none_iff.2 hcolumns
    refine ⟨⟨c.draft.sql.text, Step.values c.steps⟩, ?_, ?_⟩
    · rw [Conditions.compile, render_eq_emit, statement_emit, hfault]
    · exact c.isFragment_draft.text_eq_empty_iff.trans constrains_eq_false_iff
  joined p sql q h := by
    rw [render_eq_emit] at h
    obtain ⟨rfl, hemit⟩ := eq_of_runOn_emit h
    refine ⟨c.atomDrafts.map Draft.sql, ?_, Draft.sql_join _ _, ?_⟩
    · rw [atoms_eq_emit]
      exact hemit _
    · rw [atomDrafts_eq, List.map_map]
      exact List.forall_mem_map.2 fun p _ => p.2.text_draft_ne_empty p.1

end Conditions

theorem Filter.joinsTexts (f : Filter) : f.JoinsTexts := by
  intro p sql q h
  rw [render_eq_emit] at h
  obtain ⟨rfl, hemit⟩ := eq_of_runOn_emit h
  refine ⟨(f.conditions.map Conditions.draft).map Draft.sql, ?_, ?_, ?_⟩
  · rw [mapM_render_eq_emit]
    exact hemit _
  · rw [draft, Draft.sql_disjunction, fragments, List.filter_map, List.filter_map, List.filter_map,
      List.map_map, List.map_map]
    congr 2
    refine List.filter_congr fun c _ => ?_
    have hc := c.isFragment_draft
    show (!c.draft.isEmpty) = decide (c.draft.sql.text ≠ "")
    rw [hc.isEmpty_eq, Bool.not_not, Bool.eq_iff_iff, decide_eq_true_iff, Ne,
      hc.text_eq_empty_iff, Bool.not_eq_false]
  · rw [List.map_map, List.forall₂_map_right_iff, List.forall₂_same]
    exact fun c _ => c.isFragment_draft.text_eq_empty_iff

end TypedSql
