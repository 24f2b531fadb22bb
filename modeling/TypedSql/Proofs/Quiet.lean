import TypedSql.Proofs.Request

/-!
# Quiet drafts

A draft is quiet when the words that the library writes into it hold no quotes and
no question marks, and it has only the expressions that `P` accepts.  Quotes and
question marks of its text then come from names, placeholders and such
expressions alone, which is what scanners for quotes need to know.

    r.draft? = some d → (∀ e, r.expression? = some e → P e) → d.IsQuiet P    (Request.isQuiet)
-/

namespace TypedSql

/-- A character that neither opens a quote nor is a placeholder. -/
def isPlain (c : Char) : Bool := c != '"' && c != '\x27' && c != '?'

def isPlainText (s : String) : Bool := s.toList.all isPlain

@[simp] theorem isPlainText_append (s t : String) :
    isPlainText (s ++ t) = (isPlainText s && isPlainText t) := by
  simp [isPlainText]

/-- A number is written with digits and a sign. -/
theorem isPlain_number (n : Int) : (Token.number n).chars.all isPlain = true := by
  have hdigits : ∀ k : Nat, k.repr.toList.all isPlain = true := by
    intro k
    rw [Nat.toList_repr, List.all_eq_true]
    intro c hc
    have hdigit : c.isDigit = true := Nat.isDigit_of_mem_toDigits (by decide) (by decide) hc
    simp only [isPlain, Bool.and_eq_true, bne_iff_ne]
    refine ⟨⟨?_, ?_⟩, ?_⟩ <;> rintro rfl <;> exact absurd hdigit (by decide)
  show (toString n).toList.all isPlain = true
  rw [Int.toString_eq_repr, Int.repr_eq_if]
  split
  · exact hdigits _
  · rw [String.toList_append, List.all_append, hdigits]
    decide

/-! ## Quoted parts -/

/-- A scanner with two states, one outside and one inside double quotes: `T q cs q'`
says that it takes no notice of `cs` and comes from `q` to `q'`. -/
structure IsQuoteToggle {σ : Type} (T : σ → List Char → σ → Prop) (out inside : σ) : Prop where
  nil : ∀ q, T q [] q
  append : ∀ q q' q'' a b, T q a q' → T q' b q'' → T q (a ++ b) q''
  opens : T out ['"'] inside
  closes : T inside ['"'] out
  keeps : ∀ c, c ≠ '"' → T inside [c] inside

/-- A quote of a part is doubled, so the scanner is inside again behind it, and no part
can be seen from outside. -/
theorem IsQuoteToggle.partChars {σ : Type} {T : σ → List Char → σ → Prop} {out inside : σ}
    (h : IsQuoteToggle T out inside) (part : String) : T out (Ident.partChars part) out := by
  have hchar : ∀ c, T inside (Ident.partChar c) inside := by
    intro c
    rw [Ident.partChar]
    split
    · exact h.append _ _ _ ['"'] ['"'] h.closes h.opens
    · next hne => exact h.keeps c hne
  have hchars : ∀ cs : List Char, T inside (cs.flatMap Ident.partChar) inside := by
    intro cs
    induction cs with
    | nil => exact h.nil inside
    | cons c cs ih => exact h.append _ _ _ _ _ (hchar c) ih
  exact h.append _ _ _ _ _ (h.append _ _ _ ['"'] _ h.opens (hchars part.toList)) h.closes

/-! ## Quiet pieces -/

def Piece.IsQuiet (P : String → Prop) : Piece → Prop
  | token (.word s) => isPlainText s
  | token (.number _) | token (.name _) => True
  | token .slot => False
  | token (.raw e) => P e
  | name _ | slot _ => True

namespace Piece

variable {P : String → Prop}

@[simp] theorem isQuiet_word (s : String) :
    (word s).IsQuiet P ↔ isPlainText s = true := Iff.rfl

@[simp] theorem isQuiet_token_word (s : String) :
    (token (.word s)).IsQuiet P ↔ isPlainText s = true := Iff.rfl

@[simp] theorem isQuiet_token_number (n : Int) : (token (.number n)).IsQuiet P := trivial

@[simp] theorem isQuiet_token_name (n : Name) : (token (.name n)).IsQuiet P := trivial

@[simp] theorem isQuiet_token_raw (e : String) : (token (.raw e)).IsQuiet P ↔ P e := Iff.rfl

@[simp] theorem isQuiet_name (text : String) : (name text).IsQuiet P := trivial

@[simp] theorem isQuiet_slot (v : Value) : (slot v).IsQuiet P := trivial

end Piece

namespace Draft

def IsQuiet (P : String → Prop) (d : Draft) : Prop := ∀ piece ∈ d, piece.IsQuiet P

variable {P : String → Prop}

@[simp] theorem isQuiet_nil : IsQuiet P [] := fun _ h => absurd h List.not_mem_nil

@[simp] theorem isQuiet_cons (piece : Piece) (d : Draft) :
    IsQuiet P (piece :: d) ↔ piece.IsQuiet P ∧ IsQuiet P d := by
  simp only [IsQuiet, List.forall_mem_cons]

@[simp] theorem isQuiet_append (a b : Draft) : IsQuiet P (a ++ b) ↔ IsQuiet P a ∧ IsQuiet P b := by
  simp only [IsQuiet, List.forall_mem_append]

theorem isQuiet_join {separator : String} {drafts : List Draft}
    (hs : isPlainText separator = true) (h : ∀ d ∈ drafts, IsQuiet P d) :
    IsQuiet P (join separator drafts) := by
  induction drafts with
  | nil => exact isQuiet_nil
  | cons d drafts ih =>
    have hd := h d List.mem_cons_self
    have ih := ih fun e he => h e (List.mem_cons_of_mem _ he)
    cases drafts with
    | nil => simpa [join] using hd
    | cons e drafts =>
      rw [join, List.intercalate_cons_cons, isQuiet_append, isQuiet_append, isQuiet_cons]
      exact ⟨⟨hd, hs, isQuiet_nil⟩, ih⟩

theorem isQuiet_clause {keyword : String} {d : Draft} (hk : isPlainText keyword = true)
    (h : IsQuiet P d) : IsQuiet P (clause keyword d) := by
  cases d with
  | nil => exact isQuiet_nil
  | cons piece d => exact (isQuiet_cons _ _).2 ⟨hk, h⟩

theorem isQuiet_names (texts : List String) : IsQuiet P (names texts) := by
  refine isQuiet_join (by decide) fun d hd => ?_
  obtain ⟨text, -, rfl⟩ := List.mem_map.1 hd
  exact (isQuiet_cons _ _).2 ⟨trivial, isQuiet_nil⟩

theorem isQuiet_slots (vs : List Value) : IsQuiet P (slots vs) := by
  refine isQuiet_join (by decide) fun d hd => ?_
  obtain ⟨v, -, rfl⟩ := List.mem_map.1 hd
  exact (isQuiet_cons _ _).2 ⟨trivial, isQuiet_nil⟩

theorem isQuiet_parenthesised {d : Draft} (h : IsQuiet P d) : IsQuiet P (parenthesised d) := by
  simp +decide [parenthesised, h]

theorem isQuiet_disjunction {ds : List Draft} (h : ∀ d ∈ ds, IsQuiet P d) :
    IsQuiet P (disjunction ds) := by
  match ds with
  | [] => exact isQuiet_nil
  | [d] => exact h d List.mem_cons_self
  | d :: e :: ds =>
    refine isQuiet_join (by decide) fun x hx => ?_
    obtain ⟨y, hy, rfl⟩ := List.mem_map.1 hx
    exact isQuiet_parenthesised (h y hy)

end Draft

open Draft

variable {P : String → Prop}

/-! ## Filters -/

namespace Op

theorem isQuiet_comparisonDraft {operator : String} (h : isPlainText operator = true)
    (column : String) (v : Value) : IsQuiet P (comparisonDraft column operator v) := by
  simp +decide [comparisonDraft, h]

theorem isQuiet_membershipDraft {operator constant : String}
    (h : isPlainText operator = true) (hc : isPlainText constant = true)
    (column : String) (vs : List Value) :
    IsQuiet P (membershipDraft column operator constant vs) := by
  rw [membershipDraft]
  split
  · simp [hc]
  · simp +decide [h, isQuiet_slots]

theorem isQuiet_draft (column : String) (op : Op) : IsQuiet P (op.draft column) := by
  cases op with
  | eq v | ne v | gt v | gte v | lt v | lte v | like v | notLike v =>
    exact isQuiet_comparisonDraft (by decide) column v
  | oneOf vs | noneOf vs => exact isQuiet_membershipDraft (by decide) (by decide) column vs
  | between low high => simp +decide [draft]
  | isNull b => cases b <;> simp +decide [draft]

end Op

theorem Conditions.isQuiet_draft (c : Conditions) : IsQuiet P c.draft := by
  refine isQuiet_join (by decide) fun d hd => ?_
  obtain ⟨e, -, hd⟩ := List.mem_flatMap.1 hd
  obtain ⟨op, -, rfl⟩ := List.mem_map.1 hd
  exact Op.isQuiet_draft e.1 op

theorem Filter.isQuiet_draft (f : Filter) : IsQuiet P f.draft := by
  refine isQuiet_disjunction fun d hd => ?_
  obtain ⟨c, -, rfl⟩ := List.mem_map.1 (List.mem_of_mem_filter hd)
  exact Conditions.isQuiet_draft c

/-! ## Builders -/

theorem isQuiet_orderDraft (keys : List SortKey) : IsQuiet P (orderDraft keys) := by
  refine isQuiet_clause (by decide) (isQuiet_join (by decide) fun d hd => ?_)
  obtain ⟨k, -, rfl⟩ := List.mem_map.1 hd
  cases hd : k.direction <;> simp +decide [SortKey.draft, hd]

theorem Bounds.isQuiet_sql (b : Bounds) : IsQuiet P (Draft.ofSql b.sql) := by
  unfold Bounds.sql
  split <;> simp +decide [Draft.ofSql]

theorem isQuiet_named (name : String) : IsQuiet P (Draft.ofSql (Sql.named name)) := by
  simp +decide [Draft.ofSql, Sql.named]

namespace Scope

theorem isQuiet_draft (s : Scope) (table : String) : IsQuiet P (s.draft table) := by
  have hfilter : IsQuiet P (clause " WHERE " s.filter.draft) :=
    isQuiet_clause (by decide) s.filter.isQuiet_draft
  rw [draft]
  split
  · exact hfilter
  · simp +decide [nestedDraft, hfilter, isQuiet_orderDraft, Bounds.isQuiet_sql]

end Scope

namespace Select

theorem isQuiet_columnDraft (q : Select) (h : ∀ e, q.expression = some e → P e) :
    IsQuiet P q.columnDraft := by
  rw [columnDraft]
  cases he : q.expression with
  | some e => simpa using h e he
  | none =>
    simp only
    split
    · simp
    · exact isQuiet_names _

theorem isQuiet_groupDraft (q : Select) : IsQuiet P q.groupDraft :=
  isQuiet_clause (by decide) (isQuiet_names _)

theorem isQuiet_draft (q : Select) (h : ∀ e, q.expression = some e → P e) :
    IsQuiet P q.draft := by
  have hfilter : IsQuiet P (clause " WHERE " q.filter.draft) :=
    isQuiet_clause (by decide) q.filter.isQuiet_draft
  have hhaving : IsQuiet P (clause " HAVING " q.having.draft) :=
    isQuiet_clause (by decide) q.having.isQuiet_draft
  have hdistinct : IsQuiet P (if q.distinct then [.word "DISTINCT "] else []) := by
    split <;> simp +decide
  simp +decide [draft, hdistinct, q.isQuiet_columnDraft h, hfilter, q.isQuiet_groupDraft, hhaving,
    isQuiet_orderDraft, Bounds.isQuiet_sql]

theorem isQuiet_existsDraft (q : Select) (h : ∀ e, q.expression = some e → P e) :
    IsQuiet P q.existsDraft := by
  simp +decide [existsDraft, q.isQuiet_draft h, isQuiet_named]

theorem isQuiet_countDraft (q : Select) : IsQuiet P q.countDraft := by
  have hfilter : IsQuiet P (clause " WHERE " q.filter.base.draft) :=
    isQuiet_clause (by decide) q.filter.base.isQuiet_draft
  simp +decide [countDraft, isQuiet_named, hfilter]

theorem isQuiet_aggregateDraft (q : Select) (f : Aggregate) (column : String) :
    IsQuiet P (q.aggregateDraft f column) := by
  have hfilter : IsQuiet P (clause " WHERE " q.filter.base.draft) :=
    isQuiet_clause (by decide) q.filter.base.isQuiet_draft
  have hword : isPlainText f.word = true := by cases f <;> decide
  simp +decide [aggregateDraft, hword, isQuiet_named, hfilter, q.isQuiet_groupDraft]

end Select

namespace Insert

theorem isQuiet_draft (q : Insert) : IsQuiet P q.draft := by
  have hword : isPlainText q.conflict.keyword = true := by cases q.conflict <;> decide
  rw [draft]
  split
  · simp +decide [hword]
  · simp +decide [hword, isQuiet_names, isQuiet_slots]

theorem isQuiet_preconditionDraft (q : Insert) (c : Conditions) :
    IsQuiet P (q.preconditionDraft c) := by
  have hfilter : IsQuiet P (clause " WHERE " c.draft) :=
    isQuiet_clause (by decide) c.isQuiet_draft
  simp +decide [preconditionDraft, hfilter, isQuiet_named]

end Insert

theorem Update.isQuiet_draft (q : Update) : IsQuiet P q.draft := by
  have hassignments : IsQuiet P (Draft.join ", " q.payload.assignmentDrafts) := by
    refine isQuiet_join (by decide) fun d hd => ?_
    obtain ⟨e, -, rfl⟩ := List.mem_map.1 hd
    simp +decide
  simp +decide [draft, hassignments, Scope.isQuiet_draft]

theorem Delete.isQuiet_draft (q : Delete) : IsQuiet P q.draft := by
  simp +decide [draft, Scope.isQuiet_draft]

namespace Request

/-- The expression that stands in the statement in the place of the columns. -/
def expression? : Request → Option String
  | rows q | existence q => q.expression
  | _ => none

theorem isQuiet {r : Request} {d : Draft} (hd : r.draft? = some d)
    (h : ∀ e, r.expression? = some e → P e) : d.IsQuiet P := by
  cases r with
  | rows q => cases hd; exact q.isQuiet_draft h
  | existence q => cases hd; exact q.isQuiet_existsDraft h
  | count q => cases hd; exact q.isQuiet_countDraft
  | aggregate q f column => cases hd; exact q.isQuiet_aggregateDraft f column
  | insert q => cases hd; exact q.isQuiet_draft
  | precondition q =>
    obtain ⟨c, -, rfl⟩ := Option.map_eq_some_iff.1 hd
    exact q.isQuiet_preconditionDraft c
  | update q => cases hd; exact q.isQuiet_draft
  | delete q => cases hd; exact q.isQuiet_draft

end Request

end TypedSql
