import TypedSql.Proofs.Meaning
import TypedSql.Proofs.NameGrammar

/-!
# The lexemes of a filter

The text of a filter is divided into the lexemes of its operators, keywords and
parentheses, whatever its columns are called, and every placeholder takes the value
that stands there in the draft:

    f.HasColumns → f.draft.Reads f.lexemes                        (Filter.reads_draft)

`Reads` allows that a lexeme is still open at the end of a text, such as an identifier
whose quote could be a doubled one; what follows it then has to start at a boundary.
-/

namespace TypedSql

/-! ## Scanning -/

namespace Scanner

/-- A character with which no lexeme goes on but an open identifier. -/
def isBoundary (c : Char) : Bool :=
  c != '"' && c != '=' && c != '>' && !c.isAlpha && !c.isDigit

/-- `cs` is divided into `new`, whose placeholders take the values `taken`. -/
def Reads (cs : List Char) (taken : List Value) (new : List Lexeme) : Prop :=
  ∀ vs ls, ∃ s, run ⟨taken ++ vs, ls, .blank⟩ cs = some s ∧ s.values = vs ∧
    s.done? = some (ls ++ new)

/-- Moreover no lexeme is open behind `cs`. -/
def Completes (cs : List Char) (taken : List Value) (new : List Lexeme) : Prop :=
  ∀ vs ls, run ⟨taken ++ vs, ls, .blank⟩ cs = some ⟨vs, ls ++ new, .blank⟩

variable {a b : List Char} {va vb : List Value} {la lb : List Lexeme}

theorem run_append (s : Scanner) (a b : List Char) :
    run s (a ++ b) = (run s a).bind fun s => run s b := List.foldlM_append

/-- At a boundary the lexeme that is being read ends. -/
theorem step_boundary {s : Scanner} {c : Char} (hc : isBoundary c = true)
    (hs : s.done? = some la) : step s c = step ⟨s.values, la, .blank⟩ c := by
  simp only [isBoundary, Bool.and_eq_true, bne_iff_ne, Bool.not_eq_true'] at hc
  obtain ⟨⟨⟨⟨hquote, heq⟩, hgt⟩, halpha⟩, hdigit⟩ := hc
  obtain ⟨vs, ls, reading⟩ := s
  show _ = start vs la c
  have hstart : (done? ⟨vs, ls, reading⟩).bind (start vs · c) = start vs la c := by
    rw [hs, Option.bind_some]
  cases reading with
  | blank =>
    have hla : ls ++ [] = la := Option.some.inj hs
    rw [List.append_nil] at hla
    rw [← hla]
    rfl
  | quoted cs => cases hs
  | closing cs =>
    rw [← hstart]
    exact if_neg hquote
  | letters cs =>
    rw [← hstart]
    exact if_neg (by rw [halpha]; decide)
  | digits n =>
    rw [← hstart]
    exact if_neg (by rw [hdigit]; decide)
  | sign d =>
    rw [← hstart]
    simp only [step]
    split <;> first | exact absurd rfl heq | exact absurd rfl hgt | rfl

theorem run_boundary {s : Scanner} (hs : s.done? = some la)
    (hb : b.head?.any isBoundary = true) : run s b = run ⟨s.values, la, .blank⟩ b := by
  cases b with
  | nil => cases hb
  | cons c cs =>
    show (step s c).bind _ = (step _ c).bind _
    rw [step_boundary hb hs]

/-! ### Rules -/

theorem Completes.nil : Completes [] [] [] := fun vs ls => by
  rw [List.append_nil]
  rfl

theorem Completes.reads (h : Completes a va la) : Reads a va la := by
  intro vs ls
  refine ⟨_, h vs ls, rfl, ?_⟩
  show some ((ls ++ la) ++ []) = _
  rw [List.append_nil]

theorem Completes.append (ha : Completes a va la) (hb : Reads b vb lb) :
    Reads (a ++ b) (va ++ vb) (la ++ lb) := by
  intro vs ls
  obtain ⟨s, hs, hvalues, hdone⟩ := hb vs (ls ++ la)
  refine ⟨s, ?_, hvalues, by rw [hdone, List.append_assoc]⟩
  rw [run_append, List.append_assoc, ha (vb ++ vs) ls, Option.bind_some, hs]

/-- The lexemes behind `ls` after `new` has been read one by one, as the scanner reads
a fixed text. -/
def push (ls new : List Lexeme) : List Lexeme := new.foldl (fun ls l => ls ++ [l]) ls

theorem push_eq_append (ls new : List Lexeme) : push ls new = ls ++ new := by
  induction new generalizing ls with
  | nil => exact (List.append_nil ls).symm
  | cons l new ih =>
    show push (ls ++ [l]) new = _
    rw [ih, List.append_assoc, List.singleton_append]

theorem Completes.of_push
    (h : ∀ vs ls, run ⟨va ++ vs, ls, .blank⟩ a = some ⟨vs, push ls la, .blank⟩) :
    Completes a va la := by
  intro vs ls
  rw [h, push_eq_append]

theorem Reads.of_push (h : ∀ vs ls, ∃ s, run ⟨va ++ vs, ls, .blank⟩ a = some s ∧
    s.values = vs ∧ s.done? = some (push ls la)) : Reads a va la := by
  intro vs ls
  rw [← push_eq_append]
  exact h vs ls

/-- What stands in front of a boundary need not be complete. -/
theorem Reads.append (ha : Reads a va la) (hb : Reads b vb lb)
    (hhead : b.head?.any isBoundary = true) : Reads (a ++ b) (va ++ vb) (la ++ lb) := by
  intro vs ls
  obtain ⟨s, hs, hvalues, hdone⟩ := ha (vb ++ vs) ls
  obtain ⟨t, ht, htvalues, htdone⟩ := hb vs (ls ++ la)
  refine ⟨t, ?_, htvalues, by rw [htdone, List.append_assoc]⟩
  rw [run_append, List.append_assoc, hs, Option.bind_some, run_boundary hdone hhead, hvalues, ht]

theorem Reads.append_completes (ha : Reads a va la) (hb : Completes b vb lb)
    (hhead : b.head?.any isBoundary = true) : Completes (a ++ b) (va ++ vb) (la ++ lb) := by
  intro vs ls
  obtain ⟨s, hs, hvalues, hdone⟩ := ha (vb ++ vs) ls
  rw [run_append, List.append_assoc, hs, Option.bind_some, run_boundary hdone hhead, hvalues,
    hb vs (ls ++ la), List.append_assoc]

end Scanner

/-! ## Names -/

def Ident.lexemes (i : Ident) : List Lexeme :=
  [Lexeme.dot].intercalate (i.parts.map fun part => [.identifier part])

/-- A name that is not the star has a part. -/
theorem Ident.parts_ne_nil {text : String} {i : Ident} (h : Name.parse text = .ok (.ident i)) :
    i.parts ≠ [] := by
  rcases Name.plain_or_spelling h with ⟨-, -, rfl⟩ | hspelled
  · exact List.cons_ne_nil _ _
  · exact hspelled.parts_ne_nil

namespace Scanner

/-- Inside the quotes a character is read as it stands, and a doubled quote as one. -/
theorem run_partChar (vs : List Value) (ls : List Lexeme) (acc cs : List Char) :
    run ⟨vs, ls, .quoted acc⟩ (cs.flatMap Ident.partChar) = some ⟨vs, ls, .quoted (acc ++ cs)⟩ := by
  induction cs generalizing acc with
  | nil =>
    rw [List.append_nil]
    rfl
  | cons c cs ih =>
    have hc : run ⟨vs, ls, .quoted acc⟩ (Ident.partChar c) =
        some ⟨vs, ls, .quoted (acc ++ [c])⟩ := by
      rw [Ident.partChar]
      split
      · next heq =>
        rw [heq]
        rfl
      · next hne =>
        show (if c = '"' then _ else _ : Option Scanner).bind _ = _
        rw [if_neg hne]
        rfl
    rw [List.flatMap_cons, run_append, hc, Option.bind_some, ih, List.append_assoc,
      List.singleton_append]

theorem reads_partChars (part : String) :
    Reads (Ident.partChars part) [] [.identifier part] := by
  intro vs ls
  refine ⟨⟨vs, ls, .closing part.toList⟩, ?_, rfl, ?_⟩
  · show run ⟨vs, ls, .quoted []⟩ (part.toList.flatMap Ident.partChar ++ ['"']) = _
    rw [run_append, run_partChar, Option.bind_some]
    rfl
  · show some (ls ++ [.identifier (String.ofList part.toList)]) = _
    rw [String.ofList_toList]

theorem reads_ident {i : Ident} (h : i.parts ≠ []) : Reads i.chars [] i.lexemes := by
  rw [Ident.chars, Ident.lexemes]
  revert h
  induction i.parts with
  | nil => exact fun h => absurd rfl h
  | cons part parts ih =>
    intro _
    have hpart := reads_partChars part
    cases parts with
    | nil => simpa using hpart
    | cons part' parts =>
      have hdot : Completes ['.'] [] [.dot] := fun vs ls => rfl
      rw [List.map_cons, List.map_cons, List.intercalate_cons_cons, List.map_cons, List.map_cons,
        List.intercalate_cons_cons]
      exact (hpart.append_completes hdot rfl).append (ih (List.cons_ne_nil _ _))

theorem reads_name {text : String} {i : Ident} (h : Name.parse text = .ok (.ident i)) :
    Reads (Token.ofText text).chars [] i.lexemes := by
  have htoken : Token.ofText text = .name (.ident i) := by
    rw [Token.ofText, h]
  rw [htoken]
  exact reads_ident (Ident.parts_ne_nil h)

end Scanner

/-! ## Operators -/

namespace Draft

/-- The text of the draft is divided into `ls`, and every placeholder takes the value
that stands there. -/
abbrev Reads (d : Draft) (ls : List Lexeme) : Prop := Scanner.Reads d.sql.chars d.values ls

theorem reads_column {column : String} {i : Ident} {d : Draft} {ls : List Lexeme}
    (h : Name.parse column = .ok (.ident i)) (hd : d.Reads ls)
    (hhead : d.sql.chars.head?.any Scanner.isBoundary = true) :
    Draft.Reads (.name column :: d) (i.lexemes ++ ls) :=
  (Scanner.reads_name h).append hd hhead

theorem reads_join {separator : String} {sep : Lexeme}
    (hsep : Scanner.Completes separator.toList [] [sep])
    (hhead : separator.toList.head?.any Scanner.isBoundary = true)
    (xs : List (Draft × List Lexeme)) (h : ∀ x ∈ xs, x.1.Reads x.2) :
    (join separator (xs.map Prod.fst)).Reads ([sep].intercalate (xs.map Prod.snd)) := by
  induction xs with
  | nil => exact Scanner.Completes.nil.reads
  | cons x xs ih =>
    have hx := h x List.mem_cons_self
    have hxs := ih fun y hy => h y (List.mem_cons_of_mem _ hy)
    cases xs with
    | nil => simpa [join] using hx
    | cons y ys =>
      have hjoin := (Scanner.Reads.append_completes hx hsep hhead).append hxs
      have hcons : join separator ((x :: y :: ys).map Prod.fst) =
          x.1 ++ .word separator :: join separator ((y :: ys).map Prod.fst) := by
        rw [join, List.map_cons, List.map_cons, List.intercalate_cons_cons, List.append_assoc]
        rfl
      rw [hcons]
      show Draft.Reads _ ([sep].intercalate (x.2 :: y.2 :: ys.map Prod.snd))
      rw [List.intercalate_cons_cons]
      simpa only [Reads, sql_append, sql_cons, toToken_word, Sql.chars_append, Sql.chars_cons,
        Token.chars, values_append, values_cons_word, List.append_assoc, List.append_nil,
        List.map_cons] using hjoin

end Draft

namespace Op

/-- What an operator says of its column, in lexemes. -/
def predicateLexemes : Op → List Lexeme
  | eq v => [.comparison .eq, .value v]
  | ne v => [.comparison .ne, .value v]
  | gt v => [.comparison .gt, .value v]
  | gte v => [.comparison .ge, .value v]
  | lt v => [.comparison .lt, .value v]
  | lte v => [.comparison .le, .value v]
  | like v => [.keyword .like, .value v]
  | notLike v => [.keyword .not, .keyword .like, .value v]
  | oneOf vs =>
    [.keyword .inList, .leftParen] ++ [Lexeme.comma].intercalate (vs.map fun v => [.value v]) ++
      [.rightParen]
  | noneOf vs =>
    [.keyword .not, .keyword .inList, .leftParen] ++
      [Lexeme.comma].intercalate (vs.map fun v => [.value v]) ++ [.rightParen]
  | between low high => [.keyword .between, .value low, .keyword .and, .value high]
  | isNull true => [.keyword .is, .keyword .null]
  | isNull false => [.keyword .is, .keyword .not, .keyword .null]

def lexemes (column : Ident) : Op → List Lexeme
  | oneOf [] => [.number 1, .comparison .eq, .number 0]
  | noneOf [] => [.number 1, .comparison .eq, .number 1]
  | op => column.lexemes ++ op.predicateLexemes

theorem lexemes_of_ne (op : Op) (i : Ident) (hin : op ≠ .oneOf []) (hnot : op ≠ .noneOf []) :
    op.lexemes i = i.lexemes ++ op.predicateLexemes := by
  unfold lexemes
  split
  · exact absurd rfl hin
  · exact absurd rfl hnot
  · rfl

theorem atom_of_ne (op : Op) (i : Ident) (hin : op ≠ .oneOf []) (hnot : op ≠ .noneOf []) :
    op.atom i = .on i op := by
  unfold atom
  split
  · exact absurd rfl hin
  · exact absurd rfl hnot
  · rfl

theorem reads_slots (vs : List Value) :
    (Draft.slots vs).Reads ([Lexeme.comma].intercalate (vs.map fun v => [.value v])) := by
  have hjoin := Draft.reads_join (fun vs ls => rfl : Scanner.Completes ", ".toList [] [.comma]) rfl
    (vs.map fun v => ([Piece.slot v], [Lexeme.value v])) (by
      intro x hx
      obtain ⟨v, -, rfl⟩ := List.mem_map.1 hx
      exact Scanner.Completes.reads fun vs ls => rfl)
  rwa [List.map_map, List.map_map] at hjoin

theorem reads_membership {column operator constant : String} {i : Ident} {ls : List Lexeme}
    {v : Value} {vs : List Value} (h : Name.parse column = .ok (.ident i))
    (hopen : Scanner.Completes (" " ++ operator ++ " (").toList [] ls) :
    (membershipDraft column operator constant (v :: vs)).Reads (i.lexemes ++ (ls ++
      [Lexeme.comma].intercalate ((v :: vs).map fun v => [.value v]) ++ [.rightParen])) := by
  have hclose : Scanner.Completes ")".toList [] [.rightParen] := fun vs ls => rfl
  have hlist := (hopen.append (reads_slots (v :: vs))).append hclose.reads rfl
  refine Draft.reads_column (d := .word (" " ++ operator ++ " (") ::
    (Draft.slots (v :: vs) ++ [.word ")"])) h ?_ ?_
  · simpa [Draft.Reads, Token.chars] using hlist
  · simp only [Draft.sql_cons, Sql.chars_cons, Draft.toToken_word, Token.chars,
      String.toList_append]
    rfl

theorem reads_draft {column : String} {i : Ident} (h : Name.parse column = .ok (.ident i))
    (op : Op) : (op.draft column).Reads (op.lexemes i) := by
  cases op with
  | eq v | ne v | gt v | gte v | lt v | lte v | like v | notLike v | between low high =>
    exact Draft.reads_column h (Scanner.Completes.of_push fun vs ls => rfl).reads rfl
  | oneOf vs =>
    cases vs with
    | nil => exact Scanner.Reads.of_push fun vs ls => ⟨_, rfl, rfl, rfl⟩
    | cons v vs => exact reads_membership h (.of_push fun vs ls => rfl)
  | noneOf vs =>
    cases vs with
    | nil => exact Scanner.Reads.of_push fun vs ls => ⟨_, rfl, rfl, rfl⟩
    | cons v vs => exact reads_membership h (.of_push fun vs ls => rfl)
  | isNull b =>
    cases b <;>
      exact Draft.reads_column h (Scanner.Reads.of_push fun vs ls => ⟨_, rfl, rfl, rfl⟩) rfl

end Op

/-! ## The lexemes of a filter -/

namespace Conditions

def lexemes (c : Conditions) : List Lexeme :=
  [Lexeme.keyword .and].intercalate (c.predicates.map fun p => p.2.lexemes (.ofText p.1))

theorem atomDrafts_eq (c : Conditions) :
    c.atomDrafts = c.predicates.map fun p => p.2.draft p.1 := by
  rw [atomDrafts, predicates, List.map_flatMap]
  refine List.flatMap_congr fun e _ => ?_
  rw [List.map_map]
  rfl

theorem parse_of_mem_predicates {c : Conditions} (h : c.HasColumns) {p : String × Op}
    (hp : p ∈ c.predicates) : Name.parse p.1 = .ok (.ident (.ofText p.1)) := by
  obtain ⟨e, he, hpe⟩ := List.mem_flatMap.1 hp
  obtain ⟨op, -, rfl⟩ := List.mem_map.1 hpe
  exact Ident.parse_ofText (h e.1 (List.mem_map_of_mem he))

theorem reads_draft {c : Conditions} (h : c.HasColumns) : c.draft.Reads c.lexemes := by
  have hand : Scanner.Completes " AND ".toList [] [.keyword .and] := fun vs ls => rfl
  have hjoin := Draft.reads_join hand rfl
    (c.predicates.map fun p => (p.2.draft p.1, p.2.lexemes (.ofText p.1))) (by
      intro x hx
      obtain ⟨p, hp, rfl⟩ := List.mem_map.1 hx
      exact Op.reads_draft (parse_of_mem_predicates h hp) p.2)
  rw [List.map_map, List.map_map] at hjoin
  rw [draft, atomDrafts_eq]
  exact hjoin

/-- A mapping without predicates is the only one that leaves no text. -/
theorem isEmpty_draft (c : Conditions) : c.draft.isEmpty = c.predicates.isEmpty := by
  have hne : ∀ (column : String) (op : Op), op.draft column ≠ [] := by
    intro column op
    cases op with
    | oneOf vs | noneOf vs => cases vs <;> exact List.cons_ne_nil _ _
    | isNull b => cases b <;> exact List.cons_ne_nil _ _
    | _ => exact List.cons_ne_nil _ _
  rw [draft, atomDrafts_eq, Draft.join]
  cases c.predicates with
  | nil => rfl
  | cons p ps =>
    rw [List.map_cons, intercalate_cons]
    cases hp : p.2.draft p.1 with
    | nil => exact absurd hp (hne p.1 p.2)
    | cons piece d => rfl

end Conditions

namespace Filter

def parenthesisedLexemes (ls : List Lexeme) : List Lexeme := .leftParen :: ls ++ [.rightParen]

def disjunctionLexemes : List (List Lexeme) → List Lexeme
  | [] => []
  | [ls] => ls
  | lss => [Lexeme.keyword .or].intercalate (lss.map parenthesisedLexemes)

def lexemes (f : Filter) : List Lexeme := disjunctionLexemes (f.effective.map Conditions.lexemes)

theorem fragments_eq (f : Filter) : f.fragments = f.effective.map Conditions.draft := by
  rw [fragments, effective, List.filter_map]
  simp only [Function.comp_def, Conditions.isEmpty_draft]

theorem reads_parenthesised {d : Draft} {ls : List Lexeme} (h : d.Reads ls) :
    (Draft.parenthesised d).Reads (parenthesisedLexemes ls) := by
  have hopen : Scanner.Completes "(".toList [] [.leftParen] := fun vs ls => rfl
  have hclose : Scanner.Completes ")".toList [] [.rightParen] := fun vs ls => rfl
  have hall := (hopen.append h).append hclose.reads rfl
  simpa [Draft.Reads, Draft.parenthesised, parenthesisedLexemes, Token.chars] using hall

theorem reads_disjunction (xs : List (Draft × List Lexeme)) (h : ∀ x ∈ xs, x.1.Reads x.2) :
    (Draft.disjunction (xs.map Prod.fst)).Reads (disjunctionLexemes (xs.map Prod.snd)) := by
  match xs with
  | [] => exact Scanner.Completes.nil.reads
  | [x] => exact h x List.mem_cons_self
  | x :: y :: xs =>
    have hor : Scanner.Completes " OR ".toList [] [.keyword .or] := fun vs ls => rfl
    have hjoin := Draft.reads_join hor rfl ((x :: y :: xs).map fun x =>
        (Draft.parenthesised x.1, parenthesisedLexemes x.2)) (by
      intro z hz
      obtain ⟨x, hx, rfl⟩ := List.mem_map.1 hz
      exact reads_parenthesised (h x hx))
    rw [List.map_map, List.map_map] at hjoin
    show (Draft.join " OR " (((x :: y :: xs).map Prod.fst).map Draft.parenthesised)).Reads
      ([Lexeme.keyword .or].intercalate
        (((x :: y :: xs).map Prod.snd).map parenthesisedLexemes))
    rw [List.map_map, List.map_map]
    exact hjoin

theorem reads_draft {f : Filter} (h : f.HasColumns) : f.draft.Reads f.lexemes := by
  have hall := reads_disjunction (f.effective.map fun c => (c.draft, c.lexemes)) (by
    intro x hx
    obtain ⟨c, hc, rfl⟩ := List.mem_map.1 hx
    exact Conditions.reads_draft (h c (List.mem_filter.1 hc).1))
  rw [List.map_map, List.map_map] at hall
  rw [draft, fragments_eq]
  exact hall

end Filter

end TypedSql
