import TypedSql.Proofs.FilterLexemes

/-!
# Filters mean what they say

A reader who knows only the text and the values of a filter finds its meaning again:

    Expr.readFilter sql.text values = some (Expr.ofMeaning f.meaning)       (filter_reads_back)

The text is divided into lexemes by `Filter.reads_draft`; the rules `read…_lexemes`
put them together, from the operator of a predicate up to the whole filter.
-/

namespace TypedSql

/-! ## Putting the lexemes together -/

namespace Expr

theorem readParts_lexemes (parts : List String) {rest : List Lexeme}
    (h : ∀ ls, rest ≠ .dot :: ls) :
    readParts (parts.flatMap (fun part => [.dot, .identifier part]) ++ rest) = (parts, rest) := by
  induction parts with
  | nil =>
    unfold readParts
    split
    · next s ls heq => exact absurd heq (h _)
    · rfl
  | cons part parts ih =>
    rw [List.flatMap_cons, List.append_assoc, List.cons_append, List.cons_append, List.nil_append,
      readParts, ih]

theorem readList_lexemes (v : Value) (vs : List Value) (rest : List Lexeme) :
    readList ([Lexeme.comma].intercalate ((v :: vs).map fun v => [.value v]) ++
      (.rightParen :: rest)) = some (v :: vs, rest) := by
  induction vs generalizing v with
  | nil => rfl
  | cons w vs ih =>
    have hcons : [Lexeme.comma].intercalate ((v :: w :: vs).map fun v => [.value v]) =
        .value v :: .comma :: [Lexeme.comma].intercalate ((w :: vs).map fun v => [.value v]) :=
      List.intercalate_cons_cons
    rw [hcons, List.cons_append, List.cons_append, readList, ih w]
    rfl

/-- What follows a column is read as its operator, except for a list of no values. -/
theorem readOp_lexemes (op : Op) (hin : op ≠ .oneOf []) (hnot : op ≠ .noneOf [])
    (rest : List Lexeme) : readOp (op.predicateLexemes ++ rest) = some (op, rest) := by
  cases op with
  | oneOf vs =>
    cases vs with
    | nil => exact absurd rfl hin
    | cons v vs =>
      rw [Op.predicateLexemes, List.append_assoc, List.append_assoc, List.singleton_append,
        List.cons_append, List.cons_append, List.nil_append, readOp, readList_lexemes]
      rfl
  | noneOf vs =>
    cases vs with
    | nil => exact absurd rfl hnot
    | cons v vs =>
      rw [Op.predicateLexemes, List.append_assoc, List.append_assoc, List.singleton_append,
        List.cons_append, List.cons_append, List.cons_append, List.nil_append, readOp,
        readList_lexemes]
      rfl
  | isNull b => cases b <;> rfl
  | _ => rfl

theorem readPredicate_column {i : Ident} (hi : i.parts ≠ []) (op : Op) (hin : op ≠ .oneOf [])
    (hnot : op ≠ .noneOf []) (rest : List Lexeme) :
    readPredicate (i.lexemes ++ op.predicateLexemes ++ rest) = some (.atom (.on i op), rest) := by
  obtain ⟨parts⟩ := i
  cases parts with
  | nil => exact absurd rfl hi
  | cons part parts =>
    have hdot : ∀ ls, op.predicateLexemes ++ rest ≠ .dot :: ls := by
      intro ls
      cases op with
      | isNull b => cases b <;> exact nofun
      | _ => exact nofun
    rw [Ident.lexemes, List.map_cons, intercalate_cons, List.flatMap_map, List.append_assoc,
      List.append_assoc, List.singleton_append, readPredicate, readParts_lexemes parts hdot]
    show (readOp _).map _ = _
    rw [readOp_lexemes op hin hnot]
    rfl

/-- A predicate is read as its atom, whatever follows it. -/
theorem readPredicate_lexemes {i : Ident} (hi : i.parts ≠ []) (op : Op) (rest : List Lexeme) :
    readPredicate (op.lexemes i ++ rest) = some (.atom (op.atom i), rest) := by
  by_cases hin : op = .oneOf []
  · subst hin
    rfl
  · by_cases hnot : op = .noneOf []
    · subst hnot
      rfl
    · rw [op.lexemes_of_ne i hin hnot, op.atom_of_ne i hin hnot]
      exact readPredicate_column hi op hin hnot rest

theorem readOperand_lexemes (inner : Reader Expr) {i : Ident} (hi : i.parts ≠ []) (op : Op)
    (rest : List Lexeme) :
    readOperand inner (op.lexemes i ++ rest) = some (.atom (op.atom i), rest) := by
  have hread := readPredicate_lexemes hi op rest
  rw [← hread]
  unfold readOperand
  split
  · next ls heq =>
    -- a predicate does not start with a parenthesis
    rw [heq] at hread
    cases hread
  · rfl

/-- A predicate with the expression that it is read as. -/
def readAs (p : String × Op) : List Lexeme × Expr :=
  (p.2.lexemes (.ofText p.1), .atom (p.2.atom (.ofText p.1)))

/-- A mapping is read as the conjunction of its atoms, up to what does not go on with
AND. -/
theorem readConjunction_lexemes {c : Conditions} (h : c.HasColumns) (hc : c.predicates ≠ [])
    (inner : Reader Expr) :
    ∃ e, conjunction? c.meaning = some e ∧ ∀ rest, (∀ ls, rest ≠ .keyword .and :: ls) →
      readChain .and .and (readOperand inner) (c.lexemes ++ rest) = some (e, rest) := by
  obtain ⟨p, ps, hps⟩ := List.exists_cons_of_ne_nil hc
  have hread : ∀ x ∈ readAs p :: ps.map readAs, ∀ rest, True →
      readOperand inner (x.1 ++ rest) = some (x.2, rest) := by
    rw [← List.map_cons]
    intro x hx rest _
    obtain ⟨q, hq, rfl⟩ := List.mem_map.1 hx
    have hparse := Conditions.parse_of_mem_predicates h (hps ▸ hq)
    exact readOperand_lexemes inner (Ident.parts_ne_nil hparse) q.2 rest
  refine ⟨ps.foldl (fun e q => .and e (readAs q).2) (readAs p).2, ?_, fun rest hrest => ?_⟩
  · rw [conjunction?, Conditions.meaning, hps, List.map_cons, List.map_cons]
    show some (((ps.map _).map atom).foldl and (readAs p).2) = _
    rw [List.map_map, List.foldl_map]
    rfl
  · have hchain : readChain .and .and (readOperand inner) _ = _ :=
      readChain_read (fun _ => True) (fun _ => trivial) trivial hrest (readAs p) (ps.map readAs)
        hread
    rw [← List.map_cons, List.map_map, List.foldl_map] at hchain
    rw [Conditions.lexemes, hps]
    exact hchain

/-- By itself a mapping is an expression, up to what goes on with neither AND nor OR. -/
theorem readNested_conjunction {c : Conditions} (h : c.HasColumns) (hc : c.predicates ≠ [])
    (n : Nat) : ∃ e, conjunction? c.meaning = some e ∧ ∀ rest,
      (∀ ls, rest ≠ .keyword .and :: ls) → (∀ ls, rest ≠ .keyword .or :: ls) →
        readNested (n + 1) (c.lexemes ++ rest) = some (e, rest) := by
  obtain ⟨e, he, hread⟩ := readConjunction_lexemes h hc (readNested n)
  exact ⟨e, he, fun rest hand hor => readChain_single hor (hread rest hand)⟩

/-- In parentheses a mapping is one operand, whatever follows it. -/
theorem readConjunction_parenthesised {c : Conditions} (h : c.HasColumns) (hc : c.predicates ≠ [])
    (n : Nat) : ∃ e, conjunction? c.meaning = some e ∧ ∀ rest,
      (∀ ls, rest ≠ .keyword .and :: ls) →
        readChain .and .and (readOperand (readNested (n + 1)))
          (Filter.parenthesisedLexemes c.lexemes ++ rest) = some (e, rest) := by
  obtain ⟨e, he, hread⟩ := readNested_conjunction h hc n
  refine ⟨e, he, fun rest hrest => readChain_single hrest ?_⟩
  have hinner := hread (.rightParen :: rest) nofun nofun
  rw [Filter.parenthesisedLexemes, List.append_assoc, List.cons_append, List.singleton_append,
    readOperand, hinner]

/-- Mappings in parentheses are operands, each of them read as its conjunction. -/
theorem exists_operands (cs : List Conditions)
    (h : ∀ c ∈ cs, c.HasColumns ∧ c.predicates ≠ []) (n : Nat) :
    ∃ xs : List (List Lexeme × Expr),
      xs.map Prod.fst = (cs.map Conditions.lexemes).map Filter.parenthesisedLexemes ∧
      (cs.map Conditions.meaning).filterMap conjunction? = xs.map Prod.snd ∧
      ∀ x ∈ xs, ∀ rest, (∀ ls, rest ≠ .keyword .and :: ls) →
        readChain .and .and (readOperand (readNested (n + 1))) (x.1 ++ rest) =
          some (x.2, rest) := by
  induction cs with
  | nil => exact ⟨[], rfl, rfl, fun x hx => absurd hx List.not_mem_nil⟩
  | cons c cs ih =>
    obtain ⟨xs, hfst, hsnd, hxs⟩ := ih fun c' hc' => h c' (List.mem_cons_of_mem _ hc')
    obtain ⟨hcolumns, hne⟩ := h c List.mem_cons_self
    obtain ⟨e, he, hread⟩ := readConjunction_parenthesised hcolumns hne n
    refine ⟨(Filter.parenthesisedLexemes c.lexemes, e) :: xs, ?_, ?_, ?_⟩
    · rw [List.map_cons, hfst]
      rfl
    · rw [List.map_cons, List.filterMap_cons_some he, hsnd]
      rfl
    · intro x hx
      rcases List.mem_cons.1 hx with rfl | hx
      · exact hread
      · exact hxs x hx

/-- A filter is read as its meaning. -/
theorem readNested_lexemes {f : Filter} (h : f.HasColumns) (hf : f.effective ≠ []) (n : Nat) :
    ∃ e, ofMeaning f.meaning = some e ∧ readNested (n + 2) f.lexemes = some (e, []) := by
  have hmem : ∀ c ∈ f.effective, c.HasColumns ∧ c.predicates ≠ [] := by
    intro c hc
    obtain ⟨hc, hne⟩ := List.mem_filter.1 hc
    exact ⟨h c hc, by simpa using hne⟩
  rw [Filter.meaning, Filter.lexemes, ofMeaning]
  revert hf hmem
  generalize f.effective = cs
  intro hf hmem
  cases cs with
  | nil => exact absurd rfl hf
  | cons c cs =>
    cases cs with
    | nil =>
      obtain ⟨hcolumns, hne⟩ := hmem c List.mem_cons_self
      obtain ⟨e, he, hread⟩ := readNested_conjunction hcolumns hne (n + 1)
      refine ⟨e, ?_, ?_⟩
      · rw [List.map_singleton, List.filterMap_cons_some he]
        rfl
      · have hall := hread [] (by rintro ls ⟨⟩) (by rintro ls ⟨⟩)
        rwa [List.append_nil] at hall
    | cons d cs =>
      obtain ⟨xs, hfst, hsnd, hxs⟩ := exists_operands (c :: d :: cs) hmem n
      rw [hsnd]
      cases xs with
      | nil => cases hfst
      | cons x xs =>
        have hor : ∀ rest ls, Lexeme.keyword .or :: rest ≠ .keyword .and :: ls := by
          rintro rest ls ⟨⟩
        have hand : ∀ ls, [] ≠ Lexeme.keyword .and :: ls := by rintro ls ⟨⟩
        have hend : ∀ ls, [] ≠ Lexeme.keyword .or :: ls := by rintro ls ⟨⟩
        have hchain : readNested (n + 2) _ = _ := readChain_read _ hor hand hend x xs hxs
        refine ⟨xs.foldl (fun e x => .or e x.2) x.2, ?_, ?_⟩
        · rw [List.map_cons, chain?, List.foldl_map]
        · rw [List.append_nil, hfst] at hchain
          exact hchain

end Expr

/-! ## Top theorem -/

theorem Filter.firstFault?_steps {f : Filter} (h : f.HasColumns) :
    Step.firstFault? f.steps = none := by
  rw [Step.firstFault?_eq_none_iff]
  intro text htext
  rw [← Step.mem_names_iff, names_steps] at htext
  obtain ⟨c, hc, hcolumn⟩ := List.mem_flatMap.1 htext
  obtain ⟨i, hi⟩ := h c hc text hcolumn
  exact ⟨_, hi⟩

theorem Filter.runOn_render {f : Filter} (h : f.HasColumns) (p : Params) :
    f.render.runOn p = (.ok f.draft.sql, .ofList (p.toList ++ f.draft.values)) := by
  have hfault := firstFault?_steps h
  rw [render_eq_emit, Render.runOn_emit, hfault, Step.bound_eq_values hfault, values_steps,
    values_draft]

/-- The lexemes are all lexemes of the text, and they take all its values. -/
theorem Filter.lexemes?_draft {f : Filter} (h : f.HasColumns) :
    lexemes? f.draft.sql.text f.draft.values = some f.lexemes := by
  obtain ⟨s, hs, hvalues, hdone⟩ := reads_draft h [] []
  rw [List.append_nil] at hs
  rw [lexemes?, Sql.text, String.toList_ofList, hs]
  show (if s.values.isEmpty then s.done? else none) = _
  rw [hvalues, hdone]
  rfl

theorem Filter.readFilter_draft {f : Filter} (h : f.HasColumns) :
    Expr.readFilter f.draft.sql.text f.draft.values = some (Expr.ofMeaning f.meaning) := by
  by_cases hf : f.effective = []
  · have hlexemes : f.lexemes = [] := by rw [lexemes, hf]; rfl
    have hmeaning : f.meaning = [] := by rw [meaning, hf]; rfl
    rw [Expr.readFilter, lexemes?_draft h, hlexemes, hmeaning]
    rfl
  · cases hlexemes : f.lexemes with
    | nil =>
      -- nothing is read from no lexemes
      obtain ⟨e, -, hread⟩ := Expr.readNested_lexemes h hf 0
      rw [hlexemes] at hread
      cases hread
    | cons l ls =>
      obtain ⟨e, he, hread⟩ := Expr.readNested_lexemes h hf ls.length
      have hls := lexemes?_draft h
      rw [hlexemes] at hls hread
      rw [he]
      exact Expr.readFilter_of_read hls (List.cons_ne_nil l ls) hread

theorem Filter.ne_nil_of_mem_meaning {f : Filter} {atoms : List Atom} (h : atoms ∈ f.meaning) :
    atoms ≠ [] := by
  obtain ⟨c, hc, rfl⟩ := List.mem_map.1 h
  have hne := (List.mem_filter.1 hc).2
  rw [Conditions.meaning, ne_eq, List.map_eq_nil_iff]
  simpa using hne

/-- **A filter means what it says.**  The text of a filter whose columns are names other
than the star is one expression to its end, the n-th placeholder standing for the n-th
value that is bound: the disjunction of its alternatives, each of them the conjunction
of its atoms.  Two filters with the same text and the same values have the same
alternatives. -/
theorem filter_reads_back (f : Filter) (h : f.HasColumns) (p : Params) :
    (∃ sql values, f.render.runOn p = (.ok sql, .ofList (p.toList ++ values)) ∧
      Expr.readFilter sql.text values = some (Expr.ofMeaning f.meaning)) ∧
    ∀ (g : Filter), g.HasColumns → ∀ (q : Params) (sql sql' : Sql) (values : List Value),
      f.render.runOn p = (.ok sql, .ofList (p.toList ++ values)) →
      g.render.runOn q = (.ok sql', .ofList (q.toList ++ values)) →
      sql.text = sql'.text → f.meaning = g.meaning := by
  refine ⟨⟨f.draft.sql, f.draft.values, f.runOn_render h p, f.readFilter_draft h⟩, ?_⟩
  intro g hg q sql sql' values hf hg' htext
  have hrender : ∀ {f : Filter} {p : Params} {sql : Sql}, f.HasColumns →
      f.render.runOn p = (.ok sql, .ofList (p.toList ++ values)) →
      sql = f.draft.sql ∧ values = f.draft.values := by
    intro f p sql h hrun
    rw [f.runOn_render h p] at hrun
    injection hrun with hsql hvalues
    have hlist := congrArg Params.toList hvalues
    rw [Params.toList_ofList, Params.toList_ofList] at hlist
    exact ⟨(Except.ok.inj hsql).symm, (List.append_cancel_left hlist).symm⟩
  obtain ⟨rfl, rfl⟩ := hrender h hf
  obtain ⟨rfl, hvalues⟩ := hrender hg hg'
  have hread := f.readFilter_draft h
  rw [htext, hvalues, g.readFilter_draft hg] at hread
  have hmeaning := Option.some.inj hread
  rw [← Expr.atoms_ofMeaning fun _ => f.ne_nil_of_mem_meaning,
    ← Expr.atoms_ofMeaning fun _ => g.ne_nil_of_mem_meaning, hmeaning]

/-- A filter whose columns look like the language, with a mapping that constrains
nothing. -/
def deceptiveFilter : Filter :=
  ⟨.ofList [("a = ? OR b", .scalar (.integer 1)),
      ("c AND", .operators (.single (.between (.integer 2) .null)))],
    [.empty, .single ") OR (" (.operators (.single (.noneOf [])))]⟩

/-- The same with its equality as an operator. -/
def deceptiveTwin : Filter :=
  ⟨.ofList [("a = ? OR b", .operators (.single (.eq (.integer 1)))),
      ("c AND", .operators (.single (.between (.integer 2) .null)))],
    [.single ") OR (" (.operators (.single (.noneOf []))), .single "d" (.operators .empty)]⟩

theorem deceptiveFilter_reads_back :
    (∃ sql values, deceptiveFilter.render.runOn .empty = (.ok sql, .ofList values) ∧
      Expr.readFilter sql.text values = some (some (.or
        (.and (.atom (.on ⟨["a = ? OR b"]⟩ (.eq (.integer 1))))
          (.atom (.on ⟨["c AND"]⟩ (.between (.integer 2) .null))))
        (.atom (.constant true))))) ∧
    deceptiveFilter.meaning = deceptiveTwin.meaning := by
  have hf : deceptiveFilter.HasColumns := fun c hc column hcolumn =>
    ⟨.ofText column, by revert column; revert c; decide⟩
  have hg : deceptiveTwin.HasColumns := fun c hc column hcolumn =>
    ⟨.ofText column, by revert column; revert c; decide⟩
  obtain ⟨hread, htwin⟩ := filter_reads_back deceptiveFilter hf .empty
  refine ⟨hread, htwin deceptiveTwin hg .empty _ _ _ (by rfl) (by rfl) (by decide)⟩

end TypedSql
