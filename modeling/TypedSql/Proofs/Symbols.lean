import TypedSql.Filter.Symbol
import TypedSql.Proofs.ColumnWrites

/-!
# What comparison symbols denote

A symbol is a text of words with blanks about them.  Its words, with one space between each two
and in upper case, are looked up in a table of comparisons, and a symbol that is not there
denotes equality:

    words cs = ws              ↔  Spaced cs ws                               (words_eq_iff)
    Op.ofSymbol symbol v = op  ↔  Op.Denoted symbol v op                 (ofSymbol_eq_iff)

Only ASCII letters have an upper case, and a symbol with a blank in its middle is two words.
-/

namespace TypedSql

/-! ## Words -/

namespace Text

/-- The text is these words in their order, with blanks before, between and after them. -/
inductive Spaced : List Char → List (List Char) → Prop
  | nil : Spaced [] []
  | blank {c : Char} {cs : List Char} {ws : List (List Char)} :
    isBlank c = true → Spaced cs ws → Spaced (c :: cs) ws
  | word {w rest : List Char} {ws : List (List Char)} :
    w ≠ [] → (∀ c ∈ w, isBlank c = false) → (∀ c ∈ rest.head?, isBlank c = true) →
      Spaced rest ws → Spaced (w ++ rest) (w :: ws)

/-- A character that is no blank is the first of a word. -/
theorem Spaced.exists_word {c : Char} {cs : List Char} {ws : List (List Char)}
    (h : Spaced (c :: cs) ws) (hc : isBlank c = false) :
    ∃ w rest ws', c :: cs = w ++ rest ∧ ws = w :: ws' ∧ w ≠ [] ∧ (∀ d ∈ w, isBlank d = false) ∧
      (∀ d ∈ rest.head?, isBlank d = true) ∧ Spaced rest ws' := by
  generalize htext : c :: cs = text at h
  cases h with
  | nil => cases htext
  | blank hblank => cases htext; rw [hc] at hblank; cases hblank
  | word hw hword hrest h => exact ⟨_, _, _, rfl, rfl, hw, hword, hrest, h⟩

theorem words_blank {c : Char} (hc : isBlank c = true) (cs : List Char) :
    words (c :: cs) = words cs := by
  cases cs <;> simp [words, hc]

/-- A word of one letter ends before a blank. -/
theorem words_letter {c : Char} {cs : List Char} (hc : isBlank c = false)
    (hcs : ∀ d ∈ cs.head?, isBlank d = true) : words (c :: cs) = [c] :: words cs := by
  cases cs with
  | nil => simp [words, hc]
  | cons d cs => simp [words, hc, hcs d rfl]

theorem words_cons {c d : Char} (hc : isBlank c = false) (hd : isBlank d = false)
    (cs : List Char) : words (c :: d :: cs) = consWord c (words (d :: cs)) := by
  simp [words, hc, hd]

theorem spaced_words (cs : List Char) : Spaced cs (words cs) := by
  induction cs with
  | nil => exact .nil
  | cons c cs ih =>
    cases hc : isBlank c with
    | true =>
      rw [words_blank hc]
      exact .blank hc ih
    | false =>
      by_cases hcs : ∀ d ∈ cs.head?, isBlank d = true
      · have hletter : ∀ d ∈ [c], isBlank d = false := fun d hd => List.mem_singleton.1 hd ▸ hc
        rw [words_letter hc hcs]
        exact .word (List.cons_ne_nil c []) hletter hcs ih
      · cases cs with
        | nil => exact absurd nofun hcs
        | cons d cs =>
          have hd : isBlank d = false := by simpa using hcs
          -- the word of `d` becomes one letter longer
          obtain ⟨w, rest, ws, htext, hws, -, hword, hrest, hspaced⟩ := ih.exists_word hd
          rw [words_cons hc hd, hws, htext]
          exact .word (List.cons_ne_nil c w) (List.forall_mem_cons.2 ⟨hc, hword⟩) hrest hspaced

theorem words_append {w rest : List Char} (hw : w ≠ []) (hword : ∀ c ∈ w, isBlank c = false)
    (hrest : ∀ c ∈ rest.head?, isBlank c = true) : words (w ++ rest) = w :: words rest := by
  induction w with
  | nil => exact absurd rfl hw
  | cons c w ih =>
    obtain ⟨hc, hword⟩ := List.forall_mem_cons.1 hword
    cases w with
    | nil => exact words_letter hc hrest
    | cons d w =>
      have htail := ih (List.cons_ne_nil d w) hword
      rw [List.cons_append, List.cons_append, words_cons hc (hword d List.mem_cons_self),
        ← List.cons_append, htail]
      rfl

theorem words_eq_iff {cs : List Char} {ws : List (List Char)} : words cs = ws ↔ Spaced cs ws := by
  constructor
  · rintro rfl
    exact spaced_words cs
  · intro h
    induction h with
    | nil => rfl
    | blank hc _ ih => rw [words_blank hc, ih]
    | word hw hword hrest _ ih => rw [words_append hw hword hrest, ih]

end Text

/-! ## Comparisons -/

/-- The comparisons by their symbols. -/
def comparisons : List (String × (Value → Op)) :=
  [("=", .eq), ("!=", .ne), ("<>", .ne), (">", .gt), (">=", .gte), ("<", .lt), ("<=", .lte),
    ("LIKE", .like), ("NOT LIKE", .notLike)]

/-- The words with one space between each two, in upper case. -/
def spelling (ws : List (List Char)) : String :=
  String.ofList (([' '].intercalate ws).map Char.toUpper)

/-- The operator that a symbol denotes, with its value. -/
inductive Op.Denoted (symbol : String) (v : Value) : Op → Prop
  | known {ws : List (List Char)} {comparison : Value → Op} :
    Text.Spaced symbol.toList ws → (spelling ws, comparison) ∈ comparisons →
      Denoted symbol v (comparison v)
  | unknown {ws : List (List Char)} :
    Text.Spaced symbol.toList ws → spelling ws ∉ comparisons.map Prod.fst →
      Denoted symbol v (.eq v)

/-- No symbol is there twice. -/
theorem lookup_comparisons {name : String} {comparison : Value → Op} :
    comparisons.lookup name = some comparison ↔ (name, comparison) ∈ comparisons := by
  constructor
  · intro h
    obtain ⟨before, after, hsplit, -⟩ := List.lookup_eq_some_iff.1 h
    rw [hsplit]
    exact List.mem_append_right _ List.mem_cons_self
  · intro h
    simp only [comparisons, List.mem_cons, Prod.mk.injEq, List.not_mem_nil, or_false] at h
    rcases h with h | h | h | h | h | h | h | h | h
    all_goals
      obtain ⟨rfl, rfl⟩ := h
      rfl

namespace Op

theorem ofSymbol_eq_lookup (symbol : String) (v : Value) :
    ofSymbol symbol v = (comparisons.lookup (canonicalSymbol symbol)).getD .eq v := by
  unfold ofSymbol
  generalize canonicalSymbol symbol = s
  split
  case h_10 =>
    have hnone : comparisons.lookup s = none := by
      simp only [List.lookup_eq_none_iff, comparisons, List.forall_mem_cons, bne_iff_ne]
      exact ⟨‹_›, ‹_›, ‹_›, ‹_›, ‹_›, ‹_›, ‹_›, ‹_›, ‹_›, nofun⟩
    rw [hnone]
    rfl
  all_goals rfl

theorem Denoted.eq_ofSymbol {symbol : String} {v : Value} {op : Op} (h : Denoted symbol v op) :
    op = ofSymbol symbol v := by
  rw [ofSymbol_eq_lookup, canonicalSymbol]
  cases h with
  | known hspaced hmem =>
    rw [Text.words_eq_iff.2 hspaced]
    exact (congrArg (fun o => Option.getD o Op.eq v) (lookup_comparisons.2 hmem)).symm
  | unknown hspaced hnone =>
    rw [Text.words_eq_iff.2 hspaced]
    exact (congrArg (fun o => Option.getD o Op.eq v) (ColumnMap.lookup_eq_none_iff.2 hnone)).symm

/-- Every symbol denotes one operator. -/
theorem ofSymbol_eq_iff {symbol : String} {v : Value} {op : Op} :
    ofSymbol symbol v = op ↔ Denoted symbol v op := by
  constructor
  · rintro rfl
    have hspaced := Text.spaced_words symbol.toList
    rw [ofSymbol_eq_lookup]
    cases hlookup : comparisons.lookup (canonicalSymbol symbol) with
    | some comparison => exact .known hspaced (lookup_comparisons.1 hlookup)
    | none => exact .unknown hspaced (ColumnMap.lookup_eq_none_iff.1 hlookup)
  · exact fun h => h.eq_ofSymbol.symm

example (v : Value) : ofSymbol "Not\t LIKE " v = .notLike v ∧ ofSymbol "> =" v = .eq v :=
  ⟨rfl, rfl⟩

end Op

end TypedSql
