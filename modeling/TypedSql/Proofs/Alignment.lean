import TypedSql.Proofs.Quiet

/-!
# Placeholders and parameters

`placeholderCount` counts the question marks of a text that stand outside quotes.
In every statement it finds exactly the placeholders that were written, whatever
the names are made of, and the parameters are the values of the clauses in the
order of their placeholders:

    r.statement? = .ok (some s) → s.placeholderCount = s.params.length ∧ s.params = r.values ∧ …
                                                                      (placeholders_align)

The scanner `countSlots` is followed along the draft: `Scans q cs n q'` says that it
enters `cs` with the quote `q` open, counts `n` question marks and leaves with `q'`.
-/

namespace TypedSql

/-- The quote that is open behind a text, `quote` being the one in front of it. -/
def quoteAfter (quote : Option Char) : List Char → Option Char
  | [] => quote
  | c :: cs =>
    match quote with
    | some q => quoteAfter (if c = q then none else quote) cs
    | none => quoteAfter (if c = '"' ∨ c = '\x27' then some c else none) cs

/-- An expression whose quotes are closed again and that has no placeholder. -/
def IsSlotFree (e : String) : Prop :=
  countSlots none e.toList = 0 ∧ quoteAfter none e.toList = none

instance (e : String) : Decidable (IsSlotFree e) := inferInstanceAs (Decidable (_ ∧ _))

def Scans (q : Option Char) (cs : List Char) (n : Nat) (q' : Option Char) : Prop :=
  countSlots q cs = n ∧ quoteAfter q cs = q'

/-! ## The scanner on parts of a text -/

theorem Scans.nil (q : Option Char) : Scans q [] 0 q := ⟨rfl, rfl⟩

theorem countSlots_append (q : Option Char) (a b : List Char) :
    countSlots q (a ++ b) = countSlots q a + countSlots (quoteAfter q a) b := by
  induction a generalizing q with
  | nil => simp [countSlots, quoteAfter]
  | cons c a ih =>
    cases q with
    | some q =>
      show countSlots _ (a ++ b) = countSlots _ a + countSlots (quoteAfter _ a) b
      exact ih _
    | none =>
      simp only [List.cons_append, countSlots, quoteAfter]
      by_cases hquote : c = '"' ∨ c = '\x27'
      · simp only [if_pos hquote, ih]
      · simp only [if_neg hquote, ih]
        split <;> omega

theorem quoteAfter_append (q : Option Char) (a b : List Char) :
    quoteAfter q (a ++ b) = quoteAfter (quoteAfter q a) b := by
  induction a generalizing q with
  | nil => rfl
  | cons c a ih => cases q <;> exact ih _

theorem Scans.append {q q' q'' : Option Char} {a b : List Char} {n m : Nat}
    (ha : Scans q a n q') (hb : Scans q' b m q'') : Scans q (a ++ b) (n + m) q'' := by
  obtain ⟨rfl, rfl⟩ := ha
  obtain ⟨rfl, rfl⟩ := hb
  exact ⟨countSlots_append q a b, quoteAfter_append q a b⟩

/-- Inside double quotes nothing counts but the quotes. -/
theorem scans_toggle : IsQuoteToggle (fun q cs q' => Scans q cs 0 q') none (some '"') where
  nil := Scans.nil
  append := fun _ _ _ _ _ ha hb => ha.append hb
  opens := ⟨rfl, rfl⟩
  closes := ⟨rfl, rfl⟩
  keeps := fun c hc => by simp [Scans, countSlots, quoteAfter, hc]

theorem scans_partChars (part : String) : Scans none (Ident.partChars part) 0 none :=
  scans_toggle.partChars part

theorem scans_chars (i : Ident) : Scans none i.chars 0 none := by
  rw [Ident.chars]
  induction i.parts with
  | nil => exact Scans.nil none
  | cons part parts ih =>
    cases parts with
    | nil => simpa using scans_partChars part
    | cons part' parts =>
      have hdot : Scans none ['.'] 0 none := ⟨rfl, rfl⟩
      rw [List.map_cons, List.map_cons, List.intercalate_cons_cons]
      exact ((scans_partChars part).append hdot).append ih

theorem scans_name (n : Name) : Scans none n.chars 0 none := by
  cases n with
  | all => exact ⟨rfl, rfl⟩
  | ident i => exact scans_chars i

theorem scans_plain {cs : List Char} (h : cs.all isPlain = true) : Scans none cs 0 none := by
  induction cs with
  | nil => exact Scans.nil none
  | cons c cs ih =>
    rw [List.all_cons, Bool.and_eq_true] at h
    have hc : Scans none [c] 0 none := by
      have hplain := h.1
      simp only [isPlain, Bool.and_eq_true, bne_iff_ne] at hplain
      simp [Scans, countSlots, quoteAfter, hplain]
    exact hc.append (ih h.2)

/-! ## Drafts -/

/-- A piece counts one if it is the placeholder of a value, and none otherwise. -/
theorem Piece.scans {piece : Piece} (h : piece.IsQuiet IsSlotFree) :
    Scans none piece.toToken.chars piece.value?.toList.length none := by
  cases piece with
  | token t =>
    cases t with
    | word s => exact scans_plain h
    | number n => exact scans_plain (isPlain_number n)
    | name n => exact scans_name n
    | slot => exact absurd h id
    | raw e => exact h
  | name text =>
    show Scans none (Token.ofText text).chars 0 none
    unfold Token.ofText
    cases Name.parse text with
    | ok n => exact scans_name n
    | error fault => exact scans_name .all
  | slot v => exact ⟨rfl, rfl⟩

theorem Draft.scans {d : Draft} (h : d.IsQuiet IsSlotFree) :
    Scans none d.sql.chars d.values.length none := by
  induction d with
  | nil => exact Scans.nil none
  | cons piece d ih =>
    obtain ⟨hpiece, hd⟩ := (isQuiet_cons piece d).1 h
    have hlen : (values (piece :: d)).length = piece.value?.toList.length + (values d).length := by
      rw [values, List.filterMap_cons]
      cases piece.value? with
      | none => exact (Nat.zero_add _).symm
      | some v => exact Nat.add_comm _ 1
    rw [hlen, sql_cons, Sql.chars_cons]
    exact (Piece.scans hpiece).append (ih hd)

/-! ## Statements -/

/-- **Placeholders and parameters align.**  A statement has one parameter for each
placeholder that can be counted in its text; its parameters are the values of its
clauses from left to right, and it is written as the draft in which each of them
stands at its placeholder. -/
theorem placeholders_align (r : Request) (s : Statement) (h : r.statement? = .ok (some s))
    (he : ∀ e, r.expression? = some e → IsSlotFree e) :
    s.placeholderCount = s.params.length ∧ s.params = r.values ∧
      ∃ d, r.draft? = some d ∧ s.text = d.sql.text ∧ s.params = d.values := by
  obtain ⟨-, d, hd, rfl⟩ := Request.draft?_of_statement? h
  have hscan := Draft.scans (Request.isQuiet hd he)
  refine ⟨?_, Request.values_draft hd, d, hd, rfl, rfl⟩
  show countSlots none (String.ofList d.sql.chars).toList = d.values.length
  rw [String.toList_ofList]
  exact hscan.1

/-- A selection whose names and whose expression hold quotes and question marks. -/
def quotedSelect : Select :=
  .ofCalls "it's?" [.selectRaw "'?', \"?\"", .scope (.whereCmp "a\"?" ">" (.integer 1)),
    .scope (.orWhere (.single "b OR ?" (.operators (.single (.oneOf [.null, .text "?"]))))),
    .havingCmp "n" "<" (.integer 9)]

theorem placeholders_align_quotedSelect :
    ∃ s, (Request.rows quotedSelect).statement? = .ok (some s) ∧ s.placeholderCount = 4 ∧
      s.params = [.integer 1, .null, .text "?", .integer 9] := by
  have hs : (Request.rows quotedSelect).statement? = .ok (some
      ⟨"SELECT '?', \"?\" FROM \"it's?\"" ++
      " WHERE (\"a\"\"?\" > ?) OR (\"b OR ?\" IN (?, ?)) HAVING \"n\" < ?",
      [.integer 1, .null, .text "?", .integer 9]⟩) := by
    decide
  have halign := placeholders_align (.rows quotedSelect) _ hs fun e he => by
    cases Option.some.inj he
    decide
  exact ⟨_, hs, halign.1, rfl⟩

end TypedSql
