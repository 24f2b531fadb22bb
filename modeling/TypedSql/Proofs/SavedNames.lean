import TypedSql.Proofs.DelimitedNames
import TypedSql.Proofs.SavedCells

/-!
# The names under which a save writes

The columns of a record are named by the engine, and a save names them again in its update:

    UPDATE table SET column = ?, …, column = ? WHERE key = ?

A name of the engine goes the way of every other name.  A plain one is written in quotes as it
stands, and so names the column that was read.  A star, a name with a dot in it and one with a
quote in front are taken for something else, and what is written is another name or none
(`save_names_plain_columns`).
-/

namespace TypedSql

/-! ## Names that are written as themselves -/

namespace Ident

theorem Items.length_le {w part : List Char} (h : Items w part) : part.length ≤ w.length := by
  induction h with
  | nil => exact Nat.le_refl 0
  | char _ _ ih => exact Nat.succ_le_succ ih
  | quote _ ih =>
    simp only [List.length_cons]
    omega

/-- Quotes make a text longer, so a part that spells itself is bare. -/
theorem PartSpelling.bare_of_self {part : List Char} (h : PartSpelling part part) :
    ∀ c ∈ part, isBareChar c = true := by
  generalize hself : part = w at h
  cases h with
  | bare hc hcs =>
    intro c hmem
    rw [isBareChar_iff]
    rcases List.mem_cons.1 hmem with rfl | hmem
    · exact hc.imp_right (.inr ∘ .inl)
    · exact hcs c hmem
  | quoted h =>
    obtain ⟨hitems, -⟩ := h
    have hlength := hitems.length_le
    simp only [List.length_append, List.length_cons] at hlength
    omega

theorem isPlain_of_spells_self {text : String} (h : Spelling text.toList [text]) :
    Name.IsPlain text := by
  have hbare := (Dotted.single_iff.1 h).bare_of_self
  refine ⟨?_, fun hdot => absurd (hbare '.' hdot) (by decide), fun hquote => ?_⟩
  · rintro rfl
    exact absurd (hbare '*' (by decide)) (by decide)
  · exact absurd (hbare '"' (List.mem_of_mem_head? hquote)) (by decide)

end Ident

namespace Name

/-- A plain name is written as itself, and no other is. -/
theorem quotedPart_written_iff {text : String} (hne : text ≠ "") (hnul : '\x00' ∉ text.toList) :
    (Accepted text ∧ Ident.QuotedPart (written text).toList text.toList) ↔ IsPlain text := by
  constructor
  · rintro ⟨hname, hself⟩
    rcases star_or_delimited hname with ⟨rfl, hstar⟩ | ⟨i, hi, hdelimited⟩
    · rw [hstar] at hself
      exact absurd (Ident.Delimited.head?_eq (.single hself)) (by decide)
    · rcases plain_or_spelling hi with ⟨hplain, -⟩ | hspelled
      · exact hplain
      · have hparts : i.parts = [text] :=
          hdelimited.spelling.parts_unique (Ident.Dotted.single_iff.2 (.quoted hself))
        rw [hparts] at hspelled
        exact Ident.isPlain_of_spells_self hspelled
  · intro hplain
    have hparse := parse_of_isPlain hplain hne hnul
    exact ⟨⟨_, hparse⟩, Ident.Dotted.single_iff.1 (delimited_of_parse hparse)⟩

end Name

/-! ## Records as they are read -/

namespace Record

open Errand

/-- The record names a row, and its columns are such as an engine can report, with at least one
besides the key. -/
structure Savable (r : Record) (key : String) (v : Value) : Prop extends r.Keyed key v where
  nodup : r.row.columns.Nodup
  reported : ∀ column ∈ r.row.columns, column ≠ "" ∧ '\x00' ∉ column.toList
  other : ∃ column ∈ r.row.columns, column ≠ key
  table_accepted : Name.Accepted r.table

/-- The update of all cells but that of the key, in the order of the row. -/
def saveStatement (r : Record) (key : String) (v : Value) : Statement :=
  let others := r.row.cells.filter fun cell => cell.1 != key
  .onKey
    ("UPDATE " ++ Name.written r.table ++ " SET " ++
      ", ".intercalate (others.map fun cell => Name.written cell.1 ++ " = ?"))
    (others.map Prod.snd) key v ""

theorem updateStatement_nonKeyPayload {r : Record} (h : r.row.columns.Nodup) (key : String)
    (v : Value) : Act.updateStatement r key v (r.nonKeyPayload key) = r.saveStatement key v := by
  have hothers : ((r.row.cells.filter fun cell => cell.1 != key).map Prod.fst).Nodup :=
    h.sublist (List.filter_sublist.map Prod.fst)
  have hentries := ColumnMap.entries_ofList_of_nodup hothers
  rw [Act.updateStatement, saveStatement, Payload.assignments, Payload.values, ColumnMap.columns,
    nonKeyPayload, hentries, List.map_map]
  rfl

namespace Savable

variable {r : Record} {key : String} {v : Value}

theorem key_mem (h : r.Savable key v) : key ∈ r.row.columns := by
  by_contra hmem
  have hnone : r.row.value? key = none := ColumnMap.lookup_eq_none_iff.2 hmem
  rw [h.value?] at hnone
  cases hnone

theorem not_all_key (h : r.Savable key v) : ¬ ∀ column ∈ r.row.columns, column = key := by
  intro hall
  obtain ⟨column, hcolumn, hne⟩ := h.other
  exact hne (hall column hcolumn)

theorem idle?_eq (h : r.Savable key v) : Act.save.idle? r key = none := by
  rw [Act.idle?, if_neg h.not_all_key]

theorem writable_iff (h : r.Savable key v) :
    Act.save.Writable r key ↔ ∀ column ∈ r.row.columns, Name.Accepted column := by
  constructor
  · intro hw column hcolumn
    by_cases hkey : column = key
    · rw [hkey]
      exact hw.key_accepted
    · exact (hw.payload rfl).2 column ((r.mem_columns_nonKeyPayload key column).2 ⟨hcolumn, hkey⟩)
  · intro hnames
    refine ⟨h.table_accepted, hnames key h.key_mem, ?_⟩
    rintro _ ⟨⟩
    refine ⟨?_, fun column hcolumn => ?_⟩
    · rw [← Bool.not_eq_true, isEmpty_nonKeyPayload]
      exact h.not_all_key
    · exact hnames column ((r.mem_columns_nonKeyPayload key column).1 hcolumn).1

end Savable

end Record

/-! ## Top theorem -/

/-- **A save names the columns that are plain.**  Of a record as an engine reports it, a save
sends one update, which sets all columns but the key in the order of the row and filters by the
key; if a column is no name there is a render error and no call.  A column stands in that update
as its own name in quotes, with the quotes inside doubled, if and only if it is plain. -/
theorem save_names_plain_columns {σ : Type} (client : Client σ) (s : σ) {r : Record}
    {key : String} {v : Value} (h : r.Savable key v) :
    ((∀ column ∈ r.row.columns, Name.Accepted column) →
      ∃ answer outcome t, Errand.Runs (fun client => r.save client) client s
        [.execute (r.saveStatement key v) answer] outcome t) ∧
    (¬ (∀ column ∈ r.row.columns, Name.Accepted column) →
      ∃ message, Errand.Runs (fun client => r.save client) client s []
        (.error (.render message)) s) ∧
    ∀ column ∈ r.row.columns,
      (Name.Accepted column ∧
          Ident.QuotedPart (Name.written column).toList column.toList) ↔ Name.IsPlain column := by
  have hkeeps := Record.Act.save.keepsToItsRow r client s
  refine ⟨fun hnames => ?_, fun hnames => ?_, fun column hcolumn => ?_⟩
  · obtain ⟨x, outcome, t, hruns, hx⟩ :=
      hkeeps.sent h.toKeyed h.idle?_eq (h.writable_iff.2 hnames)
    rw [Record.Act.call, Record.Act.call.executed,
      Record.updateStatement_nonKeyPayload h.nodup] at hx
    obtain ⟨answer, rfl⟩ := Exchange.exists_answer hx
    exact ⟨answer, outcome, t, hruns⟩
  · exact hkeeps.unwritable h.toKeyed h.idle?_eq (mt h.writable_iff.1 hnames)
  · obtain ⟨hne, hnul⟩ := h.reported column hcolumn
    exact Name.quotedPart_written_iff hne hnul

theorem save_names_a_blank_and_a_quote :
    let r : Record :=
      ⟨"t", some "id", ⟨[("Full Name", .integer 2), ("id", .integer 1), ("a\"b", .null)]⟩⟩
    r.Savable "id" (.integer 1) ∧
    (∃ answer outcome t, Errand.Runs (fun client => r.save client) Script.client ⟨[], 0, []⟩
      [.execute ⟨"UPDATE \"t\" SET \"Full Name\" = ?, \"a\"\"b\" = ? WHERE \"id\" = ?",
        [.integer 2, .null, .integer 1]⟩ answer] outcome t) ∧
    ∀ column ∈ r.row.columns, Ident.QuotedPart (Name.written column).toList column.toList := by
  intro r
  have hsavable : r.Savable "id" (.integer 1) :=
    ⟨⟨rfl, rfl, nofun⟩, by decide, by decide, by decide, ⟨.ident (.single "t"), by decide⟩⟩
  obtain ⟨hsent, -, hnames⟩ := save_names_plain_columns Script.client ⟨[], 0, []⟩ hsavable
  have hstmt : r.saveStatement "id" (.integer 1) =
      ⟨"UPDATE \"t\" SET \"Full Name\" = ?, \"a\"\"b\" = ? WHERE \"id\" = ?",
        [.integer 2, .null, .integer 1]⟩ := by
    decide +kernel
  have hplain : ∀ column ∈ r.row.columns, Name.IsPlain column := by decide
  have hall := fun column hcolumn => (hnames column hcolumn).2 (hplain column hcolumn)
  rw [hstmt] at hsent
  exact ⟨hsavable, hsent fun column hcolumn => (hall column hcolumn).1,
    fun column hcolumn => (hall column hcolumn).2⟩

/-- A column with a dot in its name is saved as a column of another table. -/
theorem dotted_column_saved_elsewhere :
    let r : Record := ⟨"t", some "id", ⟨[("id", .integer 1), ("a.b", .integer 2)]⟩⟩
    r.Savable "id" (.integer 1) ∧
    ((r.save Script.client).runOn ⟨[.answer none [] 1], 0, []⟩).2.calls =
      [.execute "UPDATE \"t\" SET \"a\".\"b\" = ? WHERE \"id\" = ?" [.integer 2, .integer 1]] ∧
    ¬ Ident.QuotedPart (Name.written "a.b").toList "a.b".toList := by
  have hdotted : Name.parse "a.b" = .ok (.ident ⟨["a", "b"]⟩) := by decide +kernel
  refine ⟨?_, by decide +kernel, fun hself => ?_⟩
  · exact ⟨⟨rfl, rfl, nofun⟩, by decide, by decide, by decide, ⟨.ident (.single "t"), by decide⟩⟩
  · have hplain := (Name.quotedPart_written_iff (by decide) (by decide)).1 ⟨⟨_, hdotted⟩, hself⟩
    exact absurd hplain (by decide)

end TypedSql
