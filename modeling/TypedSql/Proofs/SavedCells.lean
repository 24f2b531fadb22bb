import TypedSql.Proofs.HeldRecord

/-!
# What a save writes back

A record shows the first cell of a column, and a save writes back the last one:

    a column of one cell     is saved as the record shows it, whatever was edited before
    a repeated column        is saved with the last cell that was read, whatever was edited

So a save writes what the record shows just where no repeated column shows anything else
(`saves_bind_last_cells`); where one does, the edit of it is lost (`edit_of_repeated_lost`).
-/

namespace TypedSql

/-- A call that executes a statement is an exchange with that statement. -/
theorem Exchange.exists_answer {x : Exchange} {stmt : Statement}
    (h : x.call = .execute stmt.text stmt.params) : ∃ answer, x = .execute stmt answer := by
  cases x with
  | execute stmt' answer =>
    obtain ⟨text, params⟩ := stmt'
    cases h
    exact ⟨answer, rfl⟩
  | query | lastInsertRowid => cases h

namespace Record

open Errand

theorem columns_nonKeyPayload (r : Record) (key : String) :
    (r.nonKeyPayload key).columns = (r.row.columns.filter (· != key)).eraseDups := by
  rw [nonKeyPayload, ColumnMap.columns_ofList, Row.columns, List.filter_map]
  rfl

/-- A save collects the last cell of each column. -/
theorem get?_nonKeyPayload (r : Record) {key column : String} (h : column ≠ key) :
    (r.nonKeyPayload key).get? column = r.row.lastValue? column := by
  rw [nonKeyPayload, ColumnMap.get?_ofList, ← List.filter_reverse]
  exact ColumnMap.lookup_filter_of_ne h

/-- A save makes no call, or executes the update of the row by all its columns but the key. -/
theorem runs_save {σ : Type} (r : Record) (client : Client σ) (s : σ) :
    ∃ log outcome t, Runs (fun client => r.save client) client s log outcome t ∧
      (log = [] ∨ ∃ key v answer, r.id = .ok (key, v) ∧
        log = [.execute (Act.updateStatement r key v (r.nonKeyPayload key)) answer]) := by
  rcases r.unkeyed_or_keyed with hunkeyed | ⟨key, v, hkeyed⟩
  · obtain ⟨message, hruns⟩ := (Act.save.keepsToItsRow r client s).unkeyed hunkeyed
    exact ⟨[], _, s, hruns, .inl rfl⟩
  · obtain ⟨log, outcome, t, hruns, hlog⟩ := Act.exists_runs hkeyed .save client s
    refine ⟨log, outcome, t, hruns, hlog.imp And.left ?_⟩
    rintro ⟨x, rfl, hx⟩
    obtain ⟨answer, rfl⟩ := Exchange.exists_answer hx
    exact ⟨key, v, answer, hkeyed.id_eq, rfl⟩

end Record

/-- After any edits a column of one cell is shown as it is last, and a repeated one ends in the
cell that was read. -/
theorem Held.lastValue?_edit {σ : Type} (client : Client σ) (edits : List Held.Edit) (h : Held σ)
    (column : String) :
    (h.edit client edits).record.row.lastValue? column =
      if h.record.row.Repeats column then h.record.row.lastValue? column
      else (h.edit client edits).record.row.value? column := by
  obtain ⟨writes, hwrites⟩ := exists_writes_edit client edits h
  rw [hwrites]
  split
  · next hrepeats => exact Row.lastValue?_setMany writes hrepeats
  · next hsingle =>
    exact Row.lastValue?_eq_value? (mt (h.record.row.repeats_setMany column writes).1 hsingle)

/-! ## Top theorem -/

/-- **A save binds the last cells.**  Whatever edits were made to a record, a save of it that
makes a call executes one update, which sets every column but the key, each once.  A column that
has one cell in the row as it was read is bound to the value that the record now shows; a
repeated one to its last cell as it was read, so that what the record shows is written back if
and only if that happens to be the same. -/
theorem saves_bind_last_cells {σ : Type} (client : Client σ) (h : Held σ)
    (edits : List Held.Edit) :
    let h' := h.edit client edits
    ∃ log outcome t,
      Errand.Runs (fun client => h'.record.save client) client h'.state log outcome t ∧
      (log = [] ∨ ∃ key v p answer,
        h'.record.id = .ok (key, v) ∧
        log = [.execute (Record.Act.updateStatement h'.record key v p) answer] ∧
        p.columns = (h'.record.row.columns.filter (· != key)).eraseDups ∧
        ∀ column ≠ key,
          p.get? column =
            (if h.record.row.Repeats column then h.record.row.lastValue? column
            else h'.record.row.value? column) ∧
          (p.get? column = h'.record.row.value? column ↔
            (h.record.row.Repeats column →
              h.record.row.lastValue? column = h'.record.row.value? column))) := by
  intro h'
  obtain ⟨log, outcome, t, hruns, hlog⟩ := h'.record.runs_save client h'.state
  refine ⟨log, outcome, t, hruns, hlog.imp_right ?_⟩
  rintro ⟨key, v, answer, hid, hsent⟩
  refine ⟨key, v, _, answer, hid, hsent, Record.columns_nonKeyPayload _ key, fun column hne => ?_⟩
  have hbound : (h'.record.nonKeyPayload key).get? column =
      if h.record.row.Repeats column then h.record.row.lastValue? column
      else h'.record.row.value? column :=
    (h'.record.get?_nonKeyPayload hne).trans (Held.lastValue?_edit client edits h column)
  refine ⟨hbound, ?_⟩
  rw [hbound]
  split
  · next hrepeats => exact ⟨fun heq _ => heq, fun heq => heq hrepeats⟩
  · next hsingle => exact ⟨fun _ hrepeats => absurd hrepeats hsingle, fun _ => rfl⟩

/-- The record shows 9 for a column that a save writes back as the 3 that was read. -/
theorem edit_of_repeated_lost :
    let row : Row := ⟨[("id", .integer 1), ("v", .integer 2), ("v", .integer 3)]⟩
    let h : Held Script := ⟨⟨"t", some "id", row⟩, ⟨[.answer none [] 1], 0, []⟩⟩
    let h' := h.edit Script.client [.set "v" (.integer 9)]
    h'.record.row.value? "v" = some (.integer 9) ∧
    ((h'.record.save Script.client).runOn h'.state).2.calls =
      [.execute "UPDATE \"t\" SET \"v\" = ? WHERE \"id\" = ?" [.integer 3, .integer 1]] := by
  decide

end TypedSql
