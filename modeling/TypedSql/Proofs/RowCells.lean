import TypedSql.Proofs.ColumnWrites
import TypedSql.Table.Row

/-!
# What setting cells does to a row

A row may have several cells of one name.  Setting a column changes the first of them, or
appends a cell where there is none:

    (r.setMany writes).columns = r.columns ++ the new names, as first written   (columns_setMany)
    (r.setMany writes).value? c = what was written to c last, else r.value? c    (value?_setMany)

So of a column that is repeated the last cell stays as it was, whatever is set
(`lastValue?_setMany`); of any other column the last cell is the first.
-/

namespace TypedSql

namespace Row

/-- Sets cells one after the other. -/
def setMany (r : Row) (writes : List (String × Value)) : Row :=
  writes.foldl (fun r w => r.set w.1 w.2) r

/-- The value of the last cell of that name. -/
def lastValue? (r : Row) (column : String) : Option Value := r.cells.reverse.lookup column

/-- The row has several cells of that name. -/
def Repeats (r : Row) (column : String) : Prop := 2 ≤ r.columns.count column

instance (r : Row) (column : String) : Decidable (r.Repeats column) :=
  inferInstanceAs (Decidable (2 ≤ _))

/-! ## Lemmas -/

variable (r : Row) (column c : String) (v : Value) (writes : List (String × Value))

theorem columns_set :
    (r.set c v).columns = if c ∈ r.columns then r.columns else r.columns ++ [c] :=
  ColumnMap.keys_setEntry c v r.cells

theorem setMany_append (writes' : List (String × Value)) :
    r.setMany (writes ++ writes') = (r.setMany writes).setMany writes' :=
  List.foldl_append

theorem cells_setMany : (r.setMany writes).cells = ColumnMap.setEntries writes r.cells := by
  induction writes generalizing r with
  | nil => rfl
  | cons w writes ih => exact ih (r.set w.1 w.2)

/-- The columns keep their places, and new ones come after them as they are first written. -/
theorem columns_setMany :
    (r.setMany writes).columns =
      r.columns ++ ((writes.map Prod.fst).filter (· ∉ r.columns)).eraseDups := by
  rw [columns, cells_setMany]
  exact ColumnMap.keys_setEntries writes r.cells

theorem value?_setMany :
    (r.setMany writes).value? column = (writes.reverse.lookup column).or (r.value? column) := by
  rw [value?, cells_setMany]
  exact ColumnMap.lookup_setEntries writes r.cells column

/-- Setting a cell neither makes a column a repeated one nor ends its being one. -/
theorem repeats_set : (r.set c v).Repeats column ↔ r.Repeats column := by
  rw [Repeats, Repeats, columns_set]
  split
  · rfl
  · next hc =>
    rw [List.count_append, List.count_singleton]
    split
    · next heq =>
      have hzero : r.columns.count column = 0 := List.count_eq_zero.2 (beq_iff_eq.1 heq ▸ hc)
      omega
    · rw [Nat.add_zero]

theorem repeats_setMany : (r.setMany writes).Repeats column ↔ r.Repeats column := by
  induction writes generalizing r with
  | nil => rfl
  | cons w writes ih => exact (ih (r.set w.1 w.2)).trans (r.repeats_set column w.1 w.2)

variable {r column} in
theorem lastValue?_eq_value? (h : ¬ r.Repeats column) : r.lastValue? column = r.value? column :=
  ColumnMap.lookup_reverse_of_count_le_one (Nat.le_of_not_lt h)

variable {r column} in
theorem lastValue?_set (h : r.Repeats column) :
    (r.set c v).lastValue? column = r.lastValue? column :=
  ColumnMap.lookup_reverse_setEntry v (.inr h)

variable {r column} in
/-- What is set goes to the first cell of a repeated column, and the last one stays. -/
theorem lastValue?_setMany (h : r.Repeats column) :
    (r.setMany writes).lastValue? column = r.lastValue? column := by
  induction writes generalizing r with
  | nil => rfl
  | cons w writes ih =>
    calc ((r.set w.1 w.2).setMany writes).lastValue? column
      _ = (r.set w.1 w.2).lastValue? column := ih ((r.repeats_set column w.1 w.2).2 h)
      _ = r.lastValue? column := lastValue?_set w.1 w.2 h

end Row

end TypedSql
