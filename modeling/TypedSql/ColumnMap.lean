/-!
# Maps from columns, in the order of insertion

A `ColumnMap` holds one value for each of its columns.  Setting a column that is
already there replaces its value where it stands; a new column goes to the end.

    (m.insert c v).get? c' = if c' = c then some v else m.get? c'             (get?_insert)
    (m.insert c v).columns = if c ∈ m.columns then m.columns else m.columns ++ [c]
                                                                          (columns_insert)
-/

namespace TypedSql

structure ColumnMap (α : Type) where
  entries : List (String × α)
  nodup : (entries.map Prod.fst).Nodup
deriving DecidableEq

namespace ColumnMap

variable {α : Type}

/-- Replaces the value of a column in place, or appends the column. -/
def setEntry (column : String) (value : α) : List (String × α) → List (String × α)
  | [] => [(column, value)]
  | (c, v) :: rest =>
    if c = column then (column, value) :: rest else (c, v) :: setEntry column value rest

theorem keys_setEntry (column : String) (value : α) (entries : List (String × α)) :
    (setEntry column value entries).map Prod.fst =
      if column ∈ entries.map Prod.fst then entries.map Prod.fst
      else entries.map Prod.fst ++ [column] := by
  induction entries with
  | nil => simp [setEntry]
  | cons e rest ih =>
    obtain ⟨c, v⟩ := e
    by_cases h : c = column
    · simp [setEntry, h]
    · have hne : column ≠ c := fun e => h e.symm
      simp only [setEntry, if_neg h, List.map_cons, ih, List.mem_cons, hne, false_or]
      split <;> simp

theorem nodup_setEntry (column : String) (value : α) {entries : List (String × α)}
    (h : (entries.map Prod.fst).Nodup) :
    ((setEntry column value entries).map Prod.fst).Nodup := by
  rw [keys_setEntry]
  split
  · exact h
  · next hmem =>
    rw [List.nodup_append]
    refine ⟨h, by simp, fun a ha b hb => ?_⟩
    rw [List.mem_singleton] at hb
    rintro rfl
    exact hmem (hb ▸ ha)

def empty : ColumnMap α := ⟨[], List.nodup_nil⟩

instance : EmptyCollection (ColumnMap α) := ⟨empty⟩

instance : Inhabited (ColumnMap α) := ⟨empty⟩

def insert (m : ColumnMap α) (column : String) (value : α) : ColumnMap α :=
  ⟨setEntry column value m.entries, nodup_setEntry column value m.nodup⟩

/-- Inserts pairs one after the other. -/
def insertMany (m : ColumnMap α) (pairs : List (String × α)) : ColumnMap α :=
  pairs.foldl (fun m p => m.insert p.1 p.2) m

def ofList (pairs : List (String × α)) : ColumnMap α := empty.insertMany pairs

def single (column : String) (value : α) : ColumnMap α := empty.insert column value

/-- The entries of `n` are inserted into `m`, so they win where both have a
column. -/
def merge (m n : ColumnMap α) : ColumnMap α := m.insertMany n.entries

def erase (m : ColumnMap α) (column : String) : ColumnMap α :=
  ⟨m.entries.filter fun e => e.1 != column,
    m.nodup.sublist (List.filter_sublist.map Prod.fst)⟩

def get? (m : ColumnMap α) (column : String) : Option α := m.entries.lookup column

/-- Takes out the first entry of a column: its value, and the map that is left. -/
def remove (m : ColumnMap α) (column : String) : Option α × ColumnMap α :=
  (m.get? column,
    ⟨m.entries.eraseP fun e => e.1 == column, m.nodup.sublist (List.eraseP_sublist.map Prod.fst)⟩)

def columns (m : ColumnMap α) : List String := m.entries.map Prod.fst

def size (m : ColumnMap α) : Nat := m.entries.length

def isEmpty (m : ColumnMap α) : Bool := m.entries.isEmpty

/-- The same columns in the same order, with values that `eq` relates. -/
def equals (eq : α → α → Bool) (m n : ColumnMap α) : Bool :=
  m.entries.isEqv n.entries fun a b => a.1 == b.1 && eq a.2 b.2

/-! ## Lemmas -/

@[ext]
theorem ext {m n : ColumnMap α} (h : m.entries = n.entries) : m = n := by
  cases m; cases n; simp_all

@[simp] theorem entries_empty : (empty : ColumnMap α).entries = [] := rfl

@[simp] theorem entries_insert (m : ColumnMap α) (c : String) (v : α) :
    (m.insert c v).entries = setEntry c v m.entries := rfl

theorem columns_insert (m : ColumnMap α) (c : String) (v : α) :
    (m.insert c v).columns = if c ∈ m.columns then m.columns else m.columns ++ [c] :=
  keys_setEntry c v m.entries

theorem lookup_setEntry (c' c : String) (v : α) (entries : List (String × α)) :
    (setEntry c v entries).lookup c' = if c' = c then some v else entries.lookup c' := by
  induction entries with
  | nil =>
    by_cases h : c' = c
    · simp [setEntry, h]
    · simp [setEntry, List.lookup_cons, beq_false_of_ne h, h]
  | cons e rest ih =>
    obtain ⟨k, w⟩ := e
    by_cases hk : k = c
    · subst hk
      by_cases h : c' = k
      · simp [setEntry, h]
      · simp [setEntry, List.lookup_cons, beq_false_of_ne h, h]
    · rw [setEntry, if_neg hk, List.lookup_cons, List.lookup_cons, ih]
      by_cases h : c' = c
      · subst h; simp [beq_false_of_ne (Ne.symm hk)]
      · simp [h]

theorem get?_insert (m : ColumnMap α) (c' c : String) (v : α) :
    (m.insert c v).get? c' = if c' = c then some v else m.get? c' :=
  lookup_setEntry c' c v m.entries

end ColumnMap

end TypedSql
