import Mathlib.Data.List.Induction
import TypedSql.ColumnMap

/-!
# What a column map holds

A column map is made by writes, one after the other.  A column stands where it was written
first, and holds what was written to it last:

    (ofList writes).columns = (writes.map Prod.fst).eraseDups            (columns_ofList)
    (ofList writes).get? c = writes.reverse.lookup c                        (get?_ofList)

To merge a map into another is to write its entries after those of the other.
-/

namespace TypedSql.ColumnMap

variable {α : Type}

theorem insertMany_append (m : ColumnMap α) (writes writes' : List (String × α)) :
    m.insertMany (writes ++ writes') = (m.insertMany writes).insertMany writes' :=
  List.foldl_append

theorem insertMany_concat (m : ColumnMap α) (writes : List (String × α)) (w : String × α) :
    m.insertMany (writes ++ [w]) = (m.insertMany writes).insert w.1 w.2 :=
  m.insertMany_append writes [w]

theorem ofList_append_entries (writes : List (String × α)) (n : ColumnMap α) :
    ofList (writes ++ n.entries) = (ofList writes).merge n :=
  empty.insertMany_append writes n.entries

theorem ofList_concat (writes : List (String × α)) (w : String × α) :
    ofList (writes ++ [w]) = (ofList writes).insert w.1 w.2 :=
  empty.insertMany_concat writes w

/-! ## Writes to a list of entries -/

/-- Replaces or appends the entries of the writes, one after the other. -/
def setEntries (writes : List (String × α)) (entries : List (String × α)) : List (String × α) :=
  writes.foldl (fun entries w => setEntry w.1 w.2 entries) entries

theorem setEntries_concat (writes : List (String × α)) (w : String × α)
    (entries : List (String × α)) :
    setEntries (writes ++ [w]) entries = setEntry w.1 w.2 (setEntries writes entries) := by
  rw [setEntries, List.foldl_append]
  rfl

/-- The columns keep their places, and new ones come after them as they are first written. -/
theorem keys_setEntries (writes entries : List (String × α)) :
    (setEntries writes entries).map Prod.fst =
      entries.map Prod.fst ++
        ((writes.map Prod.fst).filter (· ∉ entries.map Prod.fst)).eraseDups := by
  induction writes using List.reverseRecOn with
  | nil => simp [setEntries]
  | append_singleton writes w ih =>
    rw [setEntries_concat, keys_setEntry, ih, List.map_append, List.filter_append,
      List.eraseDups_append]
    by_cases hold : w.1 ∈ entries.map Prod.fst
    · simp [hold]
    · by_cases hnew : w.1 ∈ writes.map Prod.fst
      · simp [hold, hnew, List.mem_eraseDups, List.removeAll]
      · simp [hold, hnew, List.mem_eraseDups, List.removeAll, List.eraseDups_cons]

/-- What is looked up is what was written last, or else what was there. -/
theorem lookup_setEntries (writes entries : List (String × α)) (column : String) :
    (setEntries writes entries).lookup column =
      (writes.reverse.lookup column).or (entries.lookup column) := by
  induction writes using List.reverseRecOn with
  | nil => rfl
  | append_singleton writes w ih =>
    rw [setEntries_concat, lookup_setEntry, ih, List.reverse_append, List.reverse_singleton,
      List.singleton_append, List.lookup_cons]
    by_cases h : column = w.1
    · rw [if_pos h, h, beq_self_eq_true]
      rfl
    · rw [if_neg h, beq_false_of_ne h]

theorem entries_insertMany (m : ColumnMap α) (writes : List (String × α)) :
    (m.insertMany writes).entries = setEntries writes m.entries := by
  induction writes generalizing m with
  | nil => rfl
  | cons w writes ih => exact ih (m.insert w.1 w.2)

/-! ## Maps that are made by writes -/

/-- A column stands where it was written first. -/
theorem columns_ofList (writes : List (String × α)) :
    (ofList writes).columns = (writes.map Prod.fst).eraseDups := by
  rw [columns, ofList, entries_insertMany, keys_setEntries, entries_empty, List.map_nil,
    List.nil_append, List.filter_eq_self.2 fun _ _ => by simp]

theorem setEntry_append {c : String} (v : α) {before : List (String × α)}
    (h : c ∉ before.map Prod.fst) (entries : List (String × α)) :
    setEntry c v (before ++ entries) = before ++ setEntry c v entries := by
  induction before with
  | nil => rfl
  | cons e before ih =>
    obtain ⟨hne, hbefore⟩ := not_or.1 (mt List.mem_cons.2 h)
    rw [List.cons_append, setEntry, if_neg (Ne.symm hne), ih hbefore, List.cons_append]

theorem setEntry_of_notMem {c : String} {v : α} {entries : List (String × α)}
    (h : c ∉ entries.map Prod.fst) : setEntry c v entries = entries ++ [(c, v)] := by
  have happend := setEntry_append v h []
  rwa [List.append_nil] at happend

/-- Writes to columns that all differ are the entries themselves. -/
theorem entries_ofList_of_nodup {writes : List (String × α)}
    (h : (writes.map Prod.fst).Nodup) : (ofList writes).entries = writes := by
  induction writes using List.reverseRecOn with
  | nil => rfl
  | append_singleton writes w ih =>
    rw [List.map_append, List.map_singleton, List.nodup_append] at h
    obtain ⟨hwrites, -, hdisjoint⟩ := h
    have hnew : w.1 ∉ writes.map Prod.fst := fun hmem =>
      hdisjoint w.1 hmem w.1 (List.mem_singleton_self _) rfl
    rw [ofList_concat, entries_insert, ih hwrites, setEntry_of_notMem hnew]

/-- It holds what was written to it last. -/
theorem get?_ofList (writes : List (String × α)) (column : String) :
    (ofList writes).get? column = writes.reverse.lookup column := by
  rw [get?, ofList, entries_insertMany, lookup_setEntries]
  exact Option.or_none

/-! ## What is looked up -/

variable {column : String} {entries : List (String × α)}

theorem lookup_eq_none_iff : entries.lookup column = none ↔ column ∉ entries.map Prod.fst := by
  rw [List.lookup_eq_none_iff]
  constructor
  · intro h hmem
    obtain ⟨e, he, rfl⟩ := List.mem_map.1 hmem
    exact absurd rfl (bne_iff_ne.1 (h e he))
  · intro h e he
    rw [bne_iff_ne]
    rintro rfl
    exact h (List.mem_map_of_mem he)

theorem get?_eq_none_iff (m : ColumnMap α) : m.get? column = none ↔ column ∉ m.columns :=
  lookup_eq_none_iff

theorem lookup_map {β : Type} (f : α → β) (entries : List (String × α)) (column : String) :
    (entries.map fun e => (e.1, f e.2)).lookup column = (entries.lookup column).map f := by
  induction entries with
  | nil => rfl
  | cons e rest ih =>
    rw [List.map_cons, List.lookup_cons, List.lookup_cons, ih]
    split <;> rfl

theorem lookup_reverse_of_count_le_one (h : (entries.map Prod.fst).count column ≤ 1) :
    entries.reverse.lookup column = entries.lookup column := by
  induction entries with
  | nil => rfl
  | cons e rest ih =>
    rw [List.map_cons, List.count_cons] at h
    rw [List.reverse_cons, List.lookup_append, ih (by omega), List.lookup_cons, List.lookup_cons]
    by_cases hc : column = e.1
    · rw [if_pos (by simp [hc])] at h
      have hrest : rest.lookup column = none :=
        lookup_eq_none_iff.2 (List.count_eq_zero.1 (by omega))
      rw [hrest, hc, beq_self_eq_true]
      rfl
    · rw [beq_false_of_ne hc]
      exact Option.or_none

/-- A map has one entry for a column, from whichever end it is looked up. -/
theorem lookup_reverse_entries (m : ColumnMap α) (column : String) :
    m.entries.reverse.lookup column = m.get? column :=
  lookup_reverse_of_count_le_one (List.nodup_iff_count.1 m.nodup column)

/-- Leaving out the entries of one column hides no other. -/
theorem lookup_filter_of_ne {key : String} (h : column ≠ key) :
    (entries.filter fun e => e.1 != key).lookup column = entries.lookup column := by
  induction entries with
  | nil => rfl
  | cons e rest ih =>
    rw [List.lookup_cons]
    by_cases hkey : e.1 = key
    · rw [List.filter_cons_of_neg (by simp [hkey]), ih, beq_false_of_ne (hkey ▸ h)]
    · rw [List.filter_cons_of_pos (by simp [hkey]), List.lookup_cons, ih]

/-- The last entry of a column is left alone where it is another one than the first. -/
theorem lookup_reverse_setEntry {c : String} (v : α)
    (h : column ≠ c ∨ 2 ≤ (entries.map Prod.fst).count column) :
    (setEntry c v entries).reverse.lookup column = entries.reverse.lookup column := by
  induction entries with
  | nil =>
    have hne : column ≠ c := by simpa using h
    simp [setEntry, List.lookup_cons, beq_false_of_ne hne]
  | cons e rest ih =>
    obtain ⟨k, w⟩ := e
    rw [List.map_cons, List.count_cons] at h
    by_cases hk : k = c
    · rw [setEntry, if_pos hk, List.reverse_cons, List.reverse_cons, List.lookup_append,
        List.lookup_append]
      by_cases hc : column = c
      · -- the column stands in the rest too, so the replaced entry is not the last one
        rw [if_pos (by simp [hk, hc])] at h
        have hcount := h.resolve_left fun hne => hne hc
        have hmem : column ∈ rest.reverse.map Prod.fst := by
          rw [List.map_reverse, List.mem_reverse]
          exact List.count_pos_iff.1 (by omega)
        obtain ⟨u, hu⟩ := Option.ne_none_iff_exists'.1 (mt lookup_eq_none_iff.1 (not_not.2 hmem))
        rw [hu]
        rfl
      · simp [List.lookup_cons, beq_false_of_ne hc, hk]
    · have hrest : column ≠ c ∨ 2 ≤ (rest.map Prod.fst).count column := by
        by_cases hc : column = k
        · exact .inl (hc ▸ hk)
        · rw [if_neg (by simpa using fun hkc => hc hkc.symm)] at h
          exact h
      rw [setEntry, if_neg hk, List.reverse_cons, List.reverse_cons, List.lookup_append,
        List.lookup_append, ih hrest]

theorem eraseDups_of_nodup {columns : List String} (h : columns.Nodup) :
    columns.eraseDups = columns := by
  induction columns with
  | nil => rfl
  | cons c columns ih =>
    obtain ⟨hc, hcolumns⟩ := List.nodup_cons.1 h
    have hfilter : columns.filter (fun b => !b == c) = columns :=
      List.filter_eq_self.2 fun b hb => by
        rw [beq_false_of_ne (ne_of_mem_of_not_mem hb hc)]
        rfl
    rw [List.eraseDups_cons, hfilter, ih hcolumns]

end TypedSql.ColumnMap
