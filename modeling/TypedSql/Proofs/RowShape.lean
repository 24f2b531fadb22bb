import TypedSql.Proofs.RowCells

/-!
# Rows as two lists

The names and the values of a row can be kept in two lists, each of which grows on its own.  A
column is then looked up among the names, and is read and written at its position among the
values, where there has to be one:

    r.set c v = .ok r'     the value at the first position of c is v now, or both lists end in c, v
    r.set c v = .error i   the first position of c is i, and there is no value at i

While the two lists are of one length this never happens, and the lists do what the row does:

    r.set c v = .ok r' with r'.joined = r.joined.set c v                         (set_eq_ok)
    r.value? c = .ok (r.joined.value? c)                                         (value?_eq)

A row that is answered or made from a payload starts with lists of one length, so they are so
after any number of writes (`rows_keep_their_shape`).
-/

namespace TypedSql

structure SplitRow where
  names : List String
  values : List Value
deriving DecidableEq

namespace SplitRow

/-- The cells of both lists, position by position. -/
def joined (r : SplitRow) : Row := ⟨r.names.zip r.values⟩

def Aligned (r : SplitRow) : Prop := r.names.length = r.values.length

/-- The value at the first position of a name; that position, if it is past the values. -/
def value? (r : SplitRow) (column : String) : Except Nat (Option Value) :=
  match r.names.idxOf? column with
  | none => .ok none
  | some i =>
    match r.values[i]? with
    | some v => .ok (some v)
    | none => .error i

/-- Overwrites the value at the first position of a name, or appends to both lists. -/
def set (r : SplitRow) (column : String) (v : Value) : Except Nat SplitRow :=
  match r.names.idxOf? column with
  | none => .ok ⟨r.names ++ [column], r.values ++ [v]⟩
  | some i => if i < r.values.length then .ok ⟨r.names, r.values.set i v⟩ else .error i

/-- Writes one after the other, up to the first that fails. -/
def setMany (r : SplitRow) (writes : List (String × Value)) : Except Nat SplitRow :=
  writes.foldlM (fun r w => r.set w.1 w.2) r

end SplitRow

/-- How a row comes about. -/
inductive RowOrigin where
  /-- the columns of an answer, and what is read at each of their positions -/
  | answer (names : List String) (read : Nat → Value)
  | payload (p : Payload)

namespace RowOrigin

def split : RowOrigin → SplitRow
  | answer names read => ⟨names, (List.range names.length).map read⟩
  | payload p => ⟨p.entries.unzip.1, p.entries.unzip.2⟩

def row : RowOrigin → Row
  | answer names read => ⟨names.mapIdx fun i name => (name, read i)⟩
  | payload p => .ofPayload p

end RowOrigin

namespace Row

/-- The second row is the first with a write to one cell: the first of that name, or a new one
at the end where there is none. -/
inductive Writes (r : Row) (column : String) (v : Value) : Row → Prop where
  | replaced {before after : List (String × Value)} {w : Value} :
      r.cells = before ++ (column, w) :: after → column ∉ before.map Prod.fst →
      Writes r column v ⟨before ++ (column, v) :: after⟩
  | appended : column ∉ r.columns → Writes r column v ⟨r.cells ++ [(column, v)]⟩

/-! ## Lemmas: rows -/

theorem writes_set (r : Row) (column : String) (v : Value) :
    r.Writes column v (r.set column v) := by
  by_cases h : column ∈ r.columns
  · obtain ⟨names, names', hnames, hfirst⟩ := List.eq_append_cons_of_mem h
    obtain ⟨before, rest, hcells, rfl, hrest⟩ := List.map_eq_append_iff.1 hnames
    obtain ⟨⟨c, w⟩, after, rfl, hc, -⟩ := List.map_eq_cons_iff.1 hrest
    rw [show c = column from hc] at hcells
    have hset : r.set column v = ⟨before ++ (column, v) :: after⟩ := by
      rw [Row.set, hcells, ColumnMap.setEntry_append v hfirst, ColumnMap.setEntry, if_pos rfl]
    rw [hset]
    exact .replaced hcells hfirst
  · have hset : r.set column v = ⟨r.cells ++ [(column, v)]⟩ := by
      rw [Row.set, ColumnMap.setEntry_of_notMem h]
    rw [hset]
    exact .appended h

theorem value?_set (r : Row) (column c : String) (v : Value) :
    (r.set c v).value? column = if column = c then some v else r.value? column :=
  ColumnMap.lookup_setEntry column c v r.cells

/-- A payload is not changed by being made a row. -/
theorem toPayload_ofPayload (p : Payload) : (ofPayload p).toPayload = p :=
  ColumnMap.ext (ColumnMap.entries_ofList_of_nodup p.nodup)

/-- A row is the one of its payload if no cell of it is lost there. -/
theorem ofPayload_toPayload_iff (r : Row) : ofPayload r.toPayload = r ↔ r.columns.Nodup := by
  constructor
  · intro h
    rw [← h]
    exact r.toPayload.nodup
  · intro h
    rw [ofPayload, toPayload, ColumnMap.entries_ofList_of_nodup h]

end Row

/-! ## Lemmas: two lists -/

namespace SplitRow

variable {r : SplitRow}

/-- To look a column up among the cells is to take the value at its position. -/
theorem lookup_zip {names : List String} {values : List Value}
    (h : names.length = values.length) (column : String) :
    (names.zip values).lookup column = (names.idxOf? column).bind (values[·]?) := by
  induction names generalizing values with
  | nil => rfl
  | cons name names ih =>
    cases values with
    | nil => cases h
    | cons v values =>
      rw [List.zip_cons_cons, List.lookup_cons, List.idxOf?_cons, ih (Nat.succ.inj h)]
      by_cases hname : name = column
      · simp [hname]
      · rw [beq_false_of_ne (Ne.symm hname), if_neg (by simp [hname]), Option.bind_map]
        rfl

/-- To write to a column among the cells is to write at its position. -/
theorem setEntry_zip {names : List String} {values : List Value} {column : String} {i : Nat}
    (h : names.length = values.length) (hi : names.idxOf? column = some i) (v : Value) :
    ColumnMap.setEntry column v (names.zip values) = names.zip (values.set i v) := by
  induction names generalizing values i with
  | nil => cases hi
  | cons name names ih =>
    cases values with
    | nil => cases h
    | cons w values =>
      rw [List.idxOf?_cons] at hi
      by_cases hname : name = column
      · rw [if_pos (by simp [hname])] at hi
        cases hi
        simp [ColumnMap.setEntry, hname]
      · rw [if_neg (by simp [hname])] at hi
        obtain ⟨j, hj, rfl⟩ := Option.map_eq_some_iff.1 hi
        rw [List.zip_cons_cons, ColumnMap.setEntry, if_neg hname, ih (Nat.succ.inj h) hj,
          List.set_cons_succ, List.zip_cons_cons]

theorem Aligned.lt_length (h : r.Aligned) {column : String} {i : Nat}
    (hi : r.names.idxOf? column = some i) : i < r.values.length := by
  obtain ⟨hlt, -⟩ := List.idxOf?_eq_some_iff.1 hi
  rw [Aligned] at h
  omega

theorem Aligned.columns_joined (h : r.Aligned) : r.joined.columns = r.names :=
  List.map_fst_zip (Nat.le_of_eq h)

/-- A read that stays within the values is one of the row. -/
theorem Aligned.value?_eq (h : r.Aligned) (column : String) :
    r.value? column = .ok (r.joined.value? column) := by
  rw [value?, Row.value?, joined, lookup_zip h]
  cases hi : r.names.idxOf? column with
  | none => rfl
  | some i =>
    have hlt := h.lt_length hi
    simp [List.getElem?_eq_getElem hlt]

/-- So is a write, after which the lists are of one length again. -/
theorem Aligned.exists_set (h : r.Aligned) (column : String) (v : Value) :
    ∃ r', r.set column v = .ok r' ∧ r'.Aligned ∧ r'.joined = r.joined.set column v := by
  cases hi : r.names.idxOf? column with
  | none =>
    have hnew : column ∉ r.joined.columns := by
      rw [h.columns_joined]
      exact List.idxOf?_eq_none_iff.1 hi
    refine ⟨⟨r.names ++ [column], r.values ++ [v]⟩, by rw [set, hi], ?_, ?_⟩
    · rw [Aligned, List.length_append, List.length_append, h]
      rfl
    · rw [Row.set, ColumnMap.setEntry_of_notMem hnew, joined, List.zip_append h]
      rfl
  | some i =>
    refine ⟨⟨r.names, r.values.set i v⟩, ?_, ?_, ?_⟩
    · rw [set, hi]
      exact if_pos (h.lt_length hi)
    · rw [Aligned, List.length_set]
      exact h
    · rw [Row.set, joined, joined, setEntry_zip h hi]

theorem Aligned.exists_setMany (h : r.Aligned) (writes : List (String × Value)) :
    ∃ r', r.setMany writes = .ok r' ∧ r'.Aligned ∧ r'.joined = r.joined.setMany writes := by
  induction writes generalizing r with
  | nil => exact ⟨r, rfl, h, rfl⟩
  | cons w writes ih =>
    obtain ⟨first, hfirst, haligned, hjoined⟩ := h.exists_set w.1 w.2
    obtain ⟨last, hlast, haligned', hjoined'⟩ := ih haligned
    refine ⟨last, ?_, haligned', ?_⟩
    · rw [setMany, List.foldlM_cons, hfirst]
      exact hlast
    · rw [hjoined', hjoined]
      rfl

end SplitRow

namespace RowOrigin

theorem aligned_split (o : RowOrigin) : o.split.Aligned := by
  cases o with
  | answer names read =>
    show names.length = ((List.range names.length).map read).length
    rw [List.length_map, List.length_range]
  | payload p =>
    show p.entries.unzip.1.length = p.entries.unzip.2.length
    rw [List.unzip_fst, List.unzip_snd, List.length_map, List.length_map]

theorem joined_split (o : RowOrigin) : o.split.joined = o.row := by
  cases o with
  | answer names read =>
    refine congrArg Row.mk (List.ext_getElem (by simp [split]) fun i hi hi' => ?_)
    simp [split]
  | payload p => exact congrArg Row.mk (List.zip_unzip p.entries)

end RowOrigin

/-! ## Top theorem -/

/-- **A row keeps its shape.**  Whatever is written to a row, its two lists are of one length, no
position is past the values, and they are the row that the writes make of it.  Each further write
changes the first cell of its name, or appends one, and nothing else: the column then shows what
was written, and every other column what it showed.  A payload comes back from the row that is
made of it, and a row from its payload if and only if its names are all different. -/
theorem rows_keep_their_shape (o : RowOrigin) (writes : List (String × Value)) :
    (∃ r, o.split.setMany writes = .ok r ∧
      r.names.length = r.values.length ∧
      r.joined = o.row.setMany writes ∧
      (∀ column, r.value? column = .ok (r.joined.value? column)) ∧
      (∀ column v, ∃ r', r.set column v = .ok r' ∧
        r'.names.length = r'.values.length ∧
        r.joined.Writes column v r'.joined ∧
        r'.value? column = .ok (some v) ∧
        ∀ other ≠ column, r'.value? other = r.value? other) ∧
      (Row.ofPayload r.joined.toPayload = r.joined ↔ r.names.Nodup)) ∧
    ∀ p : Payload, (Row.ofPayload p).toPayload = p := by
  obtain ⟨r, hr, haligned, hjoined⟩ := o.aligned_split.exists_setMany writes
  rw [o.joined_split] at hjoined
  refine ⟨⟨r, hr, haligned, hjoined, haligned.value?_eq, fun column v => ?_, ?_⟩,
    Row.toPayload_ofPayload⟩
  · obtain ⟨r', hset, haligned', hjoined'⟩ := haligned.exists_set column v
    have hvalue : ∀ other, r'.value? other =
        .ok (if other = column then some v else r.joined.value? other) := by
      intro other
      rw [haligned'.value?_eq, hjoined', Row.value?_set]
    refine ⟨r', hset, haligned', hjoined' ▸ r.joined.writes_set column v, ?_, fun other hne => ?_⟩
    · rw [hvalue, if_pos rfl]
    · rw [hvalue, if_neg hne, haligned.value?_eq]
  · rw [Row.ofPayload_toPayload_iff, haligned.columns_joined]

/-- Of two cells of one name a write reaches the first. -/
example :
    (RowOrigin.answer ["a", "b", "a"] fun i => .integer (.ofNat i)).split.setMany
        [("a", .text "x"), ("c", .null)] =
      .ok ⟨["a", "b", "a", "c"], [.text "x", .integer 1, .integer 2, .null]⟩ := by
  decide

end TypedSql
