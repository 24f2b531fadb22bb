import TypedSql.Proofs.ByteOrder
import TypedSql.Proofs.ColumnWrites
import TypedSql.Table.Row

/-!
# Rows through JSON

A row is written as a JSON object and a payload is read from it.  The object has its keys in the
order of their bytes, each of them once and with the last value that it was given:

    ofFields fields = .obj (sortFields fields)
    (sortFields fields).lookup k = fields.reverse.lookup k                (lookup_sortFields)

So the payload has the columns of the row in another order, and what it holds is what is left of
each last value when it is written and read again:

    Value.ofJson v.toJson = v.throughJson                                   (ofJson_toJson)
    p.get? c = (row.toPayload.get? c).map Value.throughJson              (rows_survive_json)
-/

namespace TypedSql

/-! ## Objects -/

namespace Json

/-- The fields of an object that is given fields one after the other. -/
def sortFields (fields : List (String × Json)) : List (String × Json) :=
  fields.foldl (fun acc f => insertField f.1 f.2 acc) []

def Sorted (fields : List (String × Json)) : Prop := fields.Pairwise fun f g => f.1 < g.1

theorem mem_insertField {key : String} {value : Json} {f : String × Json}
    {fields : List (String × Json)} (h : f ∈ insertField key value fields) :
    f = (key, value) ∨ f ∈ fields := by
  induction fields with
  | nil => exact .inl (List.mem_singleton.1 h)
  | cons g rest ih =>
    rw [insertField] at h
    split at h
    · exact (List.mem_cons.1 h).imp_right (List.mem_cons_of_mem g)
    · split at h
      · exact List.mem_cons.1 h
      · rcases List.mem_cons.1 h with rfl | h
        · exact .inr List.mem_cons_self
        · exact (ih h).imp_right (List.mem_cons_of_mem g)

theorem Sorted.insertField {fields : List (String × Json)} (h : Sorted fields) (key : String)
    (value : Json) : Sorted (insertField key value fields) := by
  induction fields with
  | nil => exact List.pairwise_singleton _ _
  | cons g rest ih =>
    obtain ⟨hg, hrest⟩ := List.pairwise_cons.1 h
    rw [Json.insertField]
    split
    · next heq => exact List.pairwise_cons.2 ⟨fun f hf => heq ▸ hg f hf, hrest⟩
    · next hne =>
      split
      · next hlt =>
        refine List.pairwise_cons.2 ⟨fun f hf => ?_, h⟩
        rcases List.mem_cons.1 hf with rfl | hf
        · exact hlt
        · exact String.lt_trans hlt (hg f hf)
      · next hnlt =>
        have hgt : g.1 < key := lt_of_le_of_ne (not_lt.1 hnlt) (Ne.symm hne)
        refine List.pairwise_cons.2 ⟨fun f hf => ?_, ih hrest⟩
        rcases mem_insertField hf with rfl | hf
        · exact hgt
        · exact hg f hf

theorem sortFields_concat (fields : List (String × Json)) (f : String × Json) :
    sortFields (fields ++ [f]) = insertField f.1 f.2 (sortFields fields) :=
  List.foldl_append

theorem sorted_sortFields (fields : List (String × Json)) : Sorted (sortFields fields) := by
  induction fields using List.reverseRecOn with
  | nil => exact List.Pairwise.nil
  | append_singleton fields f ih =>
    rw [sortFields_concat]
    exact ih.insertField f.1 f.2

/-- Of a repeated key the last value is kept. -/
theorem lookup_sortFields (fields : List (String × Json)) (key : String) :
    (sortFields fields).lookup key = fields.reverse.lookup key := by
  induction fields using List.reverseRecOn with
  | nil => rfl
  | append_singleton fields f ih =>
    rw [sortFields_concat, lookup_insertField, ih, List.reverse_append, List.reverse_singleton,
      List.singleton_append, List.lookup_cons]
    by_cases h : key = f.1
    · rw [if_pos h, h, beq_self_eq_true]
    · rw [if_neg h, beq_false_of_ne h]

/-- The keys stand in the order of their bytes. -/
theorem Sorted.bytes {fields : List (String × Json)} (h : Sorted fields) :
    (fields.map Prod.fst).Pairwise fun a b => Text.bytes a < Text.bytes b :=
  List.pairwise_map.2 (h.imp Text.bytes_lt_iff.2)

theorem Sorted.nodup {fields : List (String × Json)} (h : Sorted fields) :
    (fields.map Prod.fst).Nodup :=
  List.pairwise_map.2 (h.imp ne_of_lt)

/-- The numbers of an array stand between commas. -/
theorem itemChars_int (ns : List Nat) : itemChars (ns.map fun n : Nat => .int n) =
    [','].intercalate (ns.map fun n => (toString n).toList) := by
  induction ns with
  | nil => simp [itemChars]
  | cons n rest ih =>
    have hn : chars (.int n) = (toString n).toList := by
      rw [chars]
      rfl
    cases rest with
    | nil => simp [itemChars, hn]
    | cons k rest =>
      simp only [List.map_cons, itemChars, List.intercalate_cons_cons, hn] at ih ⊢
      rw [ih, List.append_assoc, List.singleton_append]

theorem text_arr_int (ns : List Nat) : text (.arr (ns.map fun n : Nat => .int n)) =
    "[" ++ ",".intercalate (ns.map fun n => toString n) ++ "]" := by
  apply String.toList_injective
  rw [text, String.toList_ofList, chars, itemChars_int, String.toList_append,
    String.toList_append, String.toList_intercalate, List.map_map]
  rfl

end Json

/-! ## Values -/

namespace Value

/-- What is left of a value that is written as JSON and read again: a real that is no number is
lost, and a blob is kept as the text of its bytes. -/
def throughJson : Value → Value
  | null => null
  | integer n => integer n
  | real x => if x.isFinite then real x else null
  | text s => text s
  | blob bytes => text ("[" ++ ",".intercalate (bytes.map fun b => toString b.toNat) ++ "]")

theorem ofJson_toJson (v : Value) : ofJson v.toJson = v.throughJson := by
  cases v with
  | null => rfl
  | integer n => exact ofJson_toJson_integer n
  | real x =>
    rw [toJson, throughJson]
    split <;> rfl
  | text s => rfl
  | blob bytes =>
    have htext := Json.text_arr_int (bytes.map UInt8.toNat)
    rw [List.map_map, List.map_map] at htext
    rw [toJson, ofJson, throughJson]
    exact congrArg text htext

end Value

/-! ## Rows -/

namespace Row

/-- The fields of the object that a row is written as. -/
def fields (r : Row) : List (String × Json) :=
  Json.sortFields (r.cells.map fun c => (c.1, c.2.toJson))

/-- The payload that is read from the object that a row is written as. -/
def reread (r : Row) : Payload := .ofList (r.fields.map fun f => (f.1, Value.ofJson f.2))

variable (r : Row)

theorem ofSerialized_toJson : Payload.ofSerialized (.ok r.toJson) = .ok r.reread := rfl

theorem sorted_fields : Json.Sorted r.fields := Json.sorted_sortFields _

/-- The object has a field for each column, with the value of its last cell. -/
theorem lookup_fields (column : String) :
    r.fields.lookup column = (r.toPayload.get? column).map Value.toJson := by
  rw [fields, Json.lookup_sortFields, ← List.map_reverse, ColumnMap.lookup_map, toPayload,
    ColumnMap.get?_ofList]

theorem entries_reread : r.reread.entries = r.fields.map fun f => (f.1, Value.ofJson f.2) := by
  refine ColumnMap.entries_ofList_of_nodup ?_
  rw [List.map_map]
  exact r.sorted_fields.nodup

theorem columns_reread : r.reread.columns = r.fields.map Prod.fst := by
  rw [ColumnMap.columns, entries_reread, List.map_map]
  rfl

theorem get?_reread (column : String) :
    r.reread.get? column = (r.toPayload.get? column).map Value.throughJson := by
  rw [ColumnMap.get?, entries_reread, ColumnMap.lookup_map, lookup_fields, Option.map_map]
  exact congrArg (fun f => (r.toPayload.get? column).map f) (funext Value.ofJson_toJson)

theorem perm_columns_reread : r.reread.columns.Perm r.toPayload.columns := by
  refine (List.perm_ext_iff_of_nodup r.reread.nodup r.toPayload.nodup).2 fun column => ?_
  have hnone : r.reread.get? column = none ↔ r.toPayload.get? column = none := by
    rw [get?_reread, Option.map_eq_none_iff]
  rw [ColumnMap.get?_eq_none_iff, ColumnMap.get?_eq_none_iff] at hnone
  exact not_iff_not.1 hnone

end Row

/-! ## Top theorem -/

/-- **Rows survive JSON.**  A payload can be made from the JSON object of every row.  It has the
columns of the row, each of them once, in the order of their bytes, and in each of them what the
row's own payload holds there, as far as JSON can say it. -/
theorem rows_survive_json (r : Row) :
    ∃ p : Payload, Payload.ofSerialized (.ok r.toJson) = .ok p ∧
      (p.columns.Pairwise fun a b => Text.bytes a < Text.bytes b) ∧
      p.columns.Perm r.toPayload.columns ∧
      ∀ column, p.get? column = (r.toPayload.get? column).map Value.throughJson := by
  refine ⟨r.reread, r.ofSerialized_toJson, ?_, r.perm_columns_reread, r.get?_reread⟩
  rw [r.columns_reread]
  exact r.sorted_fields.bytes

example : (Row.mk [("é", .text "x"), ("b", .integer 1), ("a", .blob [0, 255]),
    ("b", .real (.ofInt 1))]).reread.entries =
    [("a", .text "[0,255]"), ("b", .real (.ofInt 1)), ("é", .text "x")] := by
  decide

end TypedSql
