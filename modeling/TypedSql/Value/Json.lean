import TypedSql.Value.Basic
import TypedSql.Json.Printer

/-!
# Values and JSON

A blob becomes the array of its bytes.  The other way, arrays and objects have
no scalar form and are kept as their JSON text, and a number is an integer when
it is one of 64 bits.
-/

namespace TypedSql.Value

/-- A NaN or an infinity has no JSON form and becomes null. -/
def toJson : Value → Json
  | null => .null
  | integer n => .int n.toInt
  | real x => if x.isFinite then .real x else .null
  | text s => .str s
  | blob bytes => .arr (bytes.map fun b => .int b.toNat)

def ofJson : Json → Value
  | .null => null
  | .bool b => toValue b
  | .int n =>
    if Int64.minValue.toInt ≤ n ∧ n ≤ Int64.maxValue.toInt then integer (.ofInt n)
    else real (.ofInt n)
  | .real x => real x
  | .str s => text s
  | j@(.arr _) => text j.text
  | j@(.obj _) => text j.text

/-! ## Lemmas -/

theorem ofJson_toJson_integer (n : Int64) : ofJson (toJson (integer n)) = integer n := by
  simp only [toJson, ofJson]
  rw [if_pos ⟨n.minValue_le_toInt, n.toInt_le⟩, Int64.ofInt_toInt]

end TypedSql.Value
