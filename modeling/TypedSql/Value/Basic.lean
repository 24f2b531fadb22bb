import TypedSql.Number.Rounding

/-!
# Scalar values

The five kinds of value that a column can hold or a placeholder can be bound to.
`Value.equals` compares reals as numbers, so it is not reflexive on a NaN;
`=` compares the bits.
-/

namespace TypedSql

inductive Value where
  | null
  | integer (n : Int64)
  | real (x : Binary64)
  | text (s : String)
  | blob (bytes : List UInt8)
deriving DecidableEq

namespace Value

def isNull : Value → Bool
  | null => true
  | _ => false

def integer? : Value → Option Int64
  | integer n => some n
  | _ => none

/-- The number as a real; an integer is rounded to the nearest one. -/
def real? : Value → Option Binary64
  | integer n => some (.ofInt n.toInt)
  | real x => some x
  | _ => none

def text? : Value → Option String
  | text s => some s
  | _ => none

def blob? : Value → Option (List UInt8)
  | blob bytes => some bytes
  | _ => none

def equals : Value → Value → Bool
  | real x, real y => x.equals y
  | v, w => v == w

@[simp] theorem isNull_iff {v : Value} : v.isNull = true ↔ v = null := by
  cases v <;> simp [isNull]

end Value

/-- Types whose values can be bound to a placeholder. -/
class ToValue (α : Type) where
  toValue : α → Value

export ToValue (toValue)

instance : ToValue Value := ⟨id⟩
instance : ToValue Int64 := ⟨.integer⟩
instance : ToValue Int32 := ⟨fun n => .integer (.ofInt n.toInt)⟩
instance : ToValue Int16 := ⟨fun n => .integer (.ofInt n.toInt)⟩
instance : ToValue Int8 := ⟨fun n => .integer (.ofInt n.toInt)⟩
instance : ToValue UInt32 := ⟨fun n => .integer (.ofNat n.toNat)⟩
instance : ToValue UInt16 := ⟨fun n => .integer (.ofNat n.toNat)⟩
instance : ToValue UInt8 := ⟨fun n => .integer (.ofNat n.toNat)⟩
instance : ToValue Bool := ⟨fun b => .integer (if b then 1 else 0)⟩
instance : ToValue Binary64 := ⟨.real⟩
instance : ToValue Binary32 := ⟨fun x => .real x.widen⟩
instance : ToValue String := ⟨.text⟩
instance : ToValue (List UInt8) := ⟨.blob⟩

/-- No value is NULL. -/
instance {α : Type} [ToValue α] : ToValue (Option α) := ⟨fun
  | some a => toValue a
  | none => .null⟩

end TypedSql
