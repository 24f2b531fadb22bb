import TypedSql.Value.Text

/-!
# Typed access to values

`FromValue α` reads a value as an `α` or says why it is none.  An integer is
accepted where a real is wanted, and nothing else is converted.
-/

namespace TypedSql

/-- Why a value cannot be read as a type. -/
inductive DecodeFault where
  /-- another kind of value was wanted -/
  | mismatch (wanted : String) (got : Value)
  /-- the integer lies above the range of the type -/
  | tooLarge
  /-- the integer lies below the range of the type -/
  | tooSmall
deriving DecidableEq

def DecodeFault.message : DecodeFault → String
  | mismatch wanted got => "expected " ++ wanted ++ ", got " ++ got.listing
  | tooLarge => "number too large to fit in target type"
  | tooSmall => "number too small to fit in target type"

class FromValue (α : Type) where
  fromValue : Value → Except DecodeFault α

export FromValue (fromValue)

namespace Value

/-- The view of the value, or a mismatch with the kind that was wanted. -/
def expect {α : Type} (wanted : String) (view : Value → Option α) (v : Value) :
    Except DecodeFault α :=
  match view v with
  | some a => .ok a
  | none => .error (.mismatch wanted v)

end Value

instance : FromValue Value := ⟨.ok⟩
instance : FromValue Int64 := ⟨Value.expect "integer" Value.integer?⟩
instance : FromValue Binary64 := ⟨Value.expect "real" Value.real?⟩
instance : FromValue String := ⟨Value.expect "text" Value.text?⟩
instance : FromValue (List UInt8) := ⟨Value.expect "blob" Value.blob?⟩

instance : FromValue Int32 := ⟨fun v => do
  let n : Int64 ← fromValue v
  if n.toInt < Int32.minValue.toInt then throw .tooSmall
  if Int32.maxValue.toInt < n.toInt then throw .tooLarge
  return .ofInt n.toInt⟩

/-- Every integer but zero is true. -/
instance : FromValue Bool := ⟨fun v => do
  let n : Int64 ← fromValue v
  return n != 0⟩

/-- NULL is no value. -/
instance {α : Type} [FromValue α] : FromValue (Option α) := ⟨fun v =>
  if v.isNull then .ok none else some <$> fromValue v⟩

end TypedSql
