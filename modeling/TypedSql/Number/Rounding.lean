import TypedSql.Number.Binary64

/-!
# The nearest binary floating-point number

`Binary64.ofRatio` rounds a fraction to the nearest number, an exact half to the
one with the even significand, in exact integer arithmetic.  Integers are
rounded through it.
-/

namespace TypedSql

/-- The natural number nearest to a quotient; an exact half goes to the even
neighbour. -/
def roundHalfEven (num den : Nat) : Nat :=
  let q := num / den
  let r := num % den
  if 2 * r < den then q else if den < 2 * r then q + 1 else q + q % 2

/-- The `b` with `2 ^ b ≤ num / den < 2 ^ (b + 1)`. -/
def binaryExponent (num den : Nat) : Int :=
  let k : Int := (num.log2 : Int) - den.log2
  if num <<< (-k).toNat < den <<< k.toNat then k - 1 else k

namespace Binary64

/-- The number nearest to `± num / den`.  The significand may round up to the
next power of two: its carry then runs into the exponent field, which is the
pattern of the rounded number. -/
def ofRatio (negative : Bool) (num den : Nat) : Binary64 :=
  if num = 0 then zero negative
  else
    let e := max (binaryExponent num den - 52) (-1074)
    let m := roundHalfEven (num <<< (-e).toNat) (den <<< e.toNat)
    let magnitude := (e + 1074).toNat * hiddenBit + m
    if 2047 * hiddenBit ≤ magnitude then infinity negative else ofMagnitude negative magnitude

def ofInt (n : Int) : Binary64 := ofRatio (n < 0) n.natAbs 1

end Binary64

/-! ## Lemmas -/

/-- Twice the distance between the quotient and its rounding is at most one
divisor. -/
theorem two_mul_roundHalfEven_le {num den : Nat} (h : 0 < den) :
    2 * (roundHalfEven num den * den) ≤ 2 * num + den ∧
      2 * num ≤ 2 * (roundHalfEven num den * den) + den := by
  have hd := Nat.div_add_mod num den
  have hr := Nat.mod_lt num h
  have hm : den * (num / den) = num / den * den := Nat.mul_comm ..
  have hp := Nat.mod_two_eq_zero_or_one (num / den)
  unfold roundHalfEven
  simp only
  split
  · omega
  · split
    · rw [Nat.add_mul]; omega
    · rcases hp with hp | hp <;> rw [hp, Nat.add_mul] <;> omega

end TypedSql
