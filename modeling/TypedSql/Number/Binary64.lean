/-!
# Binary floating point with 64 bits

A `Binary64` is its bit pattern, so that a NaN keeps its payload and the two
zeros stay apart; `equals` is the equality of the numbers, under which a NaN
differs from itself and the zeros agree.  A finite number is
`± significand · 2 ^ exponent`.
-/

namespace TypedSql

structure Binary64 where
  bits : UInt64
deriving DecidableEq

namespace Binary64

/-- The topmost of the 64 bits. -/
def signBit : Nat := 0x8000000000000000

/-- The bit above the 52 of the fraction: the lowest of the exponent field, and
the leading one of a normal significand. -/
def hiddenBit : Nat := 0x10000000000000

def isNegative (x : Binary64) : Bool := signBit ≤ x.bits.toNat

def exponentField (x : Binary64) : Nat := x.bits.toNat / hiddenBit % 2048

def fraction (x : Binary64) : Nat := x.bits.toNat % hiddenBit

def isFinite (x : Binary64) : Bool := x.exponentField != 2047

def isNaN (x : Binary64) : Bool := x.exponentField == 2047 && x.fraction != 0

def isZero (x : Binary64) : Bool := x.exponentField == 0 && x.fraction == 0

def significand (x : Binary64) : Nat :=
  if x.exponentField = 0 then x.fraction else hiddenBit + x.fraction

def exponent (x : Binary64) : Int := (max x.exponentField 1 : Nat) - 1075

/-- Equality of the numbers: a NaN equals nothing, the two zeros are equal. -/
def equals (x y : Binary64) : Bool :=
  !x.isNaN && !y.isNaN && (x == y || (x.isZero && y.isZero))

/-- A sign and the bits below it. -/
def ofMagnitude (negative : Bool) (magnitude : Nat) : Binary64 :=
  ⟨UInt64.ofNat ((if negative then signBit else 0) + magnitude)⟩

def zero (negative : Bool) : Binary64 := ofMagnitude negative 0

def infinity (negative : Bool) : Binary64 := ofMagnitude negative (2047 * hiddenBit)

end Binary64

/-- A single-precision number by its bit pattern. -/
structure Binary32 where
  bits : UInt32
deriving DecidableEq

namespace Binary32

/-- The bit above the 23 of the fraction. -/
def hiddenBit : Nat := 0x800000

/-- The double-precision form of a number.  A NaN keeps its payload and is quiet
afterwards. -/
def widen (x : Binary32) : Binary64 :=
  let negative : Bool := 0x80000000 ≤ x.bits.toNat
  let field := x.bits.toNat / hiddenBit % 256
  let fraction := x.bits.toNat % hiddenBit
  if field = 255 then
    if fraction = 0 then .infinity negative
    else .ofMagnitude negative
      (2047 * Binary64.hiddenBit + Binary64.hiddenBit / 2 + (fraction % (hiddenBit / 2)) <<< 29)
  else if field = 0 then
    if fraction = 0 then .zero negative
    else
      -- the leading one of a subnormal becomes the hidden bit
      let shift := 23 - fraction.log2
      .ofMagnitude negative
        ((897 - shift) * Binary64.hiddenBit + ((fraction <<< shift) % hiddenBit) <<< 29)
  else .ofMagnitude negative ((field + 896) * Binary64.hiddenBit + fraction <<< 29)

end Binary32

end TypedSql
