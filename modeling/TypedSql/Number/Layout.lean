import TypedSql.Number.Shortest

/-!
# Layouts of a decimal

A `Layout` decides how the shortest digits of a number are set out: where
positional notation ends, whether a whole number keeps a decimal place, and how
an exponent is signed.  The domain modules that write numbers hold the values.
-/

namespace TypedSql

structure Layout where
  /-- which of two equally near decimals is written -/
  tie : Tie
  /-- the decimal exponents written positionally; all of them for `none` -/
  positional : Option (Int × Int)
  /-- a whole number in positional notation ends in `.0` -/
  wholePlace : Bool
  /-- an exponent that is not negative has a plus sign -/
  plusSign : Bool

namespace Layout

def isPositional (l : Layout) (e : Int) : Bool :=
  match l.positional with
  | none => true
  | some (low, high) => low ≤ e && e ≤ high

/-- Positional notation of the digits `ds`, of which the first is worth
`10 ^ e`. -/
def place (l : Layout) (ds : List Char) (e : Int) : List Char :=
  if e < 0 then '0' :: '.' :: List.replicate (-e - 1).toNat '0' ++ ds
  else
    let whole := ds.take (e + 1).toNat
    let places := ds.drop (e + 1).toNat
    let zeros := List.replicate ((e + 1).toNat - ds.length) '0'
    whole ++ zeros ++
      (if places.isEmpty then (if l.wholePlace then ['.', '0'] else []) else '.' :: places)

/-- Notation with an exponent: one digit before the point. -/
def withExponent (l : Layout) (ds : List Char) (e : Int) : List Char :=
  ds.take 1 ++ (if ds.length ≤ 1 then [] else '.' :: ds.drop 1) ++ ['e'] ++
    (if e < 0 then ['-'] else if l.plusSign then ['+'] else []) ++ Nat.toDigits 10 e.natAbs

/-- A positive decimal in the layout. -/
def decimal (l : Layout) (d : Decimal) : List Char :=
  let ds := Nat.toDigits 10 d.digits
  let e := d.exponent + ds.length - 1
  if l.isPositional e then l.place ds e else l.withExponent ds e

/-- The text of a number: its sign, then the shortest digits that read back. -/
def text (l : Layout) (x : Binary64) : String :=
  if x.isNaN then "NaN"
  else
    let body :=
      if !x.isFinite then ['i', 'n', 'f']
      else if x.isZero then l.place ['0'] 0
      else l.decimal (x.shortest l.tie)
    String.ofList (if x.isNegative then '-' :: body else body)

end Layout

end TypedSql
