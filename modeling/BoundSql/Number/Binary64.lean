import BoundSql.Number.Shortest

/-!
# Doubles

Numbers in the 64-bit binary interchange format, held as their bits. Their comparison and their
text are computed from the bits in exact arithmetic.
-/

namespace BoundSql

/-- A double by its bits: sign, eleven bits of exponent, fifty-two bits of fraction. -/
structure Binary64 where
  bits : UInt64
  deriving DecidableEq, Repr

namespace Binary64

/-- The sign bit. -/
def negative (x : Binary64) : Bool := 0x8000000000000000 ≤ x.bits.toNat

/-- The exponent field. -/
def exponentField (x : Binary64) : Nat := (x.bits.toNat >>> 52) % 2048

/-- The fraction field. -/
def fraction (x : Binary64) : Nat := x.bits.toNat % 0x10000000000000

/-- Neither infinite nor a NaN. -/
def isFinite (x : Binary64) : Bool := x.exponentField != 2047

def isNaN (x : Binary64) : Bool := x.exponentField == 2047 && x.fraction != 0

def isZero (x : Binary64) : Bool := x.exponentField == 0 && x.fraction == 0

/-- Numeric equality: a NaN equals nothing, and the two zeros are equal. -/
def equal (x y : Binary64) : Bool :=
  !x.isNaN && !y.isNaN && (x.bits == y.bits || (x.isZero && y.isZero))

/-- The whole number `m` in the magnitude `m · 2 ^ q` of a finite double. -/
def significand (x : Binary64) : Nat :=
  if x.exponentField = 0 then x.fraction else 0x10000000000000 + x.fraction

/-- The power `q` in the magnitude `m · 2 ^ q` of a finite double. -/
def power (x : Binary64) : Int :=
  if x.exponentField = 0 then -1074 else (x.exponentField : Int) - 1075

/-- The numbers that round to the magnitude of a finite double: half a unit to either side, or
a quarter below where the next smaller doubles lie twice as close. The bounds round to it when
its significand is even. -/
def interval (x : Binary64) : Interval :=
  let m := x.significand
  let unit := 1 <<< (x.power - 2).toNat
  let below := if x.fraction = 0 && 1 < x.exponentField then 1 else 2
  { low := (4 * m - below) * unit
    value := 4 * m * unit
    high := (4 * m + 2) * unit
    denominator := 1 <<< (2 - x.power).toNat
    closed := m % 2 == 0 }

/-- The magnitude in the fewest digits that read back, written out in full. -/
def magnitudeText (x : Binary64) : List Char :=
  if x.isNaN then ['N', 'a', 'N']
  else if !x.isFinite then ['i', 'n', 'f']
  else if x.isZero then ['0']
  else x.interval.shortest.text

/-- The double in decimal. A minus sign also precedes zero and infinity, but never a NaN. -/
def text (x : Binary64) : String :=
  String.ofList (if x.negative && !x.isNaN then '-' :: x.magnitudeText else x.magnitudeText)

end Binary64

end BoundSql
