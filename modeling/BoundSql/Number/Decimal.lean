/-!
# Decimal notation

Whole numbers in decimal digits, digits padded to a width, and numbers with a decimal point
written out in full, without an exponent.
-/

namespace BoundSql

/-- The decimal digits of a natural number, at least one. -/
def digits (n : Nat) : List Char := Nat.toDigits 10 n

/-- The decimal digits with zeros in front up to the given width. -/
def paddedDigits (width n : Nat) : List Char :=
  List.replicate (width - (digits n).length) '0' ++ digits n

/-- A natural number in decimal. -/
def decimal (n : Nat) : String := String.ofList (digits n)

/-- An integer in decimal, with a minus sign when it is negative. -/
def signedDecimal (n : Int) : String :=
  if n < 0 then "-" ++ decimal n.natAbs else decimal n.natAbs

/-- The number `coefficient · 10 ^ exponent`. -/
structure Decimal where
  coefficient : Nat
  exponent : Int
  deriving DecidableEq, Repr

namespace Decimal

/-- The number written out in full: no exponent, and a point only before decimals. -/
def text (x : Decimal) : List Char :=
  let places := (-x.exponent).toNat
  if places = 0 then digits (x.coefficient * Nat.pow 10 x.exponent.toNat)
  else
    digits (x.coefficient / Nat.pow 10 places) ++
      '.' :: paddedDigits places (x.coefficient % Nat.pow 10 places)

example : text ⟨125, -2⟩ = ['1', '.', '2', '5'] := by decide
example : text ⟨5, -3⟩ = ['0', '.', '0', '0', '5'] := by decide
example : text ⟨12, 3⟩ = ['1', '2', '0', '0', '0'] := by decide

end Decimal

end BoundSql
