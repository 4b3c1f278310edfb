import BoundSql.Number.Decimal

/-!
# Shortest decimals

A number read back from decimal text is rounded, so all the decimals in an interval around it
name the same number. The shortest of them is found grid by grid: with one digit, with two, and
so on, the two neighbours of the number on the grid are tried, and the first grid on which one
of them lies in the interval decides. Of two such neighbours the nearer one is taken, and the
upper one when both are equally near.
-/

namespace BoundSql

/-- A positive number between two bounds, as numerators over one denominator. -/
structure Interval where
  low : Nat
  value : Nat
  high : Nat
  denominator : Nat
  /-- Whether the bounds belong to the interval. -/
  closed : Bool
  deriving DecidableEq, Repr

namespace Interval

/-- All three numerators times `10 ^ k`, the power moved to the denominator when `k < 0`. -/
def scale (x : Interval) (k : Int) : Interval :=
  let up := Nat.pow 10 k.toNat
  { x with
    low := x.low * up, value := x.value * up, high := x.high * up
    denominator := x.denominator * Nat.pow 10 (-k).toNat }

/-- Whether the natural number `n` lies in the interval. -/
def holds (x : Interval) (n : Nat) : Bool :=
  let m := n * x.denominator
  if x.closed then x.low ≤ m && m ≤ x.high else x.low < m && m < x.high

/-- The whole number that stands for the interval: a neighbour of the value inside it, the
nearer one if both are inside, the upper one if they are equally near. -/
def whole? (x : Interval) : Option Nat :=
  let n := x.value / x.denominator
  if x.holds n then
    if x.holds (n + 1) && (2 * n + 1) * x.denominator ≤ 2 * x.value then some (n + 1) else some n
  else if x.holds (n + 1) then some (n + 1) else none

/-- The number `p` with `10 ^ (p - 1) ≤ value < 10 ^ p`. -/
def magnitude (x : Interval) : Int :=
  let k : Int := (digits x.value).length - (digits x.denominator).length
  let y := x.scale (-k)
  if y.value < y.denominator then k else k + 1

/-- The decimal with `n` significant digits that stands for the interval, if there is one. A
neighbour that reaches the next power of ten is written with one digit. -/
def withDigits? (x : Interval) (n : Nat) : Option Decimal :=
  (x.scale (n - x.magnitude)).whole?.map fun c =>
    if c = Nat.pow 10 n then ⟨1, x.magnitude⟩ else ⟨c, x.magnitude - n⟩

/-- The shortest decimal in the interval, of at most seventeen digits; seventeen digits always
separate a double from its neighbours. -/
def shortest (x : Interval) : Decimal :=
  ((List.range 17).findSome? fun n => x.withDigits? (n + 1)).getD
    ⟨(x.scale (17 - x.magnitude)).value / (x.scale (17 - x.magnitude)).denominator,
      x.magnitude - 17⟩

end Interval

end BoundSql
