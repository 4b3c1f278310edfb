/-!
# Windows of rows

A window skips some rows of a result and keeps some of those that follow. Both numbers are
64-bit words, and sums and products that would leave the words stop at the largest one.
-/

namespace BoundSql

/-- The largest word. -/
def maxWord : Nat := 0xFFFFFFFFFFFFFFFF

/-- The sum of two words, or the largest word if the sum is larger. -/
def saturatingAdd (a b : UInt64) : UInt64 :=
  UInt64.ofNat (min (a.toNat + b.toNat) maxWord)

/-- The product of two words, or the largest word if the product is larger. -/
def saturatingMul (a b : UInt64) : UInt64 :=
  UInt64.ofNat (min (a.toNat * b.toNat) maxWord)

/-- The number of rows to skip and the number of rows to keep. -/
structure Window where
  offset : UInt64
  count : UInt64
  deriving DecidableEq, Repr

namespace Window

/-- Page `p` of pages with `size` rows each, counted from one; page zero is the first page. -/
def page (p size : UInt64) : Window :=
  ⟨saturatingMul (if p = 0 then 0 else p - 1) size, size⟩

/-- The rows of a window. -/
def rows {α : Type _} (w : Window) (xs : List α) : List α :=
  (xs.drop w.offset.toNat).take w.count.toNat

end Window

theorem toNat_saturatingAdd (a b : UInt64) :
    (saturatingAdd a b).toNat = min (a.toNat + b.toNat) maxWord := by
  unfold saturatingAdd maxWord
  rw [UInt64.toNat_ofNat']
  omega

theorem toNat_saturatingMul (a b : UInt64) :
    (saturatingMul a b).toNat = min (a.toNat * b.toNat) maxWord := by
  unfold saturatingMul maxWord
  rw [UInt64.toNat_ofNat']
  omega

end BoundSql
