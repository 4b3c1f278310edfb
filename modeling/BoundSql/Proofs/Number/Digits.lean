import BoundSql.Number.Decimal
import Mathlib.Data.List.TakeWhile

/-!
# Reading padded digits

A number written with zeros in front can be read back in two ways: by its width, if it is small
enough for it (`takeFixed?_paddedDigits`), and whatever its width is, if no digit follows it
(`takeNumber?_paddedDigits`).
-/

namespace BoundSql

variable {width n : Nat}

theorem isDigit_of_mem_paddedDigits {c : Char} (h : c ∈ paddedDigits width n) :
    c.isDigit = true := by
  rcases List.mem_append.1 h with h | h
  · rw [List.eq_of_mem_replicate h]
    rfl
  · exact Nat.isDigit_of_mem_toDigits (by decide) (by decide) h

theorem le_length_paddedDigits (width n : Nat) : width ≤ (paddedDigits width n).length := by
  rw [paddedDigits, List.length_append, List.length_replicate]
  omega

theorem length_paddedDigits (h : n < Nat.pow 10 width) (hw : 0 < width) :
    (paddedDigits width n).length = width := by
  have hlen : (digits n).length ≤ width := (Nat.length_toDigits_le_iff (by decide) hw).2 h
  rw [paddedDigits, List.length_append, List.length_replicate]
  omega

/-- The digits of a number denote it. -/
theorem ofDigitChars_paddedDigits (width n : Nat) :
    Nat.ofDigitChars 10 (paddedDigits width n) 0 = n := by
  rw [paddedDigits, Nat.ofDigitChars_append, Nat.ofDigitChars_replicate_zero, Nat.mul_zero]
  exact Nat.ofDigitChars_ten_toDigits

/-! ### Readers -/

/-- The number that the first characters denote, if all of them are digits, and what follows. -/
def takeFixed? (width : Nat) (cs : List Char) : Option (Nat × List Char) :=
  if width ≤ cs.length ∧ (cs.take width).all Char.isDigit then
    some (Nat.ofDigitChars 10 (cs.take width) 0, cs.drop width)
  else none

/-- The number that all the digits in front denote, if these are so many, and what follows. -/
def takeNumber? (width : Nat) (cs : List Char) : Option (Nat × List Char) :=
  if width ≤ (cs.takeWhile Char.isDigit).length then
    some (Nat.ofDigitChars 10 (cs.takeWhile Char.isDigit) 0, cs.dropWhile Char.isDigit)
  else none

theorem takeFixed?_paddedDigits (h : n < Nat.pow 10 width) (hw : 0 < width) (rest : List Char) :
    takeFixed? width (paddedDigits width n ++ rest) = some (n, rest) := by
  have hlen := length_paddedDigits h hw
  have htake : (paddedDigits width n ++ rest).take width = paddedDigits width n :=
    List.take_left' hlen
  have hdrop : (paddedDigits width n ++ rest).drop width = rest := List.drop_left' hlen
  rw [takeFixed?, htake, hdrop, ofDigitChars_paddedDigits, if_pos]
  refine ⟨by simp [hlen], List.all_eq_true.2 fun c hc => isDigit_of_mem_paddedDigits hc⟩

theorem takeNumber?_paddedDigits (width n : Nat) {rest : List Char}
    (h : ∀ c ∈ rest.head?, c.isDigit = false) :
    takeNumber? width (paddedDigits width n ++ rest) = some (n, rest) := by
  have hall : ∀ c ∈ paddedDigits width n, c.isDigit = true := fun c =>
    isDigit_of_mem_paddedDigits
  have hrest : rest.takeWhile Char.isDigit = [] ∧ rest.dropWhile Char.isDigit = rest := by
    cases rest with
    | nil => exact ⟨rfl, rfl⟩
    | cons c rest => simp [h c rfl]
  have htake : (paddedDigits width n ++ rest).takeWhile Char.isDigit = paddedDigits width n := by
    rw [List.takeWhile_append_of_pos hall, hrest.1, List.append_nil]
  have hdrop : (paddedDigits width n ++ rest).dropWhile Char.isDigit = rest := by
    rw [List.dropWhile_append_of_pos hall, hrest.2]
  rw [takeNumber?, htake, hdrop, ofDigitChars_paddedDigits,
    if_pos (le_length_paddedDigits width n)]

end BoundSql
