import BoundSql.Proofs.Page.Rows
import Mathlib.Algebra.Order.Floor.Div

/-!
# Pages of one size

Numbered pages of one size cut a list of rows into consecutive pieces (`Window.pages_tile`). The
offset of a page stops at the largest word, and so does the last row number of a window; there are
no more rows than that, so a page whose offset has stopped is as empty as it would be without.
-/

namespace BoundSql

namespace Window

theorem toNat_offset_page (p size : UInt64) :
    (page p size).offset.toNat = min ((p.toNat - 1) * size.toNat) maxWord := by
  rw [page, toNat_saturatingMul]
  split_ifs with h
  · rw [h]
    rfl
  · have hp : 1 ≤ p := by
      rw [UInt64.le_iff_toNat_le]
      have h0 : p.toNat ≠ 0 := fun h0 => h (UInt64.toNat_inj.1 h0)
      exact Nat.one_le_iff_ne_zero.2 h0
    rw [UInt64.toNat_sub_of_le p 1 hp]
    rfl

theorem page_zero (size : UInt64) : page 0 size = page 1 size := rfl

section Rows

variable {α : Type} {rows : List α} (hrows : rows.length ≤ maxWord)

include hrows

/-- An offset that stops at the largest word skips all rows, as the one it stands for does. -/
theorem rows_page_eq (p size : UInt64) :
    (page p size).rows rows = (rows.drop ((p.toNat - 1) * size.toNat)).take size.toNat := by
  rw [Window.rows, toNat_offset_page]
  rcases le_total ((p.toNat - 1) * size.toNat) maxWord with h | h
  · rw [min_eq_left h]
    rfl
  · rw [min_eq_right h, List.drop_of_length_le hrows, List.drop_of_length_le (hrows.trans h)]
    rfl

theorem rows_page_extract {p : UInt64} (hp : 1 ≤ p) (size : UInt64) :
    (page p size).rows rows =
      rows.extract ((p.toNat - 1) * size.toNat) (p.toNat * size.toNat) := by
  have hp : 1 ≤ p.toNat := UInt64.le_iff_toNat_le.1 hp
  rw [rows_page_eq hrows, List.extract_eq_take_drop, ← Nat.sub_mul, Nat.sub_sub_self hp, one_mul]

end Rows

/-- Consecutive pieces of a list make up its beginning. -/
theorem flatMap_take_drop {α : Type} (xs : List α) (size n : ℕ) :
    (List.range n).flatMap (fun k => (xs.drop (k * size)).take size) = xs.take (n * size) := by
  induction n with
  | zero => simp
  | succ n ih =>
    rw [List.range_succ, List.flatMap_append, ih, Nat.succ_mul, List.take_add]
    simp

/-- **Pages of one size cut the rows into consecutive pieces.** Page `p` holds the rows from
position `(p - 1) * size` on and before position `p * size`, also where it is asked for by row
numbers; the pages up to the number of rows divided by the size, rounded up, hold every row once and
in order; and those after it are empty. -/
theorem pages_tile {size : UInt64} (hs : 1 ≤ size) {α : Type} {rows : List α}
    (hrows : rows.length ≤ maxWord) :
    (∀ p, 1 ≤ p →
      (page p size).rows rows =
        rows.extract ((p.toNat - 1) * size.toNat) (p.toNat * size.toNat) ∧
      numberedRows (saturatingAdd (page p size).offset (page p size).count).toNat
          (page p size).offset.toNat rows =
        rows.extract ((p.toNat - 1) * size.toNat) (p.toNat * size.toNat)) ∧
    (∃ ps : List UInt64, ps.map UInt64.toNat = List.range' 1 (rows.length ⌈/⌉ size.toNat) ∧
      ps.flatMap (fun p => (page p size).rows rows) = rows) ∧
    (∀ p : UInt64, rows.length ⌈/⌉ size.toNat < p.toNat → (page p size).rows rows = []) ∧
    page 0 size = page 1 size := by
  have hpos : 0 < size.toNat := UInt64.le_iff_toNat_le.1 hs
  have hlast : rows.length ≤ (rows.length ⌈/⌉ size.toNat) * size.toNat := by
    rw [mul_comm]
    exact le_smul_ceilDiv hpos
  refine ⟨fun p hp => ?_, ?_, fun p hp => ?_, page_zero size⟩
  · exact ⟨rows_page_extract hrows hp size,
      (numberedRows_saturatingAdd _ hrows).trans (rows_page_extract hrows hp size)⟩
  · -- There are no more pages than rows, so the number of each is a word.
    have hle : rows.length ⌈/⌉ size.toNat ≤ maxWord :=
      ((ceilDiv_le_iff_le_mul hpos).2 (Nat.le_mul_of_pos_left _ hpos)).trans hrows
    have hword : ∀ k ∈ List.range (rows.length ⌈/⌉ size.toNat),
        (UInt64.ofNat (1 + k)).toNat = 1 + k := by
      intro k hk
      have hk := List.mem_range.1 hk
      rw [UInt64.toNat_ofNat']
      unfold maxWord at hle
      omega
    refine ⟨(List.range (rows.length ⌈/⌉ size.toNat)).map fun k => UInt64.ofNat (1 + k), ?_, ?_⟩
    · rw [List.map_map, List.range'_eq_map_range]
      exact List.map_congr_left hword
    · rw [List.flatMap_map]
      calc (List.range (rows.length ⌈/⌉ size.toNat)).flatMap
            (fun k => (page (UInt64.ofNat (1 + k)) size).rows rows)
        _ = (List.range (rows.length ⌈/⌉ size.toNat)).flatMap
            (fun k => (rows.drop (k * size.toNat)).take size.toNat) := by
          refine List.flatMap_congr fun k hk => ?_
          rw [rows_page_eq hrows, hword k hk, Nat.add_sub_cancel_left]
        _ = rows := by
          rw [flatMap_take_drop, List.take_of_length_le hlast]
  · rw [rows_page_eq hrows, List.drop_of_length_le, List.take_nil]
    exact hlast.trans (Nat.mul_le_mul_right _ (Nat.le_sub_one_of_lt hp))

/-- Three rows in pages of two: the second page is not full, and the offset of the last page that
has a number stops at the largest word. -/
theorem pages_tile_three :
    let rows := [10, 20, 30]
    (1 : UInt64) ≤ 2 ∧ rows.length ≤ maxWord ∧ (page 2 2).rows rows = [30] ∧
      (page 0xFFFFFFFFFFFFFFFF 2).offset = 0xFFFFFFFFFFFFFFFF ∧
      (page 0xFFFFFFFFFFFFFFFF 2).rows rows = [] ∧
      ∃ ps : List UInt64, ps.map UInt64.toNat = [1, 2] ∧
        ps.flatMap (fun p => (page p 2).rows rows) = rows := by
  intro rows
  have hs : (1 : UInt64) ≤ 2 := by decide
  have hrows : rows.length ≤ maxWord := by decide
  have hpages : rows.length ⌈/⌉ (2 : UInt64).toNat = 2 := by decide
  obtain ⟨hp, htile, hlater, -⟩ := pages_tile hs hrows
  rw [hpages] at htile hlater
  exact ⟨hs, hrows, (hp 2 (by decide)).1, by decide, hlater _ (by decide), htile⟩

end Window

end BoundSql
