import BoundSql.Name
import Mathlib.Computability.Language
import Mathlib.Data.Char

/-!
# The language of names

The check of names decides the language `[A-Za-z_*][A-Za-z0-9_.*]*` (`isName_iff`), written here
as a concatenation of character classes and not as a test on the characters.
-/

namespace BoundSql

/-- One character out of some ranges of characters. -/
def charClass (ranges : List (Char × Char)) : Language Char :=
  {cs | ∃ c, cs = [c] ∧ ∃ r ∈ ranges, r.1 ≤ c ∧ c ≤ r.2}

/-- The words of `[A-Za-z_*][A-Za-z0-9_.*]*`. -/
def Name.language : Language Char :=
  charClass [('A', 'Z'), ('a', 'z'), ('_', '_'), ('*', '*')] *
    KStar.kstar (charClass
      [('A', 'Z'), ('a', 'z'), ('0', '9'), ('_', '_'), ('.', '.'), ('*', '*')])

theorem singleton_mem_charClass {ranges : List (Char × Char)} {c : Char} :
    [c] ∈ charClass ranges ↔ ∃ r ∈ ranges, r.1 ≤ c ∧ c ≤ r.2 := by
  constructor
  · rintro ⟨d, hd, h⟩
    cases hd
    exact h
  · exact fun h => ⟨c, rfl, h⟩

theorem mem_kstar_charClass {ranges : List (Char × Char)} {cs : List Char} :
    cs ∈ KStar.kstar (charClass ranges) ↔ ∀ c ∈ cs, [c] ∈ charClass ranges := by
  rw [Language.mem_kstar]
  constructor
  · rintro ⟨words, rfl, h⟩ c hc
    obtain ⟨word, hw, hc⟩ := List.mem_flatten.1 hc
    obtain ⟨d, rfl, hd⟩ := h word hw
    rw [List.mem_singleton.1 hc]
    exact ⟨d, rfl, hd⟩
  · intro h
    refine ⟨cs.map fun c => [c], (List.flatMap_singleton' cs).symm, ?_⟩
    intro word hw
    obtain ⟨c, hc, rfl⟩ := List.mem_map.1 hw
    exact h c hc

theorem isAlpha_iff {c : Char} :
    c.isAlpha = true ↔ ('A' ≤ c ∧ c ≤ 'Z') ∨ ('a' ≤ c ∧ c ≤ 'z') := by
  have h : c.isAlpha = (decide (c.val ≥ 'A'.val ∧ c.val ≤ 'Z'.val) ||
      (decide (c.val ≥ 'a'.val) && decide (c.val ≤ 'z'.val))) := rfl
  simp [h, Char.le_def]

theorem isNameStart_iff {c : Char} : isNameStart c = true ↔
    [c] ∈ charClass [('A', 'Z'), ('a', 'z'), ('_', '_'), ('*', '*')] := by
  rw [singleton_mem_charClass]
  simp [isNameStart, isAlpha_iff, ge_antisymm_iff (a := c), or_assoc]

theorem isNameChar_iff {c : Char} : isNameChar c = true ↔
    [c] ∈ charClass [('A', 'Z'), ('a', 'z'), ('0', '9'), ('_', '_'), ('.', '.'), ('*', '*')] := by
  rw [singleton_mem_charClass]
  simp [isNameChar, Char.isAlphanum, isAlpha_iff, Char.isDigit, Char.le_def,
    ge_antisymm_iff (a := c), or_assoc]

/-- **The check of names decides their language.** -/
theorem isName_iff {s : String} : isName s = true ↔ s.toList ∈ Name.language := by
  unfold isName Name.language
  rw [Language.mem_mul]
  cases s.toList with
  | nil =>
    simp only [isNameText, Bool.false_eq_true, false_iff]
    rintro ⟨a, ⟨c, rfl, -⟩, b, -, h⟩
    cases h
  | cons c cs =>
    rw [isNameText, Bool.and_eq_true, List.all_eq_true, isNameStart_iff]
    simp only [isNameChar_iff]
    constructor
    · exact fun h => ⟨[c], h.1, cs, mem_kstar_charClass.2 h.2, rfl⟩
    · rintro ⟨a, ⟨d, rfl, hd⟩, b, hb, h⟩
      cases h
      exact ⟨⟨c, rfl, hd⟩, mem_kstar_charClass.1 hb⟩

end BoundSql
