import BoundSql.Text.Blank
import BoundSql.Text.Word
import Mathlib.Data.List.TakeWhile

/-!
# Blanks at the ends of a text

A text is its trimmed form with blanks on both sides (`exists_blanks`), and nothing is left of it if
it is blank throughout (`trimChars_eq_nil_iff`). No blank is part of a word, since the ranges of
code points of the two classes lie apart (`isWordChar_of_isBlank`).
-/

namespace BoundSql.Text

/-! ### Classes of characters -/

/-- No range of the one list meets a range of the other. -/
def areApart (rs ss : List (Nat × Nat)) : Bool :=
  rs.all fun r => ss.all fun s => r.2 < s.1 || s.2 < r.1

theorem inRanges_eq_false_of_areApart {rs ss : List (Nat × Nat)} (h : areApart rs ss = true)
    {c : Char} (hc : inRanges rs c = true) : inRanges ss c = false := by
  rw [← Bool.not_eq_true]
  intro hs
  obtain ⟨r, hr, h1, h2⟩ := inRanges_iff.1 hc
  obtain ⟨s, hs, h3, h4⟩ := inRanges_iff.1 hs
  have hrs := List.all_eq_true.1 (List.all_eq_true.1 h r hr) s hs
  simp only [Bool.or_eq_true, decide_eq_true_eq] at hrs
  omega

/-- The blanks by their code points. -/
def blankRanges : List (Nat × Nat) :=
  [(0x09, 0x0D), (0x20, 0x20), (0x85, 0x85), (0xA0, 0xA0), (0x1680, 0x1680), (0x2000, 0x200A),
    (0x2028, 0x2029), (0x202F, 0x202F), (0x205F, 0x205F), (0x3000, 0x3000)]

theorem isBlank_eq_inRanges (c : Char) : isBlank c = inRanges blankRanges c := by
  rw [Bool.eq_iff_iff, inRanges_iff]
  simp only [isBlank, blankRanges, Bool.or_eq_true, Bool.and_eq_true, decide_eq_true_eq, beq_iff_eq,
    List.mem_cons, List.not_mem_nil, or_false, exists_eq_or_imp, exists_eq_left]
  omega

/-- No blank is a word character. -/
theorem isWordChar_of_isBlank {c : Char} (h : isBlank c = true) : isWordChar c = false := by
  have hapart : areApart blankRanges
      (wordRangesLow ++ wordRangesBasic ++ wordRangesMiddle ++ wordRangesHigh) = true := by
    decide +kernel
  rw [isBlank_eq_inRanges] at h
  rw [isWordChar, ← inRanges_append, ← inRanges_append, ← inRanges_append]
  exact inRanges_eq_false_of_areApart hapart h

/-! ### Trimming -/

/-- A text is its trimmed form with blanks on both sides. -/
theorem exists_blanks (cs : List Char) : ∃ l r, cs = l ++ trimChars cs ++ r ∧
    (∀ c ∈ l, isBlank c = true) ∧ ∀ c ∈ r, isBlank c = true := by
  have hd := List.takeWhile_append_dropWhile (p := isBlank) (l := cs)
  have hr := List.takeWhile_append_dropWhile (p := isBlank) (l := (cs.dropWhile isBlank).reverse)
  refine ⟨cs.takeWhile isBlank, ((cs.dropWhile isBlank).reverse.takeWhile isBlank).reverse, ?_,
    fun c hc => List.mem_takeWhile_imp hc,
    fun c hc => List.mem_takeWhile_imp (List.mem_reverse.1 hc)⟩
  rw [List.append_assoc, trimChars, ← List.reverse_append, hr, List.reverse_reverse, hd]

/-- Nothing is left of a text that is blank throughout, and something of every other. -/
theorem trimChars_eq_nil_iff {cs : List Char} :
    trimChars cs = [] ↔ ∀ c ∈ cs, isBlank c = true := by
  constructor
  · intro h
    obtain ⟨l, r, heq, hl, hr⟩ := exists_blanks cs
    rw [h, List.append_nil] at heq
    rw [heq]
    exact List.forall_mem_append.2 ⟨hl, hr⟩
  · intro h
    rw [trimChars, List.dropWhile_eq_nil_iff.2 h]
    rfl

end BoundSql.Text
