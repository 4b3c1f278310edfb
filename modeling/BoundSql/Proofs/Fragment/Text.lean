import BoundSql.Fragment
import BoundSql.Proofs.Text.Blank
import BoundSql.Proofs.Text.Runs
import Mathlib.Tactic.SplitIfs
import Mathlib.Tactic.Tauto

/-!
# The text of a fragment

A fragment is checked without the blanks at its ends but goes into the statement with them. What
the check forbids cannot hide in those blanks, so it asks the same of the whole text
(`isFragment_iff`): that it is harmless, and not blank throughout.

Harmless texts with a spacer between them are a harmless text (`Harmless.append_cons`), and spacers
at the ends of a text change nothing (`harmless_pad_iff`). All blanks are spacers.
-/

namespace BoundSql

open Text

/-! ### Neighbours -/

/-- A pair in two texts stands in one of them or at their joint. -/
theorem hasPair_append {x : Char × Char} {cs ds : List Char} :
    hasPair x (cs ++ ds) = true ↔ hasPair x cs = true ∨ hasPair x ds = true ∨
      (cs.getLast? = some x.1 ∧ ds.head? = some x.2) := by
  induction cs with
  | nil => simp [hasPair]
  | cons c cs ih =>
    cases cs with
    | nil =>
      cases ds with
      | nil => simp [hasPair]
      | cons d ds =>
        simp only [List.cons_append, List.nil_append, hasPair, Bool.or_eq_true, Bool.and_eq_true,
          beq_iff_eq, List.getLast?_singleton, List.head?_cons, Option.some.injEq]
        tauto
    | cons e cs =>
      simp only [List.cons_append, hasPair, Bool.or_eq_true, List.getLast?_cons_cons] at ih ⊢
      rw [ih, or_assoc]

theorem mem_of_hasPair {x : Char × Char} {cs : List Char} (h : hasPair x cs = true) :
    x.1 ∈ cs ∧ x.2 ∈ cs := by
  induction cs with
  | nil => cases h
  | cons c cs ih =>
    cases cs with
    | nil => cases h
    | cons d cs =>
      simp only [hasPair, Bool.or_eq_true, Bool.and_eq_true, beq_iff_eq] at h
      rcases h with ⟨rfl, rfl⟩ | h
      · simp
      · obtain ⟨h1, h2⟩ := ih h
        exact ⟨List.mem_cons_of_mem c h1, List.mem_cons_of_mem c h2⟩

/-! ### Parentheses -/

/-- What is open before a text stays open in it. -/
theorem foldlM_parenStep_add {cs : List Char} {j m : Nat} (h : cs.foldlM parenStep j = some m)
    (k : Nat) : cs.foldlM parenStep (j + k) = some (m + k) := by
  induction cs generalizing j with
  | nil => cases h; rfl
  | cons c cs ih =>
    rw [List.foldlM_cons] at h ⊢
    obtain ⟨i, hi, h⟩ := Option.bind_eq_some_iff.1 h
    have hik : parenStep (j + k) c = some (i + k) := by
      unfold parenStep at hi ⊢
      split_ifs at hi ⊢ <;> simp only [Option.some.injEq] at hi ⊢ <;> omega
    rw [hik]
    exact ih h

theorem foldlM_parenStep_of_isBalanced {cs : List Char} (h : isBalanced cs = true) (k : Nat) :
    cs.foldlM parenStep k = some k := by
  have h0 : cs.foldlM parenStep 0 = some 0 := by simpa [isBalanced] using h
  simpa using foldlM_parenStep_add h0 k

/-- A text without parentheses leaves open what is open. -/
theorem foldlM_parenStep_of_notMem {cs : List Char} (h : ∀ c ∈ cs, c ≠ '(' ∧ c ≠ ')') (k : Nat) :
    cs.foldlM parenStep k = some k := by
  induction cs with
  | nil => rfl
  | cons c cs ih =>
    have hc : parenStep k c = some k := by simp [parenStep, h c (by simp)]
    rw [List.foldlM_cons, hc]
    exact ih fun d hd => h d (by simp [hd])

/-! ### Harmless texts -/

/-- What the check of fragments asks of a text, except that it is not empty. -/
structure Harmless (cs : List Char) : Prop where
  chars : ∀ c ∈ cs, c ∉ forbiddenChars
  pairs : ∀ x ∈ forbiddenPairs, hasPair x cs = false
  balanced : isBalanced cs = true
  words : ∀ w ∈ runs isWordChar cs, isForbiddenWord w = false

theorem isFragmentText_eq_true_iff {cs : List Char} :
    isFragmentText cs = true ↔ cs ≠ [] ∧ Harmless cs := by
  simp only [isFragmentText, Bool.and_eq_true, List.all_eq_true, Bool.not_eq_true',
    List.isEmpty_eq_false_iff, List.contains_eq_mem, decide_eq_false_iff_not]
  constructor
  · rintro ⟨⟨⟨⟨h, h1⟩, h2⟩, h3⟩, h4⟩
    exact ⟨h, h1, h2, h3, h4⟩
  · rintro ⟨h, h1, h2, h3, h4⟩
    exact ⟨⟨⟨⟨h, h1⟩, h2⟩, h3⟩, h4⟩

/-- A character with which nothing that is forbidden begins, ends or goes on. -/
structure IsSpacer (c : Char) : Prop where
  notMem : c ∉ forbiddenChars
  ne_pair : ∀ x ∈ forbiddenPairs, c ≠ x.1 ∧ c ≠ x.2
  ne_paren : c ≠ '(' ∧ c ≠ ')'
  not_word : isWordChar c = false

theorem isSpacer_comma : IsSpacer ',' :=
  ⟨by decide, by decide, by decide, by decide +kernel⟩

theorem isSpacer_of_isBlank {c : Char} (h : isBlank c = true) : IsSpacer c := by
  have hne : ∀ d : Char, isBlank d = false → c ≠ d := by
    rintro d hd rfl
    rw [h] at hd
    cases hd
  have hchars : forbiddenChars.all (fun d => !isBlank d) = true := by decide
  have hpairs : forbiddenPairs.all (fun x => !isBlank x.1 && !isBlank x.2) = true := by decide
  refine ⟨fun hc => ?_, fun x hx => ?_, ⟨hne _ (by decide), hne _ (by decide)⟩,
    isWordChar_of_isBlank h⟩
  · exact hne c (by simpa using List.all_eq_true.1 hchars c hc) rfl
  · have hb : isBlank x.1 = false ∧ isBlank x.2 = false := by
      simpa using List.all_eq_true.1 hpairs x hx
    exact ⟨hne _ hb.1, hne _ hb.2⟩

theorem foldlM_parenStep_of_isSpacer {cs : List Char} (h : ∀ c ∈ cs, IsSpacer c) (k : Nat) :
    cs.foldlM parenStep k = some k :=
  foldlM_parenStep_of_notMem (fun c hc => (h c hc).ne_paren) k

theorem foldlM_parenStep_append {cs ds : List Char} {k m : Nat}
    (h : cs.foldlM parenStep k = some m) :
    (cs ++ ds).foldlM parenStep k = ds.foldlM parenStep m := by
  rw [List.foldlM_append, h]
  rfl

/-- Spacers at the ends make no pair. -/
theorem hasPair_pad {l cs r : List Char} (hl : ∀ c ∈ l, IsSpacer c) (hr : ∀ c ∈ r, IsSpacer c)
    {x : Char × Char} (hx : x ∈ forbiddenPairs) : hasPair x (l ++ cs ++ r) = hasPair x cs := by
  rw [Bool.eq_iff_iff, hasPair_append, hasPair_append]
  constructor
  · rintro ((h | h | ⟨h, -⟩) | h | ⟨-, h⟩)
    · exact absurd rfl ((hl _ (mem_of_hasPair h).1).ne_pair x hx).1
    · exact h
    · exact absurd rfl ((hl _ (List.mem_of_getLast? h)).ne_pair x hx).1
    · exact absurd rfl ((hr _ (mem_of_hasPair h).1).ne_pair x hx).1
    · exact absurd rfl ((hr _ (List.mem_of_head? h)).ne_pair x hx).2
  · exact fun h => Or.inl (Or.inr (Or.inl h))

/-- **Spacers at the ends of a text change nothing.** -/
theorem harmless_pad_iff {l cs r : List Char} (hl : ∀ c ∈ l, IsSpacer c)
    (hr : ∀ c ∈ r, IsSpacer c) : Harmless (l ++ cs ++ r) ↔ Harmless cs := by
  have hbalanced : isBalanced (l ++ cs ++ r) = isBalanced cs := by
    rw [isBalanced, isBalanced, List.append_assoc,
      foldlM_parenStep_append (foldlM_parenStep_of_isSpacer hl 0), List.foldlM_append]
    cases h : cs.foldlM parenStep 0 with
    | none => rfl
    | some m =>
      change (r.foldlM parenStep m == some 0) = _
      rw [foldlM_parenStep_of_isSpacer hr]
  have hruns : runs isWordChar (l ++ cs ++ r) = runs isWordChar cs :=
    runs_pad (fun c hc => (hl c hc).not_word) (fun c hc => (hr c hc).not_word) cs
  constructor
  · rintro ⟨h1, h2, h3, h4⟩
    refine ⟨fun c hc => h1 c ?_, fun x hx => ?_, hbalanced ▸ h3, hruns ▸ h4⟩
    · simp [hc]
    · rw [← hasPair_pad hl hr hx, h2 x hx]
  · rintro ⟨h1, h2, h3, h4⟩
    refine ⟨fun c hc => ?_, fun x hx => ?_, hbalanced.symm ▸ h3, hruns.symm ▸ h4⟩
    · rw [List.mem_append, List.mem_append] at hc
      rcases hc with (hc | hc) | hc
      · exact (hl c hc).notMem
      · exact h1 c hc
      · exact (hr c hc).notMem
    · rw [hasPair_pad hl hr hx, h2 x hx]

/-- **A spacer between harmless texts makes a harmless text of them**: no pair, no word and no
parenthesis reaches over it. -/
theorem Harmless.append_cons {cs ds : List Char} {c : Char} (hcs : Harmless cs) (hc : IsSpacer c)
    (hds : Harmless ds) : Harmless (cs ++ c :: ds) where
  chars := by
    intro e he
    rcases List.mem_append.1 he with he | he
    · exact hcs.chars e he
    · rcases List.mem_cons.1 he with rfl | he
      · exact hc.notMem
      · exact hds.chars e he
  pairs := by
    intro x hx
    have hpad : hasPair x ([c] ++ ds ++ []) = hasPair x ds :=
      hasPair_pad (by simpa using hc) (by simp) hx
    have hcons : hasPair x (c :: ds) = hasPair x ds := by
      rwa [List.append_nil] at hpad
    rw [← Bool.not_eq_true, hasPair_append, hcons, hcs.pairs x hx, hds.pairs x hx]
    rintro (h | h | ⟨-, h⟩)
    · cases h
    · cases h
    · exact (hc.ne_pair x hx).2 (by simpa using h)
  balanced := by
    have hone : [c].foldlM parenStep 0 = some 0 :=
      foldlM_parenStep_of_isSpacer (by simpa using hc) 0
    rw [isBalanced, foldlM_parenStep_append (foldlM_parenStep_of_isBalanced hcs.balanced 0),
      ← List.singleton_append, foldlM_parenStep_append hone]
    exact hds.balanced
  words := by
    intro w hw
    rw [runs_append_cons hc.not_word] at hw
    rcases List.mem_append.1 hw with hw | hw
    · exact hcs.words w hw
    · exact hds.words w hw

/-! ### Fragments -/

/-- A text is a fragment if it is harmless, the blanks at its ends included, and holds something
else than blanks. -/
theorem isFragment_iff {s : String} : isFragment s = true ↔
    (∃ c ∈ s.toList, isBlank c = false) ∧ Harmless s.toList := by
  have hblank : trimChars s.toList ≠ [] ↔ ∃ c ∈ s.toList, isBlank c = false := by
    rw [Ne, trimChars_eq_nil_iff]
    simp
  have hharmless : Harmless (trimChars s.toList) ↔ Harmless s.toList := by
    obtain ⟨l, r, heq, hl, hr⟩ := exists_blanks s.toList
    have hpad : Harmless (l ++ trimChars s.toList ++ r) ↔ Harmless (trimChars s.toList) :=
      harmless_pad_iff (fun c hc => isSpacer_of_isBlank (hl c hc))
        (fun c hc => isSpacer_of_isBlank (hr c hc))
    rw [← heq] at hpad
    exact hpad.symm
  rw [isFragment, isFragmentText_eq_true_iff, hblank, hharmless]

namespace Fragment

variable (f : Fragment)

theorem harmless : Harmless f.text.toList := (isFragment_iff.1 f.isFragment_text).2

theorem notMem_forbiddenChars {c : Char} (hc : c ∈ f.text.toList) : c ∉ forbiddenChars :=
  f.harmless.chars c hc

theorem hasPair_eq_false {x : Char × Char} (hx : x ∈ forbiddenPairs) :
    hasPair x f.text.toList = false := f.harmless.pairs x hx

/-- The parentheses of the whole text are balanced. -/
theorem foldlM_parenStep (k : Nat) : f.text.toList.foldlM parenStep k = some k :=
  foldlM_parenStep_of_isBalanced f.harmless.balanced k

end Fragment

end BoundSql
