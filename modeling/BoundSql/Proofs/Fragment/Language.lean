import BoundSql.Proofs.Fragment.Text
import BoundSql.Proofs.Text.Expression
import Mathlib.Combinatorics.Enumerative.DyckWord

/-!
# The language of fragments

What the check of fragments accepts, said without the functions that decide it
(`Fragment.Admissible`): which characters and which neighbours a fragment may not hold, that its
parentheses are a Dyck word, and which maximal runs of word characters may not stand in it. The
last condition is that a regular expression with word boundaries finds nothing
(`finds_keywordExpression_iff`).
-/

namespace BoundSql

open Text

/-! ### Neighbours -/

theorem hasPair_iff {a b : Char} {cs : List Char} : hasPair (a, b) cs = true ↔ [a, b] <:+: cs := by
  induction cs with
  | nil => simp [hasPair]
  | cons c cs ih =>
    rw [List.infix_cons_iff, ← ih]
    cases cs with
    | nil => simp [hasPair]
    | cons d cs =>
      rw [hasPair, Bool.or_eq_true, Bool.and_eq_true, beq_iff_eq, beq_iff_eq,
        List.cons_prefix_cons, List.cons_prefix_cons, eq_comm (a := a), eq_comm (a := b)]
      simp only [List.nil_prefix, and_true]

/-! ### Parentheses -/

/-- The step of a Dyck word that a parenthesis is. -/
def parenthesis? (c : Char) : Option DyckStep :=
  if c = '(' then some .U else if c = ')' then some .D else none

/-- No prefix of a word closes more than it opens, where some are open before it. -/
def NeverBelow (k : Nat) (ds : List DyckStep) : Prop :=
  ∀ i, (ds.take i).count .D ≤ k + (ds.take i).count .U

theorem neverBelow_nil (k : Nat) : NeverBelow k [] := fun i => by simp

theorem neverBelow_cons_U {k : Nat} {ds : List DyckStep} :
    NeverBelow k (.U :: ds) ↔ NeverBelow (k + 1) ds := by
  constructor
  · intro h i
    have := h (i + 1)
    simp at this
    omega
  · intro h i
    cases i with
    | zero => simp
    | succ i =>
      have := h i
      simp
      omega

theorem neverBelow_cons_D {k : Nat} {ds : List DyckStep} :
    NeverBelow k (.D :: ds) ↔ ∃ j, k = j + 1 ∧ NeverBelow j ds := by
  constructor
  · intro h
    cases k with
    | zero => exact absurd (h 1) (by simp)
    | succ j =>
      refine ⟨j, rfl, fun i => ?_⟩
      have := h (i + 1)
      simp at this
      omega
  · rintro ⟨j, rfl, h⟩ i
    cases i with
    | zero => simp
    | succ i =>
      have := h i
      simp
      omega

/-- Counting the open parentheses succeeds where no prefix closes more than is open, and tells how
many are open in the end. -/
theorem foldlM_parenStep_eq_some_iff {cs : List Char} {k m : Nat} :
    cs.foldlM parenStep k = some m ↔
      k + (cs.filterMap parenthesis?).count .U = m + (cs.filterMap parenthesis?).count .D ∧
        NeverBelow k (cs.filterMap parenthesis?) := by
  induction cs generalizing k with
  | nil => simp [neverBelow_nil]
  | cons c cs ih =>
    rw [List.foldlM_cons, Option.bind_eq_bind, parenStep]
    by_cases hopen : c = '('
    · have hc : parenthesis? c = some .U := by simp [parenthesis?, hopen]
      rw [if_pos hopen, Option.bind_some, ih, List.filterMap_cons_some hc, neverBelow_cons_U]
      simp
      omega
    · by_cases hclose : c = ')'
      · have hc : parenthesis? c = some .D := by simp [parenthesis?, hclose]
        rw [if_neg hopen, if_pos hclose, List.filterMap_cons_some hc, neverBelow_cons_D]
        cases k with
        | zero => simp
        | succ j =>
          rw [if_neg (Nat.succ_ne_zero j), Option.bind_some, Nat.add_sub_cancel, ih]
          simp
          omega
      · have hc : parenthesis? c = none := by simp [parenthesis?, hopen, hclose]
        rw [if_neg hopen, if_neg hclose, Option.bind_some, ih, List.filterMap_cons_none hc]

/-- The parentheses of a text are balanced where they are a Dyck word. -/
theorem isBalanced_iff {cs : List Char} :
    isBalanced cs = true ↔ ∃ w : DyckWord, w.toList = cs.filterMap parenthesis? := by
  rw [isBalanced, beq_iff_eq, foldlM_parenStep_eq_some_iff]
  constructor
  · rintro ⟨hcount, hbelow⟩
    exact ⟨⟨_, by simpa using hcount, fun i => by simpa using hbelow i⟩, rfl⟩
  · rintro ⟨w, hw⟩
    rw [← hw]
    exact ⟨by simpa using w.count_U_eq_count_D, fun i => by simpa using w.count_D_le_count_U i⟩

/-! ### Words -/

/-- The words that the expression for fragments lists. -/
def keywords : List String :=
  ["union", "select", "insert", "update", "delete", "drop", "alter", "create", "truncate", "exec",
    "execute", "grant", "revoke", "merge", "call", "sleep", "benchmark", "waitfor"]

/-- One of the keywords, or `xp_` and any word characters, in any case. -/
def keywordWord : Expression :=
  .oneOf keywords (.seq (.word "xp_".toList) (.many (.one isWordChar)))

/-- The expression that is searched for in a fragment: a keyword as a whole word. -/
def keywordExpression : Expression := .whole keywordWord

/-- A keyword, or a text that begins with `xp_`, up to simple case folding. -/
def IsKeyword (w : List Char) : Prop :=
  (∃ k ∈ keywords, Expression.SameWord k.toList w) ∨
    ∃ a b, w = a ++ b ∧ Expression.SameWord "xp_".toList a

/-- A letter and its upper case have the same lower case, and no other character has it. -/
theorem toLower_eq_iff {c k : Char} (hk : k.toLower = k) :
    c.toLower = k ↔ c = k ∨ c = k.toUpper := by
  unfold Char.toLower Char.toUpper at *
  rw [Char.ext_iff] at hk
  simp only [Char.ext_iff]
  split at hk <;> split <;> split <;> grind [UInt32.toNat_add, Char.toNat_val]

theorem mem_letterForms_iff {c k : Char} : c ∈ Expression.letterForms k ↔
    (c = k ∨ c = k.toUpper) ∨ (k = 's' ∧ c = '\u017F') ∨ (k = 'k' ∧ c = '\u212A') := by
  unfold Expression.letterForms
  split_ifs <;> simp_all [or_assoc]

/-- The characters compared as a letter are its forms. -/
theorem foldLetter_eq_iff {c k : Char} (hk : foldLetter k = k) :
    foldLetter c = k ↔ c ∈ Expression.letterForms k := by
  have hs : k ≠ '\u017F' := by rintro rfl; exact absurd hk (by decide)
  have hK : k ≠ '\u212A' := by rintro rfl; exact absurd hk (by decide)
  have hlow : k.toLower = k := by rwa [foldLetter, if_neg hs, if_neg hK] at hk
  rw [mem_letterForms_iff, ← toLower_eq_iff hlow, foldLetter]
  by_cases hcs : c = '\u017F'
  · subst hcs
    simp [hs, eq_comm]
  · by_cases hcK : c = '\u212A'
    · subst hcK
      simp [hK, eq_comm]
    · simp [hcs, hcK]

theorem map_foldLetter_eq_iff {k w : List Char} (hk : ∀ a ∈ k, foldLetter a = a) :
    w.map foldLetter = k ↔ Expression.SameWord k w := by
  induction k generalizing w with
  | nil => rw [List.map_eq_nil_iff, Expression.SameWord, List.forall₂_nil_left_iff]
  | cons a k ih =>
    rw [List.map_eq_cons_iff, Expression.SameWord, List.forall₂_cons_left_iff]
    constructor
    · rintro ⟨c, w, rfl, hc, hw⟩
      exact ⟨c, w, (foldLetter_eq_iff (hk a (by simp))).1 hc,
        (ih fun b hb => hk b (List.mem_cons_of_mem a hb)).1 hw, rfl⟩
    · rintro ⟨c, w, hc, hw, rfl⟩
      exact ⟨c, w, rfl, (foldLetter_eq_iff (hk a (by simp))).2 hc,
        (ih fun b hb => hk b (List.mem_cons_of_mem a hb)).2 hw⟩

/-- The letters of the keywords are their own lower case, and every form of them is a word
character. -/
theorem letters_of_keyword {k : String} (hk : k ∈ "xp_" :: keywords) : k.toList ≠ [] ∧
    ∀ a ∈ k.toList, foldLetter a = a ∧ ∀ c ∈ Expression.letterForms a, isWordChar c = true := by
  have hall : ("xp_" :: keywords).all (fun k => k.toList ≠ [] && k.toList.all fun a =>
      foldLetter a == a && (Expression.letterForms a).all isWordChar) = true := by decide +kernel
  simpa using List.all_eq_true.1 hall k hk

/-- Up to case, every text that is a keyword is a word. -/
theorem isWordChar_of_sameWord {k : String} (hk : k ∈ "xp_" :: keywords) {w : List Char}
    (h : Expression.SameWord k.toList w) : w ≠ [] ∧ ∀ c ∈ w, isWordChar c = true := by
  obtain ⟨hne, hletters⟩ := letters_of_keyword hk
  constructor
  · rintro rfl
    exact hne (List.forall₂_nil_right_iff.1 h)
  · exact h.forall_right fun a ha => (hletters a ha).2

theorem isForbiddenWord_iff {w : List Char} : isForbiddenWord w = true ↔ IsKeyword w := by
  have hfold : ∀ k ∈ "xp_" :: keywords, ∀ w, w.map foldLetter = k.toList ↔
      Expression.SameWord k.toList w := fun k hk w =>
    map_foldLetter_eq_iff fun a ha => ((letters_of_keyword hk).2 a ha).1
  rw [isForbiddenWord, Bool.or_eq_true, IsKeyword]
  refine or_congr ?_ ?_
  · rw [List.any_eq_true]
    refine exists_congr fun k => and_congr_right fun hk => ?_
    rw [beq_iff_eq, eq_comm, hfold k (List.mem_cons_of_mem _ hk)]
  · rw [List.isPrefixOf_iff_prefix]
    constructor
    · rintro ⟨t, ht⟩
      obtain ⟨a, b, rfl, ha, -⟩ := List.map_eq_append_iff.1 ht.symm
      exact ⟨a, b, rfl, (hfold "xp_" List.mem_cons_self a).1 ha⟩
    · rintro ⟨a, b, rfl, ha⟩
      rw [List.map_append, (hfold "xp_" List.mem_cons_self a).2 ha]
      exact List.prefix_append _ _

/-- The expression between the boundaries matches the keywords made of word characters. -/
theorem matches_keywordWord_iff {l u r : List Char} : keywordWord.Matches l u r ↔
    IsKeyword u ∧ ∀ c ∈ u, isWordChar c = true := by
  rw [keywordWord, Expression.matches_oneOf_iff, Expression.matches_seq_iff, IsKeyword]
  simp only [Expression.matches_word_iff, Expression.matches_many_one_iff]
  constructor
  · rintro (⟨k, hk, hu⟩ | ⟨a, b, rfl, ha, hb⟩)
    · exact ⟨.inl ⟨k, hk, hu⟩, (isWordChar_of_sameWord (List.mem_cons_of_mem _ hk) hu).2⟩
    · refine ⟨.inr ⟨a, b, rfl, ha⟩, fun c hc => ?_⟩
      rcases List.mem_append.1 hc with hc | hc
      · exact (isWordChar_of_sameWord List.mem_cons_self ha).2 c hc
      · exact hb c hc
  · rintro ⟨hu | ⟨a, b, rfl, ha⟩, hp⟩
    · exact .inl hu
    · exact .inr ⟨a, b, rfl, ha, fun c hc => hp c (List.mem_append_right a hc)⟩

theorem IsKeyword.ne_nil {w : List Char} (h : IsKeyword w) : w ≠ [] := by
  obtain ⟨k, hk, h⟩ | ⟨a, b, rfl, ha⟩ := h
  · exact (isWordChar_of_sameWord (List.mem_cons_of_mem _ hk) h).1
  · exact List.append_ne_nil_of_left_ne_nil (isWordChar_of_sameWord List.mem_cons_self ha).1 b

/-- **The expression for keywords finds the maximal runs of word characters that are one.** -/
theorem finds_keywordExpression_iff {cs : List Char} :
    keywordExpression.Finds cs ↔ ∃ w, IsRun isWordChar cs w ∧ IsKeyword w := by
  rw [keywordExpression, Expression.finds_whole_iff (fun l u r => matches_keywordWord_iff)
    fun u hu => ⟨hu.1.ne_nil, hu.2⟩]
  exact exists_congr fun w => and_congr_right fun hw => and_iff_left hw.2.1

/-! ### Fragments -/

/-- What a fragment is made of, blanks at its ends removed. -/
structure Fragment.Admissible (cs : List Char) : Prop where
  nonempty : cs ≠ []
  chars : ∀ c ∈ cs, c ∉ [';', '#', '\x00', '?', '$', '@', ':', '\'', '"', '\x60', '[', ']']
  pairs : ¬ ['-', '-'] <:+: cs ∧ ¬ ['/', '*'] <:+: cs ∧ ¬ ['*', '/'] <:+: cs
  parentheses : ∃ w : DyckWord, w.toList = cs.filterMap parenthesis?
  words : ∀ w, IsRun isWordChar cs w → ¬ IsKeyword w

theorem isFragmentText_iff {cs : List Char} :
    isFragmentText cs = true ↔ Fragment.Admissible cs := by
  have hpairs : (∀ x ∈ forbiddenPairs, hasPair x cs = false) ↔
      ¬ ['-', '-'] <:+: cs ∧ ¬ ['/', '*'] <:+: cs ∧ ¬ ['*', '/'] <:+: cs := by
    simp [forbiddenPairs, ← hasPair_iff]
  have hwords : (∀ w ∈ runs isWordChar cs, isForbiddenWord w = false) ↔
      ∀ w, IsRun isWordChar cs w → ¬ IsKeyword w := by
    simp [mem_runs_iff, ← isForbiddenWord_iff]
  rw [isFragmentText_eq_true_iff]
  constructor
  · rintro ⟨h, h1, h2, h3, h4⟩
    exact ⟨h, h1, hpairs.1 h2, isBalanced_iff.1 h3, hwords.1 h4⟩
  · rintro ⟨h, h1, h2, h3, h4⟩
    exact ⟨h, h1, hpairs.2 h2, isBalanced_iff.2 h3, hwords.2 h4⟩

/-- **The language of fragments.** The check accepts a text where, blanks at its ends removed, it
is not empty, holds none of the forbidden characters and neighbours, has balanced parentheses and
no maximal run of word characters in it is a keyword; and it refuses every other text. The last
condition is that the expression for keywords is found nowhere in the text. -/
theorem Fragment.check_decides (s : String) :
    ((∃ f : Fragment, f.text = s ∧ Fragment.check s = .ok f) ↔ Admissible (trimChars s.toList)) ∧
    (Fragment.check s = .error (.unsafeFragment s) ↔ ¬ Admissible (trimChars s.toList)) ∧
    ((∃ w, IsRun isWordChar (trimChars s.toList) w ∧ IsKeyword w) ↔
      keywordExpression.Finds (trimChars s.toList)) := by
  rw [← isFragmentText_iff, ← isFragment, Fragment.check]
  refine ⟨?_, ?_, finds_keywordExpression_iff.symm⟩
  · split
    · rename_i h
      exact iff_of_true ⟨⟨s, h⟩, rfl, rfl⟩ h
    · rename_i h
      refine iff_of_false ?_ h
      rintro ⟨f, -, hf⟩
      cases hf
  · split
    · rename_i h
      exact iff_of_false (fun hf => by cases hf) (not_not.2 h)
    · rename_i h
      exact iff_of_true rfl h

-- the long s makes a keyword, a combining accent behind one makes another word of it
example : isFragment " f(selection, unions) " = true ∧ isFragment "f(\u017FeLect)" = false ∧
    isFragment "f(select\u0301)" = true ∧ isFragment "f(XP_)" = false := by decide +kernel

end BoundSql
