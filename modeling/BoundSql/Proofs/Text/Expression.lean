import BoundSql.Text.Word
import BoundSql.Proofs.Text.Runs
import Mathlib.Data.List.Forall2

/-!
# Regular expressions with word boundaries

A small language of regular expressions over characters. Besides the usual constructors it has
the assertion that a place is the boundary of a word, so what an expression matches depends on the
text around the match: `Matches e l u r` says that `e` matches `u` with `l` before it and `r`
behind it, and `Finds e cs` that it matches somewhere in `cs`. Literal words are matched whatever
the case of their letters, up to Unicode's simple case folding.

An expression for words that is set between two boundaries finds exactly the words among the
maximal runs of word characters (`finds_whole_iff`).
-/

namespace BoundSql.Text

/-- Regular expressions over characters, with the boundary of a word as an assertion. -/
inductive Expression where
  | empty
  | one (p : Char → Bool)
  | boundary
  | seq (a b : Expression)
  | either (a b : Expression)
  | many (a : Expression)

/-- The place between two texts is the boundary of a word: there is a word character on one side
of it and none on the other. -/
def IsBoundary (l r : List Char) : Prop :=
  l.getLast?.any isWordChar ≠ r.head?.any isWordChar

namespace Expression

/-- The expression matches a text, given in the middle, between two others. -/
inductive Matches : Expression → List Char → List Char → List Char → Prop
  | empty {l r : List Char} : Matches .empty l [] r
  | one {p : Char → Bool} {c : Char} {l r : List Char} (h : p c = true) : Matches (.one p) l [c] r
  | boundary {l r : List Char} (h : IsBoundary l r) : Matches .boundary l [] r
  | seq {a b : Expression} {l u v r : List Char} (ha : Matches a l u (v ++ r))
      (hb : Matches b (l ++ u) v r) : Matches (.seq a b) l (u ++ v) r
  | left {a b : Expression} {l u r : List Char} (h : Matches a l u r) : Matches (.either a b) l u r
  | right {a b : Expression} {l u r : List Char} (h : Matches b l u r) :
      Matches (.either a b) l u r
  | stop {a : Expression} {l r : List Char} : Matches (.many a) l [] r
  | more {a : Expression} {l u v r : List Char} (ha : Matches a l u (v ++ r))
      (hb : Matches (.many a) (l ++ u) v r) : Matches (.many a) l (u ++ v) r

/-- The expression matches somewhere in the text. -/
def Finds (e : Expression) (cs : List Char) : Prop := ∃ l u r, cs = l ++ u ++ r ∧ e.Matches l u r

variable {a b e : Expression} {l u r : List Char}

/-! ### What each constructor matches -/

theorem matches_empty_iff : Matches .empty l u r ↔ u = [] :=
  ⟨fun h => by cases h; rfl, by rintro rfl; exact .empty⟩

theorem matches_one_iff {p : Char → Bool} :
    Matches (.one p) l u r ↔ ∃ c, p c = true ∧ u = [c] :=
  ⟨fun h => by cases h with | one h => exact ⟨_, h, rfl⟩, by rintro ⟨c, h, rfl⟩; exact .one h⟩

theorem matches_boundary_iff : Matches .boundary l u r ↔ u = [] ∧ IsBoundary l r :=
  ⟨fun h => by cases h with | boundary h => exact ⟨rfl, h⟩, by rintro ⟨rfl, h⟩; exact .boundary h⟩

theorem matches_seq_iff : Matches (.seq a b) l u r ↔
    ∃ v w, u = v ++ w ∧ Matches a l v (w ++ r) ∧ Matches b (l ++ v) w r := by
  constructor
  · intro h
    cases h with
    | seq ha hb => exact ⟨_, _, rfl, ha, hb⟩
  · rintro ⟨v, w, rfl, ha, hb⟩
    exact .seq ha hb

theorem matches_either_iff : Matches (.either a b) l u r ↔ Matches a l u r ∨ Matches b l u r := by
  constructor
  · intro h
    cases h with
    | left h => exact .inl h
    | right h => exact .inr h
  · rintro (h | h)
    · exact .left h
    · exact .right h

theorem matches_many_one_iff {p : Char → Bool} :
    Matches (.many (.one p)) l u r ↔ ∀ c ∈ u, p c = true := by
  constructor
  · intro h
    generalize he : Expression.many (.one p) = e at h
    induction h with
    | stop => simp
    | more ha hb _ ih =>
      cases he
      obtain ⟨c, hc, rfl⟩ := matches_one_iff.1 ha
      intro d hd
      rcases List.mem_append.1 hd with hd | hd
      · rwa [List.mem_singleton.1 hd]
      · exact ih rfl d hd
    | _ => cases he
  · intro h
    induction u generalizing l with
    | nil => exact .stop
    | cons c u ih =>
      exact .more (u := [c]) (.one (h c (by simp))) (ih fun d hd => h d (List.mem_cons_of_mem c hd))

/-! ### Words in any case -/

/-- The characters that simple case folding takes to the same character as a lower-case letter:
the letter itself and its upper case, the long s for an s and the sign for kelvin for a k. -/
def letterForms (k : Char) : List Char :=
  [k, k.toUpper] ++ (if k = 's' then ['\u017F'] else []) ++ if k = 'k' then ['\u212A'] else []

/-- Whether a text is a word of lower-case letters, up to simple case folding. -/
def SameWord (k w : List Char) : Prop := List.Forall₂ (fun a c => c ∈ letterForms a) k w

theorem SameWord.forall_right {p : Char → Bool} {k w : List Char} (h : SameWord k w)
    (hp : ∀ a ∈ k, ∀ c ∈ letterForms a, p c = true) : ∀ c ∈ w, p c = true := by
  induction h with
  | nil => simp
  | cons hac _ ih =>
    rw [List.forall_mem_cons] at hp ⊢
    exact ⟨hp.1 _ hac, ih hp.2⟩

/-- The expression for a word of lower-case letters, in any case. -/
def word (k : List Char) : Expression :=
  k.foldr (fun a e => .seq (.one fun c => (letterForms a).contains c) e) .empty

theorem matches_word_iff {k : List Char} : Matches (word k) l u r ↔ SameWord k u := by
  induction k generalizing l u with
  | nil => exact matches_empty_iff.trans List.forall₂_nil_left_iff.symm
  | cons a k ih =>
    rw [word, List.foldr_cons, ← word, matches_seq_iff, SameWord, List.forall₂_cons_left_iff]
    constructor
    · rintro ⟨v, w, rfl, hv, hw⟩
      obtain ⟨c, hc, rfl⟩ := matches_one_iff.1 hv
      exact ⟨c, w, by simpa using hc, ih.1 hw, rfl⟩
    · rintro ⟨c, w, hc, hw, rfl⟩
      exact ⟨[c], w, rfl, .one (by simpa using hc), ih.2 hw⟩

/-- The expression for one of some words, or else what another expression matches. -/
def oneOf (ks : List String) (e : Expression) : Expression :=
  ks.foldr (fun k e => .either (word k.toList) e) e

theorem matches_oneOf_iff {ks : List String} : Matches (oneOf ks e) l u r ↔
    (∃ k ∈ ks, SameWord k.toList u) ∨ Matches e l u r := by
  induction ks with
  | nil => simp [oneOf]
  | cons k ks ih =>
    rw [oneOf, List.foldr_cons, ← oneOf, matches_either_iff, matches_word_iff, ih]
    simp [or_assoc]

/-! ### Whole words -/

/-- The expression between two boundaries of a word. -/
def whole (e : Expression) : Expression := .seq .boundary (.seq e .boundary)

theorem matches_whole_iff : Matches (whole e) l u r ↔
    IsBoundary l (u ++ r) ∧ Matches e l u r ∧ IsBoundary (l ++ u) r := by
  constructor
  · intro h
    obtain ⟨v, w, rfl, hv, h⟩ := matches_seq_iff.1 h
    obtain ⟨rfl, hl⟩ := matches_boundary_iff.1 hv
    obtain ⟨u, z, rfl, hu, hz⟩ := matches_seq_iff.1 h
    obtain ⟨rfl, hr⟩ := matches_boundary_iff.1 hz
    simp only [List.nil_append, List.append_nil] at *
    exact ⟨hl, hu, hr⟩
  · rintro ⟨hl, hu, hr⟩
    refine matches_seq_iff.2 ⟨[], u, rfl, .boundary hl, ?_⟩
    refine matches_seq_iff.2 ⟨u, [], (List.append_nil u).symm, ?_, ?_⟩
    · simpa using hu
    · exact .boundary (by simpa using hr)

/-- **Between two boundaries an expression for words finds the maximal runs that are words.** -/
theorem finds_whole_iff {P : List Char → Prop} (he : ∀ l u r, e.Matches l u r ↔ P u)
    (hP : ∀ u, P u → u ≠ [] ∧ ∀ c ∈ u, isWordChar c = true) {cs : List Char} :
    Finds (whole e) cs ↔ ∃ w, IsRun isWordChar cs w ∧ P w := by
  have hends : ∀ {l u r}, u ≠ [] → (∀ c ∈ u, isWordChar c = true) →
      (IsBoundary l (u ++ r) ↔ l.getLast?.any isWordChar = false) ∧
      (IsBoundary (l ++ u) r ↔ r.head?.any isWordChar = false) := by
    intro l u r hu hp
    have hhead : (u ++ r).head?.any isWordChar = true := by
      rw [List.head?_append_of_ne_nil u hu, List.head?_eq_some_head hu]
      exact hp _ (List.head_mem hu)
    have hlast : (l ++ u).getLast?.any isWordChar = true := by
      rw [List.getLast?_append_of_ne_nil l hu, List.getLast?_eq_some_getLast hu]
      exact hp _ (List.getLast_mem hu)
    constructor
    · rw [IsBoundary, hhead, Ne, Bool.not_eq_true]
    · rw [IsBoundary, hlast, ne_comm, Ne, Bool.not_eq_true]
  constructor
  · rintro ⟨l, u, r, rfl, h⟩
    obtain ⟨hl, hu, hr⟩ := matches_whole_iff.1 h
    have hPu := (he l u r).1 hu
    obtain ⟨hne, hp⟩ := hP u hPu
    exact ⟨u, ⟨hne, hp, l, r, rfl, (hends hne hp).1.1 hl, (hends hne hp).2.1 hr⟩, hPu⟩
  · rintro ⟨w, ⟨hne, hp, l, r, rfl, hl, hr⟩, hPw⟩
    exact ⟨l, w, r, rfl, matches_whole_iff.2
      ⟨(hends hne hp).1.2 hl, (he l w r).2 hPw, (hends hne hp).2.2 hr⟩⟩

end Expression

end BoundSql.Text
