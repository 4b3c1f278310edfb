import BoundSql.Dialect
import BoundSql.Fragment
import BoundSql.Proofs.Placeholder.Pieces

/-!
# The outline of a text

What stands outside the quotes and the parentheses of a text: its words, its commas, and whatever
else there is. The outlines of two texts make up the outline of both if no word runs over the joint
between them (`Piece.outline_append`), and no part of a text is lost (`Piece.text_outline`).
-/

namespace BoundSql

/-- A part of a text, as it is seen from outside all quotes and parentheses. -/
inductive Part
  /-- A maximal run of word characters outside quotes and parentheses. -/
  | word (cs : List Char)
  /-- A comma outside quotes and parentheses. -/
  | comma
  /-- Any other piece, whether outside or not. -/
  | other (x : Piece)
  deriving DecidableEq

namespace Part

/-- The text of a part. -/
def text : Part → List Char
  | word cs => cs
  | comma => [',']
  | other x => x.text

/-- A letter in front of parts. It belongs to a word that it touches. -/
def spell (c : Char) : List Part → List Part
  | word cs :: ps => word (c :: cs) :: ps
  | ps => word [c] :: ps

theorem spell_append (c : Char) {ps qs : List Part} (h : ps ≠ [] ∨ ∀ cs, .word cs ∉ qs.head?) :
    spell c (ps ++ qs) = spell c ps ++ qs := by
  cases ps with
  | cons p ps => cases p <;> rfl
  | nil =>
    have hq : ∀ cs, .word cs ∉ qs.head? := h.resolve_left (by simp)
    cases qs with
    | nil => rfl
    | cons q qs =>
      cases q with
      | word cs => exact absurd (by simp) (hq cs)
      | comma | other x => rfl

end Part

namespace Piece

/-! ### Outlines -/

/-- The number of open parentheses after a piece. -/
def depth (k : Nat) : Piece → Nat
  | sign c => if c = '(' then k + 1 else if c = ')' then k - 1 else k
  | _ => k

/-- A piece in front of parts, if `k` parentheses are open before it. -/
def put (k : Nat) : Piece → List Part → List Part
  | sign c, ps =>
    if k = 0 ∧ c = ',' then .comma :: ps
    else if k = 0 ∧ Text.isWordChar c = true then Part.spell c ps
    else .other (.sign c) :: ps
  | x, ps => .other x :: ps

/-- The outline of pieces before which `k` parentheses are open. -/
def outline : Nat → List Piece → List Part
  | _, [] => []
  | k, x :: xs => x.put k (outline (x.depth k) xs)

/-- The number of open parentheses after several pieces. -/
def depthAfter (k : Nat) (xs : List Piece) : Nat := xs.foldl depth k

/-- Whether a piece may be a letter of a word. -/
def isLetter : Piece → Bool
  | sign c => Text.isWordChar c
  | _ => false

@[simp] theorem outline_nil (k : Nat) : outline k [] = [] := rfl

@[simp] theorem depthAfter_cons (k : Nat) (x : Piece) (xs : List Piece) :
    depthAfter k (x :: xs) = depthAfter (x.depth k) xs := rfl

theorem put_append (k : Nat) (x : Piece) (ps : List Part) {qs : List Part}
    (h : ps ≠ [] ∨ ∀ cs, .word cs ∉ qs.head?) : x.put k (ps ++ qs) = x.put k ps ++ qs := by
  cases x with
  | sign c =>
    simp only [put]
    split_ifs
    · rfl
    · exact Part.spell_append c h
    · rfl
  | quote | inner | place => rfl

theorem put_of_not_isLetter (k : Nat) {x : Piece} (h : x.isLetter = false) :
    ∃ p, (∀ cs, p ≠ .word cs) ∧ ∀ ps, x.put k ps = p :: ps := by
  cases x with
  | sign c =>
    simp only [put]
    have hc : ¬ Text.isWordChar c = true := by simpa [isLetter] using h
    by_cases hk : k = 0 ∧ c = ','
    · exact ⟨.comma, by simp, fun ps => by rw [if_pos hk]⟩
    · exact ⟨.other (.sign c), by simp, fun ps => by rw [if_neg hk, if_neg (fun h => hc h.2)]⟩
  | quote | inner | place => exact ⟨_, by simp, fun _ => rfl⟩

theorem put_ne_nil (k : Nat) (x : Piece) (ps : List Part) : x.put k ps ≠ [] := by
  cases x with
  | sign c =>
    simp only [put]
    split_ifs
    · simp
    · unfold Part.spell
      split <;> simp
    · simp
  | quote | inner | place => simp [put]

/-- **Outlines are put together** where no word runs over the joint. -/
theorem outline_append {xs ys : List Piece}
    (h : (∀ x ∈ xs.getLast?, x.isLetter = false) ∨ ∀ y ∈ ys.head?, y.isLetter = false) (k : Nat) :
    outline k (xs ++ ys) = outline k xs ++ outline (depthAfter k xs) ys := by
  induction xs generalizing k with
  | nil => rfl
  | cons x xs ih =>
    rw [List.cons_append, outline, outline, depthAfter_cons]
    cases xs with
    | cons z zs =>
      rw [ih (by simpa using h)]
      exact put_append k x _ (Or.inl (put_ne_nil _ z _))
    | nil =>
      rcases h with h | h
      · obtain ⟨p, -, hp⟩ := put_of_not_isLetter k (h x (by simp))
        rw [hp, hp]
        rfl
      · refine put_append k x [] (Or.inr fun cs hcs => ?_)
        cases ys with
        | nil => simp at hcs
        | cons y ys =>
          obtain ⟨p, hw, hp⟩ := put_of_not_isLetter (x.depth k) (h y (by simp))
          rw [List.nil_append, outline, hp] at hcs
          exact hw cs (by simpa using hcs)

/-- Nothing is lost. -/
theorem text_outline (k : Nat) (xs : List Piece) :
    (outline k xs).flatMap Part.text = xs.flatMap text := by
  induction xs generalizing k with
  | nil => rfl
  | cons x xs ih =>
    have hs : ∀ c ps, (Part.spell c ps).flatMap Part.text = c :: ps.flatMap Part.text := by
      intro c ps
      unfold Part.spell
      split <;> rfl
    rw [outline, List.flatMap_cons, ← ih (x.depth k)]
    cases x with
    | sign c =>
      simp only [put]
      split_ifs with h
      · rw [h.2]
        rfl
      · exact hs c _
      · rfl
    | quote | inner | place => rfl

/-- Pieces that are no signs are seen as they are. -/
theorem outline_of_opaque {xs : List Piece}
    (h : ∀ c, .sign c ∈ xs → Text.isWordChar c = false ∧ c ∉ ['(', ')', ',']) (k : Nat) :
    outline k xs = xs.map .other ∧ depthAfter k xs = k := by
  induction xs with
  | nil => exact ⟨rfl, rfl⟩
  | cons x xs ih =>
    obtain ⟨h1, h2⟩ := ih fun c hc => h c (List.mem_cons_of_mem x hc)
    have hx : x.depth k = k ∧ ∀ ps, x.put k ps = .other x :: ps := by
      cases x with
      | sign c =>
        obtain ⟨hw, hc⟩ := h c (by simp)
        simp only [List.mem_cons, List.not_mem_nil, or_false, not_or] at hc
        exact ⟨by simp [depth, hc], fun ps => by simp [put, hc, hw]⟩
      | quote | inner | place => exact ⟨rfl, fun _ => rfl⟩
    rw [outline, depthAfter_cons, hx.1, h1, h2, hx.2]
    exact ⟨rfl, rfl⟩

/-! ### Signs -/

theorem depthAfter_signs {k m : Nat} {cs : List Char} (h : cs.foldlM parenStep k = some m) :
    depthAfter k (cs.map .sign) = m := by
  induction cs generalizing k with
  | nil =>
    cases h
    rfl
  | cons c cs ih =>
    rw [List.foldlM_cons] at h
    obtain ⟨j, hj, h⟩ := Option.bind_eq_some_iff.1 h
    have hd : (sign c).depth k = j := by
      unfold parenStep at hj
      unfold depth
      split_ifs at hj ⊢ <;> simp_all
    rw [List.map_cons, depthAfter_cons, hd, ih h]

/-- Inside parentheses a text without parentheses has neither words nor commas. -/
theorem outline_inside {k : Nat} (hk : k ≠ 0) {cs : List Char} (h : ∀ c ∈ cs, c ≠ '(' ∧ c ≠ ')') :
    outline k (cs.map .sign) = cs.map fun c => .other (.sign c) := by
  induction cs with
  | nil => rfl
  | cons c cs ih =>
    have hd : (sign c).depth k = k := by simp [depth, h c (by simp)]
    rw [List.map_cons, outline, hd, ih fun d hd => h d (by simp [hd])]
    simp [put, hk]

/-- There are no words without word characters. -/
theorem word_notMem_outline {cs : List Char} (h : ∀ c ∈ cs, Text.isWordChar c = false) (k : Nat)
    (w : List Char) : .word w ∉ outline k (cs.map .sign) := by
  induction cs generalizing k with
  | nil => simp
  | cons c cs ih =>
    obtain ⟨p, hp, hput⟩ := put_of_not_isLetter k (x := .sign c) (h c (by simp))
    rw [List.map_cons, outline, hput, List.mem_cons, not_or]
    exact ⟨fun hw => hp w hw.symm, ih (fun d hd => h d (by simp [hd])) _⟩

end Piece

/-- The outline of a text. -/
def Dialect.outline (d : Dialect) (text : String) : List Part :=
  Piece.outline 0 (d.scanner.pieces .plain text.toList)

end BoundSql
