import BoundSql.Proofs.Phrase.Lexemes
import BoundSql.Proofs.Placeholder.Outline

/-!
# The outline of a rendered phrase

The outline of a neat phrase is made of those of its tokens (`outline_render`). A name and a value
are seen as they are, so a word or a comma at the top level comes from a text or a fragment of the
phrase. A quiet phrase has no words that begin a clause (`clauses_eq_nil`).
-/

namespace BoundSql

variable {d : Dialect}

/-! ### Tokens -/

theorem isWordChar_of_isBreak {c : Char} (h : isBreak c = true) : Text.isWordChar c = false := by
  rcases mem_breaks h with rfl | rfl | rfl | rfl | rfl | rfl <;> decide +kernel

namespace Token

/-- A name has neither words nor commas. -/
theorem outline_name (hq : d.quotes ∈ Quotes.usual) (i k : Nat) (n : Name) :
    Piece.outline k ((name n).pieces d i) = ((name n).pieces d i).map .other ∧
      Piece.depthAfter k ((name n).pieces d i) = k := by
  refine Piece.outline_of_opaque (fun c hc => ?_) k
  rcases sign_mem_pieces_name hq hc with rfl | rfl <;> decide +kernel

/-- The pieces of a token are its text. -/
theorem text_pieces (t : Token) (i : Nat) : (t.pieces d i).flatMap Piece.text = t.chars d i := by
  cases t with
  | text s => simp [pieces, chars, Piece.text, List.flatMap_map]
  | fragment f => simp [pieces, chars, Piece.text, List.flatMap_map]
  | name n => exact Scanner.text_pieces _ _
  | value v =>
    rw [pieces, List.flatMap_cons, Piece.text, PlaceholderStyle.toList_render]
    exact List.append_nil _

theorem depthAfter_pieces (hq : d.quotes ∈ Quotes.usual) {t : Token} {k m : Nat}
    (h : t.depth? k = some m) (i : Nat) : Piece.depthAfter k (t.pieces d i) = m := by
  cases t with
  | text s => exact Piece.depthAfter_signs h
  | fragment f =>
    cases h
    exact Piece.depthAfter_signs (f.foldlM_parenStep k)
  | name n =>
    cases h
    exact (outline_name hq i k n).2
  | value v =>
    cases h
    rfl

theorem isLetter_getLast_pieces {t : Token} (h : t.endsSafe = true) (i : Nat) :
    ∀ x ∈ (t.pieces d i).getLast?, x.isLetter = false := by
  cases t with
  | text s =>
    intro x hx
    rw [pieces, List.getLast?_map] at hx
    obtain ⟨c, hc, rfl⟩ := Option.map_eq_some_iff.1 hx
    have hb : s.toList.getLast?.all isBreak = true := h
    rw [hc] at hb
    exact isWordChar_of_isBreak hb
  | name | fragment | value => cases h

theorem isLetter_head_pieces {t : Token} (h : t.startsSafe = true) (i : Nat) (ps : List Piece) :
    ∀ x ∈ (t.pieces d i ++ ps).head?, x.isLetter = false := by
  cases t with
  | text s =>
    intro x hx
    have hb : s.toList.head?.any isBreak = true := h
    rw [pieces] at hx
    cases hs : s.toList with
    | nil => simp [hs] at hb
    | cons c cs =>
      rw [hs] at hb hx
      obtain rfl : .sign c = x := by simpa using hx
      exact isWordChar_of_isBreak hb
  | name | fragment | value => cases h

end Token

namespace Phrase

/-! ### Outlines -/

/-- The outline of a phrase whose first value is the placeholder with number `i`, if `k` parentheses
are open before it. -/
def outline (d : Dialect) : Nat → Nat → Phrase → List Part
  | _, _, [] => []
  | i, k, t :: p =>
    Piece.outline k (t.pieces d i) ++
      outline d (i + t.values.length) (Piece.depthAfter k (t.pieces d i)) p

theorem outline_pieces {p : Phrase} (hn : Neat p) (i k : Nat) :
    Piece.outline k (p.pieces d i) = p.outline d i k := by
  induction p generalizing i k with
  | nil => rfl
  | cons t p ih =>
    obtain ⟨-, hj, hp⟩ := (neat_cons t p).1 hn
    rw [pieces, outline, ← ih hp]
    refine Piece.outline_append (hj.imp (fun he => t.isLetter_getLast_pieces he i) fun hs => ?_) k
    cases p with
    | nil => simp [pieces]
    | cons u p => exact Token.isLetter_head_pieces ((startsSafe_cons u p).1 hs) _ _

/-- **The outline of the text of a phrase is made of those of its tokens.** -/
theorem outline_render (hq : d.quotes ∈ Quotes.usual) {p : Phrase} (hn : Neat p) (i : Nat) :
    d.outline (p.render d i) = p.outline d i 0 := by
  rw [Dialect.outline, pieces_render hq hn, outline_pieces hn]

theorem outline_lit (s : String) (i k : Nat) :
    (lit s).outline d i k = Piece.outline k (s.toList.map .sign) := List.append_nil _

/-- The outline of a phrase has its text. -/
theorem text_outline (p : Phrase) (i k : Nat) :
    (p.outline d i k).flatMap Part.text = renderFrom d i p := by
  induction p generalizing i k with
  | nil => rfl
  | cons t p ih =>
    rw [outline, List.flatMap_append, Piece.text_outline, t.text_pieces, ih, renderFrom_cons]

theorem outline_append (hq : d.quotes ∈ Quotes.usual) {p q : Phrase} {k m : Nat}
    (h : depth? k p = some m) (i : Nat) :
    (p ++ q).outline d i k = p.outline d i k ++ q.outline d (i + (values p).length) m := by
  induction p generalizing i k with
  | nil =>
    cases h
    rfl
  | cons t p ih =>
    rw [depth?_cons] at h
    obtain ⟨j, hj, h⟩ := Option.bind_eq_some_iff.1 h
    rw [List.cons_append, outline, outline, Token.depthAfter_pieces hq hj, ih h, values_cons,
      List.length_append, List.append_assoc, Nat.add_assoc]

theorem outline_lit_append (hq : d.quotes ∈ Quotes.usual) {s : String} (hs : isTidyText s = true)
    (p : Phrase) (i k : Nat) :
    (lit s ++ p).outline d i k = Piece.outline k (s.toList.map .sign) ++ p.outline d i k := by
  rw [outline_append hq ((tidy_lit hs).balanced k), outline_lit]
  rfl

end Phrase

/-! ### Words that begin clauses -/

/-- The words that begin the clauses of a query after the first, in lower case. -/
def clauseWords : List String := ["from", "where", "group", "order"]

namespace Part

/-- The word of a part that begins a clause, in lower case. -/
def clause? : Part → Option String
  | word cs =>
    let w := Text.lower (String.ofList cs)
    if w ∈ clauseWords then some w else none
  | _ => none

/-- The words among the parts that begin clauses, in lower case. -/
def clauses (ps : List Part) : List String := ps.filterMap clause?

@[simp] theorem clauses_nil : clauses [] = [] := rfl

@[simp] theorem clauses_append (ps qs : List Part) :
    clauses (ps ++ qs) = clauses ps ++ clauses qs := List.filterMap_append

theorem clauses_eq_nil {ps : List Part} (h : ∀ w, .word w ∉ ps) : clauses ps = [] := by
  refine List.filterMap_eq_nil_iff.2 fun p hp => ?_
  cases p with
  | word w => exact absurd hp (h w)
  | comma | other x => rfl

end Part

/-- Words and signs that begin no clause, however many parentheses are open before them. -/
def isQuietText (s : String) : Bool :=
  s.toList.all (fun c => !Text.isWordChar c) ||
    s.toList.all (fun c => c != '(' && c != ')') &&
      (Part.clauses (Piece.outline 0 (s.toList.map .sign))).isEmpty

/-- Names, values, and texts that begin no clause. -/
def Token.isQuiet : Token → Bool
  | text s => isQuietText s
  | fragment _ => false
  | name _ | value _ => true

theorem clauses_of_isQuietText {s : String} (h : isQuietText s = true) (k : Nat) :
    Part.clauses (Piece.outline k (s.toList.map .sign)) = [] := by
  simp only [isQuietText, Bool.or_eq_true, Bool.and_eq_true, List.all_eq_true] at h
  rcases h with h | ⟨hp, hc⟩
  · exact Part.clauses_eq_nil (Piece.word_notMem_outline (fun c hc => by simpa using h c hc) k)
  · by_cases hk : k = 0
    · rw [hk]
      simpa using hc
    · rw [Piece.outline_inside hk fun c hc => by simpa using hp c hc]
      exact Part.clauses_eq_nil fun w => by simp

theorem Token.clauses_of_isQuiet (hq : d.quotes ∈ Quotes.usual) {t : Token} (h : t.isQuiet = true)
    (i k : Nat) : Part.clauses (Piece.outline k (t.pieces d i)) = [] := by
  cases t with
  | text s => exact clauses_of_isQuietText h k
  | fragment f => cases h
  | name n =>
    rw [(outline_name hq i k n).1]
    exact Part.clauses_eq_nil fun w => by simp
  | value v => rfl

namespace Phrase

/-- Only quiet tokens. -/
def Quiet (p : Phrase) : Prop := ∀ t ∈ p, t.isQuiet = true

@[simp] theorem quiet_nil : Quiet [] := by simp [Quiet]

@[simp] theorem quiet_append {p q : Phrase} : Quiet (p ++ q) ↔ Quiet p ∧ Quiet q :=
  List.forall_mem_append

@[simp] theorem quiet_lit {s : String} : Quiet (lit s) ↔ isQuietText s = true := by
  simp [Quiet, lit, Token.isQuiet]

@[simp] theorem quiet_ofName (n : Name) : Quiet (ofName n) := by
  simp [Quiet, ofName, Token.isQuiet]

@[simp] theorem quiet_ofValue (v : Value) : Quiet (ofValue v) := by
  simp [Quiet, ofValue, Token.isQuiet]

theorem Quiet.flatten {ps : List Phrase} (h : ∀ p ∈ ps, Quiet p) : Quiet ps.flatten := by
  intro t ht
  obtain ⟨p, hp, ht⟩ := List.mem_flatten.1 ht
  exact h p hp t ht

theorem Quiet.commas {ps : List Phrase} (h : ∀ p ∈ ps, Quiet p) : Quiet (commas ps) := by
  have hsep : Quiet (lit ", ") := quiet_lit.2 (by decide +kernel)
  unfold Phrase.commas join
  induction ps with
  | nil => exact quiet_nil
  | cons p ps ih =>
    cases ps with
    | nil => simpa using h p
    | cons q ps =>
      rw [List.intercalate_cons_cons, quiet_append, quiet_append]
      exact ⟨⟨h p (by simp), hsep⟩, ih fun r hr => h r (List.mem_cons_of_mem p hr)⟩

/-- **A quiet phrase begins no clause.** -/
theorem clauses_eq_nil (hq : d.quotes ∈ Quotes.usual) {p : Phrase} (h : Quiet p) (i k : Nat) :
    Part.clauses (p.outline d i k) = [] := by
  induction p generalizing i k with
  | nil => rfl
  | cons t p ih =>
    rw [outline, Part.clauses_append, Token.clauses_of_isQuiet hq (h t (by simp)),
      ih fun u hu => h u (List.mem_cons_of_mem t hu)]
    rfl

end Phrase

end BoundSql
