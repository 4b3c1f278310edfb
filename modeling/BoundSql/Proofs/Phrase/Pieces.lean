import BoundSql.Proofs.Phrase.Reading
import BoundSql.Proofs.Placeholder.Pieces

/-!
# The pieces of a rendered phrase

The text of a neat phrase comes apart into the pieces of its tokens: every value is one
placeholder, and no token runs into its neighbour (`pieces_renderFrom`). What is done to a text
piece by piece may therefore be done token by token.
-/

namespace BoundSql

namespace Scanner

variable {s : Scanner}

/-! ### Placeholders -/

theorem emits_token {cs : List Char} (h : ∀ c ∈ cs, s.style.continues c = true)
    (read : List Char) : s.emits (.token read) cs = [] := by
  induction cs generalizing read with
  | nil => rfl
  | cons c cs ih =>
    have hc : s.style.continues c = true := h c (by simp)
    have hs : s.step (.token read) c = ([], .token (c :: read)) := by simp [step, hc]
    rw [emits_cons, hs, ih fun d hd => h d (by simp [hd])]
    simp [emit, hc]

/-- The placeholder with a number is one piece. -/
theorem pieces_placeholder (hq : s.quotes ∈ Quotes.usual) (i : Nat) :
    s.pieces .plain (s.style.chars i) = [.place (s.style.render i)] := by
  have hsigil := closer?_sigil hq
  by_cases hs : s.style = .question
  · rw [hs] at hsigil
    simp [hs, PlaceholderStyle.chars, PlaceholderStyle.label, PlaceholderStyle.render, pieces,
      plainPieces, plainStep, hsigil, ending]
  · obtain ⟨c, cs, hl, hc, hcs⟩ := exists_label hs i
    have h1 : s.step .plain s.style.sigil = ([], .sigil) := by simp [plainStep, hsigil, hs]
    have h2 : s.step .sigil c = ([], .token [c, s.style.sigil]) := by simp [step, hc]
    -- Nothing is complete before the text ends, and the placeholder is what is pending there.
    have he : s.emits .plain (s.style.sigil :: c :: cs) = [] := by
      rw [emits_cons, emits_cons, h1, h2, emits_token hcs]
      simp [emit, plainPieces, hsigil, hs, hc]
    have ha := (reads_numbered hsigil hs hc hcs).after
    rw [PlaceholderStyle.render, PlaceholderStyle.chars, hl, pieces, he, ha]
    simp [ending]

/-! ### Tokens -/

theorem pieces_text (hq : s.quotes ∈ Quotes.usual) {p : Place} (hk : s.Knows p)
    (ho : p.isOutside = true) {t : String} (ht : isCleanText t = true)
    (hs : p = .plain ∨ (Token.text t).startsSafe = true) :
    s.pieces p t.toList = s.ending p ++ t.toList.map .sign := by
  have hp : ∀ c ∈ t.toList, s.IsPlain c := fun c => isPlain_of_isCleanText hq ht
  rcases hs with rfl | hs
  · exact pieces_plain hp
  · refine pieces_break hq hk ho hp ?_
    simpa [Token.startsSafe, Option.any_eq_true] using hs

end Scanner

open Scanner

variable {d : Dialect}

/-- The pieces of a token; a value is the placeholder with number `i`. -/
def Token.pieces (d : Dialect) (i : Nat) : Token → List Piece
  | .text s => s.toList.map .sign
  | .name n => d.scanner.pieces .plain (d.quotes.quoteChars n.text.toList)
  | .fragment f => f.text.toList.map .sign
  | .value _ => [.place (d.placeholders.render i)]

/-- The pieces in the text of a token, wherever it may stand. -/
theorem Token.pieces_chars (hq : d.quotes ∈ Quotes.usual) {p : Scanner.Place}
    (hk : d.scanner.Knows p) (ho : p.isOutside = true) {t : Token} (ht : t.isClean = true)
    (hs : p = .plain ∨ t.startsSafe = true) (i : Nat) :
    d.scanner.pieces p (t.chars d i) = d.scanner.ending p ++ t.pieces d i := by
  cases t with
  | text t => exact pieces_text (s := d.scanner) hq hk ho ht hs
  | name n =>
    obtain rfl : p = .plain := by simpa [startsSafe] using hs
    rfl
  | fragment f =>
    obtain rfl : p = .plain := by simpa [startsSafe] using hs
    exact pieces_plain fun c hc =>
      isPlain_of_notMem_forbiddenChars hq (f.notMem_forbiddenChars hc)
  | value v =>
    obtain rfl : p = .plain := by simpa [startsSafe] using hs
    exact pieces_placeholder (s := d.scanner) hq i

/-- The placeholders among the pieces of a token are its values. -/
theorem Token.length_places_pieces (hq : d.quotes ∈ Quotes.usual) (i : Nat) (t : Token) :
    ((t.pieces d i).filterMap Piece.place?).length = t.values.length := by
  cases t with
  | text s => simp [pieces, values, Piece.place?, Function.comp_def]
  | fragment f => simp [pieces, values, Piece.place?, Function.comp_def]
  | value v => rfl
  | name n =>
    obtain ⟨bs, p, hr, hp, -⟩ := reads_quoteChars (s := d.scanner) hq n.notMem_paren
    have hf : d.scanner.found .plain (d.quotes.quoteChars n.text.toList) = [] :=
      hr.found.trans hp.pending
    rw [pieces, places_pieces, hf]
    rfl

/-! ### Phrases -/

namespace Phrase

/-- The pieces of a phrase whose first value is the placeholder with number `i`. -/
def pieces (d : Dialect) : Nat → Phrase → List Piece
  | _, [] => []
  | i, t :: p => t.pieces d i ++ pieces d (i + t.values.length) p

/-- **The pieces in the text of a phrase are those of its tokens**, after what was pending. -/
theorem pieces_renderFrom (hq : d.quotes ∈ Quotes.usual) {q : Phrase} (hn : Neat q)
    {p : Scanner.Place} (hk : d.scanner.Knows p) (ho : p.isOutside = true)
    (hs : p = .plain ∨ StartsSafe q) (i : Nat) :
    d.scanner.pieces p (renderFrom d i q) = d.scanner.ending p ++ q.pieces d i := by
  induction q generalizing p i with
  | nil => simp [Scanner.pieces, pieces]
  | cons t q ih =>
    obtain ⟨ht, hj, hn⟩ := (neat_cons t q).1 hn
    rw [startsSafe_cons] at hs
    -- The token leads to a place outside quotes, to plain text if it ends with a break.
    obtain ⟨h, hplain⟩ := holds_chars hq hk ho ht hs i
    have h1 := Token.pieces_chars hq hk ho ht hs i
    have h2 := ih hn (knows_after hk _) h.isOutside (hj.imp_left hplain) (i + t.values.length)
    rw [renderFrom_cons]
    exact pieces_append_of h1 h2

/-- The pieces of a phrase that stands at the beginning of a text. -/
theorem pieces_render (hq : d.quotes ∈ Quotes.usual) {p : Phrase} (hn : Neat p) (i : Nat) :
    d.scanner.pieces .plain (p.render d i).toList = p.pieces d i := by
  have hk : d.scanner.Knows .plain := trivial
  rw [toList_render]
  exact pieces_renderFrom hq hn hk rfl (Or.inl rfl) i

end Phrase

end BoundSql
