import BoundSql.Proofs.Placeholder.Reading

/-!
# The pieces of a text

What a scanner makes of the characters of a text: a sign of its own, a quote, a character inside
quotes, or a part of a placeholder. The pieces put together are the text again (`text_pieces`), the
placeholders among them are those the scanner finds (`places_pieces`), and the signs among them
stand outside quotes (`mem_outside_of_sign`).
-/

namespace BoundSql

/-- The smallest part of a text that has a meaning of its own. -/
inductive Piece
  /-- A character outside quotes and placeholders. -/
  | sign (c : Char)
  /-- A character that opens or closes a quote. -/
  | quote (c : Char)
  /-- A character inside quotes. -/
  | inner (c : Char)
  /-- A placeholder. -/
  | place (token : String)
  deriving DecidableEq

namespace Piece

/-- The text of a piece. -/
def text : Piece → List Char
  | sign c | quote c | inner c => [c]
  | place t => t.toList

/-- The placeholder that a piece is, if it is one. -/
def place? : Piece → Option String
  | place t => some t
  | _ => none

end Piece

namespace Scanner

variable (s : Scanner)

/-! ### Reading pieces -/

/-- The pieces that are complete when a plain character is read. -/
def plainPieces (c : Char) : List Piece :=
  match s.closer? c with
  | some _ => [.quote c]
  | none =>
    if c = s.style.sigil then
      if s.style = .question then [.place (String.ofList [c])] else []
    else [.sign c]

/-- The pieces that are complete when a character is read. A quote that is doubled counts as the
quote that would close and the character that it stands for. -/
def emit : Place → Char → List Piece
  | .plain, c => s.plainPieces c
  | .quoted k, c => if c = k then [.quote c] else [.inner c]
  | .closing k, c => if c = k then [.inner c] else s.plainPieces c
  | .sigil, c =>
    if s.style.starts c then []
    else if s.style = .colon ∧ c = ':' then [.sign s.style.sigil, .sign c]
    else .sign s.style.sigil :: s.plainPieces c
  | .token r, c =>
    if s.style.continues c then [] else .place (String.ofList r.reverse) :: s.plainPieces c

/-- The piece that ends with the text. -/
def ending : Place → List Piece
  | .sigil => [.sign s.style.sigil]
  | .token r => [.place (String.ofList r.reverse)]
  | _ => []

/-- The pieces complete within a text read from a place on. -/
def emits (p : Place) : List Char → List Piece
  | [] => []
  | c :: cs => s.emit p c ++ emits (s.step p c).2 cs

/-- The pieces of a text read from a place on, with the one that ends with it. -/
def pieces (p : Place) (cs : List Char) : List Piece := s.emits p cs ++ s.ending (s.after p cs)

@[simp] theorem emit_plain (c : Char) : s.emit .plain c = s.plainPieces c := rfl

@[simp] theorem emits_nil (p : Place) : s.emits p [] = [] := rfl

@[simp] theorem emits_cons (p : Place) (c : Char) (cs : List Char) :
    s.emits p (c :: cs) = s.emit p c ++ s.emits (s.step p c).2 cs := rfl

theorem emits_append (p : Place) (cs ds : List Char) :
    s.emits p (cs ++ ds) = s.emits p cs ++ s.emits (s.after p cs) ds := by
  induction cs generalizing p with
  | nil => rfl
  | cons c cs ih => simp [ih]

theorem pieces_append (p : Place) (cs ds : List Char) :
    s.pieces p (cs ++ ds) = s.emits p cs ++ s.pieces (s.after p cs) ds := by
  rw [pieces, pieces, emits_append, after_append, List.append_assoc]

theorem pieces_cons (p : Place) (c : Char) (cs : List Char) :
    s.pieces p (c :: cs) = s.emit p c ++ s.pieces (s.step p c).2 cs := by
  rw [pieces, pieces, emits_cons, after_cons, List.append_assoc]

variable {s}

/-- The pieces of two parts of a text, each with what is pending before it. -/
theorem pieces_append_of {p : Place} {cs ds : List Char} {ps qs : List Piece}
    (h : s.pieces p cs = s.ending p ++ ps)
    (h' : s.pieces (s.after p cs) ds = s.ending (s.after p cs) ++ qs) :
    s.pieces p (cs ++ ds) = s.ending p ++ (ps ++ qs) := by
  rw [pieces_append, h', ← List.append_assoc, ← List.append_assoc, ← h, pieces]

/-! ### Nothing is lost -/

theorem text_plainPieces (c : Char) : (s.plainPieces c).flatMap Piece.text ++
    (s.ending (s.plainStep c).2).flatMap Piece.text = [c] := by
  unfold plainPieces plainStep
  cases s.closer? c with
  | some k => rfl
  | none =>
    dsimp only
    split_ifs with h
    · simp [ending, Piece.text]
    · simp [ending, Piece.text, h]
    · simp [ending, Piece.text]

theorem text_emit (p : Place) (c : Char) : (s.emit p c).flatMap Piece.text ++
    (s.ending (s.step p c).2).flatMap Piece.text = (s.ending p).flatMap Piece.text ++ [c] := by
  have hc := s.text_plainPieces c
  cases p with
  | plain => exact hc
  | quoted k =>
    simp only [emit, step]
    split_ifs <;> rfl
  | closing k =>
    simp only [emit, step]
    split_ifs
    · rfl
    · exact hc
  | sigil =>
    simp only [emit, step]
    split_ifs
    · simp [ending, Piece.text]
    · simp [ending, Piece.text]
    · rw [List.flatMap_cons, List.append_assoc, hc]
      rfl
  | token r =>
    simp only [emit, step]
    split_ifs
    · simp [ending, Piece.text]
    · rw [List.flatMap_cons, List.append_assoc, hc]
      simp [ending, Piece.text]

theorem text_emits (p : Place) (cs : List Char) : (s.emits p cs).flatMap Piece.text ++
    (s.ending (s.after p cs)).flatMap Piece.text = (s.ending p).flatMap Piece.text ++ cs := by
  induction cs generalizing p with
  | nil => simp
  | cons c cs ih =>
    rw [emits_cons, after_cons, List.flatMap_append, List.append_assoc, ih, ← List.append_assoc,
      text_emit, List.append_assoc]
    rfl

/-- **The pieces of a text are the text**, after what was pending before it. -/
theorem text_pieces (p : Place) (cs : List Char) :
    (s.pieces p cs).flatMap Piece.text = (s.ending p).flatMap Piece.text ++ cs := by
  rw [pieces, List.flatMap_append, text_emits]

/-! ### Placeholders -/

theorem places_plainPieces (c : Char) :
    (s.plainPieces c).filterMap Piece.place? = (s.plainStep c).1 := by
  unfold plainPieces plainStep
  cases s.closer? c with
  | some k => rfl
  | none =>
    dsimp only
    split_ifs <;> rfl

theorem places_emit (p : Place) (c : Char) :
    (s.emit p c).filterMap Piece.place? = (s.step p c).1 := by
  have hc := s.places_plainPieces c
  cases p with
  | plain => exact hc
  | quoted k =>
    simp only [emit, step]
    split_ifs <;> rfl
  | closing k =>
    simp only [emit, step]
    split_ifs
    · rfl
    · exact hc
  | sigil =>
    simp only [emit, step]
    split_ifs
    · rfl
    · rfl
    · exact hc
  | token r =>
    simp only [emit, step]
    split_ifs
    · rfl
    · rw [List.filterMap_cons, hc]
      rfl

theorem places_emits (p : Place) (cs : List Char) :
    (s.emits p cs).filterMap Piece.place? = s.scan p cs := by
  induction cs generalizing p with
  | nil => rfl
  | cons c cs ih => rw [emits_cons, List.filterMap_append, places_emit, ih, scan_cons]

/-- **The placeholders among the pieces are those the scanner finds.** -/
theorem places_pieces (p : Place) (cs : List Char) :
    (s.pieces p cs).filterMap Piece.place? = s.found p cs := by
  have he : (s.ending (s.after p cs)).filterMap Piece.place? = (s.after p cs).pending := by
    cases s.after p cs <;> rfl
  rw [pieces, List.filterMap_append, places_emits, he, found]

/-! ### Plain text -/

theorem plainPieces_of_isPlain {c : Char} (h : s.IsPlain c) : s.plainPieces c = [.sign c] := by
  simp [plainPieces, h.1, h.2]

/-- Text without quotes and sigils is a sign for each of its characters. -/
theorem pieces_plain {cs : List Char} (h : ∀ c ∈ cs, s.IsPlain c) :
    s.pieces .plain cs = cs.map .sign := by
  have he : s.emits .plain cs = cs.map .sign := by
    induction cs with
    | nil => rfl
    | cons c cs ih =>
      rw [emits_cons, emit_plain, plainPieces_of_isPlain (h c (by simp)), step_plain,
        plainStep_of_isPlain (h c (by simp)), ih fun d hd => h d (by simp [hd])]
      rfl
  rw [pieces, he, (reads_plain h).after]
  exact List.append_nil _

/-- A break outside quotes completes what is pending. -/
theorem emit_of_isBreak (hq : s.quotes ∈ Quotes.usual) {p : Place} (hk : s.Knows p)
    (ho : p.isOutside = true) {c : Char} (hc : isBreak c = true) :
    s.emit p c = s.ending p ++ [.sign c] := by
  have hp := plainPieces_of_isPlain (isPlain_of_isBreak hq hc)
  have hstep := step_of_isBreak hq hk ho hc
  cases p with
  | plain => exact hp
  | quoted k => cases ho
  | closing k =>
    have hne : c ≠ k := by
      rintro rfl
      simp [step] at hstep
    simp [emit, hne, hp, ending]
  | sigil =>
    have hs : ¬ s.style.starts c = true := fun hs => by simp [step, hs] at hstep
    have hne : c ≠ ':' := by
      rintro rfl
      exact absurd hc (by decide)
    simp [emit, hs, hne, hp, ending]
  | token r =>
    have hs : ¬ s.style.continues c = true := fun hs => by simp [step, hs] at hstep
    simp [emit, hs, hp, ending]

/-- Text without quotes and sigils that begins with a break may follow anything outside quotes. -/
theorem pieces_break (hq : s.quotes ∈ Quotes.usual) {p : Place} (hk : s.Knows p)
    (ho : p.isOutside = true) {cs : List Char} (h : ∀ c ∈ cs, s.IsPlain c)
    (hb : ∃ c ∈ cs.head?, isBreak c = true) : s.pieces p cs = s.ending p ++ cs.map .sign := by
  cases cs with
  | nil => simp at hb
  | cons c cs =>
    have hc : isBreak c = true := by simpa using hb
    have hcs := pieces_plain fun d hd => h d (List.mem_cons_of_mem c hd)
    rw [pieces_cons, emit_of_isBreak hq hk ho hc, step_of_isBreak hq hk ho hc, hcs]
    simp

/-! ### Signs -/

theorem sign_mem_plainPieces {c e : Char} (h : .sign e ∈ s.plainPieces c) :
    e = c ∧ (s.plainStep c).2.isBare = true := by
  unfold plainPieces at h
  unfold plainStep
  cases hc : s.closer? c with
  | some k => simp [hc] at h
  | none =>
    simp only [hc] at h ⊢
    split_ifs at h with hs hq
    · simp at h
    · cases h
    · exact ⟨by simpa using h, by simp [hs]⟩

theorem sign_mem_emit {p : Place} {c e : Char} (h : .sign e ∈ s.emit p c) :
    .sign e ∈ s.ending p ∨ e = c ∧ (s.step p c).2.isBare = true := by
  cases p with
  | plain => exact Or.inr (sign_mem_plainPieces h)
  | quoted k =>
    simp only [emit] at h
    split_ifs at h <;> simp at h
  | closing k =>
    simp only [emit, step] at h ⊢
    split_ifs at h ⊢ with hk
    · simp at h
    · exact Or.inr (sign_mem_plainPieces h)
  | sigil =>
    simp only [emit, step] at h ⊢
    split_ifs at h ⊢ with hs hc
    · cases h
    · rcases List.mem_cons.1 h with h | h
      · exact Or.inl (by simp [ending, h])
      · exact Or.inr ⟨by simpa using h, rfl⟩
    · rcases List.mem_cons.1 h with h | h
      · exact Or.inl (by simp [ending, h])
      · exact Or.inr (sign_mem_plainPieces h)
  | token r =>
    simp only [emit, step] at h ⊢
    split_ifs at h ⊢ with hc
    · cases h
    · rcases List.mem_cons.1 h with h | h
      · cases h
      · exact Or.inr (sign_mem_plainPieces h)

/-- What is pending after a character is that character. -/
theorem sign_mem_ending_step {p : Place} {c e : Char} (h : .sign e ∈ s.ending (s.step p c).2) :
    e = c ∧ (s.step p c).2.isBare = true := by
  have hp : .sign e ∈ s.ending (s.plainStep c).2 → e = c ∧ (s.plainStep c).2.isBare = true := by
    intro h
    unfold plainStep at h ⊢
    cases hc : s.closer? c with
    | some k => simp [hc, ending] at h
    | none =>
      simp only [hc] at h ⊢
      split_ifs at h ⊢ with hs hq
      · cases h
      · exact ⟨by simpa [ending, hs] using h, rfl⟩
      · cases h
  cases p with
  | plain => exact hp h
  | quoted k =>
    simp only [step] at h
    split_ifs at h <;> cases h
  | closing k =>
    simp only [step] at h ⊢
    split_ifs at h ⊢
    · cases h
    · exact hp h
  | sigil =>
    simp only [step] at h ⊢
    split_ifs at h ⊢
    · simp [ending] at h
    · cases h
    · exact hp h
  | token r =>
    simp only [step] at h ⊢
    split_ifs at h ⊢
    · simp [ending] at h
    · exact hp h

/-- **The signs of a text stand outside its quotes.** -/
theorem mem_outside_of_sign {p : Place} {cs : List Char} {e : Char} (h : .sign e ∈ s.pieces p cs) :
    .sign e ∈ s.ending p ∨ e ∈ s.outside p cs := by
  induction cs generalizing p with
  | nil => exact Or.inl (by simpa [pieces] using h)
  | cons c cs ih =>
    rw [pieces_cons, List.mem_append] at h
    have hbare : e = c ∧ (s.step p c).2.isBare = true → e ∈ s.outside p (c :: cs) := by
      rintro ⟨rfl, hb⟩
      simp [outside, hb]
    rcases h with h | h
    · exact (sign_mem_emit h).imp_right hbare
    · rcases ih h with h | h
      · exact Or.inr (hbare (sign_mem_ending_step h))
      · exact Or.inr (List.mem_append_right _ h)

end Scanner

end BoundSql
