import BoundSql.Dialect.Builtin
import BoundSql.Proofs.Phrase.Pieces

/-!
# The neutral form of a text

A text in its neutral form has its names without quotes and its placeholders as bare numbers. The
neutral form of a rendered phrase is the phrase written out like that (`neutral_render`), so it does
not depend on the dialect.
-/

namespace BoundSql

/-! ### Neutral texts -/

/-- The number of a placeholder: the one it bears, or else its position in the text. -/
def PlaceholderStyle.ordinal (s : PlaceholderStyle) (position : Nat) (token : String) : List Char :=
  if s = .question then digits position else token.toList.filter Char.isDigit

namespace Dialect

/-- The neutral form of pieces, with the position of the first placeholder. -/
def neutralFrom (d : Dialect) : Nat → List Piece → List Char
  | _, [] => []
  | i, .sign c :: ps | i, .inner c :: ps => c :: neutralFrom d i ps
  | i, .quote c :: ps =>
    (if c = d.quotes.left ∨ c = d.quotes.right then [] else [c]) ++ neutralFrom d i ps
  | i, .place t :: ps => d.placeholders.ordinal i t ++ neutralFrom d (i + 1) ps

/-- The neutral form of a text: the names without their quotes, and the numbers of the placeholders
in their places. -/
def neutral (d : Dialect) (text : String) : String :=
  String.ofList (d.neutralFrom 1 (d.scanner.pieces .plain text.toList))

variable {d : Dialect}

@[simp] theorem neutralFrom_nil (i : Nat) : d.neutralFrom i [] = [] := rfl

theorem neutralFrom_append (i : Nat) (ps qs : List Piece) : d.neutralFrom i (ps ++ qs) =
    d.neutralFrom i ps ++ d.neutralFrom (i + (ps.filterMap Piece.place?).length) qs := by
  induction ps generalizing i with
  | nil => rfl
  | cons x ps ih =>
    cases x with
    | place t =>
      have hl : ((Piece.place t :: ps).filterMap Piece.place?).length =
          (ps.filterMap Piece.place?).length + 1 := rfl
      rw [List.cons_append, neutralFrom, neutralFrom, ih, hl, List.append_assoc, Nat.add_assoc,
        Nat.add_comm 1]
    | quote c =>
      rw [List.cons_append, neutralFrom, neutralFrom, ih, List.append_assoc]
      rfl
    | sign c | inner c =>
      rw [List.cons_append, neutralFrom, neutralFrom, ih, List.cons_append]
      rfl

theorem neutralFrom_signs (i : Nat) (cs : List Char) : d.neutralFrom i (cs.map .sign) = cs := by
  induction cs with
  | nil => rfl
  | cons c cs ih => rw [List.map_cons, neutralFrom, ih]

end Dialect

/-- The number in a placeholder, whether it is written there or not. -/
theorem PlaceholderStyle.ordinal_render (s : PlaceholderStyle) (i : Nat) :
    s.ordinal i (s.render i) = digits i := by
  have hd : (digits i).filter Char.isDigit = digits i :=
    List.filter_eq_self.2 fun c hc => Nat.isDigit_of_mem_toDigits (by decide) (by decide) hc
  unfold ordinal
  rw [toList_render]
  cases s with
  | question => rfl
  | dollar | colon => simpa [sigil, label] using hd
  | atSign => simpa [sigil, label] using hd

/-! ### Names -/

namespace Quotes

variable (q : Quotes)

/-- The segments of a name make up the name. -/
theorem intercalate_segmentsFrom (p : Place) (cs : List Char) :
    List.intercalate ['.'] (q.segmentsFrom p cs) = cs := by
  induction cs generalizing p with
  | nil => rfl
  | cons c cs ih =>
    have ih := ih (q.step p c)
    obtain ⟨seg, segs, hs⟩ :=
      List.exists_cons_of_ne_nil (q.segmentsFrom_ne_nil (q.step p c) cs)
    rw [hs] at ih
    simp only [segmentsFrom, hs]
    split_ifs with h
    · rw [List.intercalate_cons_cons, ih, h.2]
      rfl
    · rw [List.modifyHead_cons]
      cases segs with
      | nil => simpa using ih
      | cons next segs =>
        rw [List.intercalate_cons_cons] at ih ⊢
        simpa using ih

theorem unwrap?_of_notMem {cs : List Char} (h : q.left ∉ cs) : q.unwrap? cs = none := by
  cases cs with
  | nil => rfl
  | cons c cs =>
    have hc : c ≠ q.left := by
      rintro rfl
      simp at h
    simp [unwrap?, hc]

end Quotes

/-- No usual quote belongs to a name. -/
theorem Name.notMem_left (n : Name) {q : Quotes} (hq : q ∈ Quotes.usual) :
    q.left ∉ n.text.toList := by
  intro h
  have hc := isNameChar_of_mem n.isName_text h
  simp only [Quotes.usual, List.mem_cons, List.not_mem_nil, or_false] at hq
  rcases hq with rfl | rfl | rfl <;> exact absurd hc (by decide)

section Names

open Scanner

variable {d : Dialect}

/-- Doubled text between quotes stands for itself. -/
theorem neutralFrom_double (i : Nat) (content : List Char) :
    d.neutralFrom i (d.scanner.emits (.quoted d.quotes.right) (d.quotes.double content)) =
      content := by
  induction content with
  | nil => rfl
  | cons c cs ih =>
    by_cases h : c = d.quotes.right
    · have h1 : d.scanner.step (.quoted d.quotes.right) c = ([], .closing d.quotes.right) := by
        simp [step, h]
      have h2 : d.scanner.step (.closing d.quotes.right) c = ([], .quoted d.quotes.right) := by
        simp [step, h]
      have hd : d.quotes.double (c :: cs) = c :: c :: d.quotes.double cs := by
        simp [Quotes.double, h]
      rw [hd, emits_cons, emits_cons, h1, h2]
      simp [emit, h, Dialect.neutralFrom, ih]
    · have h1 : d.scanner.step (.quoted d.quotes.right) c = ([], .quoted d.quotes.right) := by
        simp [step, h]
      have hd : d.quotes.double (c :: cs) = c :: d.quotes.double cs := by
        simp [Quotes.double, h]
      rw [hd, emits_cons, h1]
      simp [emit, h, Dialect.neutralFrom, ih]

theorem neutralFrom_wrap (hq : d.quotes ∈ Quotes.usual) (i : Nat) (content : List Char) :
    d.neutralFrom i (d.scanner.emits .plain (d.quotes.wrap content)) = content := by
  have hc : d.scanner.closer? d.quotes.left = some d.quotes.right :=
    closer?_left (s := d.scanner) hq
  have ha : d.scanner.after (.quoted d.quotes.right) (d.quotes.double content) =
      .quoted d.quotes.right := (reads_double (s := d.scanner) content).after
  rw [Quotes.wrap, emits_cons, step_plain, emit_plain]
  simp [plainPieces, plainStep, hc, emits_append, ha, emit, Dialect.neutralFrom,
    Dialect.neutralFrom_append, neutralFrom_double]

theorem neutralFrom_quoteSegment (hq : d.quotes ∈ Quotes.usual) (i : Nat) {seg : List Char}
    (h : d.quotes.left ∉ seg) :
    d.neutralFrom i (d.scanner.emits .plain (d.quotes.quoteSegment seg)) = seg := by
  unfold Quotes.quoteSegment
  rw [d.quotes.unwrap?_of_notMem h]
  split_ifs with hs
  · have hs : seg = ['*'] := by simpa using hs
    subst hs
    have hp : d.scanner.IsPlain '*' := isPlain_of_notMem (s := d.scanner) hq (by decide)
    simp [plainPieces_of_isPlain hp, Dialect.neutralFrom]
  · exact neutralFrom_wrap hq i seg

theorem neutralFrom_segments (hq : d.quotes ∈ Quotes.usual) (i : Nat) {segs : List (List Char)}
    (h : ∀ seg ∈ segs, d.quotes.left ∉ seg) :
    d.neutralFrom i (d.scanner.pieces .plain
      (List.intercalate ['.'] (segs.map d.quotes.quoteSegment))) = List.intercalate ['.'] segs := by
  induction segs with
  | nil => rfl
  | cons seg segs ih =>
    obtain ⟨p, hr, hp⟩ := reads_quoteSegment (s := d.scanner) hq seg
    have ha : d.scanner.after .plain (d.quotes.quoteSegment seg) = p := hr.after
    have hend : d.scanner.ending p = [] := by rcases hp with rfl | rfl <;> rfl
    have hseg := neutralFrom_quoteSegment hq i (h seg (by simp))
    cases segs with
    | nil => simpa [Scanner.pieces, ha, hend] using hseg
    | cons next segs =>
      have ih := ih fun s hs => h s (List.mem_cons_of_mem seg hs)
      have hdot : isBreak '.' = true := by decide
      have hs := step_of_isBreak (s := d.scanner) hq hp.knows hp.isOutside hdot
      have he := emit_of_isBreak (s := d.scanner) hq hp.knows hp.isOutside hdot
      -- A segment holds no placeholder, so the next one is numbered alike.
      have hno : (d.scanner.emits .plain (d.quotes.quoteSegment seg)).filterMap Piece.place? = [] :=
        (d.scanner.places_emits _ _).trans hr.scan
      rw [List.map_cons, List.map_cons, List.intercalate_cons_cons, List.intercalate_cons_cons,
        ← List.map_cons, List.append_assoc, pieces_append, Dialect.neutralFrom_append, hseg, hno,
        ha, List.singleton_append, pieces_cons, hs, he, hend]
      simpa [Dialect.neutralFrom] using ih

/-- **A quoted name stands for the name.** -/
theorem neutralFrom_name (hq : d.quotes ∈ Quotes.usual) (i : Nat) (n : Name) :
    d.neutralFrom i (d.scanner.pieces .plain (d.quotes.quoteChars n.text.toList)) =
      n.text.toList := by
  unfold Quotes.quoteChars
  split_ifs with h
  · have h : n.text.toList = ['*'] := h.resolve_right n.notMem_paren
    have hp : ∀ c ∈ ['*'], d.scanner.IsPlain c := fun c hc =>
      isPlain_of_notMem (s := d.scanner) hq (by rw [List.mem_singleton.1 hc]; decide)
    rw [h, pieces_plain hp, Dialect.neutralFrom_signs]
  · refine (neutralFrom_segments hq i fun seg hs hl => ?_).trans
      (d.quotes.intercalate_segmentsFrom _ _)
    exact n.notMem_left hq (d.quotes.mem_segmentsFrom hs hl)

end Names

/-! ### Phrases -/

variable {d : Dialect}

/-- The neutral form of a token, which is the same in all dialects. -/
def Token.neutral (i : Nat) : Token → List Char
  | .text s => s.toList
  | .name n => n.text.toList
  | .fragment f => f.text.toList
  | .value _ => digits i

theorem Token.neutralFrom_pieces (hq : d.quotes ∈ Quotes.usual) (i : Nat) (t : Token) :
    d.neutralFrom i (t.pieces d i) = t.neutral i := by
  cases t with
  | text s => exact Dialect.neutralFrom_signs i s.toList
  | fragment f => exact Dialect.neutralFrom_signs i f.text.toList
  | name n => exact neutralFrom_name hq i n
  | value v =>
    rw [pieces, Dialect.neutralFrom, PlaceholderStyle.ordinal_render]
    exact List.append_nil _

namespace Phrase

/-- The neutral form of a phrase whose first value has the number `i`. -/
def neutralFrom : Nat → Phrase → List Char
  | _, [] => []
  | i, t :: p => t.neutral i ++ neutralFrom (i + t.values.length) p

/-- The neutral form of a phrase. -/
def neutral (p : Phrase) : String := String.ofList (p.neutralFrom 1)

theorem neutralFrom_pieces (hq : d.quotes ∈ Quotes.usual) (i : Nat) (p : Phrase) :
    d.neutralFrom i (p.pieces d i) = p.neutralFrom i := by
  induction p generalizing i with
  | nil => rfl
  | cons t p ih =>
    rw [pieces, Dialect.neutralFrom_append, t.neutralFrom_pieces hq, t.length_places_pieces hq, ih,
      neutralFrom]

/-- **The neutral form of a text is that of its phrase**, whatever the dialect. -/
theorem neutral_render (hq : d.quotes ∈ Quotes.usual) {p : Phrase} (hn : Neat p) :
    d.neutral (p.render d 1) = p.neutral := by
  rw [Dialect.neutral, pieces_render hq hn, neutralFrom_pieces hq, neutral]

example : Dialect.sqlServer.neutral "UPDATE [shop].[it]]ems] SET [n] = @p10, [?] = 'x'" =
    "UPDATE shop.it]ems SET n = 10, ? = 'x'" := by
  decide +kernel

end Phrase

end BoundSql
