import BoundSql.Proofs.Fragment.Text
import BoundSql.Proofs.Name.Reading
import BoundSql.Proofs.Phrase.Tidy

/-!
# Reading a rendered phrase

A scanner finds in the text of a neat phrase the placeholders of its values, in order and nothing
else, it ends outside quotes, and the parentheses it sees outside quotes are those of the words
(`holds_renderFrom`). The step is one token (`holds_chars`); `Holds.append` puts steps together.
-/

namespace BoundSql

/-! ### Rendering token by token -/

namespace Token

/-- The value of a token, if it is one. -/
def values : Token → List Value
  | .value v => [v]
  | _ => []

/-- The text of a token; a value has the placeholder with number `i`. -/
def chars (d : Dialect) (i : Nat) : Token → List Char
  | .text s => s.toList
  | .name n => d.quotes.quoteChars n.text.toList
  | .fragment f => f.text.toList
  | .value _ => d.placeholders.chars i

end Token

namespace Phrase

theorem values_cons (t : Token) (p : Phrase) : values (t :: p) = t.values ++ values p := by
  cases t <;> rfl

/-- The rest of a phrase is numbered on from the values of its first token. -/
theorem renderFrom_cons (d : Dialect) (i : Nat) (t : Token) (p : Phrase) :
    renderFrom d i (t :: p) = t.chars d i ++ renderFrom d (i + t.values.length) p := by
  cases t <;> rfl

end Phrase

/-! ### Reading token by token -/

namespace Scanner

variable {s : Scanner}

/-- Reading the text from a place on completes what is pending there and then finds the given
placeholders, ends outside quotes, and takes the depth of parentheses outside quotes from `k` to
`depth k`. -/
structure Holds (s : Scanner) (p : Place) (cs : List Char) (ts : List String)
    (depth : Nat → Option Nat) : Prop where
  found : s.found p cs = p.pending ++ ts
  isOutside : (s.after p cs).isOutside = true
  depth : ∀ k, (s.outside p cs).foldlM parenStep k = depth k

theorem Holds.append {p : Place} {cs ds : List Char} {ts us : List String}
    {f g : Nat → Option Nat} (h : s.Holds p cs ts f) (h' : s.Holds (s.after p cs) ds us g) :
    s.Holds p (cs ++ ds) (ts ++ us) (fun k => (f k).bind g) where
  found := by
    have h1 := h.found
    have h2 := h'.found
    unfold BoundSql.Scanner.found at h1 h2 ⊢
    rw [scan_append, after_append, List.append_assoc, h2, ← List.append_assoc, h1,
      List.append_assoc]
  isOutside := by rw [after_append, h'.isOutside]
  depth k := by
    rw [outside_append, List.foldlM_append, h.depth]
    exact congrArg _ (funext h'.depth)

theorem Reads.holds {p q : Place} {cs bs : List Char} {found ts : List String}
    {depth : Nat → Option Nat} (h : s.Reads p cs found bs q)
    (hts : found ++ q.pending = p.pending ++ ts) (hq : q.isOutside = true)
    (hd : ∀ k, bs.foldlM parenStep k = depth k) : s.Holds p cs ts depth where
  found := h.found.trans hts
  isOutside := by rw [h.after, hq]
  depth k := by rw [h.outside, hd]

/-! ### Placeholders -/

/-- What follows the first of the letters of a numbered placeholder belongs to it. -/
theorem reads_token {cs : List Char} (h : ∀ c ∈ cs, s.style.continues c = true)
    (read : List Char) : s.Reads (.token read) cs [] cs (.token (cs.reverse ++ read)) := by
  induction cs generalizing read with
  | nil => exact .nil _
  | cons c cs ih =>
    have hc : s.step (.token read) c = ([], .token (c :: read)) := by
      simp [step, h c (by simp)]
    simpa using Reads.cons hc (ih (fun d hd => h d (by simp [hd])) (c :: read))

/-- A sigil, a letter that makes a placeholder of it, and letters that continue it. -/
theorem reads_numbered (hq : s.closer? s.style.sigil = none) (hs : s.style ≠ .question) {c : Char}
    {cs : List Char} (hc : s.style.starts c = true)
    (hcs : ∀ c ∈ cs, s.style.continues c = true) :
    s.Reads .plain (s.style.sigil :: c :: cs) [] (s.style.sigil :: c :: cs)
      (.token (s.style.sigil :: c :: cs).reverse) := by
  have h1 : s.step .plain s.style.sigil = ([], .sigil) := by simp [plainStep, hq, hs]
  have h2 : s.step .sigil c = ([], .token [c, s.style.sigil]) := by simp [step, hc]
  simpa using Reads.cons h1 (.cons h2 (reads_token hcs [c, s.style.sigil]))

theorem closer?_sigil (hq : s.quotes ∈ Quotes.usual) : s.closer? s.style.sigil = none := by
  obtain ⟨style, quotes⟩ := s
  simp only [Quotes.usual, List.mem_cons, List.not_mem_nil, or_false] at hq
  rcases hq with rfl | rfl | rfl <;> cases style <;> rfl

/-- After the sigil of a numbered placeholder comes a letter that makes it one. -/
theorem exists_label {style : PlaceholderStyle} (hs : style ≠ .question) (i : Nat) :
    ∃ c cs, style.label i = c :: cs ∧ style.starts c = true ∧
      ∀ d ∈ cs, style.continues d = true := by
  obtain ⟨c, cs, hcs⟩ := List.exists_cons_of_ne_nil (Nat.toDigits_ne_nil (n := i) (b := 10))
  have hd : ∀ d ∈ c :: cs, d.isDigit = true := by
    intro d hd
    rw [← hcs] at hd
    exact Nat.isDigit_of_mem_toDigits (by decide) (by decide) hd
  have hcs : digits i = c :: cs := hcs
  cases style with
  | question => exact absurd rfl hs
  | dollar => exact ⟨c, cs, hcs, hd c (by simp), fun d h => hd d (by simp [h])⟩
  | atSign =>
    refine ⟨'p', c :: cs, by simp [PlaceholderStyle.label, hcs], rfl, fun d h => ?_⟩
    simp [PlaceholderStyle.continues, Char.isAlphanum, hd d h]
  | colon =>
    refine ⟨c, cs, hcs, ?_, fun d h => ?_⟩
    · simp [PlaceholderStyle.starts, Char.isAlphanum, hd c (by simp)]
    · simp [PlaceholderStyle.continues, Char.isAlphanum, hd d (by simp [h])]

/-- The placeholder with a number is read as that placeholder. -/
theorem reads_placeholder (hq : s.quotes ∈ Quotes.usual) (i : Nat) :
    ∃ found q, s.Reads .plain (s.style.chars i) found (s.style.chars i) q ∧
      found ++ q.pending = [s.style.render i] ∧ q.isOutside = true := by
  have hsigil := closer?_sigil hq
  by_cases hs : s.style = .question
  · have h : s.step .plain s.style.sigil = ([s.style.render i], .plain) := by
      rw [hs] at hsigil
      simp [plainStep, hsigil, hs, PlaceholderStyle.render, PlaceholderStyle.chars,
        PlaceholderStyle.label]
    refine ⟨_, .plain, ?_, List.append_nil _, rfl⟩
    simpa [hs, PlaceholderStyle.chars, PlaceholderStyle.label] using Reads.single h
  · obtain ⟨c, cs, hl, hc, hcs⟩ := exists_label hs i
    have h := reads_numbered hsigil hs hc hcs
    rw [← hl] at h
    exact ⟨_, _, h, by simp [Place.pending, PlaceholderStyle.render, PlaceholderStyle.chars], rfl⟩

/-! ### Tokens -/

/-- The characters of a placeholder. -/
theorem mem_placeholder {style : PlaceholderStyle} {i : Nat} {c : Char} (h : c ∈ style.chars i) :
    c ∈ ['?', '$', '@', ':', 'p'] ∨ c.isDigit = true := by
  have hd : ∀ d ∈ digits i, d.isDigit = true := fun d hd =>
    Nat.isDigit_of_mem_toDigits (by decide) (by decide) hd
  rcases List.mem_cons.1 h with rfl | h
  · cases style <;> exact Or.inl (by decide)
  · cases style with
    | question => cases h
    | dollar | colon => exact Or.inr (hd c h)
    | atSign =>
      rcases List.mem_cons.1 h with rfl | h
      · exact Or.inl (by decide)
      · exact Or.inr (hd c h)

theorem notMem_placeholder {c : Char} (h : c ∉ ['?', '$', '@', ':', 'p'])
    (hd : c.isDigit = false) (style : PlaceholderStyle) (i : Nat) : c ∉ style.chars i := by
  intro hc
  rcases mem_placeholder hc with hc | hc
  · exact h hc
  · rw [hd] at hc
    cases hc

theorem isPlain_of_notMem_forbiddenChars (hq : s.quotes ∈ Quotes.usual) {c : Char}
    (h : c ∉ forbiddenChars) : s.IsPlain c := by
  have hall : sigils ⊆ forbiddenChars := by simp [sigils, forbiddenChars]
  exact isPlain_of_notMem hq fun hc => h (hall hc)

variable {d : Dialect}

theorem isPlain_of_isCleanText (hq : s.quotes ∈ Quotes.usual) {t : String}
    (ht : isCleanText t = true) {c : Char} (hc : c ∈ t.toList) : s.IsPlain c :=
  isPlain_of_notMem_forbiddenChars hq (notMem_of_isCleanText ht hc)

/-- Words may follow whatever comes before them if they begin with a break. -/
theorem reads_text (hq : s.quotes ∈ Quotes.usual) {p : Place} (hk : s.Knows p)
    (ho : p.isOutside = true) {t : String} (ht : isCleanText t = true)
    (hs : p = .plain ∨ (Token.text t).startsSafe = true) :
    s.Reads p t.toList p.pending t.toList .plain := by
  have hp : ∀ c ∈ t.toList, s.IsPlain c := fun c => isPlain_of_isCleanText hq ht
  rcases hs with rfl | hs
  · exact reads_plain hp
  · refine reads_break hq hk ho hp ?_
    simpa [Token.startsSafe, Option.any_eq_true] using hs

/-- **Reading one token.** It may follow what is outside quotes, if it begins with a break or
stands after plain text, and what ends with a break leads back to plain text. -/
theorem holds_chars (hq : d.quotes ∈ Quotes.usual) {p : Place} (hk : d.scanner.Knows p)
    (ho : p.isOutside = true) {t : Token} (ht : t.isClean = true)
    (hs : p = .plain ∨ t.startsSafe = true) (i : Nat) :
    d.scanner.Holds p (t.chars d i)
        ((List.range' i t.values.length).map d.placeholders.render) (t.depth? ·) ∧
      (t.endsSafe = true → d.scanner.after p (t.chars d i) = .plain) := by
  cases t with
  | text t =>
    have h := reads_text (s := d.scanner) hq hk ho ht hs
    exact ⟨h.holds rfl rfl fun _ => rfl, fun _ => h.after⟩
  | name n =>
    obtain rfl : p = .plain := by simpa [Token.startsSafe] using hs
    obtain ⟨bs, q, hr, hq', hbs⟩ := reads_quoteChars (s := d.scanner) hq n.notMem_paren
    refine ⟨hr.holds hq'.pending hq'.isOutside ?_, fun h => by cases h⟩
    refine foldlM_parenStep_of_notMem fun c hc => ?_
    rcases hbs c hc with rfl | rfl <;> decide
  | fragment f =>
    obtain rfl : p = .plain := by simpa [Token.startsSafe] using hs
    have hf : ∀ c ∈ f.text.toList, d.scanner.IsPlain c := fun c hc =>
      isPlain_of_notMem_forbiddenChars hq (f.notMem_forbiddenChars hc)
    exact ⟨(reads_plain hf).holds rfl rfl f.foldlM_parenStep, fun h => by cases h⟩
  | value v =>
    obtain rfl : p = .plain := by simpa [Token.startsSafe] using hs
    obtain ⟨found, q, hr, hf, hq'⟩ := reads_placeholder (s := d.scanner) hq i
    refine ⟨hr.holds hf hq' ?_, fun h => by cases h⟩
    have h1 := notMem_placeholder (c := '(') (by decide) (by decide) d.placeholders i
    have h2 := notMem_placeholder (c := ')') (by decide) (by decide) d.placeholders i
    exact foldlM_parenStep_of_notMem fun c hc =>
      ⟨fun h => h1 (h ▸ hc), fun h => h2 (h ▸ hc)⟩

/-! ### Phrases -/

open Phrase

/-- **Reading a phrase.** The placeholders in its text are those of its values, in order. -/
theorem holds_renderFrom (hq : d.quotes ∈ Quotes.usual) {q : Phrase} (hn : Neat q) {p : Place}
    (hk : d.scanner.Knows p) (ho : p.isOutside = true) (hs : p = .plain ∨ StartsSafe q) (i : Nat) :
    d.scanner.Holds p (renderFrom d i q)
      ((List.range' i (values q).length).map d.placeholders.render) (depth? · q) := by
  -- The place before the phrase varies: each token leads to the place before the rest.
  induction q generalizing p i with
  | nil => exact (Reads.nil p).holds (by simp) ho fun _ => rfl
  | cons t q ih =>
    obtain ⟨ht, hj, hn⟩ := (neat_cons t q).1 hn
    rw [startsSafe_cons] at hs
    obtain ⟨h1, hplain⟩ := holds_chars hq hk ho ht hs i
    have h2 := ih hn (knows_after hk _) h1.isOutside (hj.imp_left hplain) (i + t.values.length)
    rw [renderFrom_cons, values_cons, List.length_append, ← List.range'_append_1, List.map_append]
    exact h1.append h2

end Scanner

end BoundSql
