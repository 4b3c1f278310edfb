import BoundSql.Proofs.Phrase.Reading

/-!
# What no rendered phrase holds

The text of a neat phrase holds no character that opens a literal or a comment or ends a statement
(`notMem_renderFrom`), and no pair of neighbours that opens or closes a comment
(`hasPair_renderFrom`). Names and placeholders consist of harmless characters; words and fragments
are free of such pairs, and at every joint there is a break, which belongs to no pair.
-/

namespace BoundSql

variable {d : Dialect}

/-! ### Names and placeholders -/

/-- The characters of quoted names and placeholders. -/
def isHarmless (c : Char) : Bool :=
  isNameChar c || ['"', '\x60', '[', ']', '?', '$', '@', ':'].contains c

theorem isHarmless_of_mem_name (hq : d.quotes ∈ Quotes.usual) (n : Name) {c : Char}
    (h : c ∈ d.quotes.quoteChars n.text.toList) : isHarmless c = true := by
  have hquote : isHarmless d.quotes.left = true ∧ isHarmless d.quotes.right = true := by
    have hall : ∀ q ∈ Quotes.usual, isHarmless q.left = true ∧ isHarmless q.right = true := by
      decide
    exact hall _ hq
  rcases Quotes.mem_quoteChars _ h with h | rfl | rfl | rfl
  · simp [isHarmless, isNameChar_of_mem n.isName_text h]
  · decide
  · exact hquote.1
  · exact hquote.2

theorem isHarmless_of_mem_placeholder {style : PlaceholderStyle} {i : Nat} {c : Char}
    (h : c ∈ style.chars i) : isHarmless c = true := by
  rcases Scanner.mem_placeholder h with h | h
  · have hall : ['?', '$', '@', ':', 'p'].all isHarmless = true := by decide
    exact List.all_eq_true.1 hall c h
  · simp [isHarmless, isNameChar, Char.isAlphanum, h]

/-! ### Characters -/

/-- The characters that open a literal or a comment or end a statement. -/
def dangerousChars : List Char := ['#', '\x00', '\'', ';']

theorem Token.notMem_chars (hq : d.quotes ∈ Quotes.usual) {t : Token} (ht : t.isClean = true)
    {i : Nat} {c : Char} (h : c ∈ t.chars d i) : c ∉ dangerousChars := by
  have hforbidden : dangerousChars ⊆ forbiddenChars := by simp [dangerousChars, forbiddenChars]
  have hharmless : dangerousChars.all (fun e => !isHarmless e) = true := by decide
  intro hc
  have hno : isHarmless c ≠ true := by simpa using List.all_eq_true.1 hharmless c hc
  cases t with
  | text s => exact notMem_of_isCleanText ht h (hforbidden hc)
  | name n => exact hno (isHarmless_of_mem_name hq n h)
  | fragment f => exact f.notMem_forbiddenChars h (hforbidden hc)
  | value v => exact hno (isHarmless_of_mem_placeholder h)

namespace Phrase

theorem notMem_renderFrom (hq : d.quotes ∈ Quotes.usual) {p : Phrase} (hn : Neat p) {i : Nat}
    {c : Char} (h : c ∈ renderFrom d i p) : c ∉ dangerousChars := by
  induction p generalizing i with
  | nil => cases h
  | cons t p ih =>
    obtain ⟨ht, -, hn⟩ := (neat_cons t p).1 hn
    rw [renderFrom_cons, List.mem_append] at h
    rcases h with h | h
    · exact Token.notMem_chars hq ht h
    · exact ih hn h

end Phrase

/-! ### Pairs -/

/-- Every forbidden pair has a character that is not harmless. -/
theorem hasPair_of_isHarmless {x : Char × Char} (hx : x ∈ forbiddenPairs) {cs : List Char}
    (h : ∀ c ∈ cs, isHarmless c = true) : hasPair x cs = false := by
  have hall : ∀ y ∈ forbiddenPairs, isHarmless y.1 = false ∨ isHarmless y.2 = false := by decide
  rw [← Bool.not_eq_true]
  intro hp
  obtain ⟨h1, h2⟩ := mem_of_hasPair hp
  rcases hall x hx with hn | hn
  · rw [h _ h1] at hn
    cases hn
  · rw [h _ h2] at hn
    cases hn

theorem Token.hasPair_chars (hq : d.quotes ∈ Quotes.usual) {t : Token} (ht : t.isClean = true)
    {x : Char × Char} (hx : x ∈ forbiddenPairs) (i : Nat) : hasPair x (t.chars d i) = false := by
  cases t with
  | text s => exact hasPair_of_isCleanText ht hx
  | name n => exact hasPair_of_isHarmless hx fun _ => isHarmless_of_mem_name hq n
  | fragment f => exact f.hasPair_eq_false hx
  | value v => exact hasPair_of_isHarmless hx fun _ => isHarmless_of_mem_placeholder

/-- No break belongs to a forbidden pair. -/
theorem isBreak_of_mem_forbiddenPairs :
    ∀ x ∈ forbiddenPairs, isBreak x.1 = false ∧ isBreak x.2 = false := by
  decide

/-- A break on one side of a joint keeps a pair from standing across it. -/
theorem hasPair_joint {x : Char × Char} (hx : x ∈ forbiddenPairs) {cs ds : List Char}
    (hc : hasPair x cs = false) (hd : hasPair x ds = false)
    (h : (∀ c ∈ cs.getLast?, isBreak c = true) ∨ ∃ c ∈ ds.head?, isBreak c = true) :
    hasPair x (cs ++ ds) = false := by
  obtain ⟨h1, h2⟩ := isBreak_of_mem_forbiddenPairs x hx
  rw [← Bool.not_eq_true, hasPair_append, hc, hd]
  rintro (hf | hf | ⟨hl, hh⟩)
  · cases hf
  · cases hf
  · rcases h with h | ⟨c, hcd, h⟩
    · rw [h _ hl] at h1
      cases h1
    · rw [hh] at hcd
      cases hcd
      rw [h] at h2
      cases h2

namespace Phrase

/-- **No pair that opens or closes a comment stands in a rendered phrase**, nor across the joint
with a text before it. -/
theorem hasPair_renderFrom (hq : d.quotes ∈ Quotes.usual) {x : Char × Char}
    (hx : x ∈ forbiddenPairs) {p : Phrase} (hn : Neat p) {front : List Char}
    (hf : hasPair x front = false)
    (hs : (∀ c ∈ front.getLast?, isBreak c = true) ∨ StartsSafe p) (i : Nat) :
    hasPair x (front ++ renderFrom d i p) = false := by
  -- The text before the phrase grows by one token at a time.
  induction p generalizing front i with
  | nil => simpa using hf
  | cons t p ih =>
    obtain ⟨ht, hj, hn⟩ := (neat_cons t p).1 hn
    rw [startsSafe_cons] at hs
    have hhead : t.startsSafe = true → ∃ c ∈ (t.chars d i).head?, isBreak c = true := by
      intro h
      cases t with
      | text s => simpa [Token.startsSafe, Token.chars, Option.any_eq_true] using h
      | _ => cases h
    have hfront : hasPair x (front ++ t.chars d i) = false :=
      hasPair_joint hx hf (Token.hasPair_chars hq ht hx i) (hs.imp_right hhead)
    rw [renderFrom_cons, ← List.append_assoc]
    refine ih hn hfront (hj.imp_left fun he => ?_) _
    cases t with
    | text s =>
      have he : ∀ c ∈ s.toList.getLast?, isBreak c = true := by
        simpa [Token.endsSafe, Option.all_eq_true] using he
      intro c hc
      change c ∈ (front ++ s.toList).getLast? at hc
      cases hs' : s.toList with
      | nil =>
        -- Empty words leave the joint where it was, behind what stands before them.
        have hno : (Token.text s).startsSafe = false := by simp [Token.startsSafe, hs']
        rw [hno] at hs
        rw [hs', List.append_nil] at hc
        exact hs.resolve_right (by simp) c hc
      | cons e es =>
        rw [List.getLast?_append_of_ne_nil _ (by simp [hs'])] at hc
        exact he c hc
    | _ => cases he

end Phrase

end BoundSql
