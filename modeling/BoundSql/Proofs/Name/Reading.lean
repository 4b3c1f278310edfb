import BoundSql.Proofs.Placeholder.Reading
import BoundSql.Name

/-!
# Reading quoted names

A scanner that knows the quotes of a name reads the quoted name without finding a placeholder, and
only dots and stars of it stand outside quotes (`reads_quoteChars`). This holds of every text that
is quoted as a name, whatever its characters, as long as it has no opening parenthesis.
-/

namespace BoundSql

namespace Quotes

variable (q : Quotes)

/-- A text with a content is that content in quotes. -/
theorem eq_of_content? {cs content : List Char} (h : q.content? cs = some content) :
    cs = q.double content ++ [q.right] := by
  fun_induction q.content? cs generalizing content with
  | case1 => cases h
  | case2 => cases h; rfl
  | case3 => cases h
  | case4 cs ih =>
    obtain ⟨r, hr, rfl⟩ := Option.map_eq_some_iff.1 h
    rw [ih hr]
    simp [double]
  | case5 => cases h
  | case6 c d cs hc ih =>
    obtain ⟨r, hr, rfl⟩ := Option.map_eq_some_iff.1 h
    rw [ih hr]
    simp [double, hc]

theorem eq_wrap_of_unwrap? {cs content : List Char} (h : q.unwrap? cs = some content) :
    cs = q.wrap content := by
  cases cs with
  | nil => cases h
  | cons c cs =>
    simp only [unwrap?] at h
    split_ifs at h with hc
    rw [hc, q.eq_of_content? h, wrap]

/-- A quoted segment is a star or some content in quotes. -/
theorem quoteSegment_cases (seg : List Char) :
    q.quoteSegment seg = ['*'] ∨ ∃ content, q.quoteSegment seg = q.wrap content := by
  unfold quoteSegment
  split_ifs with h
  · rcases h with rfl | h
    · exact Or.inl rfl
    · obtain ⟨content, hc⟩ := Option.isSome_iff_exists.1 h
      exact Or.inr ⟨content, q.eq_wrap_of_unwrap? hc⟩
  · exact Or.inr ⟨seg, rfl⟩

/-- A segment other than a star is quoted as some content in quotes. -/
theorem exists_quoteSegment_eq {seg : List Char} (hs : seg ≠ ['*']) :
    ∃ content, q.quoteSegment seg = q.wrap content := by
  rcases q.quoteSegment_cases seg with h | h
  · unfold quoteSegment at h
    split_ifs at h
    · exact absurd h hs
    · simp [wrap] at h
  · exact h

/-- What stands outside quotes when a segment is quoted. -/
def bareSegment (seg : List Char) : List Char := if seg = ['*'] then seg else []

theorem eq_of_mem_bareSegment {seg : List Char} {c : Char} (h : c ∈ bareSegment seg) :
    seg = ['*'] ∧ c = '*' := by
  unfold bareSegment at h
  split_ifs at h with hs
  · rw [hs] at h
    exact ⟨hs, List.mem_singleton.1 h⟩
  · cases h

/-! ### Characters -/

theorem mem_segmentsFrom {p : Place} {cs seg : List Char} (hs : seg ∈ q.segmentsFrom p cs)
    {c : Char} (hc : c ∈ seg) : c ∈ cs := by
  induction cs generalizing p seg with
  | nil =>
    rw [List.mem_singleton.1 hs] at hc
    exact hc
  | cons d cs ih =>
    simp only [segmentsFrom] at hs
    split_ifs at hs
    · rcases List.mem_cons.1 hs with rfl | hs
      · cases hc
      · exact List.mem_cons_of_mem d (ih hs hc)
    · obtain ⟨r, rs, hr⟩ := List.exists_cons_of_ne_nil (q.segmentsFrom_ne_nil (q.step p d) cs)
      rw [hr, List.modifyHead_cons] at hs
      rcases List.mem_cons.1 hs with rfl | hs
      · rcases List.mem_cons.1 hc with rfl | hc
        · simp
        · exact List.mem_cons_of_mem d (ih (by rw [hr]; simp) hc)
      · exact List.mem_cons_of_mem d (ih (by rw [hr]; simp [hs]) hc)

theorem mem_quoteSegment {seg : List Char} {c : Char} (h : c ∈ q.quoteSegment seg) :
    c ∈ seg ∨ c = q.left ∨ c = q.right := by
  unfold quoteSegment at h
  split_ifs at h
  · exact Or.inl h
  · rw [wrap, List.mem_cons, List.mem_append, List.mem_singleton] at h
    rcases h with h | h | h
    · exact Or.inr (Or.inl h)
    · obtain ⟨d, hd, hc⟩ := List.mem_flatMap.1 h
      have hcd : c = d := by split_ifs at hc <;> simpa using hc
      exact Or.inl (hcd ▸ hd)
    · exact Or.inr (Or.inr h)

theorem mem_intercalate {sep : List Char} {parts : List (List Char)} {c : Char}
    (h : c ∈ List.intercalate sep parts) : c ∈ sep ∨ ∃ part ∈ parts, c ∈ part := by
  induction parts with
  | nil => simp at h
  | cons part parts ih =>
    cases parts with
    | nil =>
      rw [List.intercalate_singleton] at h
      exact Or.inr ⟨part, by simp, h⟩
    | cons next parts =>
      rw [List.intercalate_cons_cons, List.mem_append, List.mem_append] at h
      rcases h with (h | h) | h
      · exact Or.inr ⟨part, by simp, h⟩
      · exact Or.inl h
      · rcases ih h with h | ⟨other, ho, hc⟩
        · exact Or.inl h
        · exact Or.inr ⟨other, by simp [ho], hc⟩

/-- Quoting adds nothing but quotes and dots. -/
theorem mem_quoteChars {cs : List Char} {c : Char} (h : c ∈ q.quoteChars cs) :
    c ∈ cs ∨ c = '.' ∨ c = q.left ∨ c = q.right := by
  unfold quoteChars at h
  split_ifs at h
  · exact Or.inl h
  · rcases mem_intercalate h with h | ⟨part, hp, hc⟩
    · exact Or.inr (Or.inl (List.mem_singleton.1 h))
    · obtain ⟨seg, hs, rfl⟩ := List.mem_map.1 hp
      rcases q.mem_quoteSegment hc with h | h
      · exact Or.inl (q.mem_segmentsFrom hs h)
      · exact Or.inr (Or.inr h)

end Quotes

theorem Name.notMem_paren (n : Name) : '(' ∉ n.text.toList := fun h =>
  absurd (isNameChar_of_mem n.isName_text h) (by decide)

namespace Scanner

variable {s : Scanner}

/-- A place where a quoted name may end: plain text, or just past its closing quote. -/
def IsNameEnd (s : Scanner) (p : Place) : Prop := p = .plain ∨ p = .closing s.quotes.right

theorem IsNameEnd.isOutside {p : Place} (h : s.IsNameEnd p) : p.isOutside = true := by
  rcases h with rfl | rfl <;> rfl

theorem IsNameEnd.pending {p : Place} (h : s.IsNameEnd p) : p.pending = [] := by
  rcases h with rfl | rfl <;> rfl

theorem IsNameEnd.knows {p : Place} (h : s.IsNameEnd p) : s.Knows p := by
  rcases h with rfl | rfl
  · trivial
  · simp [Knows, closers]

/-- What is doubled stays inside the quotes. -/
theorem reads_double (content : List Char) :
    s.Reads (.quoted s.quotes.right) (s.quotes.double content) [] []
      (.quoted s.quotes.right) := by
  induction content with
  | nil => exact .nil _
  | cons c cs ih =>
    by_cases h : c = s.quotes.right
    · have h1 : s.step (.quoted s.quotes.right) c = ([], .closing s.quotes.right) := by
        simp [step, h]
      have h2 : s.step (.closing s.quotes.right) c = ([], .quoted s.quotes.right) := by
        simp [step, h]
      simpa [Quotes.double, h] using Reads.cons h1 (.cons h2 ih)
    · have h1 : s.step (.quoted s.quotes.right) c = ([], .quoted s.quotes.right) := by
        simp [step, h]
      simpa [Quotes.double, h] using Reads.cons h1 ih

theorem closer?_left (hq : s.quotes ∈ Quotes.usual) :
    s.closer? s.quotes.left = some s.quotes.right := by
  obtain ⟨style, quotes⟩ := s
  simp only [Quotes.usual, List.mem_cons, List.not_mem_nil, or_false] at hq
  rcases hq with rfl | rfl | rfl <;> rfl

theorem reads_wrap (hq : s.quotes ∈ Quotes.usual) (content : List Char) :
    s.Reads .plain (s.quotes.wrap content) [] [] (.closing s.quotes.right) := by
  have h1 : s.step .plain s.quotes.left = ([], .quoted s.quotes.right) := by
    simp [plainStep, closer?_left hq]
  have h2 : s.step (.quoted s.quotes.right) s.quotes.right = ([], .closing s.quotes.right) := by
    simp [step]
  exact .cons h1 ((reads_double content).append (.single h2))

/-- Outside quotes a quoted segment has nothing, unless it is a star. -/
theorem reads_quoteSegment (hq : s.quotes ∈ Quotes.usual) (seg : List Char) :
    ∃ p, s.Reads .plain (s.quotes.quoteSegment seg) [] (Quotes.bareSegment seg) p ∧
      s.IsNameEnd p := by
  by_cases hs : seg = ['*']
  · have hplain : ∀ c ∈ ['*'], s.IsPlain c := fun c hc => by
      rw [List.mem_singleton.1 hc]
      exact isPlain_of_notMem hq (by decide)
    have hseg : s.quotes.quoteSegment seg = ['*'] := (if_pos (Or.inl hs)).trans hs
    have hbare : Quotes.bareSegment seg = ['*'] := (if_pos hs).trans hs
    rw [hseg, hbare]
    exact ⟨.plain, reads_plain hplain, Or.inl rfl⟩
  · obtain ⟨content, hc⟩ := s.quotes.exists_quoteSegment_eq hs
    have hbare : Quotes.bareSegment seg = [] := if_neg hs
    rw [hc, hbare]
    exact ⟨_, reads_wrap hq content, Or.inr rfl⟩

theorem reads_segments (hq : s.quotes ∈ Quotes.usual) (segs : List (List Char)) :
    ∃ p, s.Reads .plain (List.intercalate ['.'] (segs.map s.quotes.quoteSegment)) []
      (List.intercalate ['.'] (segs.map Quotes.bareSegment)) p ∧ s.IsNameEnd p := by
  induction segs with
  | nil => exact ⟨.plain, .nil _, Or.inl rfl⟩
  | cons seg segs ih =>
    obtain ⟨p, hr, hp⟩ := reads_quoteSegment hq seg
    cases segs with
    | nil => exact ⟨p, by simpa using hr, hp⟩
    | cons seg' segs =>
      obtain ⟨p', hr', hp'⟩ := ih
      -- The dot is a break, so the next segment is read from plain text again.
      have hd : s.step p '.' = ([], .plain) := by
        rw [step_of_isBreak hq hp.knows hp.isOutside (by decide), hp.pending]
      exact ⟨p', by simpa using hr.append (.cons hd hr'), hp'⟩

/-- **A quoted name hides no placeholder**, and only its dots and stars stand outside quotes. -/
theorem reads_quoteChars (hq : s.quotes ∈ Quotes.usual) {cs : List Char} (h : '(' ∉ cs) :
    ∃ bs p, s.Reads .plain (s.quotes.quoteChars cs) [] bs p ∧ s.IsNameEnd p ∧
      ∀ c ∈ bs, c = '.' ∨ c = '*' := by
  unfold Quotes.quoteChars
  split_ifs with hc
  · have hc : cs = ['*'] := hc.resolve_right h
    subst hc
    refine ⟨['*'], .plain, reads_plain ?_, Or.inl rfl, by simp⟩
    intro c hc
    rw [List.mem_singleton.1 hc]
    exact isPlain_of_notMem hq (by decide)
  · obtain ⟨p, hr, hp⟩ := reads_segments hq (s.quotes.segments cs)
    refine ⟨_, p, hr, hp, fun c hc => ?_⟩
    rcases Quotes.mem_intercalate hc with hc | ⟨part, hpart, hc⟩
    · exact Or.inl (List.mem_singleton.1 hc)
    · obtain ⟨seg, -, rfl⟩ := List.mem_map.1 hpart
      exact Or.inr (Quotes.eq_of_mem_bareSegment hc).2

end Scanner

end BoundSql
