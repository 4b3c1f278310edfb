import BoundSql.Proofs.Name.Quoting

/-!
# Segments of quoted names

A name holds no quotes, so its segments are what its dots separate (`Quotes.segments_name`), and
what becomes of it by quoting can be told from the name. It becomes a single identifier exactly if
it has no dot and is not the star (`Quotes.isQuoted_quoteChars_iff`). It becomes a reference, in
which every segment is an identifier, exactly if no segment of it is the star, and exactly then no
star stands outside quotes (`Quotes.isReference_quoteChars_iff`, `Quotes.star_mem_outside_iff`).
-/

namespace BoundSql

namespace Quotes

variable {q : Quotes}

/-- A text of quoted segments with dots between them. -/
def IsReference (q : Quotes) (text : List Char) : Prop := ∀ seg ∈ q.segments text, q.IsQuoted seg

instance (q : Quotes) (text : List Char) : Decidable (q.IsReference text) :=
  inferInstanceAs (Decidable (∀ seg ∈ q.segments text, q.IsQuoted seg))

theorem not_isQuoted_star (q : Quotes) : ¬ q.IsQuoted ['*'] := by
  rintro ⟨content, h⟩
  simp [wrap] at h

/-! ### Names -/

/-- The segments of a text without quotes are what its dots separate. -/
theorem segments_of_notMem {cs : List Char} (h : q.left ∉ cs) : q.segments cs = cs.splitOn '.' := by
  unfold segments
  induction cs with
  | nil => rfl
  | cons c cs ih =>
    have hc : q.step .outside c = .outside := if_neg (List.ne_of_not_mem_cons h).symm
    rw [segmentsFrom, hc, ih (List.not_mem_of_not_mem_cons h), List.splitOn_cons_eq_if_modifyHead]
    simp

theorem segments_name (hq : q ∈ usual) (n : Name) :
    q.segments n.text.toList = n.text.toList.splitOn '.' :=
  segments_of_notMem (n.notMem_left hq)

theorem segments_quoteChars_name (hq : q ∈ usual) (n : Name) :
    q.segments (q.quoteChars n.text.toList) =
      (n.text.toList.splitOn '.').map q.quoteSegment := by
  rw [q.segments_quoteChars (right_ne_of_mem hq) n.notMem_paren, segments_name hq]

theorem segments_wrap (q : Quotes) (content : List Char) :
    q.segments (q.wrap content) = [q.wrap content] := by
  have hsplits : q.Splits .outside [q.wrap content] := (q.isWhole_wrap content).1
  have hsegs := q.segmentsFrom_intercalate hsplits
  rwa [List.intercalate_singleton] at hsegs

/-- **Which names become a single identifier.** -/
theorem isQuoted_quoteChars_iff (hq : q ∈ usual) (n : Name) :
    q.IsQuoted (q.quoteChars n.text.toList) ↔ '.' ∉ n.text.toList ∧ n.text.toList ≠ ['*'] := by
  have hsegs := segments_quoteChars_name hq n
  constructor
  · rintro ⟨content, hc⟩
    rw [hc, segments_wrap] at hsegs
    obtain ⟨seg, hseg, hw⟩ := List.map_eq_singleton_iff.1 hsegs.symm
    have hname : n.text.toList = seg := by
      have hjoin : List.intercalate ['.'] (n.text.toList.splitOn '.') = n.text.toList :=
        List.intercalate_splitOn '.'
      rw [hseg, List.intercalate_singleton] at hjoin
      exact hjoin.symm
    refine ⟨fun hdot => ?_, fun hstar => ?_⟩
    · -- A dot would separate one segment from another.
      obtain ⟨l, r, hlr⟩ := List.append_of_mem hdot
      rw [hlr, List.splitOn_append_cons_self] at hseg
      have hlength := congrArg List.length hseg
      have hl := List.length_pos_iff.2 (List.splitOn_ne_nil '.' l)
      have hr := List.length_pos_iff.2 (List.splitOn_ne_nil '.' r)
      rw [List.length_append, List.length_singleton] at hlength
      omega
    · rw [← hname, hstar, q.quoteSegment_star] at hw
      exact q.not_isQuoted_star ⟨content, hw⟩
  · rintro ⟨hdot, hstar⟩
    rw [q.quoteChars_eq n.notMem_paren, segments_name hq, List.splitOn_eq_singleton hdot,
      List.map_singleton, List.intercalate_singleton]
    exact q.isQuoted_quoteSegment hstar

/-- **Which names become a reference.** -/
theorem isReference_quoteChars_iff (hq : q ∈ usual) (n : Name) :
    q.IsReference (q.quoteChars n.text.toList) ↔ ['*'] ∉ n.text.toList.splitOn '.' := by
  unfold IsReference
  rw [segments_quoteChars_name hq, List.forall_mem_map]
  constructor
  · intro h hs
    have hstar := h _ hs
    rw [q.quoteSegment_star] at hstar
    exact q.not_isQuoted_star hstar
  · intro h seg hs
    exact q.isQuoted_quoteSegment (ne_of_mem_of_not_mem hs h)

theorem mem_intercalate_of_mem {sep part : List Char} {parts : List (List Char)} {c : Char}
    (hp : part ∈ parts) (hc : c ∈ part) : c ∈ List.intercalate sep parts := by
  induction parts with
  | nil => cases hp
  | cons first parts ih =>
    cases parts with
    | nil =>
      rw [List.mem_singleton.1 hp] at hc
      simpa using hc
    | cons next parts =>
      rw [List.intercalate_cons_cons, List.mem_append]
      rcases List.mem_cons.1 hp with rfl | hp
      · exact Or.inl (List.mem_append_left sep hc)
      · exact Or.inr (ih hp)

/-- **Which names leave a star outside quotes.** -/
theorem star_mem_outside_iff (hq : q ∈ usual) (style : PlaceholderStyle) (n : Name) :
    '*' ∈ Scanner.outside ⟨style, q⟩ .plain (q.quoteChars n.text.toList) ↔
      ['*'] ∈ n.text.toList.splitOn '.' := by
  obtain ⟨p, hr, -⟩ := Scanner.reads_segments (s := ⟨style, q⟩) hq (q.segments n.text.toList)
  rw [q.quoteChars_eq n.notMem_paren, hr.outside, segments_name hq]
  constructor
  · intro h
    rcases mem_intercalate h with h | ⟨part, hpart, h⟩
    · exact absurd h (by decide)
    · obtain ⟨seg, hseg, rfl⟩ := List.mem_map.1 hpart
      exact (eq_of_mem_bareSegment h).1 ▸ hseg
  · intro h
    exact mem_intercalate_of_mem (List.mem_map_of_mem h) (List.mem_singleton.2 rfl)

end Quotes

end BoundSql
