import BoundSql.Proofs.Phrase.Neutral

/-!
# Quoting a name

A dotted name comes apart into segments at the dots outside quotes, and the segments are the only
way to come apart at such dots (`segmentsFrom_intercalate`). A quoted segment is read from its
opening to its closing quote without a dot that separates, so the segments of a quoted name are the
quoted segments of the name (`segments_quoteChars`).

From this follow the two laws of quoting: what is quoted once stays as it is (`quote_quote`), and
what stands between the quotes, with every doubled closing quote taken once, is the name again
(`unquote_quote`).
-/

namespace BoundSql

namespace Quotes

variable (q : Quotes)

/-! ### Coming apart at dots -/

/-- The place after a text that is read from a place on. -/
def after (p : Place) (cs : List Char) : Place := cs.foldl q.step p

/-- The text, read from a place on, has no dot that separates segments. -/
def IsWhole (p : Place) : List Char → Prop
  | [] => True
  | c :: cs => ¬(q.step p c = .outside ∧ c = '.') ∧ IsWhole (q.step p c) cs

theorem after_cons (p : Place) (c : Char) (cs : List Char) :
    q.after p (c :: cs) = q.after (q.step p c) cs := rfl

theorem after_append (p : Place) (cs ds : List Char) :
    q.after p (cs ++ ds) = q.after (q.after p cs) ds := List.foldl_append

theorem isWhole_append (p : Place) (cs ds : List Char) :
    q.IsWhole p (cs ++ ds) ↔ q.IsWhole p cs ∧ q.IsWhole (q.after p cs) ds := by
  induction cs generalizing p with
  | nil => exact (iff_of_eq (true_and _)).symm
  | cons c cs ih => rw [List.cons_append, IsWhole, IsWhole, ih, and_assoc, after_cons]

/-- Texts between which a dot separates; the first is read from the given place on. -/
def Splits (p : Place) : List (List Char) → Prop
  | [] => False
  | [seg] => q.IsWhole p seg
  | seg :: next :: segs =>
    q.IsWhole p seg ∧ q.step (q.after p seg) '.' = .outside ∧ Splits .outside (next :: segs)

theorem segmentsFrom_append {p : Place} {cs : List Char} (h : q.IsWhole p cs) (ds : List Char) :
    q.segmentsFrom p (cs ++ ds) = (q.segmentsFrom (q.after p cs) ds).modifyHead (cs ++ ·) := by
  induction cs generalizing p with
  | nil => exact (congrFun List.modifyHead_id _).symm
  | cons c cs ih =>
    rw [List.cons_append, segmentsFrom, if_neg h.1, ih h.2, List.modifyHead_modifyHead]
    rfl

/-- Texts between which a dot separates are the segments of what the dots make of them. -/
theorem segmentsFrom_intercalate {p : Place} {segs : List (List Char)} (h : q.Splits p segs) :
    q.segmentsFrom p (List.intercalate ['.'] segs) = segs := by
  induction segs generalizing p with
  | nil => exact h.elim
  | cons seg segs ih =>
    cases segs with
    | nil =>
      have hseg := q.segmentsFrom_append h []
      rw [List.append_nil, segmentsFrom_nil, List.modifyHead_cons, List.append_nil] at hseg
      rw [List.intercalate_singleton, hseg]
    | cons next segs =>
      obtain ⟨hw, hd, hs⟩ := h
      rw [List.intercalate_cons_cons, List.append_assoc, q.segmentsFrom_append hw,
        List.singleton_append, segmentsFrom, if_pos ⟨hd, rfl⟩, hd, ih hs, List.modifyHead_cons,
        List.append_nil]

theorem splits_segmentsFrom (p : Place) (cs : List Char) : q.Splits p (q.segmentsFrom p cs) := by
  induction cs generalizing p with
  | nil => exact trivial
  | cons c cs ih =>
    have ih := ih (q.step p c)
    obtain ⟨seg, segs, hs⟩ :=
      List.exists_cons_of_ne_nil (q.segmentsFrom_ne_nil (q.step p c) cs)
    rw [hs] at ih
    simp only [segmentsFrom, hs]
    split_ifs with h
    · exact ⟨trivial, h.2 ▸ h.1, h.1 ▸ ih⟩
    · rw [List.modifyHead_cons]
      cases segs with
      | nil => exact ⟨h, ih⟩
      | cons next segs => exact ⟨⟨h, ih.1⟩, ih.2⟩

/-! ### Quoted segments -/

/-- A segment between quotes, in which every closing quote is doubled. -/
def IsQuoted (seg : List Char) : Prop := ∃ content, seg = q.wrap content

theorem isSome_unwrap?_iff {seg : List Char} : (q.unwrap? seg).isSome = true ↔ q.IsQuoted seg := by
  rw [Option.isSome_iff_exists]
  constructor
  · rintro ⟨content, h⟩
    exact ⟨content, q.eq_wrap_of_unwrap? h⟩
  · rintro ⟨content, rfl⟩
    exact ⟨content, q.unwrap?_wrap content⟩

instance (seg : List Char) : Decidable (q.IsQuoted seg) :=
  decidable_of_iff _ q.isSome_unwrap?_iff

theorem quoteSegment_of_isQuoted {seg : List Char} (h : q.IsQuoted seg) :
    q.quoteSegment seg = seg := if_pos (Or.inr (q.isSome_unwrap?_iff.2 h))

theorem quoteSegment_star : q.quoteSegment ['*'] = ['*'] := if_pos (Or.inl rfl)

theorem quoteSegment_of_not {seg : List Char} (hs : seg ≠ ['*']) (h : ¬ q.IsQuoted seg) :
    q.quoteSegment seg = q.wrap seg :=
  if_neg (not_or.2 ⟨hs, fun hu => h (q.isSome_unwrap?_iff.1 hu)⟩)

/-- A segment other than a star is between quotes when it has been quoted. -/
theorem isQuoted_quoteSegment {seg : List Char} (hs : seg ≠ ['*']) :
    q.IsQuoted (q.quoteSegment seg) := q.exists_quoteSegment_eq hs

theorem quoteSegment_quoteSegment (seg : List Char) :
    q.quoteSegment (q.quoteSegment seg) = q.quoteSegment seg := by
  by_cases hs : seg = ['*']
  · rw [hs, q.quoteSegment_star, q.quoteSegment_star]
  · exact q.quoteSegment_of_isQuoted (q.isQuoted_quoteSegment hs)

/-- Inside quotes a doubled text leads nowhere else, and none of its dots separates. -/
theorem isWhole_double (content : List Char) :
    q.IsWhole .inside (q.double content) ∧ q.after .inside (q.double content) = .inside := by
  induction content with
  | nil => exact ⟨trivial, rfl⟩
  | cons c cs ih =>
    by_cases h : c = q.right
    · have hd : q.double (c :: cs) = c :: c :: q.double cs := by simp [double, h]
      rw [hd]
      simpa [IsWhole, after, step, h] using ih
    · have hd : q.double (c :: cs) = c :: q.double cs := by simp [double, h]
      rw [hd]
      simpa [IsWhole, after, step, h] using ih

/-- A text between quotes is read to its closing quote, and none of its dots separates. -/
theorem isWhole_wrap (content : List Char) :
    q.IsWhole .outside (q.wrap content) ∧ q.after .outside (q.wrap content) = .closing := by
  obtain ⟨hw, ha⟩ := q.isWhole_double content
  have hl : q.step .outside q.left = .inside := if_pos rfl
  have hr : q.step .inside q.right = .closing := if_pos rfl
  constructor
  · refine ⟨by simp [hl], ?_⟩
    rw [hl, q.isWhole_append, ha]
    exact ⟨hw, by simp [hr], trivial⟩
  · rw [wrap, q.after_cons, hl, q.after_append, ha, q.after_cons, hr]
    rfl

/-- A dot that leads outside opens no quotes. -/
theorem left_ne_of_step {p : Place} (h : q.step p '.' = .outside) : q.left ≠ '.' := by
  intro hl
  cases p <;> simp only [step, hl] at h <;> split_ifs at h

/-- A segment that is read up to a dot is still read up to it when it has been quoted. -/
theorem quoteSegment_whole (hq : q.right ≠ '.') {seg : List Char} (h : q.IsWhole .outside seg) :
    q.IsWhole .outside (q.quoteSegment seg) ∧ (q.step (q.after .outside seg) '.' = .outside →
      q.step (q.after .outside (q.quoteSegment seg)) '.' = .outside) := by
  by_cases hs : seg = ['*']
  · rw [hs, q.quoteSegment_star, ← hs]
    exact ⟨h, id⟩
  · obtain ⟨content, hc⟩ := q.isQuoted_quoteSegment hs
    obtain ⟨hw, ha⟩ := q.isWhole_wrap content
    rw [hc, ha]
    refine ⟨hw, fun hd => ?_⟩
    have hl := q.left_ne_of_step hd
    simp [step, hq.symm, hl.symm]

theorem splits_map_quoteSegment (hq : q.right ≠ '.') {segs : List (List Char)}
    (h : q.Splits .outside segs) : q.Splits .outside (segs.map q.quoteSegment) := by
  induction segs with
  | nil => exact h.elim
  | cons seg segs ih =>
    cases segs with
    | nil => exact (q.quoteSegment_whole hq h).1
    | cons next segs =>
      obtain ⟨hw, hd, hs⟩ := h
      obtain ⟨hw', hd'⟩ := q.quoteSegment_whole hq hw
      exact ⟨hw', hd' hd, ih hs⟩

/-! ### Quoted names -/

theorem quoteChars_of_mem {cs : List Char} (h : '(' ∈ cs) : q.quoteChars cs = cs :=
  if_pos (Or.inr h)

theorem quoteChars_eq {cs : List Char} (h : '(' ∉ cs) :
    q.quoteChars cs = List.intercalate ['.'] ((q.segments cs).map q.quoteSegment) := by
  by_cases hs : cs = ['*']
  · have hseg : q.segments ['*'] = [['*']] := if_neg (by simp)
    rw [hs, hseg, List.map_singleton, q.quoteSegment_star, List.intercalate_singleton]
    exact if_pos (Or.inl rfl)
  · exact if_neg (not_or.2 ⟨hs, h⟩)

/-- **The segments of a quoted name are the quoted segments of the name.** -/
theorem segments_quoteChars (hq : q.right ≠ '.') {cs : List Char} (h : '(' ∉ cs) :
    q.segments (q.quoteChars cs) = (q.segments cs).map q.quoteSegment := by
  rw [q.quoteChars_eq h]
  exact q.segmentsFrom_intercalate
    (q.splits_map_quoteSegment hq (q.splits_segmentsFrom .outside cs))

/-- **Quoting is idempotent**, whatever the characters of the name and of the quotes, as long as a
closing quote is no dot. -/
theorem quote_quote (hq : q.right ≠ '.') (name : String) :
    q.quote (q.quote name) = q.quote name := by
  apply String.toList_inj.1
  rw [toList_quote, toList_quote]
  by_cases h : '(' ∈ name.toList
  · rw [q.quoteChars_of_mem h, q.quoteChars_of_mem h]
  · by_cases h' : '(' ∈ q.quoteChars name.toList
    · exact q.quoteChars_of_mem h'
    · rw [q.quoteChars_eq h', q.segments_quoteChars hq h, List.map_map, q.quoteChars_eq h]
      congr 1
      exact List.map_congr_left fun seg _ => q.quoteSegment_quoteSegment seg

/-- Brackets that stand alone, that are doubled, and that are quotes already. -/
theorem quote_quote_brackets :
    let q : Quotes := ⟨'[', ']'⟩
    q.right ≠ '.' ∧ q.quote "a]b.[c.d].*.[e]]" = "[a]]b].[c.d].*.[[e]]]]]" ∧
      q.quote (q.quote "a]b.[c.d].*.[e]]") = q.quote "a]b.[c.d].*.[e]]" := by
  intro q
  have hq : q.right ≠ '.' := by decide
  exact ⟨hq, by decide +kernel, q.quote_quote hq _⟩

/-! ### Taking the quotes off -/

/-- The text with every doubled closing quote taken once. -/
def halve : List Char → List Char
  | c :: d :: cs => if c = q.right ∧ d = q.right then c :: halve cs else c :: halve (d :: cs)
  | cs => cs

/-- A segment without the quotes at its ends and with every doubled closing quote taken once. A star
has no quotes to take off. -/
def unquoteSegment (seg : List Char) : List Char :=
  if seg = ['*'] then seg else q.halve seg.tail.dropLast

/-- The segments of a quoted name without their quotes. -/
def unquote (cs : List Char) : List (List Char) := (q.segments cs).map q.unquoteSegment

theorem halve_double (content : List Char) : q.halve (q.double content) = content := by
  induction content with
  | nil => rfl
  | cons c cs ih =>
    by_cases h : c = q.right
    · have hd : q.double (c :: cs) = c :: c :: q.double cs := by simp [double, h]
      rw [hd, halve, if_pos ⟨h, h⟩, ih]
    · have hd : q.double (c :: cs) = c :: q.double cs := by simp [double, h]
      rw [hd]
      cases hcs : q.double cs with
      | nil =>
        rw [hcs] at ih
        rw [← ih]
        rfl
      | cons d ds => rw [halve, if_neg fun hc => h hc.1, ← hcs, ih]

theorem unquoteSegment_wrap (content : List Char) :
    q.unquoteSegment (q.wrap content) = content := by
  have hne : q.wrap content ≠ ['*'] := by simp [wrap]
  rw [unquoteSegment, if_neg hne, wrap, List.tail_cons, List.dropLast_concat, halve_double]

/-- Without its quotes a quoted segment is the segment again, or what stood between the quotes that
it had already. -/
theorem unquoteSegment_quoteSegment (seg : List Char) : q.unquoteSegment (q.quoteSegment seg) =
    if q.IsQuoted seg then q.unquoteSegment seg else seg := by
  split_ifs with h
  · rw [q.quoteSegment_of_isQuoted h]
  · by_cases hs : seg = ['*']
    · rw [hs, q.quoteSegment_star]
      exact if_pos rfl
    · rw [q.quoteSegment_of_not hs h, unquoteSegment_wrap]

theorem right_ne_of_mem {q : Quotes} (hq : q ∈ usual) : q.right ≠ '.' := by
  simp only [usual, List.mem_cons, List.not_mem_nil, or_false] at hq
  rcases hq with rfl | rfl | rfl <;> decide

/-- A name without quotes is what its segments stand for. -/
theorem unquote_name {q : Quotes} (hq : q ∈ usual) (n : Name) :
    q.unquote (q.quote n.text).toList = q.segments n.text.toList := by
  rw [unquote, toList_quote, q.segments_quoteChars (right_ne_of_mem hq) n.notMem_paren,
    List.map_map]
  refine (List.map_congr_left fun seg hs => ?_).trans (List.map_id _)
  have hn : ¬ q.IsQuoted seg := by
    rintro ⟨content, rfl⟩
    exact n.notMem_left hq (q.mem_segmentsFrom hs (by simp [wrap]))
  rw [Function.comp_apply, unquoteSegment_quoteSegment, if_neg hn, id]

/-- What quoting makes of a name: segments joined by dots, each of them a star or between quotes, so
that only dots and stars stand outside quotes, whatever placeholders a reader looks for. Without
their quotes they are the segments of the name, and these joined by dots are the name. -/
structure Confines (q : Quotes) (name quoted : List Char) : Prop where
  join_quoted : List.intercalate ['.'] (q.segments quoted) = quoted
  segments : ∀ seg ∈ q.segments quoted,
    seg = ['*'] ∨ ∃ content, seg = q.left :: (q.double content ++ [q.right])
  outside : ∀ style, ∀ c ∈ Scanner.outside ⟨style, q⟩ .plain quoted, c = '.' ∨ c = '*'
  isOutside : ∀ style, (Scanner.after ⟨style, q⟩ .plain quoted).isOutside = true
  unquote : q.unquote quoted =
    (q.segments name).map fun seg => if q.IsQuoted seg then q.unquoteSegment seg else seg
  join : List.intercalate ['.'] (q.segments name) = name

/-- **Quoting confines a name and keeps it.** On checked names taking the quotes off undoes quoting,
so no two of them are quoted alike. -/
theorem unquote_quote {q : Quotes} (hq : q ∈ usual) :
    (∀ name : String, '(' ∉ name.toList → q.Confines name.toList (q.quote name).toList) ∧
    (∀ n : Name, List.intercalate ['.'] (q.unquote (q.quote n.text).toList) = n.text.toList) ∧
    Function.Injective fun n : Name => q.quote n.text := by
  have hback : ∀ n : Name,
      List.intercalate ['.'] (q.unquote (q.quote n.text).toList) = n.text.toList := fun n => by
    rw [unquote_name hq]
    exact q.intercalate_segmentsFrom _ _
  refine ⟨fun name h => ?_, hback, fun m n hmn => ?_⟩
  · have hsegs := q.segments_quoteChars (right_ne_of_mem hq) h
    have hreads := fun style => Scanner.reads_quoteChars (s := ⟨style, q⟩) hq h
    rw [toList_quote]
    refine ⟨q.intercalate_segmentsFrom _ _, fun seg hs => ?_, fun style c hc => ?_, fun style => ?_,
      ?_, q.intercalate_segmentsFrom _ _⟩
    · rw [hsegs] at hs
      obtain ⟨s, -, rfl⟩ := List.mem_map.1 hs
      exact q.quoteSegment_cases s
    · obtain ⟨bs, p, hr, -, hbs⟩ := hreads style
      exact hbs c (hr.outside ▸ hc)
    · obtain ⟨bs, p, hr, hp, -⟩ := hreads style
      exact hr.after ▸ hp.isOutside
    · rw [Quotes.unquote, hsegs, List.map_map]
      exact List.map_congr_left fun seg _ => q.unquoteSegment_quoteSegment seg
  · have htext : m.text.toList = n.text.toList := by
      rw [← hback m, ← hback n]
      exact congrArg (fun s : String => List.intercalate ['.'] (q.unquote s.toList)) hmn
    cases m
    cases n
    cases String.toList_inj.1 htext
    rfl

/-- A closing bracket inside a name, a segment in brackets with a dot, an opening bracket that is
not closed, and a star. -/
theorem unquote_quote_brackets :
    let q : Quotes := ⟨'[', ']'⟩
    let name := "a]b.[c.d].*.[e"
    q ∈ usual ∧ '(' ∉ name.toList ∧ q.quote name = "[a]]b].[c.d].*.[[e]" ∧
      q.Confines name.toList (q.quote name).toList ∧
      (q.unquote (q.quote name).toList).map String.ofList = ["a]b", "c.d", "*", "[e"] := by
  intro q name
  have hq : q ∈ usual := by simp [usual, q]
  have h : '(' ∉ name.toList := by decide +kernel
  exact ⟨hq, h, by decide +kernel, (unquote_quote hq).1 name h, by decide +kernel⟩

end Quotes

end BoundSql
