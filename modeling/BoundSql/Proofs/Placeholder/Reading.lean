import BoundSql.Placeholder.Scan
import Mathlib.Tactic.SplitIfs

/-!
# Reading a text part by part

A scanner for one of the three usual pairs of quotes reads a text in parts. `Reads` collects what
the reading of one part gives: the placeholders completed in it, its characters outside quotes, and
the place it leads to (`Reads.append` puts two parts together). Plain text is read as it stands,
also where it begins with a break and follows something else outside quotes (`reads_break`).
-/

namespace BoundSql

/-- The quotes of the families of engines. -/
def Quotes.usual : List Quotes := [⟨'"', '"'⟩, ⟨'\x60', '\x60'⟩, ⟨'[', ']'⟩]

/-- The characters with which a quote or a placeholder may begin or a quote may end. -/
def sigils : List Char := ['?', '$', '@', ':', '\'', '"', '\x60', '[', ']']

/-- The characters that end a name or a placeholder before them. -/
def isBreak (c : Char) : Bool := [' ', ',', '.', '(', ')', ';'].contains c

theorem mem_breaks {c : Char} (h : isBreak c = true) :
    c = ' ' ∨ c = ',' ∨ c = '.' ∨ c = '(' ∨ c = ')' ∨ c = ';' := by
  simpa [isBreak] using h

namespace Scanner

variable {s : Scanner}

/-! ### Single characters -/

/-- Neither a quote nor the sigil of a placeholder. -/
def IsPlain (s : Scanner) (c : Char) : Prop := s.closer? c = none ∧ c ≠ s.style.sigil

theorem plainStep_of_isPlain {c : Char} (h : s.IsPlain c) : s.plainStep c = ([], .plain) := by
  simp [plainStep, h.1, h.2]

@[simp] theorem step_plain (c : Char) : s.step .plain c = s.plainStep c := rfl

theorem isPlain_of_notMem (hq : s.quotes ∈ Quotes.usual) {c : Char} (h : c ∉ sigils) :
    s.IsPlain c := by
  obtain ⟨style, quotes⟩ := s
  simp only [Quotes.usual, List.mem_cons, List.not_mem_nil, or_false] at hq
  simp only [sigils, List.mem_cons, List.not_mem_nil, or_false, not_or] at h
  obtain ⟨h1, h2, h3, h4, h5, h6, h7, h8, h9⟩ := h
  constructor
  · rcases hq with rfl | rfl | rfl <;> simp [closer?, *]
  · cases style <;> simpa [PlaceholderStyle.sigil]

theorem isPlain_of_isBreak (hq : s.quotes ∈ Quotes.usual) {c : Char} (h : isBreak c = true) :
    s.IsPlain c := by
  refine isPlain_of_notMem hq ?_
  rcases mem_breaks h with rfl | rfl | rfl | rfl | rfl | rfl <;> decide

/-- The characters that close some quote. -/
def closers (s : Scanner) : List Char := ['\'', s.quotes.right, '"']

theorem mem_closers {c k : Char} (h : s.closer? c = some k) : k ∈ s.closers := by
  unfold closer? at h
  split_ifs at h <;> cases h <;> simp [closers]

/-- A place to which the scanner can come: what closes a quote there is known. -/
def Knows (s : Scanner) : Place → Prop
  | .quoted k | .closing k => k ∈ s.closers
  | _ => True

theorem knows_plainStep (c : Char) : s.Knows (s.plainStep c).2 := by
  unfold plainStep
  split
  · exact mem_closers ‹_›
  · split_ifs <;> trivial

theorem knows_step {p : Place} (h : s.Knows p) (c : Char) : s.Knows (s.step p c).2 := by
  cases p with
  | plain => exact knows_plainStep c
  | quoted k =>
    simp only [step]
    split_ifs <;> exact h
  | closing k =>
    simp only [step]
    split_ifs
    · exact h
    · exact knows_plainStep c
  | sigil =>
    simp only [step]
    split_ifs
    · trivial
    · trivial
    · exact knows_plainStep c
  | token r =>
    simp only [step]
    split_ifs
    · trivial
    · exact knows_plainStep c

theorem knows_after {p : Place} (h : s.Knows p) (cs : List Char) : s.Knows (s.after p cs) := by
  induction cs generalizing p with
  | nil => exact h
  | cons c cs ih => exact ih (knows_step h c)

/-- A break outside quotes completes a placeholder and leads back to plain text. -/
theorem step_of_isBreak (hq : s.quotes ∈ Quotes.usual) {p : Place} (hk : s.Knows p)
    (ho : p.isOutside = true) {c : Char} (hc : isBreak c = true) :
    s.step p c = (p.pending, .plain) := by
  have hp := plainStep_of_isPlain (isPlain_of_isBreak hq hc)
  cases p with
  | plain => exact hp
  | quoted k => cases ho
  | closing k =>
    -- No break closes a quote, so it does not continue the quoted text as a doubled one would.
    have hne : c ≠ k := by
      rintro rfl
      obtain ⟨style, quotes⟩ := s
      simp only [Quotes.usual, List.mem_cons, List.not_mem_nil, or_false] at hq
      rcases mem_breaks hc with rfl | rfl | rfl | rfl | rfl | rfl <;>
        rcases hq with rfl | rfl | rfl <;> revert hk <;> simp [Knows, closers]
    simp [step, hne, hp, Place.pending]
  | sigil =>
    have h1 : s.style.starts c = false := by
      rcases mem_breaks hc with rfl | rfl | rfl | rfl | rfl | rfl <;> cases s.style <;> decide
    have h2 : c ≠ ':' := by rintro rfl; exact absurd hc (by decide)
    simp [step, h1, h2, hp, Place.pending]
  | token r =>
    have h1 : s.style.continues c = false := by
      rcases mem_breaks hc with rfl | rfl | rfl | rfl | rfl | rfl <;> cases s.style <;> decide
    simp [step, h1, hp, Place.pending]

/-! ### Parts of a text -/

/-- Whether the character that led to a place stands outside quotes and is no quote. -/
def Place.isBare : Place → Bool
  | .quoted _ | .closing _ => false
  | _ => true

@[simp] theorem Place.isBare_plain : Place.plain.isBare = true := rfl

@[simp] theorem Place.isBare_quoted (k : Char) : (Place.quoted k).isBare = false := rfl

@[simp] theorem Place.isBare_closing (k : Char) : (Place.closing k).isBare = false := rfl

@[simp] theorem Place.isBare_sigil : Place.sigil.isBare = true := rfl

@[simp] theorem Place.isBare_token (read : List Char) : (Place.token read).isBare = true := rfl

/-- The characters outside quotes of a text read from a place on. -/
def outside (s : Scanner) (p : Place) : List Char → List Char
  | [] => []
  | c :: cs =>
    (if (s.step p c).2.isBare then [c] else []) ++ outside s (s.step p c).2 cs

/-- Reading the text from one place leads to another; on the way the given placeholders are
completed and the given characters stand outside quotes. -/
structure Reads (s : Scanner) (p : Place) (cs : List Char) (found : List String)
    (bare : List Char) (q : Place) : Prop where
  scan : s.scan p cs = found
  outside : s.outside p cs = bare
  after : s.after p cs = q

theorem outside_append (p : Place) (cs ds : List Char) :
    s.outside p (cs ++ ds) = s.outside p cs ++ s.outside (s.after p cs) ds := by
  induction cs generalizing p with
  | nil => rfl
  | cons c cs ih => simp [outside, ih]

theorem Reads.nil (p : Place) : s.Reads p [] [] [] p := ⟨rfl, rfl, rfl⟩

theorem Reads.append {p q r : Place} {cs ds bs bs' : List Char} {ts ts' : List String}
    (h : s.Reads p cs ts bs q) (h' : s.Reads q ds ts' bs' r) :
    s.Reads p (cs ++ ds) (ts ++ ts') (bs ++ bs') r where
  scan := by rw [scan_append, h.scan, h.after, h'.scan]
  outside := by rw [outside_append, h.outside, h.after, h'.outside]
  after := by rw [after_append, h.after, h'.after]

theorem Reads.single {p q : Place} {c : Char} {ts : List String} (h : s.step p c = (ts, q)) :
    s.Reads p [c] ts (if q.isBare then [c] else []) q := by
  constructor <;> simp [BoundSql.Scanner.outside, h]

theorem Reads.cons {p q r : Place} {c : Char} {cs bs : List Char} {ts ts' : List String}
    (h : s.step p c = (ts, q)) (h' : s.Reads q cs ts' bs r) :
    s.Reads p (c :: cs) (ts ++ ts') ((if q.isBare then [c] else []) ++ bs) r :=
  (Reads.single h).append h'

/-- Text without quotes and sigils is read as it stands. -/
theorem reads_plain {cs : List Char} (h : ∀ c ∈ cs, s.IsPlain c) :
    s.Reads .plain cs [] cs .plain := by
  induction cs with
  | nil => exact .nil _
  | cons c cs ih =>
    have hc : s.step .plain c = ([], .plain) := plainStep_of_isPlain (h c (by simp))
    exact .cons hc (ih fun d hd => h d (by simp [hd]))

/-- Text without quotes and sigils that begins with a break may follow anything outside quotes. -/
theorem reads_break (hq : s.quotes ∈ Quotes.usual) {p : Place} (hk : s.Knows p)
    (ho : p.isOutside = true) {cs : List Char} (h : ∀ c ∈ cs, s.IsPlain c)
    (hb : ∃ c ∈ cs.head?, isBreak c = true) : s.Reads p cs p.pending cs .plain := by
  cases cs with
  | nil => simp at hb
  | cons c cs =>
    have hc : isBreak c = true := by simpa using hb
    simpa using Reads.cons (step_of_isBreak hq hk ho hc)
      (reads_plain fun d hd => h d (by simp [hd]))

/-! ### Placeholders of a text -/

/-- The placeholders of a text read from a place on, with the one that ends with it. -/
def found (s : Scanner) (p : Place) (cs : List Char) : List String :=
  s.scan p cs ++ (s.after p cs).pending

theorem placeholders_eq_found (text : String) : s.placeholders text = s.found .plain text.toList :=
  rfl

theorem found_append (p : Place) (cs ds : List Char) :
    s.found p (cs ++ ds) = s.scan p cs ++ s.found (s.after p cs) ds := by
  simp only [found, scan_append, after_append, List.append_assoc]

/-- Text that begins with a break is read behind anything outside quotes as it is by itself. -/
theorem found_break (hq : s.quotes ∈ Quotes.usual) {p : Place} (hk : s.Knows p)
    (ho : p.isOutside = true) {cs : List Char} (hb : ∃ c ∈ cs.head?, isBreak c = true) :
    s.found p cs = p.pending ++ s.found .plain cs := by
  cases cs with
  | nil => simp at hb
  | cons c cs =>
    have hc : isBreak c = true := by simpa using hb
    have hp : s.step .plain c = ([], .plain) := plainStep_of_isPlain (isPlain_of_isBreak hq hc)
    simp [found, hp, step_of_isBreak hq hk ho hc]

/-- **Where a break follows outside quotes, texts are read one by one.** -/
theorem placeholders_append (hq : s.quotes ∈ Quotes.usual) {a b : String}
    (ha : (s.after .plain a.toList).isOutside = true)
    (hb : ∃ c ∈ b.toList.head?, isBreak c = true) :
    s.placeholders (a ++ b) = s.placeholders a ++ s.placeholders b := by
  have hk : s.Knows (s.after .plain a.toList) := knows_after (p := .plain) trivial a.toList
  rw [placeholders_eq_found, String.toList_append, found_append, found_break hq hk ha hb,
    ← List.append_assoc]
  rfl

theorem Reads.found {p q : Place} {cs bs : List Char} {ts : List String}
    (h : s.Reads p cs ts bs q) : s.found p cs = ts ++ q.pending := by
  rw [BoundSql.Scanner.found, h.scan, h.after]

end Scanner

end BoundSql
