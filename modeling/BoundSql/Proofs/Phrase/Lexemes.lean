import BoundSql.Proofs.Phrase.Neutral

/-!
# The lexemes of a text

What a reader makes of a text whose placeholders have been given values: words, parentheses and
commas, and the values themselves. Blanks only keep words apart, and a name is a word without its
quotes.

A rendered phrase is read as it was meant (`Phrase.lexemes_render`): every name of it is a word, and
every value of it stands at its place, provided that each placeholder is given the value with its
number.
-/

namespace BoundSql

/-- The smallest part of a text that a reader tells from its neighbours. -/
inductive Lexeme
  /-- What keeps words apart. -/
  | blank
  /-- A parenthesis or a comma. -/
  | mark (c : Char)
  /-- A word, or a name without its quotes. -/
  | word (cs : List Char)
  /-- A placeholder to which the value is given. -/
  | value (v : Value)
  /-- A placeholder to which no value is given. -/
  | unbound (token : String)
  deriving DecidableEq

namespace Lexeme

/-- The word in front of what follows it; it goes on with a word that it touches. -/
def spell (cs : List Char) : List Lexeme → List Lexeme
  | word ds :: ls => word (cs ++ ds) :: ls
  | ls => word cs :: ls

/-- A sign in front of what follows it. -/
def sign (c : Char) (ls : List Lexeme) : List Lexeme :=
  if c = ' ' then blank :: ls
  else if ['(', ')', ','].contains c then mark c :: ls
  else spell [c] ls

/-- A text without quotes in front of what follows it. -/
def spellText (s : String) (ls : List Lexeme) : List Lexeme := s.toList.foldr sign ls

/-- The value that is given to a placeholder if values are given in order from `start` on. -/
def given (start : Nat) (values : List Value) (n : Nat) : Option Value :=
  if n < start then none else values[n - start]?

theorem given_add (start k : Nat) (values : List Value) :
    given start values (start + k) = values[k]? := by
  rw [given, if_neg (by omega), Nat.add_sub_cancel_left]

/-- A placeholder with the given number. -/
def place (bound : Nat → Option Value) (n : Nat) (token : String) : Lexeme :=
  match bound n with
  | some v => value v
  | none => unbound token

/-- The lexemes apart from the blanks between them. -/
def solid (ls : List Lexeme) : List Lexeme := ls.filter (· ≠ blank)

theorem spell_spell (cs ds : List Char) (ls : List Lexeme) :
    spell cs (spell ds ls) = spell (cs ++ ds) ls := by
  cases ls with
  | nil => rfl
  | cons l ls => cases l <;> simp [spell]

@[simp] theorem solid_mark (c : Char) (ls : List Lexeme) :
    solid (mark c :: ls) = mark c :: solid ls := rfl

end Lexeme

/-! ### Reading a text -/

/-- The number of a placeholder: the one it bears, or else its position in the text. -/
def PlaceholderStyle.number (s : PlaceholderStyle) (position : Nat) (token : String) : Nat :=
  Nat.ofDigitChars 10 (s.ordinal position token) 0

theorem PlaceholderStyle.number_render (s : PlaceholderStyle) (i : Nat) :
    s.number i (s.render i) = i := by
  rw [number, ordinal_render]
  exact Nat.ofDigitChars_toDigits (by decide) (by decide)

namespace Dialect

open Lexeme

/-- Pieces read in front of what follows them, with the position of the first placeholder. -/
def lex (d : Dialect) (bound : Nat → Option Value) :
    Nat → List Piece → List Lexeme → List Lexeme
  | _, [], ls => ls
  | i, .sign c :: ps, ls => sign c (lex d bound i ps ls)
  | i, .inner c :: ps, ls => spell [c] (lex d bound i ps ls)
  | i, .quote c :: ps, ls =>
    spell (if c = d.quotes.left ∨ c = d.quotes.right then [] else [c]) (lex d bound i ps ls)
  | i, .place t :: ps, ls =>
    place bound (d.placeholders.number i t) t :: lex d bound (i + 1) ps ls

/-- The lexemes of a text whose first placeholder has the position `i`. -/
def lexemes (d : Dialect) (bound : Nat → Option Value) (i : Nat) (text : String) : List Lexeme :=
  solid (d.lex bound i (d.scanner.pieces .plain text.toList) [])

variable {d : Dialect} {bound : Nat → Option Value}

theorem lex_append (i : Nat) (ps qs : List Piece) (ls : List Lexeme) :
    d.lex bound i (ps ++ qs) ls =
      d.lex bound i ps (d.lex bound (i + (ps.filterMap Piece.place?).length) qs ls) := by
  induction ps generalizing i with
  | nil => rfl
  | cons x ps ih =>
    cases x with
    | place t =>
      have hl : ((Piece.place t :: ps).filterMap Piece.place?).length =
          (ps.filterMap Piece.place?).length + 1 := rfl
      rw [List.cons_append, lex, lex, ih, hl, Nat.add_assoc, Nat.add_comm 1]
    | sign c | quote c | inner c =>
      rw [List.cons_append, lex, lex, ih]
      rfl

theorem lex_signs (i : Nat) (cs : List Char) (ls : List Lexeme) :
    d.lex bound i (cs.map .sign) ls = cs.foldr sign ls := by
  induction cs with
  | nil => rfl
  | cons c cs ih => rw [List.map_cons, lex, ih, List.foldr_cons]

end Dialect

/-! ### Names -/

/-- A piece that belongs to a word. -/
def Piece.IsLetter : Piece → Prop
  | sign c => c ≠ ' ' ∧ ['(', ')', ','].contains c = false
  | quote _ | inner _ => True
  | place _ => False

instance Piece.decidableIsLetter : DecidablePred Piece.IsLetter
  | sign c => inferInstanceAs (Decidable (c ≠ ' ' ∧ ['(', ')', ','].contains c = false))
  | quote _ | inner _ => inferInstanceAs (Decidable True)
  | place _ => inferInstanceAs (Decidable False)

section Names

open Lexeme

variable {d : Dialect} {bound : Nat → Option Value}

/-- Pieces without blanks, marks and placeholders are one word, spelled without the quotes. -/
theorem Dialect.lex_letters (i : Nat) {ps : List Piece} (h : ∀ x ∈ ps, x.IsLetter) (hne : ps ≠ [])
    (ls : List Lexeme) : d.lex bound i ps ls = spell (d.neutralFrom i ps) ls := by
  induction ps with
  | nil => exact absurd rfl hne
  | cons x ps ih =>
    have hx := h x (by simp)
    have ih := ih fun y hy => h y (List.mem_cons_of_mem x hy)
    cases x with
    | place t => exact hx.elim
    | inner c =>
      cases ps with
      | nil => rfl
      | cons y ps => rw [lex, ih (by simp), spell_spell, neutralFrom, List.singleton_append]
    | quote c =>
      cases ps with
      | nil => rw [lex, lex, neutralFrom, neutralFrom_nil, List.append_nil]
      | cons y ps => rw [lex, ih (by simp), spell_spell, neutralFrom]
    | sign c =>
      have hs : ∀ ls, sign c ls = spell [c] ls := by
        intro ls
        rw [sign, if_neg hx.1, hx.2]
        rfl
      cases ps with
      | nil => rw [lex, lex, hs, neutralFrom, neutralFrom_nil]
      | cons y ps => rw [lex, ih (by simp), hs, spell_spell, neutralFrom, List.singleton_append]

/-- Only dots and stars of a quoted name stand outside its quotes. -/
theorem Token.sign_mem_pieces_name (hq : d.quotes ∈ Quotes.usual) {i : Nat} {n : Name} {c : Char}
    (h : .sign c ∈ (Token.name n).pieces d i) : c = '.' ∨ c = '*' := by
  obtain ⟨bs, p, hr, -, hbs⟩ := Scanner.reads_quoteChars (s := d.scanner) hq n.notMem_paren
  refine hbs c ?_
  rw [← hr.outside]
  exact (Scanner.mem_outside_of_sign h).resolve_left (by simp [Scanner.ending])

theorem Token.place_notMem_pieces_name (hq : d.quotes ∈ Quotes.usual) {i : Nat} {n : Name}
    {t : String} : .place t ∉ (Token.name n).pieces d i := by
  have h : ((Token.name n).pieces d i).filterMap Piece.place? = [] :=
    List.length_eq_zero_iff.1 ((Token.name n).length_places_pieces hq i)
  intro hm
  exact absurd (List.filterMap_eq_nil_iff.1 h _ hm) (by simp [Piece.place?])

theorem Token.isLetter_of_mem_name (hq : d.quotes ∈ Quotes.usual) {i : Nat} {n : Name} {x : Piece}
    (h : x ∈ (Token.name n).pieces d i) : x.IsLetter := by
  cases x with
  | place t => exact place_notMem_pieces_name hq h
  | quote c | inner c => trivial
  | sign c => rcases sign_mem_pieces_name hq h with rfl | rfl <;> exact ⟨by decide, by decide⟩

end Names

/-! ### Phrases -/

open Lexeme

/-- A token in front of what follows it. -/
def Token.lex : Token → List Lexeme → List Lexeme
  | text s, ls => spellText s ls
  | name n, ls => spell n.text.toList ls
  | fragment f, ls => spellText f.text ls
  | value v, ls => Lexeme.value v :: ls

namespace Phrase

/-- A phrase in front of what follows it. -/
def lex (p : Phrase) (ls : List Lexeme) : List Lexeme := p.foldr Token.lex ls

/-- The lexemes of a phrase. -/
def lexemes (p : Phrase) : List Lexeme := solid (p.lex [])

@[simp] theorem lex_append (p q : Phrase) (ls : List Lexeme) :
    lex (p ++ q) ls = p.lex (q.lex ls) := List.foldr_append

end Phrase

section Reading

variable {d : Dialect} {bound : Nat → Option Value}

/-- A name is not empty. -/
theorem Name.text_ne_nil (n : Name) : n.text.toList ≠ [] := by
  intro h
  have hn := n.isName_text
  rw [isName, h] at hn
  cases hn

theorem Token.lex_pieces (hq : d.quotes ∈ Quotes.usual) {t : Token} {i : Nat}
    (hb : ∀ v ∈ t.values, bound i = some v) (ls : List Lexeme) :
    d.lex bound i (t.pieces d i) ls = t.lex ls := by
  cases t with
  | text s => exact Dialect.lex_signs i _ ls
  | fragment f => exact Dialect.lex_signs i _ ls
  | value v =>
    have hv : bound i = some v := hb v (by simp [Token.values])
    rw [pieces, Dialect.lex, Dialect.lex, PlaceholderStyle.number_render, place, hv, Token.lex]
  | name n =>
    have hneutral : d.neutralFrom i ((Token.name n).pieces d i) = n.text.toList :=
      Token.neutralFrom_pieces hq i (.name n)
    have hne : (Token.name n).pieces d i ≠ [] := by
      intro h
      rw [h] at hneutral
      exact n.text_ne_nil hneutral.symm
    rw [Dialect.lex_letters i (fun x => isLetter_of_mem_name hq) hne, hneutral, Token.lex]

theorem Phrase.lex_pieces (hq : d.quotes ∈ Quotes.usual) {p : Phrase} {i : Nat}
    (hb : ∀ k v, (values p)[k]? = some v → bound (i + k) = some v) (ls : List Lexeme) :
    d.lex bound i (p.pieces d i) ls = p.lex ls := by
  induction p generalizing i with
  | nil => rfl
  | cons t p ih =>
    rw [values_cons] at hb
    have ht : ∀ v ∈ t.values, bound i = some v := by
      intro v hv
      refine hb 0 v ?_
      cases t <;> simp_all [Token.values]
    have hp : ∀ k v, (values p)[k]? = some v → bound (i + t.values.length + k) = some v := by
      intro k v hv
      rw [Nat.add_assoc]
      refine hb _ v ?_
      rw [List.getElem?_append_right (by omega), Nat.add_sub_cancel_left, hv]
    rw [pieces, Dialect.lex_append, t.length_places_pieces hq, ih hp, Token.lex_pieces hq ht]
    rfl

/-- **A rendered phrase is read as it was meant**, if each placeholder is given its value. -/
theorem Phrase.lexemes_render (hq : d.quotes ∈ Quotes.usual) {p : Phrase} (hn : Neat p) {i : Nat}
    (hb : ∀ k v, (values p)[k]? = some v → bound (i + k) = some v) :
    d.lexemes bound i (p.render d i) = p.lexemes := by
  rw [Dialect.lexemes, pieces_render hq hn, lex_pieces hq hb, lexemes]

/-- The same for a part of a text whose values are given from `start` on, after those of what comes
before it. -/
theorem Phrase.lexemes_render_given (hq : d.quotes ∈ Quotes.usual) {p : Phrase} (hn : Neat p)
    (before after : List Value) {start i : Nat} (hi : i = start + before.length) :
    d.lexemes (given start (before ++ (p.values ++ after))) i (p.render d i) = p.lexemes := by
  refine lexemes_render hq hn fun k v hv => ?_
  have hk : k < p.values.length := (List.getElem?_eq_some_iff.1 hv).1
  rw [hi, Nat.add_assoc, given_add, List.getElem?_append_right (by omega), Nat.add_sub_cancel_left,
    List.getElem?_append_left hk, hv]

end Reading

end BoundSql
