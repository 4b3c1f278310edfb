import BoundSql.Name.Quotes
import BoundSql.Placeholder

/-!
# Finding placeholders

A text is read one character at a time, and the placeholders outside literals and quoted names
are collected. The reader is an automaton: `scan` over a concatenation is `scan` over the first
part followed by `scan` over the second from the place the first part leads to.
-/

namespace BoundSql

namespace PlaceholderStyle

/-- The characters that make a placeholder of a sigil before them. -/
def starts : PlaceholderStyle → Char → Bool
  | question, _ => false
  | dollar, c => c.isDigit
  | atSign, c => c.isAlpha || c == '_'
  | colon, c => c.isAlphanum || c == '_'

/-- The characters that continue a placeholder. -/
def continues : PlaceholderStyle → Char → Bool
  | question, _ => false
  | dollar, c => c.isDigit
  | atSign, c | colon, c => c.isAlphanum || c == '_'

end PlaceholderStyle

/-- How placeholders and quoted names are told apart from the rest of a text. -/
structure Scanner where
  style : PlaceholderStyle
  quotes : Quotes
  deriving DecidableEq, Repr

namespace Scanner

/-- Where the reader stands. -/
inductive Place
  /-- Outside quotes and placeholders. -/
  | plain
  /-- Inside quotes, up to the given closing character. -/
  | quoted (close : Char)
  /-- Just past the closing character of a quote, which a second one would not end. -/
  | closing (close : Char)
  /-- Just past a sigil. -/
  | sigil
  /-- In a placeholder, of which the given characters have been read, the last one first. -/
  | token (read : List Char)
  deriving DecidableEq, Repr

variable (s : Scanner)

/-- The closing character of the quote that a character opens. -/
def closer? (c : Char) : Option Char :=
  if c = '\'' then some '\''
  else if c = s.quotes.left then some s.quotes.right
  else if c = '"' then some '"'
  else none

/-- The placeholders that are complete when a plain character is read, and the place after. -/
def plainStep (c : Char) : List String × Place :=
  match s.closer? c with
  | some k => ([], .quoted k)
  | none =>
    if c = s.style.sigil then
      if s.style = .question then ([String.ofList [c]], .plain) else ([], .sigil)
    else ([], .plain)

/-- The placeholders that are complete when a character is read, and the place after it. A
second colon after a colon belongs to a cast. -/
def step : Place → Char → List String × Place
  | .plain, c => s.plainStep c
  | .quoted k, c => ([], if c = k then .closing k else .quoted k)
  | .closing k, c => if c = k then ([], .quoted k) else s.plainStep c
  | .sigil, c =>
    if s.style.starts c then ([], .token [c, s.style.sigil])
    else if s.style = .colon ∧ c = ':' then ([], .plain)
    else s.plainStep c
  | .token r, c =>
    if s.style.continues c then ([], .token (c :: r))
    else (String.ofList r.reverse :: (s.plainStep c).1, (s.plainStep c).2)

/-- The placeholder that ends with the text. -/
def Place.pending : Place → List String
  | .token r => [String.ofList r.reverse]
  | _ => []

/-- Outside quotes. -/
def Place.isOutside : Place → Bool
  | .quoted _ => false
  | _ => true

/-- The placeholders complete within a text read from a place on. -/
def scan (p : Place) : List Char → List String
  | [] => []
  | c :: cs => (s.step p c).1 ++ scan (s.step p c).2 cs

/-- The place after a text. -/
def after (p : Place) (cs : List Char) : Place := cs.foldl (fun p c => (s.step p c).2) p

/-- The placeholders of a text, from left to right. -/
def placeholders (text : String) : List String :=
  s.scan .plain text.toList ++ (s.after .plain text.toList).pending

/-- The number of placeholders in a text. -/
def count (text : String) : Nat := (s.placeholders text).length

@[simp] theorem scan_nil (p : Place) : s.scan p [] = [] := rfl

@[simp] theorem scan_cons (p : Place) (c : Char) (cs : List Char) :
    s.scan p (c :: cs) = (s.step p c).1 ++ s.scan (s.step p c).2 cs := rfl

@[simp] theorem after_nil (p : Place) : s.after p [] = p := rfl

@[simp] theorem after_cons (p : Place) (c : Char) (cs : List Char) :
    s.after p (c :: cs) = s.after (s.step p c).2 cs := rfl

theorem after_append (p : Place) (cs ds : List Char) :
    s.after p (cs ++ ds) = s.after (s.after p cs) ds := by
  simp [after]

theorem scan_append (p : Place) (cs ds : List Char) :
    s.scan p (cs ++ ds) = s.scan p cs ++ s.scan (s.after p cs) ds := by
  induction cs generalizing p with
  | nil => rfl
  | cons c cs ih => simp [ih]

example : (Scanner.mk .colon ⟨'"', '"'⟩).placeholders "a = :1 AND \"b:2\" = x::int" = [":1"] := by
  decide +kernel

end Scanner

end BoundSql
