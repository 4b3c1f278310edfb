import BoundSql.Number.Decimal

/-!
# Placeholders

The four ways to write the place of a bound value: a bare question mark, or a sigil with the
number of the place, counted from one. Two of them also allow a name.
-/

namespace BoundSql

/-- How a dialect writes placeholders. -/
inductive PlaceholderStyle
  | question
  | dollar
  | atSign
  | colon
  deriving DecidableEq, Repr

namespace PlaceholderStyle

/-- The character a placeholder begins with. -/
def sigil : PlaceholderStyle → Char
  | question => '?'
  | dollar => '$'
  | atSign => '@'
  | colon => ':'

/-- What follows the sigil in the placeholder with the given number. -/
def label : PlaceholderStyle → Nat → List Char
  | question, _ => []
  | dollar, i => digits i
  | atSign, i => 'p' :: digits i
  | colon, i => digits i

/-- The placeholder with the given number. -/
def chars (s : PlaceholderStyle) (i : Nat) : List Char := s.sigil :: s.label i

/-- The placeholder with the given number. -/
def render (s : PlaceholderStyle) (i : Nat) : String := String.ofList (s.chars i)

/-- The placeholder with the given name, where the style knows named ones, and otherwise the
one with the given number. -/
def renderNamed (s : PlaceholderStyle) (i : Nat) (name : String) : String :=
  match s with
  | question | dollar => s.render i
  | atSign | colon => String.ofList (s.sigil :: name.toList)

@[simp] theorem toList_render (s : PlaceholderStyle) (i : Nat) :
    (s.render i).toList = s.sigil :: s.label i := by
  simp [render, chars]

end PlaceholderStyle

end BoundSql
