import BoundSql.Name
import BoundSql.Text.Word

/-!
# Fragments

A selected item with a parenthesis is not a name but an expression, which goes into the
statement as it is. Such a fragment may hold no character that opens a comment, a literal, a
quoted name or a placeholder or that ends a statement, no unbalanced parenthesis, and no word
with which a second statement or a subquery could begin.
-/

namespace BoundSql

open Text

/-! ### What a fragment may not hold -/

/-- The characters that no fragment holds. -/
def forbiddenChars : List Char :=
  [';', '#', '\x00', '?', '$', '@', ':', '\'', '"', '\x60', '[', ']']

/-- The pairs of neighbours that no fragment holds. -/
def forbiddenPairs : List (Char × Char) := [('-', '-'), ('/', '*'), ('*', '/')]

/-- The words that no fragment holds, in lower case. -/
def forbiddenWords : List String :=
  ["union", "select", "insert", "update", "delete", "drop", "alter", "create", "truncate",
    "exec", "execute", "grant", "revoke", "merge", "call", "sleep", "benchmark", "waitfor"]

/-- Whether two characters stand next to each other somewhere in the text. -/
def hasPair (p : Char × Char) : List Char → Bool
  | c :: d :: cs => (c == p.1 && d == p.2) || hasPair p (d :: cs)
  | _ => false

/-- Open parentheses after one more character; none once more are closed than were open. -/
def parenStep (depth : Nat) (c : Char) : Option Nat :=
  if c = '(' then some (depth + 1)
  else if c = ')' then if depth = 0 then none else some (depth - 1)
  else some depth

/-- Whether every parenthesis has its partner. -/
def isBalanced (cs : List Char) : Bool := cs.foldlM parenStep 0 == some 0

/-- The letter a character is compared as: its lower case, where the long s counts as an s and
the sign for kelvin as a k. -/
def foldLetter (c : Char) : Char :=
  if c = '\u017F' then 's' else if c = '\u212A' then 'k' else c.toLower

/-- A forbidden word, or a word with the prefix of stored procedures. -/
def isForbiddenWord (w : List Char) : Bool :=
  let f := w.map foldLetter
  forbiddenWords.any (fun k => k.toList == f) || ['x', 'p', '_'].isPrefixOf f

/-- Whether the characters, blanks at the ends removed, make a fragment. -/
def isFragmentText (cs : List Char) : Bool :=
  !cs.isEmpty && cs.all (fun c => !forbiddenChars.contains c) &&
    forbiddenPairs.all (fun p => !hasPair p cs) && isBalanced cs &&
    (runs isWordChar cs).all fun w => !isForbiddenWord w

/-- Whether a text is a fragment. -/
def isFragment (s : String) : Bool := isFragmentText (trimChars s.toList)

/-! ### Selected items -/

/-- A fragment, checked. -/
structure Fragment where
  text : String
  isFragment_text : isFragment text = true
  deriving DecidableEq

/-- The text as a fragment, or the error that it is none. -/
def Fragment.check (s : String) : Except Error Fragment :=
  if h : isFragment s = true then .ok ⟨s, h⟩ else .error (.unsafeFragment s)

theorem Fragment.check_eq_ok_iff {s : String} {f : Fragment} :
    Fragment.check s = .ok f ↔ f.text = s := by
  unfold Fragment.check
  split
  · rename_i h
    constructor
    · intro e; cases e; rfl
    · rintro rfl; rfl
  · rename_i h
    constructor
    · intro e; cases e
    · rintro rfl; exact absurd f.isFragment_text h

end BoundSql
