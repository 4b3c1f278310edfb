import BoundSql.Dialect
import BoundSql.Value

/-!
# Small expressions

Expressions a dialect writes for a caller who builds a piece of a statement by hand: joined
texts, the first value that is not null, a case distinction, a pattern in which wildcards stand
for themselves, and the literal of a date and time.
-/

namespace BoundSql

namespace Dialect

/-- The texts of several expressions joined. -/
def concatText (d : Dialect) (parts : List String) : String :=
  match d.concat with
  | .bars => " || ".intercalate parts
  | .function => "CONCAT(" ++ ", ".intercalate parts ++ ")"

/-- The first of several expressions that is not null. -/
def coalesceText (parts : List String) : String :=
  "COALESCE(" ++ ", ".intercalate parts ++ ")"

/-- A case distinction: conditions with their results, and perhaps a result for all else. -/
def caseText (branches : List (String × String)) (otherwise : Option String) : String :=
  "CASE" ++ String.join (branches.map fun b => " WHEN " ++ b.1 ++ " THEN " ++ b.2) ++
    (otherwise.elim "" fun e => " ELSE " ++ e) ++ " END"

end Dialect

namespace LikeEscape

/-- The characters that a pattern does not match literally. -/
def special : LikeEscape → List Char
  | backslash => ['\\', '%', '_']
  | brackets => ['[', '%', '_']

/-- A special character that stands for itself. -/
def escapeChar : LikeEscape → Char → List Char
  | backslash, c => ['\\', c]
  | brackets, c => ['[', c, ']']

/-- The pattern that stands for the characters themselves. -/
def escape (e : LikeEscape) (cs : List Char) : List Char :=
  cs.flatMap fun c => if e.special.contains c then e.escapeChar c else [c]

@[simp] theorem escape_nil (e : LikeEscape) : e.escape [] = [] := rfl

@[simp] theorem escape_cons (e : LikeEscape) (c : Char) (cs : List Char) :
    e.escape (c :: cs) =
      (if e.special.contains c then e.escapeChar c else [c]) ++ e.escape cs := rfl

end LikeEscape

namespace Dialect

/-- The pattern that stands for the text itself. -/
def escapeLike (d : Dialect) (s : String) : String :=
  String.ofList (d.likeEscape.escape s.toList)

/-- The literal of a date and time in UTC, to the second, if its year can be written. -/
def dateLiteral? (d : Dialect) (t : DateTime) : Option String :=
  t.timestamp?.map fun s => d.dateOpening ++ s ++ d.dateClosing

end Dialect

end BoundSql
