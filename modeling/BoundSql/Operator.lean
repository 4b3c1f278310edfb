import BoundSql.Text.Blank
import BoundSql.Text.Case

/-!
# Operators

The tests a predicate may apply to a column, and the words by which they may be asked for.
-/

namespace BoundSql

/-- The tests of a predicate. -/
inductive Operator
  | equal
  | notEqual
  | greater
  | less
  | greaterEqual
  | lessEqual
  | isIn
  | notIn
  | contains
  | startsWith
  | endsWith
  | isNull
  | between
  | notBetween
  deriving DecidableEq, Repr

namespace Operator

/-- The spellings of the operators, in lower case with single spaces. -/
def spellings : List (String × Operator) :=
  [("=", equal), ("==", equal), ("eq", equal),
    ("<>", notEqual), ("!=", notEqual), ("ne", notEqual), ("neq", notEqual),
    (">", greater), ("gt", greater), ("<", less), ("lt", less),
    (">=", greaterEqual), ("gte", greaterEqual), ("ge", greaterEqual),
    ("<=", lessEqual), ("lte", lessEqual), ("le", lessEqual),
    ("in", isIn), ("not in", notIn), ("nin", notIn), ("notin", notIn),
    ("like", contains), ("contains", contains),
    ("startswith", startsWith), ("starts_with", startsWith),
    ("endswith", endsWith), ("ends_with", endsWith), ("is", isNull),
    ("between", between), ("not between", notBetween), ("notbetween", notBetween)]

/-- The operator of a text. Letter case and the amount of blanks do not matter, and a text that
spells no operator means equality. -/
def parse (s : String) : Operator :=
  (spellings.lookup (Text.lower (" ".intercalate (Text.words s)))).getD equal

/-- The sign of a comparison; other tests have none. -/
def symbol? : Operator → Option String
  | equal => some "="
  | notEqual => some "<>"
  | greater => some ">"
  | less => some "<"
  | greaterEqual => some ">="
  | lessEqual => some "<="
  | _ => none

end Operator

/-- The two outcomes a null test may ask for. -/
inductive NullTest
  | null
  | notNull
  deriving DecidableEq, Repr

namespace NullTest

/-- The words of a null test in a statement. -/
def text : NullTest → String
  | null => "NULL"
  | notNull => "NOT NULL"

/-- The null test a text spells; letter case and the amount of blanks do not matter. -/
def parse? (s : String) : Option NullTest :=
  match Text.words s with
  | [a] => if Text.sameLetters a "null" then some null else none
  | [a, b] =>
    if Text.sameLetters a "not" && Text.sameLetters b "null" then some notNull else none
  | _ => none

end NullTest

end BoundSql
