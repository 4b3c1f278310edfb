import BoundSql.Text.Blank
import BoundSql.Text.Case

/-!
# Aggregate functions

The functions a query may apply to a column of its groups.
-/

namespace BoundSql

/-- The aggregate functions. -/
inductive AggregateFunction
  | count
  | sum
  | avg
  | min
  | max
  deriving DecidableEq, Repr

namespace AggregateFunction

/-- The name of the function in a statement. -/
def name : AggregateFunction → String
  | count => "COUNT"
  | sum => "SUM"
  | avg => "AVG"
  | min => "MIN"
  | max => "MAX"

/-- All aggregate functions. -/
def all : List AggregateFunction := [count, sum, avg, min, max]

/-- The function with the given name; blanks around it and the case of its letters do not
matter. -/
def parse? (s : String) : Option AggregateFunction :=
  all.find? fun f => Text.sameLetters f.name (Text.trim s)

end AggregateFunction

end BoundSql
