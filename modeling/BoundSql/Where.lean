import BoundSql.Predicate
import BoundSql.Progress

/-!
# Conditions

A list of predicates as the condition of a statement. The condition begins with a comparison
that always holds, so that it is complete whatever predicates remain.
-/

namespace BoundSql

/-- Predicates in order. -/
abbrev Where := List Predicate

namespace Where

/-! ### Building -/

/-- Adds a predicate. -/
def test (w : Where) (field : String) (operator : Operator) (operand : Operand) : Where :=
  w ++ [{ field := field, operator := operator, operand := operand }]

/-- Joins the last predicate by OR, if there is one. -/
def or (w : Where) : Where :=
  match w.getLast? with
  | some p => w.dropLast ++ [{ p with connective := .or }]
  | none => w

/-- Adds a test for null. -/
def isNull (w : Where) (field : String) : Where :=
  w.test field .isNull (.single (.text "NULL"))

/-- Adds a test for not null. -/
def isNotNull (w : Where) (field : String) : Where :=
  w.test field .isNull (.single (.text "NOT NULL"))

/-- Adds a test for a range. -/
def between (w : Where) (field : String) (low high : Value) : Where :=
  w.test field .between (.list [low, high])

/-- Adds a test for the outside of a range. -/
def notBetween (w : Where) (field : String) (low high : Value) : Where :=
  w.test field .notBetween (.list [low, high])

/-! ### Reading -/

/-- The predicates that are not left out. -/
def effective (w : Where) : Where := w.filter fun p => !p.isSkipped

/-- Whether some predicate remains and the first that does is joined by AND. A first predicate
joined by OR would make the condition hold of every row. -/
def isRestricted (w : Where) : Bool :=
  match w.effective with
  | p :: _ => p.connective == .and
  | [] => false

/-! ### Compiling -/

/-- The comparison that every condition begins with. -/
def base : Phrase := lit "1=1"

/-- The predicates that remain, compiled until one fails. -/
def progress (w : Where) : Progress := .run Predicate.phrase w.effective

/-- The condition made of compiled predicates. -/
def assemble (ps : List Phrase) : Phrase := base ++ ps.flatten

/-- The condition of a statement. -/
def phrase (w : Where) : Except Error Phrase := w.progress.result assemble

end Where

end BoundSql
