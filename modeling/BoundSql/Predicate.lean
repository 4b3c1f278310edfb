import BoundSql.Operator
import BoundSql.Phrase

/-!
# Predicates

A predicate tests one column. Predicates are listed in order, each joined to those before it by
AND or OR, and one whose value is blank is left out of the statement altogether, so that an
empty field of a search form asks for nothing.
-/

namespace BoundSql

/-- What a column is compared with: one value or a list of values. -/
inductive Operand
  | single (v : Value)
  | list (vs : List Value)
  deriving DecidableEq

/-- How a predicate is joined to those before it. -/
inductive Connective
  | and
  | or
  deriving DecidableEq, Repr

/-- The word of a connective. -/
def Connective.text : Connective → String
  | and => "AND"
  | or => "OR"

/-- A test of one column. -/
structure Predicate where
  field : String
  operator : Operator
  operand : Operand := .single .null
  connective : Connective := .and
  deriving DecidableEq

/-- A single blank value. -/
def Operand.isBlank : Operand → Bool
  | single v => v.isBlank
  | list _ => false

/-- Whether the predicate is left out of statements. -/
def Predicate.isSkipped (p : Predicate) : Bool := p.operand.isBlank

/-! ### Tests of a column

The column may be any phrase. -/

namespace Test

open Phrase

/-- `column symbol value` -/
def compare (column : Phrase) (symbol : String) (v : Value) : Phrase :=
  column ++ lit " " ++ lit symbol ++ lit " " ++ ofValue v

/-- `column IN (value, …)`. A single value is no list and leaves the parentheses empty. -/
def member (column : Phrase) (keyword : String) : Operand → Phrase
  | .list vs => column ++ lit " " ++ lit keyword ++ lit " (" ++ commas (vs.map ofValue) ++ lit ")"
  | .single _ => column ++ lit " " ++ lit keyword ++ lit " ()"

/-- `column LIKE pattern` -/
def like (column : Phrase) (pattern : String) : Phrase :=
  column ++ lit " LIKE " ++ ofValue (.text pattern)

/-- `column IS NULL` or `column IS NOT NULL` -/
def null (column : Phrase) (t : NullTest) : Phrase := column ++ lit " IS " ++ lit t.text

/-- `column BETWEEN low AND high` -/
def range (column : Phrase) (keyword : String) (low high : Value) : Phrase :=
  column ++ lit " " ++ lit keyword ++ lit " " ++ ofValue low ++ lit " AND " ++ ofValue high

end Test

/-! ### Predicates as phrases -/

namespace Predicate

/-- The value of a predicate that takes a single one. -/
def value (p : Predicate) : Except Error Value :=
  match p.operand with
  | .single v => .ok v
  | .list _ => .error (.badPredicate p.field .listOperand)

/-- The text that a pattern is made of. -/
def patternText (p : Predicate) : Except Error String := do
  let v ← p.value
  match v.text? with
  | some s => .ok s
  | none => .error (.badPredicate p.field .noText)

/-- The null test that the value of a predicate spells. -/
def nullTest (p : Predicate) : Except Error NullTest := do
  let v ← p.value
  let t? := match v with
    | .text s => NullTest.parse? s
    | _ => none
  match t? with
  | some t => .ok t
  | none => .error (.badPredicate p.field .notNullTest)

/-- The two ends of a range. -/
def ends (p : Predicate) : Except Error (Value × Value) :=
  match p.operand with
  | .list [low, high] => .ok (low, high)
  | _ => .error (.badPredicate p.field .notPair)

/-- The test of a predicate applied to a column. -/
def test (column : Phrase) (p : Predicate) : Except Error Phrase :=
  match p.operator with
  | .equal => p.value.map (Test.compare column "=")
  | .notEqual => p.value.map (Test.compare column "<>")
  | .greater => p.value.map (Test.compare column ">")
  | .less => p.value.map (Test.compare column "<")
  | .greaterEqual => p.value.map (Test.compare column ">=")
  | .lessEqual => p.value.map (Test.compare column "<=")
  | .isIn => .ok (Test.member column "IN" p.operand)
  | .notIn => .ok (Test.member column "NOT IN" p.operand)
  | .contains => p.patternText.map fun s => Test.like column ("%" ++ s ++ "%")
  | .startsWith => p.patternText.map fun s => Test.like column (s ++ "%")
  | .endsWith => p.patternText.map fun s => Test.like column ("%" ++ s)
  | .isNull => p.nullTest.map (Test.null column)
  | .between => p.ends.map fun e => Test.range column "BETWEEN" e.1 e.2
  | .notBetween => p.ends.map fun e => Test.range column "NOT BETWEEN" e.1 e.2

/-- A predicate as it follows those before it. -/
def phrase (p : Predicate) : Except Error Phrase := do
  let n ← Name.check p.field
  let t ← p.test (Phrase.ofName n)
  return lit " " ++ lit p.connective.text ++ lit " " ++ t

end Predicate

end BoundSql
