import BoundSql.Progress

/-!
# Assignments

What an update does to one column: set it to a value, add or subtract a value, or choose among
values by another column. Setting a column to the empty text, and a choice among nothing, are
left out of the statement.
-/

namespace BoundSql

/-- How a value changes a column. -/
inductive ChangeMode
  | assign
  | increase
  | decrease
  deriving DecidableEq, Repr

/-- The sign between a column and the value that changes it. -/
def ChangeMode.sign? : ChangeMode → Option String
  | assign => none
  | increase => some "+"
  | decrease => some "-"

/-- One choice: the value of the other column, and what it leads to. -/
structure Branch where
  mode : ChangeMode
  key : Value
  result : Value
  deriving DecidableEq

/-- A change to one column. -/
inductive Assignment
  | plain (field : String) (mode : ChangeMode) (value : Value)
  | cases (field caseField : String) (branches : List Branch)
  deriving DecidableEq

namespace Assignment

open Phrase

/-- The column that is changed. -/
def field : Assignment → String
  | plain f _ _ => f
  | cases f _ _ => f

/-- Whether the assignment is left out of statements. -/
def isSkipped : Assignment → Bool
  | plain _ _ v => v.isEmptyText
  | cases _ _ bs => bs.isEmpty

/-- A name in an assignment to a field. -/
def checkName (field s : String) : Except Error Name :=
  (Name.check s).mapError fun _ => .badAssignment field s

/-- The new value of a column: a value, or the column with a value added or subtracted. -/
def newValue (column : Phrase) (mode : ChangeMode) (v : Value) : Phrase :=
  match mode.sign? with
  | none => ofValue v
  | some sign => column ++ lit " " ++ lit sign ++ lit " " ++ ofValue v

/-- One choice of a case distinction. -/
def branchPhrase (column : Phrase) (b : Branch) : Phrase :=
  lit " WHEN " ++ ofValue b.key ++ lit " THEN " ++ newValue column b.mode b.result

/-- An assignment as it stands in a statement. -/
def phrase : Assignment → Except Error Phrase
  | plain f mode v => do
    let n ← checkName f f
    return ofName n ++ lit " = " ++ newValue (ofName n) mode v
  | cases f g bs => do
    let n ← checkName f f
    let m ← checkName f g
    return ofName n ++ lit " = (CASE " ++ ofName m ++ bs.flatMap (branchPhrase (ofName m)) ++
      lit " END)"

/-- The assignments that are not left out. -/
def effective (as : List Assignment) : List Assignment := as.filter fun a => !a.isSkipped

/-- The assignments that remain, compiled until one fails. -/
def progress (as : List Assignment) : Progress := .run phrase (effective as)

/-- The assignments of a statement, of which there may be none. -/
def listPhrase (as : List Assignment) : Except Error Phrase := (progress as).result commas

end Assignment

end BoundSql
