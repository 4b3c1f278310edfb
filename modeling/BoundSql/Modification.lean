import BoundSql.Assignment
import BoundSql.Form
import BoundSql.Where

/-!
# Modifications

A modification updates or deletes the rows of one table that meet a condition. The statements
take the condition as it is. `guard` refuses a modification that no predicate restricts, or whose
first predicate is joined by OR, since such a condition holds of every row.
-/

namespace BoundSql

/-- Which rows to change, and how. -/
structure Modification where
  table : String
  assignments : List Assignment := []
  conditions : Where := []
  deriving DecidableEq

namespace Modification

/-- The name of the table. -/
def tablePhrase (m : Modification) : Except Error Phrase := (Name.check m.table).map Phrase.ofName

/-- The statement that updates the rows. -/
def updatePhrase (m : Modification) : Except Error Phrase := do
  let table ← m.tablePhrase
  let assignments ← Assignment.listPhrase m.assignments
  if (Assignment.effective m.assignments).isEmpty then .error (.badQuery .noAssignment)
  let condition ← m.conditions.phrase
  return Form.update table assignments condition

/-- The statement that deletes the rows. -/
def deletePhrase (m : Modification) : Except Error Phrase := do
  let table ← m.tablePhrase
  let condition ← m.conditions.phrase
  return Form.delete table condition

/-- Refuses a change that its condition does not restrict. -/
def guard (m : Modification) (c : Change) : Except Error Unit :=
  if m.conditions.isRestricted then .ok () else .error (.unguarded c)

end Modification

end BoundSql
