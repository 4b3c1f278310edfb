import BoundSql.Form

/-!
# Upsertions

An upsertion inserts a row, or updates the row that has the same values in the conflict keys.
-/

namespace BoundSql

/-- The row to insert, the columns by which an existing row is found, and what to update. -/
structure Upsertion where
  table : String
  columns : List String := []
  values : List Value := []
  conflictKeys : List String := []
  /-- The columns to update; by default those that are no conflict keys. -/
  updates : Option (List String) := none
  deriving DecidableEq

namespace Upsertion

/-- The columns to update. -/
def updateColumns (x : Upsertion) : List String :=
  x.updates.getD (x.columns.filter fun c => !x.conflictKeys.contains c)

/-- Refuses a row that is empty or does not have a value for every column, and conflict keys
that are missing or are no columns of the row. -/
def check (x : Upsertion) : Except Error Unit := do
  if x.columns.isEmpty then .error (.badQuery .noUpsertColumn)
  if x.columns.length ≠ x.values.length then
    .error (.badQuery (.upsertWidth x.values.length x.columns.length))
  if x.conflictKeys.isEmpty then .error (.badQuery .noConflictKey)
  match x.conflictKeys.find? fun k => !x.columns.contains k with
  | some k => .error (.badQuery (.strayConflictKey k))
  | none => .ok ()

/-- The statement that inserts or updates the row. -/
def phrase (d : Dialect) (x : Upsertion) : Except Error Phrase := do
  x.check
  let table ← Name.check x.table
  let columns ← Name.checkAll x.columns
  let keys ← Name.checkAll x.conflictKeys
  let updates ← Name.checkAll x.updateColumns
  let parts : Form.UpsertParts :=
    { table := .ofName table
      columns := columns.map .ofName
      values := x.values.map .ofValue
      keys := keys.map .ofName
      updates := updates.map .ofName }
  match d.upsert.bind fun form => Form.upsert? form parts with
  | some p => return p
  | none => .error (.unsupported d.name .upsert)

end Upsertion

end BoundSql
