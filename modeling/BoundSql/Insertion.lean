import BoundSql.Form

/-!
# Insertions

An insertion adds rows to one table, one by itself or several at once, and may ask for columns
of the new rows in return.
-/

namespace BoundSql

/-- The rows to insert. -/
structure Insertion where
  table : String
  columns : List String := []
  rows : List (List Value) := []
  returning : List String := []
  deriving DecidableEq

namespace Insertion

/-- The names of an insertion, checked. -/
structure Names where
  table : Name
  columns : List Name
  returning : List Name
  deriving DecidableEq

/-- Checks the names of an insertion, and that the dialect can return what is asked for. -/
def names (d : Dialect) (x : Insertion) : Except Error Names := do
  if x.columns.isEmpty then .error (.badQuery .noInsertColumn)
  if !x.returning.isEmpty && d.returning == .unsupported then
    .error (.unsupported d.name .returning)
  let table ← Name.check x.table
  let columns ← Name.checkAll x.columns
  let returning ← Name.checkAll x.returning
  return ⟨table, columns, returning⟩

/-- Refuses rows that do not have a value for every column. The rows are counted from `i`. -/
def checkWidths (columns : Nat) : Nat → List (List Value) → Except Error Unit
  | _, [] => .ok ()
  | i, r :: rs =>
    if columns = r.length then checkWidths columns (i + 1) rs
    else .error (.badQuery (.rowWidth i r.length columns))

/-- The values of the rows as phrases. -/
def rowPhrases (rs : List (List Value)) : List (List Phrase) :=
  rs.map fun r => r.map Phrase.ofValue

/-- The statement that inserts exactly one row. -/
def singlePhrase (d : Dialect) (x : Insertion) : Except Error Phrase := do
  let n ← x.names d
  if x.rows.length ≠ 1 then .error (.badQuery (.notOneRow x.rows.length))
  checkWidths x.columns.length 0 x.rows
  return Form.insert d.returning (.ofName n.table) (n.columns.map .ofName) (rowPhrases x.rows)
    (n.returning.map .ofName)

/-- The statement that inserts any number of rows but none. -/
def batchPhrase (d : Dialect) (x : Insertion) : Except Error Phrase := do
  let n ← x.names d
  if x.rows.isEmpty then .error (.badQuery .noRow)
  checkWidths x.columns.length 0 x.rows
  return Form.batchInsert d.batch d.returning (.ofName n.table) (n.columns.map .ofName)
    (rowPhrases x.rows) (n.returning.map .ofName)

end Insertion

end BoundSql
