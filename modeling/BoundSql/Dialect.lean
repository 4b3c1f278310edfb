import BoundSql.Name
import BoundSql.Family
import BoundSql.Name.Quotes
import BoundSql.Placeholder.Scan

/-!
# Dialects

What a dialect decides about the text of a statement, as plain data: how it writes placeholders
and quotes names, and which of a few forms it uses for pages, returned rows, inserts of several
rows, upserts, and small expressions. The default values are those of a dialect that follows
the standard.
-/

namespace BoundSql

/-- How a window of rows is asked for. -/
inductive PageStyle
  /-- `LIMIT count OFFSET offset` at the end. -/
  | limitOffset
  /-- `LIMIT offset, count` at the end. -/
  | limitComma
  /-- `OFFSET offset ROWS FETCH NEXT count ROWS ONLY` at the end. -/
  | offsetFetch
  /-- Two outer queries around the statement that compare row numbers. -/
  | rowNumber
  /-- `TOP (count)` in front of the selected items, which cannot skip rows. -/
  | top
  deriving DecidableEq, Repr

/-- How the columns of inserted rows are returned. -/
inductive ReturningStyle
  | unsupported
  /-- `RETURNING columns` at the end. -/
  | trailing
  /-- `OUTPUT INSERTED.column` after the list of columns. -/
  | output
  deriving DecidableEq, Repr

/-- How several rows are inserted. -/
inductive BatchForm
  /-- One `VALUES` with a tuple for every row. -/
  | tuples
  /-- `INSERT ALL` with an `INTO` for every row. -/
  | intoEach
  deriving DecidableEq, Repr

/-- How a row is inserted or else an existing one updated. -/
inductive UpsertForm
  /-- `INSERT … ON DUPLICATE KEY UPDATE`. -/
  | duplicateKey
  /-- `INSERT … ON CONFLICT … DO`. -/
  | onConflict
  /-- `MERGE` from a list of values. -/
  | mergeValues
  /-- `MERGE` from a query for one row. -/
  | mergeQuery
  deriving DecidableEq, Repr

/-- How texts are joined. -/
inductive ConcatForm
  /-- The operator with two bars. -/
  | bars
  /-- The function `CONCAT`. -/
  | function
  deriving DecidableEq, Repr

/-- How a wildcard stands for itself in a pattern. -/
inductive LikeEscape
  /-- A backslash before it. -/
  | backslash
  /-- Brackets around it. -/
  | brackets
  deriving DecidableEq, Repr

/-- The rules of one dialect. -/
structure Dialect where
  name : String
  family : Option Family := none
  placeholders : PlaceholderStyle
  paging : PageStyle
  returning : ReturningStyle := .unsupported
  quotes : Quotes := ⟨'"', '"'⟩
  /-- Whether a window at the end of a statement must follow an order. -/
  pageNeedsOrder : Bool := false
  batch : BatchForm := .tuples
  /-- The form of an upsert, if the dialect has one. -/
  upsert : Option UpsertForm := none
  trueText : String := "TRUE"
  falseText : String := "FALSE"
  now : String := "CURRENT_TIMESTAMP"
  today : String := "CURRENT_DATE"
  concat : ConcatForm := .bars
  likeEscape : LikeEscape := .backslash
  /-- What stands before the text of a date and time in a literal. -/
  dateOpening : String := "'"
  /-- What stands after the text of a date and time in a literal. -/
  dateClosing : String := "'"
  deriving DecidableEq, Repr

namespace Dialect

/-- The scanner for the placeholders of the dialect. -/
def scanner (d : Dialect) : Scanner := ⟨d.placeholders, d.quotes⟩

/-- The text of a truth value. -/
def boolText (d : Dialect) (b : Bool) : String := if b then d.trueText else d.falseText

/-- A text as a name in the quotes of the dialect, or the error that it is no name. -/
def quoteName (d : Dialect) (s : String) : Except Error String :=
  (Name.check s).map fun n => d.quotes.quote n.text

end Dialect

end BoundSql
