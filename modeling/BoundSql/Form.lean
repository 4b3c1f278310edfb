import BoundSql.Phrase

/-!
# Forms of statements

How the parts of a statement that changes rows are put together, for phrases of any kind in the
places of the table, the columns, the values and the conditions.
-/

namespace BoundSql

namespace Form

open Phrase

/-- A phrase in parentheses. -/
def parens (p : Phrase) : Phrase := lit "(" ++ p ++ lit ")"

/-- `UPDATE table SET assignments WHERE condition` -/
def update (table assignments condition : Phrase) : Phrase :=
  lit "UPDATE " ++ table ++ lit " SET " ++ assignments ++ lit " WHERE " ++ condition

/-- `DELETE FROM table WHERE condition` -/
def delete (table condition : Phrase) : Phrase :=
  lit "DELETE FROM " ++ table ++ lit " WHERE " ++ condition

/-! ### Inserts -/

/-- `table (column, …)` -/
def target (table : Phrase) (columns : List Phrase) : Phrase :=
  table ++ lit " " ++ parens (commas columns)

/-- The columns of the inserted rows as they are returned before the values. -/
def outputClause (style : ReturningStyle) (returning : List Phrase) : Phrase :=
  if style = .output ∧ returning ≠ [] then
    lit " OUTPUT " ++ commas (returning.map fun c => lit "INSERTED." ++ c)
  else []

/-- The columns of the inserted rows as they are returned at the end. -/
def returningClause (style : ReturningStyle) (returning : List Phrase) : Phrase :=
  if style = .trailing ∧ returning ≠ [] then lit " RETURNING " ++ commas returning else []

/-- `INSERT INTO table (column, …) VALUES (value, …), …` with the returned columns. -/
def insert (style : ReturningStyle) (table : Phrase) (columns : List Phrase)
    (rows : List (List Phrase)) (returning : List Phrase) : Phrase :=
  lit "INSERT INTO " ++ target table columns ++ outputClause style returning ++
    lit " VALUES " ++ commas (rows.map fun r => parens (commas r)) ++
    returningClause style returning

/-- `INSERT ALL INTO table (column, …) VALUES (value, …) … SELECT 1 FROM DUAL` -/
def insertAll (table : Phrase) (columns : List Phrase) (rows : List (List Phrase)) : Phrase :=
  lit "INSERT ALL" ++
    (rows.flatMap fun r =>
      lit " INTO " ++ target table columns ++ lit " VALUES " ++ parens (commas r)) ++
    lit " SELECT 1 FROM DUAL"

/-- An insert of several rows. A single row needs no form of its own. -/
def batchInsert (form : BatchForm) (style : ReturningStyle) (table : Phrase)
    (columns : List Phrase) (rows : List (List Phrase)) (returning : List Phrase) : Phrase :=
  if form = .intoEach ∧ 1 < rows.length then insertAll table columns rows
  else insert style table columns rows returning

/-! ### Upserts -/

/-- The parts of an upsert. -/
structure UpsertParts where
  table : Phrase
  columns : List Phrase
  values : List Phrase
  keys : List Phrase
  updates : List Phrase

/-- `a = b` -/
def equation (a b : Phrase) : Phrase := a ++ lit " = " ++ b

/-- `target.c = source.c` -/
def matched (c : Phrase) : Phrase := equation (lit "target." ++ c) (lit "source." ++ c)

/-- `INSERT INTO table (column, …) VALUES (value, …)` -/
def UpsertParts.insertion (x : UpsertParts) : Phrase :=
  lit "INSERT INTO " ++ target x.table x.columns ++ lit " VALUES " ++ parens (commas x.values)

/-- What a duplicate key changes. With nothing to change, a column is assigned to itself: the
first of the conflict keys, or else of the columns. -/
def UpsertParts.duplicateKeyUpdates? (x : UpsertParts) : Option (List Phrase) :=
  if x.updates = [] then (x.keys.head? <|> x.columns.head?).map fun k => [equation k k]
  else some (x.updates.map fun c => equation c (lit "VALUES" ++ parens c))

/-- What a conflict changes. -/
def UpsertParts.conflictAction (x : UpsertParts) : Phrase :=
  if x.updates = [] then lit "DO NOTHING"
  else
    lit "DO UPDATE SET " ++ commas (x.updates.map fun c => equation c (lit "EXCLUDED." ++ c))

/-- The condition under which a row of the table matches the new one. -/
def UpsertParts.matching (x : UpsertParts) : Phrase := join " AND " (x.keys.map matched)

/-- What a merge does with a row that matches, if anything, and with a new one. -/
def UpsertParts.mergeActions (x : UpsertParts) : Phrase :=
  (if x.updates = [] then []
    else lit " WHEN MATCHED THEN UPDATE SET " ++ commas (x.updates.map matched)) ++
  lit " WHEN NOT MATCHED THEN INSERT " ++ parens (commas x.columns) ++ lit " VALUES " ++
    parens (commas (x.columns.map fun c => lit "source." ++ c))

/-- An upsert. It fails only where there is no column to assign to itself. -/
def upsert? (form : UpsertForm) (x : UpsertParts) : Option Phrase :=
  match form with
  | .duplicateKey =>
    x.duplicateKeyUpdates?.map fun us =>
      x.insertion ++ lit " ON DUPLICATE KEY UPDATE " ++ commas us
  | .onConflict =>
    some (x.insertion ++ lit " ON CONFLICT " ++ parens (commas x.keys) ++ lit " " ++
      x.conflictAction)
  | .mergeValues =>
    some (lit "MERGE INTO " ++ x.table ++ lit " AS target USING (VALUES " ++
      parens (commas x.values) ++ lit ") AS source " ++ parens (commas x.columns) ++
      lit " ON " ++ x.matching ++ x.mergeActions ++ lit ";")
  | .mergeQuery =>
    some (lit "MERGE INTO " ++ x.table ++ lit " target USING (SELECT " ++
      commas (List.zipWith (fun v c => v ++ lit " AS " ++ c) x.values x.columns) ++
      lit " FROM DUAL) source ON " ++ parens x.matching ++ x.mergeActions)

end Form

end BoundSql
