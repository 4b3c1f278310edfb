import BoundSql.Insertion
import BoundSql.Modification
import BoundSql.Query
import BoundSql.Statement
import BoundSql.Upsertion

/-!
# Requests

The eight kinds of statements with their descriptions, and the statement that answers a request.
-/

namespace BoundSql

/-- A statement that is asked for. -/
inductive Request
  /-- The rows of a query. -/
  | rows (q : Query)
  /-- The number of rows of a query, or of its groups. -/
  | count (q : Query)
  /-- The aggregates of a query. -/
  | aggregate (q : Query)
  /-- The insertion of exactly one row. -/
  | insert (x : Insertion)
  /-- The insertion of one or more rows. -/
  | batchInsert (x : Insertion)
  | update (m : Modification)
  | delete (m : Modification)
  | upsert (x : Upsertion)
  deriving DecidableEq

namespace Request

/-- The phrase of a request. -/
def phrase (d : Dialect) : Request → Except Error Phrase
  | rows q => q.rowsPhrase d
  | count q => q.countPhrase
  | aggregate q => q.aggregatePhrase d
  | insert x => x.singlePhrase d
  | batchInsert x => x.batchPhrase d
  | update m => m.updatePhrase
  | delete m => m.deletePhrase
  | upsert x => x.phrase d

/-- The statement of a request. -/
def statement (d : Dialect) (verify : Bool) (r : Request) : Except Error Statement := do
  Statement.ofPhrase d verify (← r.phrase d)

/-- Refuses a change to existing rows that its condition does not restrict. -/
def guard : Request → Except Error Unit
  | update m => m.guard .update
  | delete m => m.guard .delete
  | _ => .ok ()

/-- The statement of a request that passes the guard. -/
def guarded (d : Dialect) (verify : Bool) (r : Request) : Except Error Statement := do
  r.guard
  r.statement d verify

end Request

end BoundSql
