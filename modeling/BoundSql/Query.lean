import BoundSql.Page
import BoundSql.Where

/-!
# Queries

A query reads rows of one table. One description gives three statements: the rows themselves,
their number, and aggregates over groups of them. All three have the same condition.
-/

namespace BoundSql

/-- The direction of an order. -/
inductive Direction
  | asc
  | desc
  deriving DecidableEq, Repr

namespace Direction

/-- The word of a direction. -/
def text : Direction → String
  | asc => "ASC"
  | desc => "DESC"

/-- The direction a text spells; blanks around it and letter case do not matter. -/
def parse (s : String) : Except Error Direction :=
  let w := Text.lower (Text.trim s)
  if w = "asc" then .ok asc
  else if w = "desc" then .ok desc
  else .error (.badQuery (.unknownDirection s))

end Direction

/-- An aggregate function applied to a column, with a name for the result. -/
structure Aggregate where
  function : String
  field : String
  resultAlias : String
  deriving DecidableEq, Repr

/-- What to read. -/
structure Query where
  table : String
  tableAlias : Option String := none
  select : List String := []
  conditions : Where := []
  orderBy : List (String × Direction) := []
  limit : Option Window := none
  groupBy : List String := []
  aggregates : List Aggregate := []
  deriving DecidableEq

/-- The aggregate function with the given name, or the error that there is none. -/
def AggregateFunction.parse (s : String) : Except Error AggregateFunction :=
  match AggregateFunction.parse? s with
  | some f => .ok f
  | none => .error (.badQuery (.unknownAggregate s))

/-- A selected item: an expression if it has a parenthesis, and else a name. -/
def selectItem (s : String) : Except Error Token :=
  if '(' ∈ s.toList then (Fragment.check s).map .fragment else (Name.check s).map .name

/-- A column name as a phrase, or the error that it is no name. -/
def column (s : String) : Except Error Phrase := (Name.check s).map Phrase.ofName

namespace Aggregate

open Phrase

/-- The column an aggregate is applied to. Only a count may be applied to the star. -/
def argument (f : AggregateFunction) (field : String) : Except Error Phrase :=
  if field = "*" then
    if f = .count then .ok (lit "*") else .error (.badQuery (.starAggregate f))
  else column field

/-- The name of the result, which has neither a star nor a dot. -/
def aliasName (a : Aggregate) : Except Error Phrase :=
  if a.resultAlias.toList.any (fun c => c == '*' || c == '.') then .error (.badName a.resultAlias)
  else column a.resultAlias

/-- An aggregate as a selected item. -/
def phrase (a : Aggregate) : Except Error Phrase := do
  let f ← AggregateFunction.parse a.function
  let x ← argument f a.field
  let n ← a.aliasName
  return lit f.name ++ lit "(" ++ x ++ lit ") AS " ++ n

end Aggregate

namespace Query

open Phrase

/-! ### Parts -/

/-- The table, followed by its alias if it has one. -/
def source (q : Query) : Except Error Phrase := do
  let t ← column q.table
  match q.tableAlias with
  | some a => return t ++ lit " " ++ (← column a)
  | none => return t

/-- The columns that rows are grouped by. -/
def groups (q : Query) : Except Error (List Phrase) := q.groupBy.mapM column

/-- A column and the direction in which it orders the rows. -/
def orderItem (o : String × Direction) : Except Error Phrase :=
  (column o.1).map fun c => c ++ lit " " ++ lit o.2.text

/-- A list of items after the words that introduce it, or nothing if there are no items. -/
def clause (words : String) (items : List Phrase) : Phrase :=
  if items.isEmpty then [] else lit words ++ commas items

/-- The selected items, or else everything. -/
def projection (q : Query) : Except Error Phrase := do
  let items ← q.select.mapM selectItem
  if items.isEmpty then
    match q.tableAlias with
    | some a => return (← column a) ++ lit ".*"
    | none => return lit "*"
  else return commas (items.map fun t => [t])

/-- The groups and aggregates as selected items. -/
def aggregateProjection (q : Query) : Except Error Phrase := do
  if q.aggregates.isEmpty then .error (.badQuery .noAggregate)
  let gs ← q.groups
  let as ← q.aggregates.mapM Aggregate.phrase
  return commas (gs ++ as)

/-- The page for the limit of a query, if it has one. -/
def page (d : Dialect) (q : Query) : Except Error (Option Page) :=
  match q.limit with
  | some w => (d.page w).map some
  | none => .ok none

/-- A statement with a page added to it. A page at the end follows an order where the dialect
asks for one. -/
def addPage (d : Dialect) (ordered : Bool) (page : Option Page) (body : Phrase) : Phrase :=
  match page with
  | none => body
  | some (.suffix p) =>
    if !ordered && d.pageNeedsOrder then
      (Page.suffix p).apply (body ++ lit " ORDER BY (SELECT NULL)")
    else (Page.suffix p).apply body
  | some x => x.apply body

/-! ### Statements -/

/-- The statement that reads the given items. -/
def assemble (d : Dialect) (q : Query) (items : Phrase) : Except Error Phrase := do
  let source ← q.source
  let page ← q.page d
  let condition ← q.conditions.phrase
  let gs ← q.groups
  let os ← q.orderBy.mapM orderItem
  return addPage d (!os.isEmpty) page
    (lit "SELECT " ++ items ++ lit " FROM " ++ source ++ lit " WHERE " ++ condition ++
      clause " GROUP BY " gs ++ clause " ORDER BY " os)

/-- The statement that reads the rows. -/
def rowsPhrase (d : Dialect) (q : Query) : Except Error Phrase := do
  q.assemble d (← q.projection)

/-- The statement that reads aggregates. -/
def aggregatePhrase (d : Dialect) (q : Query) : Except Error Phrase := do
  q.assemble d (← q.aggregateProjection)

/-- The statement that counts the rows, or the groups if there are any. -/
def countPhrase (q : Query) : Except Error Phrase := do
  let source ← q.source
  let condition ← q.conditions.phrase
  let gs ← q.groups
  if gs.isEmpty then
    return lit "SELECT COUNT(*) FROM " ++ source ++ lit " WHERE " ++ condition
  else
    return lit "SELECT COUNT(*) FROM (SELECT " ++ commas gs ++ lit " FROM " ++ source ++
      lit " WHERE " ++ condition ++ lit " GROUP BY " ++ commas gs ++ lit ") count_"

end Query

end BoundSql
