import BoundSql.Aggregate
import BoundSql.Number.Decimal
import BoundSql.Text.Quoted

/-!
# Errors

Why a statement is not built, and the message that says so. Every cause belongs to one of four
kinds: the dialect, the description, the guard over modifications, or the finished statement.
-/

namespace BoundSql

open Text

/-- The parts of the language that not every dialect has. -/
inductive Feature
  | topOffset
  | returning
  | upsert
  deriving DecidableEq, Repr

/-- The wording of a feature in messages. -/
def Feature.name : Feature → String
  | topOffset => "TOP pagination with a non-zero offset"
  | returning => "RETURNING"
  | upsert => "upsert"

/-- The two changes to existing rows. -/
inductive Change
  | update
  | delete
  deriving DecidableEq, Repr

/-- The name of a change in messages. -/
def Change.name : Change → String
  | update => "update"
  | delete => "delete"

/-- Why the value of a predicate does not fit its operator. -/
inductive PredicateFault
  | listOperand
  | noText
  | notNullTest
  | notPair
  deriving DecidableEq, Repr

/-- The wording of a fault in a predicate. -/
def PredicateFault.message : PredicateFault → String
  | listOperand => "operator expects a single value, got a list"
  | noText => "pattern needs a text value"
  | notNullTest => "IS accepts only NULL or NOT NULL"
  | notPair => "BETWEEN expects a two-element list"

/-- Why a description as a whole makes no statement. -/
inductive QueryFault
  | unknownDirection (text : String)
  | unknownAggregate (text : String)
  | noAggregate
  | starAggregate (f : AggregateFunction)
  | noAssignment
  | noInsertColumn
  | notOneRow (rows : Nat)
  | noRow
  | rowWidth (row values columns : Nat)
  | noUpsertColumn
  | upsertWidth (values columns : Nat)
  | noConflictKey
  | strayConflictKey (key : String)
  deriving DecidableEq, Repr

/-- The wording of a fault in a description. -/
def QueryFault.message : QueryFault → String
  | unknownDirection s => "invalid order direction: " ++ quoted s
  | unknownAggregate s => "unsupported aggregate function " ++ quoted s
  | noAggregate => "aggregate query needs at least one aggregate"
  | starAggregate f => f.name ++ "(*) is not a valid aggregate"
  | noAssignment => "update has no assignment left to render"
  | noInsertColumn => "insert needs at least one column"
  | notOneRow n => "insert expects exactly one row, got " ++ decimal n
  | noRow => "batch insert needs at least one row"
  | rowWidth i v c =>
    "row " ++ decimal i ++ " has " ++ decimal v ++ " values for " ++ decimal c ++ " columns"
  | noUpsertColumn => "upsert needs at least one column"
  | upsertWidth v c => "upsert has " ++ decimal v ++ " values for " ++ decimal c ++ " columns"
  | noConflictKey => "upsert needs at least one conflict key"
  | strayConflictKey k => "conflict key " ++ quoted k ++ " is not an inserted column"

/-- The four kinds of errors. -/
inductive ErrorKind
  | config
  | validation
  | security
  | statement
  deriving DecidableEq, Repr

/-- Why a statement is not built. -/
inductive Error
  /-- No dialect has the name. -/
  | unknownDialect (name : String)
  /-- The dialect cannot express what is asked for. -/
  | unsupported (dialect : String) (feature : Feature)
  /-- The text is not a name. -/
  | badName (text : String)
  /-- The text may not stand among the selected items. -/
  | unsafeFragment (text : String)
  /-- The value of the predicate on the field does not fit its operator. -/
  | badPredicate (field : String) (fault : PredicateFault)
  /-- The assignment to the field names the text, which is not a name. -/
  | badAssignment (field text : String)
  /-- The description makes no statement. -/
  | badQuery (fault : QueryFault)
  /-- The change would not be restricted to some of the rows. -/
  | unguarded (change : Change)
  /-- The finished text does not have as many placeholders as there are values. -/
  | placeholderMismatch (placeholders values : Nat)
  deriving DecidableEq, Repr

namespace Error

/-- The message of an error. -/
def message : Error → String
  | unknownDialect n => "unsupported dialect: " ++ n
  | unsupported d f => "dialect " ++ d ++ " does not support " ++ f.name
  | badName s => "invalid identifier: " ++ quoted s
  | unsafeFragment s => "unsafe sql fragment: " ++ quoted s
  | badPredicate k f => "invalid predicate on " ++ quoted k ++ ": " ++ f.message
  | badAssignment k s =>
    "invalid mutation on " ++ quoted k ++ ": invalid identifier: " ++ quoted s
  | badQuery f => "invalid query: " ++ f.message
  | unguarded c => "refusing " ++ c.name ++ " without any effective predicate"
  | placeholderMismatch p n =>
    "statement has " ++ decimal p ++ " placeholders but " ++ decimal n ++ " params"

/-- The kind of an error. -/
def kind : Error → ErrorKind
  | unknownDialect _ | unsupported _ _ => .config
  | badName _ | unsafeFragment _ | badPredicate _ _ | badAssignment _ _ | badQuery _ =>
    .validation
  | unguarded _ => .security
  | placeholderMismatch _ _ => .statement

end Error

end BoundSql
