import BoundSql.Calendar
import BoundSql.Number.Binary64

/-!
# Values

The values a statement binds to its placeholders. A value never becomes part of the text of a
statement; where a pattern is built from one, its text form becomes part of another value.
-/

namespace BoundSql

/-- A value to be bound. -/
inductive Value
  | null
  | bool (b : Bool)
  | int (n : Int64)
  | nat (n : UInt64)
  | float (x : Binary64)
  | text (s : String)
  | bytes (bs : List UInt8)
  | dateTime (t : DateTime)
  deriving DecidableEq

namespace Value

/-- A missing value is null. -/
def ofOption : Option Value → Value
  | none => null
  | some v => v

def isNull : Value → Bool
  | null => true
  | _ => false

/-- Null or the empty text: a predicate that compares with such a value is left out. -/
def isBlank : Value → Bool
  | null => true
  | text s => s.isEmpty
  | _ => false

/-- The empty text: an assignment of this value is left out. -/
def isEmptyText : Value → Bool
  | text s => s.isEmpty
  | _ => false

/-- The text of a value inside a pattern. Null, bytes and dates have none. -/
def text? : Value → Option String
  | text s => some s
  | int n => some (signedDecimal n.toInt)
  | nat n => some (decimal n.toNat)
  | float x => some x.text
  | bool b => some (if b then "true" else "false")
  | null | bytes _ | dateTime _ => none

/-- Equality of what is denoted: doubles compare as numbers and dates as moments. Values of
different kinds are never equal. -/
def equal : Value → Value → Bool
  | null, null => true
  | bool a, bool b => a == b
  | int a, int b => a == b
  | nat a, nat b => a == b
  | float a, float b => a.equal b
  | text a, text b => a == b
  | bytes a, bytes b => a == b
  | dateTime a, dateTime b => a.simultaneous b
  | _, _ => false

end Value

end BoundSql
