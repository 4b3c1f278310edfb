import BoundSql.Registry
import BoundSql.Request

/-!
# Composers

A composer answers requests in one dialect. It refuses changes to existing rows that nothing
restricts, and may check the placeholders of every statement against its values.
-/

namespace BoundSql

/-- What a composer is made from. -/
structure Config where
  /-- The name of the dialect. -/
  dialect : String := "mysql"
  /-- Whether to compare the placeholders of every statement with its values. -/
  verify : Bool := true
  deriving DecidableEq, Repr

/-- A dialect to answer requests in. -/
structure Composer where
  dialect : Dialect
  verify : Bool := true
  /-- The registry in which the composer looks up names, if it is not that of its caller. -/
  own : Option Registry := none
  deriving DecidableEq

namespace Composer

/-- The composer of a configuration, its dialect looked up in a registry. -/
def ofConfig (r : Registry) (c : Config) : Except Error Composer × Registry :=
  let (i, r) := r.create c.dialect
  (i.map fun i => { dialect := i.dialect, verify := c.verify }, r)

/-- The composer for the dialect with the given name. -/
def ofName (r : Registry) (name : String) : Except Error Composer × Registry :=
  ofConfig r { dialect := name }

/-- The composer for a dialect, with a registry of its own. -/
def ofDialect (d : Dialect) : Composer := { dialect := d, own := some {} }

/-- The composer for another dialect from the same registry. -/
def switch (r : Registry) (c : Composer) (name : String) : Except Error Composer × Registry :=
  match c.own with
  | none =>
    let (i, r) := r.create name
    (i.map fun i => { c with dialect := i.dialect }, r)
  | some own =>
    let (i, own) := own.create name
    (i.map fun i => { c with dialect := i.dialect, own := some own }, r)

/-- Answers a request. -/
def build (c : Composer) (x : Request) : Except Error Statement := x.guarded c.dialect c.verify

/-- The statements for the rows of a query and for their number. -/
def page (c : Composer) (q : Query) : Except Error (Statement × Statement) := do
  let rows ← c.build (.rows q)
  let total ← c.build (.count q)
  return (rows, total)

end Composer

end BoundSql
