import BoundSql.Assignment
import BoundSql.Statement
import BoundSql.Where

/-!
# Bindings

A caller who writes a statement by hand collects the values for it piece by piece. The bindings
hold the values so far; every value that is added gets the placeholder with the next number. A
piece that fails leaves bound what was compiled before it failed.
-/

namespace BoundSql

/-- The values bound so far in a statement of a dialect. -/
structure Bindings where
  dialect : Dialect
  values : List Value := []
  deriving DecidableEq

namespace Bindings

/-- The number of the next placeholder. -/
def next (b : Bindings) : Nat := b.values.length + 1

/-- Binds values whose placeholders have been written already. -/
def extend (b : Bindings) (vs : List Value) : Bindings := { b with values := b.values ++ vs }

/-- Binds the values of a phrase and gives its text. -/
def bind (b : Bindings) (p : Phrase) : String × Bindings :=
  (p.render b.dialect b.next, b.extend p.values)

/-- Binds a value and gives its placeholder. -/
def add (b : Bindings) (v : Value) : String × Bindings := b.bind (.ofValue v)

/-- Binds values and gives their placeholders. -/
def addAll (b : Bindings) : List Value → List String × Bindings
  | [] => ([], b)
  | v :: vs =>
    let (s, b) := b.add v
    let (ss, b) := b.addAll vs
    (s :: ss, b)

/-- Binds the values of the compiled items, and gives the text of all of them unless one has
failed. -/
def bindProgress (b : Bindings) (x : Progress) (assemble : List Phrase → Phrase) :
    Except Error String × Bindings :=
  ((x.result assemble).map fun p => p.render b.dialect b.next, b.extend x.values)

/-- Binds the values of a condition and gives its text. -/
def bindWhere (b : Bindings) (w : Where) : Except Error String × Bindings :=
  b.bindProgress w.progress Where.assemble

/-- Binds the values of assignments and gives their text. -/
def bindAssignments (b : Bindings) (as : List Assignment) : Except Error String × Bindings :=
  b.bindProgress (Assignment.progress as) Phrase.commas

/-- The finished statement. -/
def finish (b : Bindings) (sql : String) (verify : Bool) : Except Error Statement :=
  Statement.close b.dialect verify sql b.values

@[simp] theorem values_extend (b : Bindings) (vs : List Value) :
    (b.extend vs).values = b.values ++ vs := rfl

end Bindings

end BoundSql
