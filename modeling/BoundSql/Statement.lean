import BoundSql.Phrase

/-!
# Statements

A finished statement is a text with placeholders and the values to bind to them in order.
-/

namespace BoundSql

/-- A text with placeholders and the values for them. -/
structure Statement where
  sql : String
  params : List Value
  deriving DecidableEq

namespace Statement

/-- A text and its values as a statement. If asked to, compares the number of placeholders in
the text with the number of values. -/
def close (d : Dialect) (verify : Bool) (sql : String) (params : List Value) :
    Except Error Statement :=
  if verify = true ∧ d.scanner.count sql ≠ params.length then
    .error (.placeholderMismatch (d.scanner.count sql) params.length)
  else .ok ⟨sql, params⟩

/-- The statement of a phrase. -/
def ofPhrase (d : Dialect) (verify : Bool) (p : Phrase) : Except Error Statement :=
  close d verify (p.render d 1) p.values

end Statement

end BoundSql
