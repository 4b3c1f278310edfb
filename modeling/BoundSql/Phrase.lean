import BoundSql.Dialect
import BoundSql.Fragment
import BoundSql.Value

/-!
# Phrases

A phrase is a piece of a statement before a dialect gives it its text: fixed words, checked
names, checked fragments, and values at the places where they are bound. Rendering quotes the
names and numbers the values from left to right, so a value leaves nothing but a placeholder in
the text, and the list of values is in the order of the placeholders.
-/

namespace BoundSql

/-- The smallest part of a phrase. -/
inductive Token
  /-- Words and signs of the language. -/
  | text (s : String)
  /-- A name, to be quoted. -/
  | name (n : Name)
  /-- An expression, to be written as it is. -/
  | fragment (f : Fragment)
  /-- A value, to be bound. -/
  | value (v : Value)
  deriving DecidableEq

/-- A piece of a statement. -/
abbrev Phrase := List Token

/-- Words and signs of the language as a phrase. -/
def lit (s : String) : Phrase := [.text s]

namespace Phrase

/-- A name as a phrase. -/
def ofName (n : Name) : Phrase := [.name n]

/-- A value as a phrase. -/
def ofValue (v : Value) : Phrase := [.value v]

/-- Phrases one after the other with a separator between them. -/
def join (separator : String) (ps : List Phrase) : Phrase := List.intercalate (lit separator) ps

/-- Phrases with commas between them. -/
def commas (ps : List Phrase) : Phrase := join ", " ps

/-! ### Values -/

/-- The values of a phrase, from left to right. -/
def values : Phrase → List Value
  | [] => []
  | .value v :: p => v :: values p
  | _ :: p => values p

@[simp] theorem values_nil : values [] = [] := rfl

@[simp] theorem values_lit (s : String) : values (lit s) = [] := rfl

@[simp] theorem values_ofName (n : Name) : values (ofName n) = [] := rfl

@[simp] theorem values_ofValue (v : Value) : values (ofValue v) = [v] := rfl

@[simp] theorem values_append (p q : Phrase) : values (p ++ q) = values p ++ values q := by
  induction p with
  | nil => rfl
  | cons t p ih => cases t <;> simp [values, ih]

/-! ### Text -/

/-- The text of a phrase whose first value has the placeholder with number `i`. -/
def renderFrom (d : Dialect) : Nat → Phrase → List Char
  | _, [] => []
  | i, .text s :: p => s.toList ++ renderFrom d i p
  | i, .name n :: p => d.quotes.quoteChars n.text.toList ++ renderFrom d i p
  | i, .fragment f :: p => f.text.toList ++ renderFrom d i p
  | i, .value _ :: p => d.placeholders.chars i ++ renderFrom d (i + 1) p

/-- The text of a phrase whose first value has the placeholder with number `i`. -/
def render (d : Dialect) (i : Nat) (p : Phrase) : String := String.ofList (renderFrom d i p)

@[simp] theorem renderFrom_nil (d : Dialect) (i : Nat) : renderFrom d i [] = [] := rfl

@[simp] theorem renderFrom_lit (d : Dialect) (i : Nat) (s : String) :
    renderFrom d i (lit s) = s.toList := by
  simp [lit, renderFrom]

@[simp] theorem renderFrom_ofName (d : Dialect) (i : Nat) (n : Name) :
    renderFrom d i (ofName n) = d.quotes.quoteChars n.text.toList := by
  simp [ofName, renderFrom]

@[simp] theorem renderFrom_ofValue (d : Dialect) (i : Nat) (v : Value) :
    renderFrom d i (ofValue v) = d.placeholders.chars i := by
  simp [ofValue, renderFrom]

/-- The second part of a phrase is numbered on from the values of the first. -/
theorem renderFrom_append (d : Dialect) (i : Nat) (p q : Phrase) :
    renderFrom d i (p ++ q) = renderFrom d i p ++ renderFrom d (i + (values p).length) q := by
  induction p generalizing i with
  | nil => simp
  | cons t p ih =>
    cases t with
    | value v =>
      simp only [List.cons_append, renderFrom, values, List.length_cons, ih, List.append_assoc]
      rw [Nat.add_right_comm, Nat.add_assoc]
    | _ => simp [renderFrom, values, ih]

@[simp] theorem toList_render (d : Dialect) (i : Nat) (p : Phrase) :
    (render d i p).toList = renderFrom d i p := by
  simp [render]

end Phrase

end BoundSql
