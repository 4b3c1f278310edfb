import BoundSql.Phrase

/-!
# Items compiled one by one

A list of items is compiled from left to right until one of them fails. What the items before
it gave is kept beside the error, since a caller who has bound their values keeps them bound.
-/

namespace BoundSql

/-- The phrases of the items before the first that fails, and its error if one does. -/
structure Progress where
  done : List Phrase
  fault : Option Error
  deriving DecidableEq

namespace Progress

/-- Compiles items until one fails. -/
def run {α : Type _} (f : α → Except Error Phrase) : List α → Progress
  | [] => ⟨[], none⟩
  | a :: as =>
    match f a with
    | .error e => ⟨[], some e⟩
    | .ok p => ⟨p :: (run f as).done, (run f as).fault⟩

/-- The phrase made of all items, or the error of the first that fails. -/
def result (x : Progress) (assemble : List Phrase → Phrase) : Except Error Phrase :=
  match x.fault with
  | some e => .error e
  | none => .ok (assemble x.done)

/-- The values of the compiled items. -/
def values (x : Progress) : List Value := x.done.flatMap Phrase.values

variable {α : Type _} (f : α → Except Error Phrase)

@[simp] theorem run_nil : run f [] = ⟨[], none⟩ := rfl

theorem run_cons_error {a : α} {e : Error} (h : f a = .error e) (as : List α) :
    run f (a :: as) = ⟨[], some e⟩ := by
  simp [run, h]

theorem run_cons_ok {a : α} {p : Phrase} (h : f a = .ok p) (as : List α) :
    run f (a :: as) = ⟨p :: (run f as).done, (run f as).fault⟩ := by
  simp [run, h]

end Progress

end BoundSql
