/-!
# Maximal runs

The maximal runs of characters of one class in a text, from left to right.
-/

namespace BoundSql.Text

/-- The maximal runs of characters that satisfy `p`, none of them empty. -/
def runs (p : Char → Bool) : List Char → List (List Char)
  | [] => []
  | c :: cs =>
    if p c then
      match cs, runs p cs with
      | d :: _, r :: rs => if p d then (c :: r) :: rs else [c] :: r :: rs
      | _, rs => [c] :: rs
    else runs p cs

@[simp] theorem runs_nil (p : Char → Bool) : runs p [] = [] := rfl

theorem runs_cons_of_not {p : Char → Bool} {c : Char} (h : p c = false) (cs : List Char) :
    runs p (c :: cs) = runs p cs := by
  simp [runs, h]

example : runs Char.isAlpha "ab, c--de".toList = [['a', 'b'], ['c'], ['d', 'e']] := by decide

end BoundSql.Text
