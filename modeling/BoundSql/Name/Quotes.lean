/-!
# Quoted names

A dotted name is quoted segment by segment. Dots inside quotes do not separate segments, the
star stands alone without quotes, and a segment that is quoted already stays as it is. Inside
quotes the closing quote is written twice.
-/

namespace BoundSql

/-- The characters that open and close a quoted name. -/
structure Quotes where
  left : Char
  right : Char
  deriving DecidableEq, Repr

namespace Quotes

variable (q : Quotes)

/-! ### Segments -/

/-- Where a reader of a dotted name stands: outside quotes, inside them, or just past a closing
quote, which a second one would make part of the name. -/
inductive Place
  | outside
  | inside
  | closing
  deriving DecidableEq, Repr

/-- The place after one more character. Only a character read as plain text leads outside. -/
def step : Place → Char → Place
  | .inside, c => if c = q.right then .closing else .inside
  | .closing, c => if c = q.right then .inside else if c = q.left then .inside else .outside
  | .outside, c => if c = q.left then .inside else .outside

/-- The segments of a dotted name, read from a place on. -/
def segmentsFrom (p : Place) : List Char → List (List Char)
  | [] => [[]]
  | c :: cs =>
    let rest := segmentsFrom (q.step p c) cs
    if q.step p c = .outside ∧ c = '.' then [] :: rest else rest.modifyHead (c :: ·)

/-- The segments of a dotted name. -/
def segments (cs : List Char) : List (List Char) := q.segmentsFrom .outside cs

/-! ### Quoting -/

/-- The text with every closing quote written twice. -/
def double (cs : List Char) : List Char :=
  cs.flatMap fun c => if c = q.right then [c, c] else [c]

/-- The text between quotes. -/
def wrap (cs : List Char) : List Char := q.left :: (q.double cs ++ [q.right])

/-- The content of a quoted text after its opening quote. A closing quote that is not doubled
must be the last character. -/
def content? : List Char → Option (List Char)
  | [] => none
  | [c] => if c = q.right then some [] else none
  | c :: d :: cs =>
    if c = q.right then if d = q.right then (content? cs).map (c :: ·) else none
    else (content? (d :: cs)).map (c :: ·)

/-- The content of a quoted segment. -/
def unwrap? : List Char → Option (List Char)
  | [] => none
  | c :: cs => if c = q.left then q.content? cs else none

/-- A segment in quotes; a star and a quoted segment stay as they are. -/
def quoteSegment (s : List Char) : List Char :=
  if s = ['*'] ∨ (q.unwrap? s).isSome then s else q.wrap s

/-- A dotted name with its segments in quotes. A lone star and a text with a parenthesis, which
is an expression and not a name, stay as they are. -/
def quoteChars (cs : List Char) : List Char :=
  if cs = ['*'] ∨ '(' ∈ cs then cs
  else List.intercalate ['.'] ((q.segments cs).map q.quoteSegment)

/-- A dotted name with its segments in quotes. -/
def quote (name : String) : String := String.ofList (q.quoteChars name.toList)

@[simp] theorem toList_quote (name : String) :
    (q.quote name).toList = q.quoteChars name.toList := by
  simp [quote]

@[simp] theorem segmentsFrom_nil (p : Place) : q.segmentsFrom p [] = [[]] := rfl

theorem segmentsFrom_ne_nil (p : Place) (cs : List Char) : q.segmentsFrom p cs ≠ [] := by
  induction cs generalizing p with
  | nil => simp
  | cons c cs ih =>
    simp only [segmentsFrom]
    split
    · simp
    · cases h : q.segmentsFrom (q.step p c) cs with
      | nil => exact absurd h (ih _)
      | cons s ss => simp

@[simp] theorem double_nil : q.double [] = [] := rfl

/-- The content of a wrapped text is the text. -/
theorem content?_double (cs : List Char) : q.content? (q.double cs ++ [q.right]) = some cs := by
  induction cs with
  | nil => simp [content?]
  | cons c cs ih =>
    by_cases h : c = q.right
    · subst h
      simpa [double, content?] using ih
    · have hd : q.double (c :: cs) = c :: q.double cs := by simp [double, h]
      rw [hd, List.cons_append]
      cases hr : q.double cs ++ [q.right] with
      | nil => simp at hr
      | cons d ds => rw [← hr] ; rw [hr] at ih ⊢; simp [content?, h, ih]

@[simp] theorem unwrap?_wrap (cs : List Char) : q.unwrap? (q.wrap cs) = some cs := by
  simp [wrap, unwrap?, content?_double]

end Quotes

end BoundSql
