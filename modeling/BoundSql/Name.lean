import BoundSql.Error

/-!
# Names

The names a description may use for tables, columns and aliases: a letter, an underscore or a
star first, then also digits and dots. All letters and digits are those of ASCII, so a name
holds no blank, no quote and no other character with a meaning in a statement.
-/

namespace BoundSql

/-- The characters a name may begin with. -/
def isNameStart (c : Char) : Bool := c.isAlpha || c == '_' || c == '*'

/-- The characters of a name. -/
def isNameChar (c : Char) : Bool := c.isAlphanum || c == '_' || c == '.' || c == '*'

/-- Whether the characters make a name. -/
def isNameText : List Char → Bool
  | [] => false
  | c :: cs => isNameStart c && cs.all isNameChar

/-- Whether a text is a name. -/
def isName (s : String) : Bool := isNameText s.toList

/-- A name, checked. -/
structure Name where
  text : String
  isName_text : isName text = true
  deriving DecidableEq

namespace Name

/-- The text as a name, if it is one. -/
def of? (s : String) : Option Name :=
  if h : isName s = true then some ⟨s, h⟩ else none

/-- The text as a name, or the error that it is none. -/
def check (s : String) : Except Error Name :=
  match of? s with
  | some n => .ok n
  | none => .error (.badName s)

/-- The texts as names, or the error for the first that is none. -/
def checkAll (ss : List String) : Except Error (List Name) := ss.mapM check

theorem of?_eq_some_iff {s : String} {n : Name} : of? s = some n ↔ n.text = s := by
  unfold of?
  split
  · rename_i h
    constructor
    · intro e; cases e; rfl
    · rintro rfl; rfl
  · rename_i h
    constructor
    · intro e; cases e
    · rintro rfl; exact absurd n.isName_text h

theorem check_eq_ok_iff {s : String} {n : Name} : check s = .ok n ↔ n.text = s := by
  rw [← of?_eq_some_iff]
  unfold check
  cases of? s <;> simp

theorem check_eq_error {s : String} (h : isName s = false) : check s = .error (.badName s) := by
  simp [check, of?, h]

end Name

theorem isNameChar_of_isNameStart {c : Char} (h : isNameStart c = true) : isNameChar c = true := by
  simp only [isNameStart, isNameChar, Char.isAlphanum, Bool.or_eq_true] at *
  rcases h with (h | h) | h <;> simp [h]

theorem isNameChar_of_mem {cs : List Char} (h : isNameText cs = true) {c : Char} (hc : c ∈ cs) :
    isNameChar c = true := by
  cases cs with
  | nil => simp at hc
  | cons d ds =>
    simp only [isNameText, Bool.and_eq_true, List.all_eq_true] at h
    rcases List.mem_cons.1 hc with rfl | hc
    · exact isNameChar_of_isNameStart h.1
    · exact h.2 c hc

end BoundSql
