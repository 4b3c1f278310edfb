import BoundSql.Dialect.Builtin
import BoundSql.Dialect.Scalar
import Mathlib.Data.List.Infix

/-!
# What an escaped pattern matches

How an engine reads a pattern: `%` stands for any run of characters and `_` for any one, unless it
is escaped. Most engines take a backslash with the character after it for that character; SQL
Server has no escape character, and takes a character in brackets for itself. Read in this way,
the escaped form of a text matches this text alone, and between wildcards it finds the texts that
hold it (`Dialect.like_escapeLike`).
-/

namespace BoundSql

/-! ### Patterns -/

/-- What one part of a pattern stands for. -/
inductive Wildcard
  /-- Any run of characters. -/
  | any
  /-- Any one character. -/
  | one
  | literal (c : Char)
  deriving DecidableEq, Repr

/-- Whether a text is made as the parts say, one after the other; every length of a run is
tried. -/
def Wildcard.fits : List Wildcard → List Char → Bool
  | [], cs => cs.isEmpty
  | any :: ps, cs => cs.tails.any (fits ps)
  | one :: ps, _ :: cs => fits ps cs
  | literal a :: ps, c :: cs => a == c && fits ps cs
  | _, [] => false

namespace LikeEscape

/-- The parts of a pattern, if every escape in it is complete and stands for one character. -/
def read : LikeEscape → List Char → Option (List Wildcard)
  | _, [] => some []
  | e, '%' :: cs => (e.read cs).map (.any :: ·)
  | e, '_' :: cs => (e.read cs).map (.one :: ·)
  | backslash, '\\' :: c :: cs => (backslash.read cs).map (.literal c :: ·)
  | backslash, ['\\'] => none
  | brackets, '[' :: c :: ']' :: cs => (brackets.read cs).map (.literal c :: ·)
  | brackets, '[' :: _ => none
  | e, c :: cs => (e.read cs).map (.literal c :: ·)

end LikeEscape

/-- Whether a text is like a pattern, as the engine of the dialect reads it. A pattern that cannot
be read is like nothing. -/
def Dialect.like (d : Dialect) (text pattern : String) : Bool :=
  (d.likeEscape.read pattern.toList).any (Wildcard.fits · text.toList)

/-! ### The parts of an escaped text -/

namespace LikeEscape

@[simp] theorem read_nil (e : LikeEscape) : e.read [] = some [] := by
  cases e <;> rfl

@[simp] theorem read_any (e : LikeEscape) (cs : List Char) :
    e.read ('%' :: cs) = (e.read cs).map (.any :: ·) := by
  cases e <;> rw [read]

/-- A character that is not special is read as itself, whatever follows. -/
theorem read_cons_of_notMem {e : LikeEscape} {c : Char} (h : c ∉ e.special) (cs : List Char) :
    e.read (c :: cs) = (e.read cs).map (.literal c :: ·) := by
  cases e <;> simp [special] at h
  · rw [read] <;> simp [h]
  · rw [read] <;> simp [h]

/-- An escaped character is read as itself, whatever follows. -/
theorem read_escapeChar {e : LikeEscape} {c : Char} (h : c ∈ e.special) (cs : List Char) :
    e.read (e.escapeChar c ++ cs) = (e.read cs).map (.literal c :: ·) := by
  cases e <;> simp [special] at h <;> rcases h with rfl | rfl | rfl <;> rw [escapeChar] <;> rfl

/-- An escaped text is read as its characters, whatever follows. -/
theorem read_escape_append (e : LikeEscape) (cs rest : List Char) :
    e.read (e.escape cs ++ rest) = (e.read rest).map (cs.map .literal ++ ·) := by
  induction cs with
  | nil => simp
  | cons c cs ih =>
    rw [escape_cons, List.append_assoc]
    split
    · rename_i h
      rw [read_escapeChar (by simpa using h), ih, Option.map_map]
      rfl
    · rename_i h
      rw [List.singleton_append, read_cons_of_notMem (by simpa using h), ih, Option.map_map]
      rfl

/-- With wildcards around it, an escaped text is read as its characters between them. -/
theorem read_escape (e : LikeEscape) (cs : List Char) :
    e.read (e.escape cs) = some (cs.map .literal) ∧
    e.read ('%' :: e.escape cs) = some (.any :: cs.map .literal) ∧
    e.read (e.escape cs ++ ['%']) = some (cs.map .literal ++ [.any]) ∧
    e.read ('%' :: (e.escape cs ++ ['%'])) = some (.any :: (cs.map .literal ++ [.any])) := by
  have h := e.read_escape_append cs []
  rw [List.append_nil] at h
  simp [h, read_escape_append]

end LikeEscape

/-! ### What the parts fit -/

namespace Wildcard

theorem fits_any_iff {ps : List Wildcard} {cs : List Char} :
    fits (any :: ps) cs = true ↔ ∃ l r, cs = l ++ r ∧ fits ps r = true := by
  simp only [fits, List.any_eq_true, List.mem_tails]
  constructor
  · rintro ⟨r, ⟨l, rfl⟩, h⟩
    exact ⟨l, r, rfl, h⟩
  · rintro ⟨l, r, rfl, h⟩
    exact ⟨r, List.suffix_append l r, h⟩

/-- Literal characters fit themselves, and what follows them fits what is left. -/
theorem fits_literals_append_iff {as : List Char} {ps : List Wildcard} {cs : List Char} :
    fits (as.map .literal ++ ps) cs = true ↔ ∃ r, cs = as ++ r ∧ fits ps r = true := by
  induction as generalizing cs with
  | nil => simp
  | cons a as ih =>
    cases cs with
    | nil => simp [fits]
    | cons c cs =>
      rw [List.map_cons, List.cons_append, fits, Bool.and_eq_true, beq_iff_eq, ih]
      constructor
      · rintro ⟨rfl, r, rfl, h⟩
        exact ⟨r, rfl, h⟩
      · rintro ⟨r, hr, h⟩
        obtain ⟨rfl, rfl⟩ := List.cons.inj hr
        exact ⟨rfl, r, rfl, h⟩

theorem fits_literals_iff {as cs : List Char} : fits (as.map .literal) cs = true ↔ cs = as := by
  rw [← List.append_nil (as.map _), fits_literals_append_iff]
  simp [fits]

/-- Literal characters and then any run fit what they begin. -/
theorem fits_literals_any_iff {as cs : List Char} :
    fits (as.map .literal ++ [any]) cs = true ↔ as <+: cs := by
  rw [fits_literals_append_iff]
  constructor
  · rintro ⟨r, rfl, -⟩
    exact List.prefix_append as r
  · rintro ⟨r, rfl⟩
    exact ⟨r, rfl, fits_any_iff.2 ⟨r, [], by simp, rfl⟩⟩

/-- Any run and then literal characters fit what these end. -/
theorem fits_any_literals_iff {as cs : List Char} :
    fits (any :: as.map .literal) cs = true ↔ as <:+ cs := by
  simp only [fits_any_iff, fits_literals_iff]
  constructor
  · rintro ⟨l, r, h, rfl⟩
    exact ⟨l, h.symm⟩
  · rintro ⟨l, h⟩
    exact ⟨l, as, h.symm, rfl⟩

/-- Literal characters between any two runs fit what holds them. -/
theorem fits_any_literals_any_iff {as cs : List Char} :
    fits (any :: (as.map .literal ++ [any])) cs = true ↔ as <:+: cs := by
  simp only [fits_any_iff, fits_literals_any_iff]
  constructor
  · rintro ⟨l, r, rfl, h⟩
    exact h.isInfix.trans (List.suffix_append l r).isInfix
  · rintro ⟨l, r, h⟩
    exact ⟨l, as ++ r, by rw [← h, List.append_assoc], List.prefix_append as r⟩

end Wildcard

namespace Dialect

@[simp] theorem toList_escapeLike (d : Dialect) (s : String) :
    (d.escapeLike s).toList = d.likeEscape.escape s.toList := by
  simp [escapeLike]

/-- Of the families only SQL Server escapes with brackets. -/
theorem IsBuiltin.likeEscape_eq_brackets_iff {d : Dialect} (hd : d.IsBuiltin) :
    d.likeEscape = .brackets ↔ d.family = some .sqlServer := by
  obtain f | _ | v := hd
  · cases f <;> decide
  · decide
  · exact iff_of_false (by simp [Dialect.oracleVersion]) (by simp [Dialect.oracleVersion])

/-- **An escaped text is like itself alone.** As a pattern the escaped form of a text is matched by
this text and by no other, with wildcards around it by the texts that hold it, and with one wildcard
by those that begin or end with it. A dialect of the families reads patterns by brackets if it
belongs to SQL Server, and by backslashes otherwise. -/
theorem like_escapeLike (d : Dialect) (s t : String) :
    (d.like t (d.escapeLike s) = true ↔ t = s) ∧
    (d.like t ("%" ++ d.escapeLike s ++ "%") = true ↔ s.toList <:+: t.toList) ∧
    (d.like t (d.escapeLike s ++ "%") = true ↔ s.toList <+: t.toList) ∧
    (d.like t ("%" ++ d.escapeLike s) = true ↔ s.toList <:+ t.toList) ∧
    (d.IsBuiltin → (d.likeEscape = .brackets ↔ d.family = some .sqlServer)) := by
  obtain ⟨hself, hend, hstart, hboth⟩ := d.likeEscape.read_escape s.toList
  have hpercent : "%".toList = ['%'] := rfl
  refine ⟨?_, ?_, ?_, ?_, IsBuiltin.likeEscape_eq_brackets_iff⟩
  · rw [like, toList_escapeLike, hself, Option.any_some, Wildcard.fits_literals_iff,
      String.toList_inj]
  · rw [like, String.toList_append, String.toList_append, toList_escapeLike, hpercent,
      List.append_assoc, List.singleton_append, hboth, Option.any_some,
      Wildcard.fits_any_literals_any_iff]
  · rw [like, String.toList_append, toList_escapeLike, hpercent, hstart, Option.any_some,
      Wildcard.fits_literals_any_iff]
  · rw [like, String.toList_append, toList_escapeLike, hpercent, List.singleton_append, hend,
      Option.any_some, Wildcard.fits_any_literals_iff]

example : (mysql.like "50%" (mysql.escapeLike "50%") = true ∧
    mysql.like "50x" (mysql.escapeLike "50%") = false) ∧
    sqlServer.like "a[%]" ("_" ++ sqlServer.escapeLike "[%]") = true := by decide

end Dialect

end BoundSql
