import BoundSql.Proofs.Outcome
import BoundSql.Proofs.Predicate.Compiled

/-!
# Reading a condition

A reader for conditions that knows nothing of how they are built. It takes a phrase apart into
signs, that is words, parentheses, commas, names and values, and reads them one by one: terms
joined by AND and OR, where a term is `1=1` or a test of a column. It tells the AND of a range from
one that joins two terms. Of a term it keeps whether it always holds, never holds, or may do
either.

What is read from the condition of a statement is `1=1` and then one term for every predicate that
is not left out, each with its own connective (`read_phrase`).
-/

namespace BoundSql

/-! ### Signs -/

/-- The words, parentheses and commas of a text. -/
def signs (s : String) : List String :=
  Text.words (String.ofList (s.toList.flatMap fun c =>
    if ['(', ')', ','].contains c then [' ', c, ' '] else [c]))

/-- The signs of the texts in a condition. -/
@[simp] theorem signs_vocabulary : signs " " = [] ∧ signs "1=1" = ["1=1"] ∧ signs "AND" = ["AND"] ∧
    signs " AND " = ["AND"] ∧ signs "OR" = ["OR"] ∧ signs "=" = ["="] ∧ signs "<>" = ["<>"] ∧
    signs ">" = [">"] ∧ signs "<" = ["<"] ∧ signs ">=" = [">="] ∧ signs "<=" = ["<="] ∧
    signs " LIKE " = ["LIKE"] ∧ signs "IN" = ["IN"] ∧ signs "NOT IN" = ["NOT", "IN"] ∧
    signs " (" = ["("] ∧ signs ", " = [","] ∧ signs ")" = [")"] ∧ signs " ()" = ["(", ")"] ∧
    signs " IS " = ["IS"] ∧ signs "NULL" = ["NULL"] ∧ signs "NOT NULL" = ["NOT", "NULL"] ∧
    signs "BETWEEN" = ["BETWEEN"] ∧ signs "NOT BETWEEN" = ["NOT", "BETWEEN"] := by
  decide +kernel

/-- The parts of a token: its signs if it is a text, and else the token itself. -/
@[simp] def Token.split : Token → List Token
  | .text s => (signs s).map .text
  | t => [t]

/-- A phrase with its texts taken apart. -/
def Phrase.split (p : Phrase) : Phrase := p.flatMap Token.split

@[simp] theorem Phrase.split_nil : split [] = [] := rfl

@[simp] theorem Phrase.split_cons (t : Token) (p : Phrase) :
    split (t :: p) = t.split ++ split p := rfl

@[simp] theorem Phrase.split_append (p q : Phrase) : split (p ++ q) = split p ++ split q :=
  List.flatMap_append

namespace Condition

/-! ### Terms -/

/-- What is known of a term without the rows it is applied to. -/
inductive Term
  /-- It holds of every row. -/
  | always
  /-- It holds of no row. -/
  | never
  /-- It may hold or not. -/
  | atom
  deriving DecidableEq, Repr

/-- What the reader expects next. -/
inductive Mode
  /-- A term. -/
  | term
  /-- The operator of a test, past its column. -/
  | operator
  /-- The rest of an operator that begins with NOT. -/
  | negated
  /-- The value that ends a test. -/
  | value
  /-- The lower end of a range. -/
  | low
  /-- The word between the ends of a range. -/
  | range
  /-- The opening parenthesis of a list, with what the test comes to if the list is empty. -/
  | list (empty : Term)
  /-- The first member of a list or the end of the empty list. -/
  | first (empty : Term)
  /-- A comma after a member of a list, or the end of the list. -/
  | comma
  /-- A further member of a list. -/
  | member
  /-- NULL or NOT NULL. -/
  | null
  /-- NULL after NOT. -/
  | notNull
  /-- Nothing or a connective, past a term. -/
  | past (t : Term)
  deriving DecidableEq, Repr

/-- The operators that a single value follows. -/
@[simp] def infixes : List String := ["=", "<>", ">", "<", ">=", "<=", "LIKE"]

/-- What is expected after a sign within a term. Nothing is in an empty list, and everything is
outside of it. -/
@[simp] def Mode.next : Mode → Token → Option Mode
  | term, .text s => if s = "1=1" then some (past .always) else none
  | term, .name _ => some operator
  | operator, .text s =>
    if s ∈ infixes then some value
    else if s = "IN" then some (list .never)
    else if s = "BETWEEN" then some low
    else if s = "IS" then some null
    else if s = "NOT" then some negated
    else none
  | negated, .text s =>
    if s = "IN" then some (list .always) else if s = "BETWEEN" then some low else none
  | value, .value _ => some (past .atom)
  | low, .value _ => some range
  | range, .text s => if s = "AND" then some value else none
  | list e, .text s => if s = "(" then some (first e) else none
  | first e, .text s => if s = ")" then some (past e) else none
  | first _, .value _ => some comma
  | comma, .text s =>
    if s = "," then some member else if s = ")" then some (past .atom) else none
  | member, .value _ => some comma
  | null, .text s =>
    if s = "NULL" then some (past .atom) else if s = "NOT" then some notNull else none
  | notNull, .text s => if s = "NULL" then some (past .atom) else none
  | _, _ => none

/-! ### The reader -/

/-- A term and how it is joined to those before it. -/
abbrev Item := Connective × Term

/-- What has been read: the terms before the current one, how that one is joined to them, and what
is expected next. -/
structure Reading where
  items : List Item
  connective : Connective
  mode : Mode
  deriving DecidableEq

/-- The connective that a word spells. -/
@[simp] def connective? (s : String) : Option Connective :=
  if s = "AND" then some .and else if s = "OR" then some .or else none

/-- What has been read after one more sign. -/
@[simp] def Reading.step (r : Reading) (t : Token) : Option Reading :=
  match r.mode, t with
  | .past x, .text s => (connective? s).map fun c => ⟨r.items ++ [(r.connective, x)], c, .term⟩
  | m, t => (m.next t).map fun m => { r with mode := m }

/-- What has been read after several more signs. -/
def Reading.run (r : Reading) (p : Phrase) : Option Reading := p.foldlM Reading.step r

/-- The terms of a condition. The first one is not joined to anything. -/
def read (p : Phrase) : Option (List Item) :=
  match Reading.run ⟨[], .and, .term⟩ p.split with
  | some ⟨items, c, .past t⟩ => some (items ++ [(c, t)])
  | _ => none

namespace Reading

@[simp] theorem run_nil (r : Reading) : r.run [] = some r := rfl

@[simp] theorem run_cons (r : Reading) (t : Token) (p : Phrase) :
    r.run (t :: p) = (r.step t).bind fun r => r.run p := rfl

theorem run_append (r : Reading) (p q : Phrase) :
    r.run (p ++ q) = (r.run p).bind fun r => r.run q := by
  simp [run, List.foldlM_append]

end Reading

end Condition

/-! ### Conditions of statements -/

/-- Whether there is nothing in an operand that a column could be equal to. A single value is no
list of values. -/
def Operand.isEmpty : Operand → Bool
  | single _ => true
  | list vs => vs.isEmpty

/-- What a predicate comes to. -/
def Predicate.term (p : Predicate) : Condition.Term :=
  if p.operator = .isIn ∧ p.operand.isEmpty = true then .never
  else if p.operator = .notIn ∧ p.operand.isEmpty = true then .always
  else .atom

namespace Condition

open Phrase

variable (items : List Item) (c : Connective)

/-- The members of a list after the first one, up to the closing parenthesis. -/
theorem run_members (v : Value) (vs : List Value) :
    Reading.run ⟨items, c, .member⟩ (split (commas ((v :: vs).map ofValue) ++ lit ")")) =
      some ⟨items, c, .past .atom⟩ := by
  induction vs generalizing v with
  | nil => simp [commas, join, lit, ofValue]
  | cons w ws ih =>
    have h := ih w
    simp only [List.map_cons, commas, join, List.intercalate_cons_cons] at h ⊢
    simpa [lit, ofValue] using h

/-- A list, from its opening parenthesis on. -/
theorem run_list (e : Term) (vs : List Value) :
    Reading.run ⟨items, c, .list e⟩ (split (lit " (" ++ commas (vs.map ofValue) ++ lit ")")) =
      some ⟨items, c, .past (if vs.isEmpty = true then e else .atom)⟩ := by
  cases vs with
  | nil => simp [commas, join, lit]
  | cons v vs =>
    have h := run_members items c v vs
    cases vs with
    | nil => simp [commas, join, lit, ofValue]
    | cons w ws =>
      simp only [List.map_cons, commas, join, List.intercalate_cons_cons] at h ⊢
      simpa [lit, ofValue] using h

theorem term_of_ne {p : Predicate} (h1 : p.operator ≠ .isIn) (h2 : p.operator ≠ .notIn) :
    p.term = .atom := by
  simp [Predicate.term, h1, h2]

theorem run_member {n : Name} {word : String} {e : Term}
    (h : Reading.run ⟨items, c, .term⟩ (split (ofName n ++ lit " " ++ lit word)) =
      some ⟨items, c, .list e⟩) (o : Operand) :
    Reading.run ⟨items, c, .term⟩ (split (Test.member (ofName n) word o)) =
      some ⟨items, c, .past (if o.isEmpty = true then e else .atom)⟩ := by
  cases o with
  | single v =>
    rw [Test.member, split_append, Reading.run_append, h]
    simp [lit, Operand.isEmpty]
  | list vs =>
    have hl := run_list items c e vs
    rw [List.append_assoc] at hl
    rw [Test.member, List.append_assoc, List.append_assoc, split_append, Reading.run_append, h]
    exact hl

/-- A test is read as the term of its predicate. -/
theorem run_test {p : Predicate} {n : Name} {t : Phrase} (h : p.test (ofName n) = .ok t) :
    Reading.run ⟨items, c, .term⟩ t.split = some ⟨items, c, .past p.term⟩ := by
  cases Predicate.test_eq_ok.1 h with
  | compare hs hv =>
    have ht : p.term = .atom := by
      refine term_of_ne ?_ ?_ <;> intro ho <;> rw [ho] at hs <;> cases hs
    rw [ht]
    cases ho : p.operator <;> rw [ho] at hs <;> cases hs <;>
      simp [Test.compare, lit, ofName, ofValue]
  | @member word hw =>
    cases ho : p.operator <;> rw [ho] at hw <;> cases hw
    · rw [run_member items c (e := .never) (by simp [lit, ofName])]
      simp [Predicate.term, ho]
    · rw [run_member items c (e := .always) (by simp [lit, ofName])]
      simp [Predicate.term, ho]
  | like hv hs hp =>
    have ht : p.term = .atom := by
      refine term_of_ne ?_ ?_ <;> intro ho <;> rw [ho] at hp <;> cases hp
    rw [ht]
    simp [Test.like, lit, ofName, ofValue]
  | @null s t ho hv hs =>
    rw [term_of_ne (by simp [ho]) (by simp [ho])]
    cases t <;> simp [Test.null, NullTest.text, lit, ofName]
  | range hw hv =>
    have ht : p.term = .atom := by
      refine term_of_ne ?_ ?_ <;> intro ho <;> rw [ho] at hw <;> cases hw
    rw [ht]
    cases ho : p.operator <;> rw [ho] at hw <;> cases hw <;> simp [Test.range, lit, ofName, ofValue]

/-- One predicate after another term. -/
theorem run_predicate {p : Predicate} {t : Phrase} (h : p.phrase = .ok t) (x : Term) :
    Reading.run ⟨items, c, .past x⟩ t.split =
      some ⟨items ++ [(c, x)], p.connective, .past p.term⟩ := by
  obtain ⟨n, -, h⟩ := bind_eq_ok.1 h
  obtain ⟨u, hu, h⟩ := bind_eq_ok.1 h
  cases pure_eq_ok.1 h
  have hc : Reading.run ⟨items, c, .past x⟩ (split (lit " " ++ lit p.connective.text ++ lit " ")) =
      some ⟨items ++ [(c, x)], p.connective, .term⟩ := by
    cases p.connective <;> simp [Connective.text, lit]
  rw [split_append, Reading.run_append, hc]
  exact run_test _ _ hu

/-- Several predicates after another term. -/
theorem run_predicates {w : Where} {ps : List Phrase}
    (h : List.Forall₂ (fun p t => Predicate.phrase p = .ok t) w ps) (x : Term) :
    ∃ items' c' x', Reading.run ⟨items, c, .past x⟩ (split ps.flatten) =
        some ⟨items', c', .past x'⟩ ∧
      items' ++ [(c', x')] =
        items ++ (c, x) :: w.map fun p => (p.connective, p.term) := by
  -- The reader keeps the last term open; what counts is the list it would make on closing it.
  induction h generalizing items c x with
  | nil => exact ⟨items, c, x, rfl, rfl⟩
  | @cons p t w ps hp _ ih =>
    obtain ⟨items', c', x', hr, hi⟩ := ih (items ++ [(c, x)]) p.connective p.term
    refine ⟨items', c', x', ?_, ?_⟩
    · rw [List.flatten_cons, split_append, Reading.run_append, run_predicate _ _ hp]
      exact hr
    · rw [hi, List.append_assoc, List.singleton_append, List.map_cons]

/-- **A condition is read as its predicates**, after the comparison that every condition begins
with. -/
theorem read_phrase {w : Where} {clause : Phrase} (h : w.phrase = .ok clause) :
    read clause = some ((.and, .always) :: w.effective.map fun p => (p.connective, p.term)) := by
  rw [Where.phrase_eq] at h
  obtain ⟨ps, hps, rfl⟩ := map_eq_ok.1 h
  obtain ⟨items, c, x, hr, hi⟩ :=
    run_predicates [] .and (mapM_eq_ok.1 hps) .always
  have h0 : Reading.run ⟨[], .and, .term⟩ (split (lit "1=1")) = some ⟨[], .and, .past .always⟩ := by
    simp [lit]
  rw [read, Where.assemble, Where.base, split_append, Reading.run_append, h0, Option.bind_some, hr]
  exact congrArg some hi

end Condition

end BoundSql
