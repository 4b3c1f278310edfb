import BoundSql.Page
import BoundSql.Proofs.Phrase.Lexemes

/-!
# The rows of a page

What a page selects is read from its text and its values alone, with each value given to the
placeholder that bears its number. The five forms write the two numbers in different orders, and
the one that compares row numbers writes their sum, which stops at the largest word. All of them
select the rows of the window (`Dialect.rows_page`).
-/

namespace BoundSql

open Phrase

/-! ### Reading a page -/

namespace Lexeme

/-- How a lexeme looks to a reader who does not care for the values. -/
def shape : Lexeme → String
  | blank => " "
  | mark c => String.singleton c
  | word cs => String.ofList cs
  | value _ => "?"
  | unbound t => t

/-- The number that is given to a placeholder. -/
def number? : Lexeme → Option Nat
  | value (.nat n) => some n.toNat
  | _ => none

end Lexeme

/-- The rows whose numbers, counted from one, are at most `last` and larger than `skipped`. -/
def numberedRows {α : Type} (last skipped : Nat) (rows : List α) : List α :=
  (((rows.zipIdx 1).filter fun x => x.2 ≤ last).filter fun x => skipped < x.2).map Prod.fst

namespace Page

/-- The dialect with the quotes of the standard, which no page needs. -/
def reader (d : Dialect) : Dialect := { d with quotes := ⟨'"', '"'⟩ }

/-- The rows that a page at the end of a statement keeps. -/
def keepSuffix {α : Type} (ls : List Lexeme) (rows : List α) : Option (List α) :=
  match ls.map Lexeme.shape, ls.filterMap Lexeme.number? with
  | ["LIMIT", "?", "OFFSET", "?"], [count, offset] => some ((rows.drop offset).take count)
  | ["LIMIT", "?", ",", "?"], [offset, count] => some ((rows.drop offset).take count)
  | ["OFFSET", "?", "ROWS", "FETCH", "NEXT", "?", "ROWS", "ONLY"], [offset, count] =>
    some ((rows.drop offset).take count)
  | _, _ => none

/-- The rows that a page in front of the selected items keeps. -/
def keepLeading {α : Type} (ls : List Lexeme) (rows : List α) : Option (List α) :=
  match ls.map Lexeme.shape, ls.filterMap Lexeme.number? with
  | ["TOP", "(", "?", ")"], [count] => some (rows.take count)
  | _, _ => none

/-- The rows that a page around a statement keeps. -/
def keepWrap {α : Type} (opening closing : List Lexeme) (rows : List α) : Option (List α) :=
  match opening.map Lexeme.shape, closing.map Lexeme.shape, closing.filterMap Lexeme.number? with
  | ["SELECT", "*", "FROM", "(", "SELECT", "row_.*", ",", "ROWNUM", "rownum_", "FROM", "("],
    [")", "row_", "WHERE", "ROWNUM", "<=", "?", ")", "WHERE", "rownum_", ">", "?"],
    [last, skipped] => some (numberedRows last skipped rows)
  | _, _, _ => none

/-- The rows that the text of a page keeps if its own values are given to the placeholders from
`start` on. -/
def keep {α : Type} (d : Dialect) (start : Nat) (x : Page) (rows : List α) : Option (List α) :=
  let lexemes i text := (reader d).lexemes (Lexeme.given start x.values) i text
  match x with
  | suffix p => keepSuffix (lexemes start (p.render d start)) rows
  | leading p => keepLeading (lexemes start (p.render d start)) rows
  | wrap p q =>
    keepWrap (lexemes start (p.render d start))
      (lexemes (start + p.values.length) (q.render d (start + p.values.length))) rows

end Page

/-! ### Row numbers -/

section RowNumbers

variable {α : Type}

theorem filter_zipIdx_le (rows : List α) (n last : Nat) :
    (rows.zipIdx n).filter (fun x => x.2 ≤ last) = (rows.take (last + 1 - n)).zipIdx n := by
  induction rows generalizing n with
  | nil => simp
  | cons r rows ih =>
    rw [List.zipIdx_cons, List.filter_cons, ih]
    by_cases h : n ≤ last
    · have hs : last + 1 - n = last + 1 - (n + 1) + 1 := by omega
      rw [if_pos (by simpa using h), hs, List.take_succ_cons, List.zipIdx_cons]
    · have hs : last + 1 - n = 0 := by omega
      have hs' : last + 1 - (n + 1) = 0 := by omega
      rw [if_neg (by simpa using h), hs, hs']
      simp

theorem map_filter_zipIdx_lt (rows : List α) (n skipped : Nat) :
    ((rows.zipIdx n).filter fun x => skipped < x.2).map Prod.fst =
      rows.drop (skipped + 1 - n) := by
  induction rows generalizing n with
  | nil => simp
  | cons r rows ih =>
    rw [List.zipIdx_cons, List.filter_cons]
    by_cases h : skipped < n
    · have hs : skipped + 1 - n = 0 := by omega
      have hs' : skipped + 1 - (n + 1) = 0 := by omega
      rw [if_pos (by simpa using h), List.map_cons, ih, hs, hs', List.drop_zero, List.drop_zero]
    · have hs : skipped + 1 - n = skipped + 1 - (n + 1) + 1 := by omega
      rw [if_neg (by simpa using h), ih, hs, List.drop_succ_cons]

theorem numberedRows_eq (last skipped : Nat) (rows : List α) :
    numberedRows last skipped rows = (rows.take last).drop skipped := by
  rw [numberedRows, filter_zipIdx_le, map_filter_zipIdx_lt, Nat.add_sub_cancel,
    Nat.add_sub_cancel]

/-- Row numbers up to the sum select the window, also where the sum stops at the largest word: there
are no more rows than that. -/
theorem numberedRows_saturatingAdd (w : Window) {rows : List α} (h : rows.length ≤ maxWord) :
    numberedRows (saturatingAdd w.offset w.count).toNat w.offset.toNat rows = w.rows rows := by
  rw [numberedRows_eq, toNat_saturatingAdd, Window.rows, List.take_drop]
  by_cases hs : w.offset.toNat + w.count.toNat ≤ maxWord
  · rw [min_eq_left hs]
  · have hs : maxWord ≤ w.offset.toNat + w.count.toNat := by omega
    rw [min_eq_right hs, List.take_of_length_le h, List.take_of_length_le (h.trans hs)]

end RowNumbers

/-! ### Pages without names -/

namespace Phrase

/-- A phrase without names does not depend on the quotes. -/
theorem renderFrom_eq_of_placeholders {d e : Dialect} (hd : d.placeholders = e.placeholders)
    {p : Phrase} (hp : ∀ n, .name n ∉ p) (i : Nat) : renderFrom d i p = renderFrom e i p := by
  induction p generalizing i with
  | nil => rfl
  | cons t p ih =>
    have ht : t.chars d i = t.chars e i := by
      cases t with
      | name n => exact absurd (by simp) (hp n)
      | value v => simp [Token.chars, hd]
      | text | fragment => rfl
    rw [renderFrom_cons, renderFrom_cons, ht, ih fun n hn => hp n (by simp [hn])]

end Phrase

namespace Page

/-- The text of a part of a page is read as it was meant. -/
theorem lexemes_render {d : Dialect} {p : Phrase} (hn : Neat p) (hp : ∀ n, .name n ∉ p)
    (before after : List Value) {start i : Nat} (hi : i = start + before.length) :
    (reader d).lexemes (Lexeme.given start (before ++ (p.values ++ after))) i (p.render d i) =
      p.lexemes := by
  have hq : (reader d).quotes ∈ Quotes.usual := by simp [reader, Quotes.usual]
  have hd : d.placeholders = (reader d).placeholders := rfl
  have hr : p.render d i = p.render (reader d) i :=
    congrArg String.ofList (renderFrom_eq_of_placeholders hd hp i)
  rw [hr, lexemes_render_given hq hn before after hi]

theorem keep_suffix {α : Type} {d : Dialect} {p : Phrase} (hn : Neat p) (hp : ∀ n, .name n ∉ p)
    (start : Nat) (rows : List α) :
    (suffix p).keep d start rows = keepSuffix p.lexemes rows := by
  have h := lexemes_render (d := d) hn hp [] [] (Nat.add_zero start).symm
  rw [List.append_nil, List.nil_append] at h
  rw [← h]
  rfl

theorem keep_leading {α : Type} {d : Dialect} {p : Phrase} (hn : Neat p) (hp : ∀ n, .name n ∉ p)
    (start : Nat) (rows : List α) :
    (leading p).keep d start rows = keepLeading p.lexemes rows := by
  have h := lexemes_render (d := d) hn hp [] [] (Nat.add_zero start).symm
  rw [List.append_nil, List.nil_append] at h
  rw [← h]
  rfl

theorem keep_wrap {α : Type} {d : Dialect} {p q : Phrase} (hn : Neat p) (hp : ∀ n, .name n ∉ p)
    (hn' : Neat q) (hp' : ∀ n, .name n ∉ q) (start : Nat) (rows : List α) :
    (wrap p q).keep d start rows = keepWrap p.lexemes q.lexemes rows := by
  have h := lexemes_render (d := d) hn hp [] q.values (Nat.add_zero start).symm
  have h' := lexemes_render (d := d) hn' hp' p.values [] (rfl : start + p.values.length = _)
  rw [List.nil_append] at h
  rw [List.append_nil] at h'
  rw [← h, ← h']
  rfl

end Page

/-! ### The rows of a window -/

namespace Dialect

variable (d : Dialect) (w : Window) (start : Nat)

/-- **Every form of a page selects the rows of the window**, whatever the number of its first
placeholder, and only a number of rows in front of the items cannot skip rows. -/
theorem rows_page :
    (∀ x, d.page w = .ok x → ∀ (α : Type) (rows : List α), rows.length ≤ maxWord →
      x.keep d start rows = some (w.rows rows)) ∧
    ∀ e, d.page w = .error e ↔
      d.paging = .top ∧ w.offset ≠ 0 ∧ e = .unsupported d.name .topOffset := by
  constructor
  · intro x hx α rows hrows
    unfold page at hx
    cases hp : d.paging <;> rw [hp] at hx <;> dsimp only at hx
    case limitOffset | limitComma | offsetFetch =>
      cases hx
      rw [Page.keep_suffix (by simp +decide [lit, ofValue]) (by simp [lit, ofValue])]
      rfl
    case rowNumber =>
      cases hx
      rw [Page.keep_wrap (by simp +decide [lit]) (by simp [lit])
        (by simp +decide [lit, ofValue]) (by simp [lit, ofValue])]
      exact congrArg some (numberedRows_saturatingAdd w hrows)
    case top =>
      obtain ⟨ho, hx⟩ | ⟨-, hx⟩ := ite_eq_iff.1 hx
      · cases hx
        rw [Page.keep_leading (by simp +decide [lit, ofValue]) (by simp [lit, ofValue])]
        have hw : w.rows rows = rows.take w.count.toNat := by simp [Window.rows, ho]
        rw [hw]
        rfl
      · cases hx
  · intro e
    unfold page
    cases hp : d.paging with
    | top => by_cases ho : w.offset = 0 <;> simp [ho, eq_comm]
    | _ => simp

/-- Row numbers in Oracle before version 12, where the sum stops at the largest word. -/
theorem rows_page_rowNumber :
    let x : Page := .wrap (lit "SELECT * FROM (SELECT row_.*, ROWNUM rownum_ FROM (")
      (lit ") row_ WHERE ROWNUM <= " ++ ofValue (.nat 0xFFFFFFFFFFFFFFFF) ++
        lit ") WHERE rownum_ > " ++ ofValue (.nat 1))
    (oracleVersion 11).page ⟨1, 0xFFFFFFFFFFFFFFFF⟩ = .ok x ∧ [10, 20, 30].length ≤ maxWord ∧
      x.keep (oracleVersion 11) 4 [10, 20, 30] = some [20, 30] := by
  intro x
  have hx : (oracleVersion 11).page ⟨1, 0xFFFFFFFFFFFFFFFF⟩ = .ok x := by decide +kernel
  have hl : [10, 20, 30].length ≤ maxWord := by decide
  refine ⟨hx, hl, ?_⟩
  rw [(rows_page (oracleVersion 11) ⟨1, 0xFFFFFFFFFFFFFFFF⟩ 4).1 x hx Nat [10, 20, 30] hl]
  rfl

end Dialect

end BoundSql
