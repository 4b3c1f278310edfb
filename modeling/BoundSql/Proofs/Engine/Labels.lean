import BoundSql.Proofs.Engine.Statements
import BoundSql.Proofs.Form.Parts

/-!
# Placeholders as parts

An engine gets the placeholders of a row as texts, while a form has the values themselves in its
places and numbers them when it is rendered. Both give the same text in the engine of a dialect
(`Dialect.insertText_placeholders`, `Dialect.batchText_placeholders`,
`Dialect.upsertText?_placeholders`).

In between stands the form with the placeholder of each value in place of the value, as a text to be
bound. Whether values are rendered or such texts are spelled out makes no difference, as long as the
placeholders come in their order (`Phrase.render_spelled`).
-/

namespace BoundSql

open Phrase

/-! ### Labelled phrases -/

namespace Token

/-- A token without its value. -/
def unbound : Token → Token
  | .value _ => .value .null
  | t => t

/-- A token spelled out, where the value of a token is the text of its placeholder. -/
def spelled (d : Dialect) : Token → Token
  | .text s => .text s
  | .name n => .text (d.quotes.quote n.text)
  | .fragment f => .text f.text
  | .value (.text s) => .text s
  | .value v => .value v

end Token

namespace Phrase

variable {d : Dialect}

theorem renderFrom_unbound (i : Nat) (p : Phrase) :
    renderFrom d i (p.map Token.unbound) = renderFrom d i p := by
  induction p generalizing i with
  | nil => rfl
  | cons t p ih => cases t <;> simp [Token.unbound, renderFrom, ih]

/-- The placeholders of `n` values as texts to be bound. -/
def labels (d : Dialect) (i n : Nat) : List Value := (d.engine.placeholdersFrom i n).map .text

theorem renderFrom_spelled (i j : Nat) {n : Nat} {p : Phrase} (h : p.values = labels d i n) :
    renderFrom d j (p.map (Token.spelled d)) = renderFrom d i p := by
  induction p generalizing i n with
  | nil => rfl
  | cons t p ih =>
    cases t with
    | value v =>
      cases n with
      | zero => cases h
      | succ n =>
        rw [labels, Engine.placeholdersFrom, List.range'_succ] at h
        obtain ⟨hv, hp⟩ := List.cons.inj h
        subst hv
        have hrest := ih (i + 1) hp
        simp [Token.spelled, renderFrom, hrest, PlaceholderStyle.chars]
    | _ => simp [Token.spelled, renderFrom, ih i h]

/-- Phrases with values in the same places have one text, whether the values are rendered or the
placeholders are spelled out. -/
theorem render_spelled {p q : Phrase} (h : q.map Token.unbound = p.map Token.unbound) {n : Nat}
    (hq : q.values = labels d 1 n) : render d 1 (q.map (Token.spelled d)) = render d 1 p := by
  apply String.toList_inj.1
  rw [toList_render, toList_render, renderFrom_spelled 1 1 hq, ← renderFrom_unbound, h,
    renderFrom_unbound]

end Phrase

/-! ### Rows -/

section Rows

variable {d : Dialect} (i : Nat)

theorem flatten_placeholderRows (E : Engine) (rows : List (List Value)) :
    (E.placeholderRows i rows).flatten = E.placeholdersFrom i rows.flatten.length := by
  induction rows generalizing i with
  | nil => rfl
  | cons r rows ih =>
    rw [Engine.placeholderRows, List.flatten_cons, ih, List.flatten_cons, List.length_append,
      Engine.placeholdersFrom, Engine.placeholdersFrom, Engine.placeholdersFrom, ← List.map_append,
      List.range'_append_1]

/-- A row of placeholders as texts to be bound. -/
def labelRow (ss : List String) : List Phrase := ss.map fun s => ofValue (.text s)

theorem spelled_labelRow (ss : List String) :
    (labelRow ss).map (List.map (Token.spelled d)) = ss.map lit := by
  simp [labelRow, ofValue, lit, Token.spelled]

theorem allValues_labelRow (ss : List String) : allValues (labelRow ss) = ss.map .text := by
  unfold labelRow
  rw [← allValues_ofValue (ss.map .text), List.map_map]
  rfl

theorem unbound_labelRow (E : Engine) (vs : List Value) :
    (labelRow (E.placeholdersFrom i vs.length)).map (List.map Token.unbound) =
      (vs.map ofValue).map (List.map Token.unbound) := by
  simp [labelRow, Engine.placeholdersFrom, ofValue, Token.unbound, Function.comp_def]

theorem unbound_labelRows (E : Engine) (rows : List (List Value)) :
    ((E.placeholderRows i rows).map labelRow).map (List.map (List.map Token.unbound)) =
      (Insertion.rowPhrases rows).map (List.map (List.map Token.unbound)) := by
  unfold Insertion.rowPhrases
  induction rows generalizing i with
  | nil => rfl
  | cons r rows ih =>
    simp only [Engine.placeholderRows, List.map_cons]
    rw [ih, unbound_labelRow]

theorem flatMap_labelRows (rows : List (List Value)) :
    ((d.engine.placeholderRows i rows).map labelRow).flatMap allValues =
      labels d i rows.flatten.length := by
  rw [List.flatMap_map, List.flatMap_def]
  simp only [allValues_labelRow]
  rw [← List.map_flatten, flatten_placeholderRows]
  rfl

end Rows

/-! ### Forms -/

namespace Dialect

variable (d : Dialect)

theorem map_spelled_ofName (n : Name) :
    (ofName n).map (Token.spelled d) = lit (d.quotes.quote n.text) := rfl

/-- An insert with placeholders for parts is the insert of the rows. -/
theorem insertText_placeholders (n : Insertion.Names) (rows : List (List Value)) :
    d.engine.insertText (Writer.insertTexts d.engine n (d.engine.placeholderRows 1 rows)) =
      (Form.insert d.returning (.ofName n.table) (n.columns.map .ofName)
        (Insertion.rowPhrases rows) (n.returning.map .ofName)).render d 1 := by
  have hvalues := Form.values_insert (values_ofName n.table) (allValues_ofName n.columns)
    d.returning ((d.engine.placeholderRows 1 rows).map labelRow) (allValues_ofName n.returning)
  rw [flatMap_labelRows] at hvalues
  rw [← render_spelled ?_ hvalues, Form.map_insert fun s => rfl]
  · change d.insertText _ = _
    simp [insertText, Writer.insertTexts, spelled_labelRow, Function.comp_def, map_spelled_ofName]
  · rw [Form.map_insert fun s => rfl, Form.map_insert fun s => rfl, unbound_labelRows]

/-- An insert of several rows with placeholders for parts is the insert of the rows. -/
theorem batchText_placeholders (n : Insertion.Names) (rows : List (List Value)) :
    d.engine.batchText (Writer.insertTexts d.engine n (d.engine.placeholderRows 1 rows)) =
      (Form.batchInsert d.batch d.returning (.ofName n.table) (n.columns.map .ofName)
        (Insertion.rowPhrases rows) (n.returning.map .ofName)).render d 1 := by
  have hvalues := Form.values_batchInsert (values_ofName n.table) (allValues_ofName n.columns)
    d.batch d.returning ((d.engine.placeholderRows 1 rows).map labelRow)
    (allValues_ofName n.returning)
  rw [flatMap_labelRows] at hvalues
  rw [← render_spelled ?_ hvalues, Form.map_batchInsert fun s => rfl]
  · change d.batchText _ = _
    simp [batchText, Writer.insertTexts, spelled_labelRow, Function.comp_def, map_spelled_ofName]
  · rw [Form.map_batchInsert fun s => rfl, Form.map_batchInsert fun s => rfl, unbound_labelRows]

end Dialect

/-! ### Upserts -/

/-- The parts of an upsert with the given names. -/
def Form.UpsertParts.named (table : Name) (columns keys updates : List Name)
    (values : List Phrase) : UpsertParts where
  table := ofName table
  columns := columns.map ofName
  values := values
  keys := keys.map ofName
  updates := updates.map ofName

/-- Parts with values in the same places give one text, if those that are bound in the first are
the placeholders in their order. -/
theorem Form.render_upsert?_spelled {d : Dialect} {form : UpsertForm} {x y : UpsertParts}
    (h : y.map Token.unbound = x.map Token.unbound)
    (hvalues : ∀ q, upsert? form y = some q → ∃ n, q.values = labels d 1 n) :
    (upsert? form (y.map (Token.spelled d))).map (render d 1) =
      (upsert? form x).map (render d 1) := by
  have hmaps : (upsert? form y).map (List.map Token.unbound) =
      (upsert? form x).map (List.map Token.unbound) := by
    rw [map_upsert? fun s => rfl, map_upsert? fun s => rfl, h]
  rw [← map_upsert? fun s => rfl]
  cases hy : upsert? form y with
  | none =>
    rw [hy] at hmaps
    rw [Option.map_eq_none_iff.1 hmaps.symm]
    rfl
  | some q =>
    rw [hy] at hmaps
    obtain ⟨p, hp, hpq⟩ := Option.map_eq_some_iff.1 hmaps.symm
    obtain ⟨n, hn⟩ := hvalues q hy
    rw [hp, Option.map_some, Option.map_some, Option.map_some, render_spelled hpq.symm hn]

/-- An upsert with placeholders for parts is the upsert of the row. -/
theorem Dialect.upsertText?_placeholders (d : Dialect) (table : Name) {columns : List Name}
    (keys updates : List Name) {vs : List Value} (hl : vs.length = columns.length) :
    d.engine.upsertText? ⟨d.engine.quote table.text, columns.map fun n => d.engine.quote n.text,
      d.engine.placeholdersFrom 1 vs.length, keys.map fun n => d.engine.quote n.text,
      updates.map fun n => d.engine.quote n.text⟩ =
      (d.upsert.bind fun form => Form.upsert? form
        (.named table columns keys updates (vs.map ofValue))).map fun p => p.render d 1 := by
  have hunbound := unbound_labelRow 1 d.engine vs
  have hspelled := spelled_labelRow (d := d) (d.engine.placeholdersFrom 1 vs.length)
  generalize hlabels : labelRow (d.engine.placeholdersFrom 1 vs.length) = ps at hunbound hspelled
  have hform : ∀ form, (Form.upsert? form
        ((Form.UpsertParts.named table columns keys updates ps).map (Token.spelled d))).map
          (render d 1) =
      (Form.upsert? form (.named table columns keys updates (vs.map ofValue))).map
        (render d 1) := by
    intro form
    refine Form.render_upsert?_spelled ?_ fun q hq => ⟨vs.length, ?_⟩
    · simp only [Form.UpsertParts.named, Form.UpsertParts.map, hunbound]
    · have hwidth : ps.length = (columns.map ofName).length := by
        simp [← hlabels, labelRow, Engine.placeholdersFrom, hl]
      have hvalues := Form.values_upsert ⟨values_ofName _, allValues_ofName _, allValues_ofName _,
        allValues_ofName _⟩ hwidth hq
      rw [hvalues, ← hlabels]
      exact allValues_labelRow _
  change d.upsertText? _ = _
  unfold upsertText?
  cases d.upsert with
  | none => rfl
  | some form =>
    refine Eq.trans ?_ (hform form)
    simp only [Form.UpsertParts.named, Form.UpsertParts.map, hspelled, List.map_map,
      Function.comp_def, map_spelled_ofName, quote_engine, Option.bind_some]

end BoundSql
