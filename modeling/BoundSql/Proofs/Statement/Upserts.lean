import BoundSql.Proofs.Form.Upserts
import BoundSql.Proofs.Request.Names
import BoundSql.Proofs.Statement.Portability

/-!
# Statements of upserts

The text of an upsert is read in the grammar of the form that the dialect has. In every built-in
dialect it says the same (`Upsertion.readUpsert_statement`): the row is inserted with all its
columns, it is found by all keys where the form names them, and of a row that is already there
exactly the columns to update are assigned.
-/

namespace BoundSql

open Phrase Lexeme

/-! ### Statements -/

/-- What a statement of the dialect says as an upsert. -/
def Dialect.readUpsert (d : Dialect) (st : Statement) : Option Upsert :=
  d.upsert.bind fun form =>
    (Reader.upsert form).whole (d.lexemes (given 1 st.params) 1 st.sql)

section Statements

variable {d : Dialect}

/-- A semicolon at the end of a text is read as a word of its own. -/
theorem Phrase.lexemes_render_semicolon (hq : d.quotes ∈ Quotes.usual) {p : Phrase} (hn : Neat p)
    {i : Nat} {bound : Nat → Option Value}
    (hb : ∀ k v, (values p)[k]? = some v → bound (i + k) = some v) :
    d.lexemes bound i ((p ++ lit ";").render d i) = (p ++ lit ";").lexemes := by
  have hk : d.scanner.Knows .plain := trivial
  have ho := (Scanner.holds_renderFrom hq hn hk rfl (Or.inl rfl) i).isOutside
  have hplain : ∀ c ∈ [';'], d.scanner.IsPlain c := fun c hc =>
    Scanner.isPlain_of_isBreak hq (by rw [List.mem_singleton.1 hc]; decide)
  -- The phrase ends outside quotes, where a semicolon completes what is pending.
  have hp := pieces_renderFrom hq hn hk rfl (Or.inl rfl) i
  have hs := Scanner.pieces_break hq (Scanner.knows_after hk _) ho hplain ⟨';', rfl, rfl⟩
  have hpieces := Scanner.pieces_append_of hp hs
  have hr : ((p ++ lit ";").render d i).toList = renderFrom d i p ++ [';'] := by
    rw [toList_render, renderFrom_append, renderFrom_lit]
    rfl
  rw [Dialect.lexemes, hr, hpieces]
  change solid (d.lex bound i (p.pieces d i ++ [.sign ';']) []) = _
  rw [Dialect.lex_append, lex_pieces hq hb, Phrase.lexemes, Phrase.lex_append]
  rfl

/-- The text of an upsert is read as its phrase, with what ends it. -/
theorem Form.lexemes_render_upsert (hq : d.quotes ∈ Quotes.usual) {form : UpsertForm}
    {x : UpsertParts} (hx : x.Tidy) {p : Phrase} (hp : upsert? form x = some p) :
    d.lexemes (given 1 p.values) 1 (p.render d 1) = p.lexemes := by
  obtain ⟨body, hb, rfl⟩ := tidy_upsert form hx hp
  have hv : values (body ++ terminator form) = values body := by
    cases form <;> simp [terminator]
  have hgiven : ∀ k v, (values body)[k]? = some v → given 1 (values body) (1 + k) = some v := by
    intro k v hk
    rw [given_add, hk]
  rw [hv]
  cases form with
  | mergeValues => exact lexemes_render_semicolon hq hb.neat hgiven
  | duplicateKey | onConflict | mergeQuery =>
    simp only [terminator, List.append_nil]
    exact lexemes_render hq hb.neat hgiven

/-- **A checked upsertion is read as it was meant**, in the form of the dialect. -/
theorem CheckedUpsertion.readUpsert_render (hd : d.IsBuiltin) {form : UpsertForm}
    (hf : d.upsert = some form) (x : CheckedUpsertion) {p : Phrase}
    (hp : Form.upsert? form x.parts = some p) :
    d.readUpsert ⟨p.render d 1, p.values⟩ = some (x.meaning form) := by
  have hx : x.parts.Tidy := ⟨tidy_ofName _, tidy_names, tidy_values, tidy_names, tidy_names⟩
  have hr : Reader.upsert form p.lexemes = some (x.meaning form, []) :=
    Reader.takes_upsert x form hp
  have hl := Form.lexemes_render_upsert hd.quotes_mem hx hp
  rw [Dialect.readUpsert, hf, Option.bind_some]
  dsimp only
  rw [hl, Reader.whole, hr]

end Statements

/-! ### What a statement says -/

/-- A checked upsertion is the given one. -/
structure CheckedUpsertion.Checks (y : CheckedUpsertion) (x : Upsertion) : Prop where
  table : y.table.text = x.table
  columns : y.columns.map Name.text = x.columns
  values : y.values = x.values
  keys : y.keys.map Name.text = x.conflictKeys
  updates : y.updates.map Name.text = x.updateColumns

namespace Upsertion

variable {d : Dialect} {x : Upsertion} {p : Phrase}

theorem columns_ne_nil_of_check {u : Unit} (h : x.check = .ok u) : x.columns ≠ [] := by
  obtain ⟨hc, -⟩ := ite_eq_ok.1 h
  simpa using hc

/-- What is accepted can be checked, and its phrase is that of the form of the dialect. -/
theorem exists_checked (h : x.phrase d = .ok p) :
    ∃ form y, CheckedUpsertion.Checks y x ∧ d.upsert = some form ∧
      Form.upsert? form y.parts = some p := by
  obtain ⟨u, hx, h⟩ := bind_eq_ok.1 h
  obtain ⟨table, ht, h⟩ := bind_eq_ok.1 h
  obtain ⟨columns, hc, h⟩ := bind_eq_ok.1 h
  obtain ⟨keys, hk, h⟩ := bind_eq_ok.1 h
  obtain ⟨updates, hu, h⟩ := bind_eq_ok.1 h
  have hc := Name.map_text_of_checkAll hc
  have hk := Name.map_text_of_checkAll hk
  dsimp only at h
  split at h
  case h_2 => cases h
  case h_1 q hq =>
    cases pure_eq_ok.1 h
    obtain ⟨form, hf, hq⟩ := Option.bind_eq_some_iff.1 hq
    let y : CheckedUpsertion :=
      { table, columns, values := x.values, keys, updates
        columns_ne_nil := by
          rintro rfl
          exact columns_ne_nil_of_check hx hc.symm
        keys_ne_nil := by
          rintro rfl
          exact conflictKeys_ne_nil_of_check hx hk.symm
        length_eq := by
          rw [← length_eq_of_check hx, ← hc, List.length_map] }
    exact ⟨form, y, ⟨Name.check_eq_ok_iff.1 ht, hc, rfl, hk, Name.map_text_of_checkAll hu⟩, hf, hq⟩

/-- What an upsert in the given form says if it says what the upsertion describes. -/
structure IsSaidBy (x : Upsertion) (form : UpsertForm) (u : Upsert) : Prop where
  table : u.table = x.table
  row : u.row = x.columns.zip x.values
  /-- All columns are inserted, each from the column of the same name. -/
  inserted : u.inserted = x.columns.map fun c => (c, c)
  /-- A row is found by all keys, in the forms that name them. -/
  target : u.target =
    if form = .duplicateKey then none else some (x.conflictKeys.map fun k => (k, k))
  /-- The columns that are listed are assigned, each from the column of the same name. -/
  listed : ∀ cs, x.updates = some cs → u.conflict.copied = cs.map fun c => (c, c)
  /-- If none are listed, the columns are assigned that are no keys. -/
  default : x.updates = none →
    u.conflict.copied = (x.columns.filter (· ∉ x.conflictKeys)).map fun c => (c, c)
  keys : x.updates = none → ∀ k ∈ x.conflictKeys, ∀ c, (k, c) ∉ u.conflict.copied
  /-- Nothing else is assigned. -/
  changed : x.updateColumns ≠ [] → u.conflict = .copying x.updateColumns
  /-- With no columns to update, the form has its own way to leave a row as it is. -/
  kept : x.updateColumns = [] → u.conflict = .keeping x.conflictKeys form
  result : ∀ new old,
    u.conflict.result new old = fun c => if c ∈ x.updateColumns then new c else old c

theorem updateColumns_of_none (h : x.updates = none) :
    x.updateColumns = x.columns.filter (· ∉ x.conflictKeys) := by
  rw [updateColumns, h, Option.getD_none]
  refine List.filter_congr fun c _ => ?_
  rw [List.contains_eq_mem, decide_not]

theorem conflict_of_checks {y : CheckedUpsertion} (h : y.Checks x) (form : UpsertForm) :
    y.conflict form =
      if x.updateColumns = [] then .keeping x.conflictKeys form else .copying x.updateColumns := by
  have hu : y.updates = [] ↔ x.updateColumns = [] := by
    rw [← h.updates, List.map_eq_nil_iff]
  rw [CheckedUpsertion.conflict, h.keys, h.updates]
  exact if_congr hu rfl rfl

theorem copied_of_checks {y : CheckedUpsertion} (h : y.Checks x) (form : UpsertForm) :
    (y.conflict form).copied = x.updateColumns.map fun c => (c, c) := by
  rw [conflict_of_checks h]
  split_ifs with hu
  · rw [Conflict.copied_keeping, hu]
    rfl
  · exact Conflict.copied_copying _

theorem result_of_checks {y : CheckedUpsertion} (h : y.Checks x) (form : UpsertForm)
    (new old : String → Value) :
    (y.conflict form).result new old = fun c => if c ∈ x.updateColumns then new c else old c := by
  rw [conflict_of_checks h]
  split_ifs with hu
  · simp only [Conflict.result_keeping, hu, List.not_mem_nil, if_false]
  · exact Conflict.result_copying _ new old

theorem isSaidBy_meaning {y : CheckedUpsertion} (h : y.Checks x) (form : UpsertForm) :
    x.IsSaidBy form (y.meaning form) := by
  have hsame : ∀ {ns : List Name} {ss : List String}, ns.map Name.text = ss →
      CheckedUpsertion.same ns = ss.map fun c => (c, c) := by
    rintro ns _ rfl
    rw [List.map_map]
    rfl
  have hconflict : (y.meaning form).conflict = _ := conflict_of_checks h form
  have hcopied : (y.meaning form).conflict.copied = _ := copied_of_checks h form
  refine
    { table := h.table
      row := ?_
      inserted := hsame h.columns
      target := ?_
      listed := fun cs hx => by rw [hcopied, updateColumns, hx, Option.getD_some]
      default := fun hx => by rw [hcopied, updateColumns_of_none hx]
      keys := ?_
      changed := fun hu => by rw [hconflict, if_neg hu]
      kept := fun hu => by rw [hconflict, if_pos hu]
      result := result_of_checks h form }
  · rw [← h.columns, ← h.values]
    rfl
  · cases form with
    | duplicateKey => rfl
    | onConflict | mergeValues | mergeQuery => exact congrArg some (hsame h.keys)
  · intro hx k hk c hc
    rw [hcopied, updateColumns_of_none hx] at hc
    obtain ⟨b, hb, hkc⟩ := List.mem_map.1 hc
    cases hkc
    have hnot : k ∉ x.conflictKeys := of_decide_eq_true (List.mem_filter.1 hb).2
    exact hnot hk

/-- **Every upsert says what its description says**, in any built-in dialect and guarded or not:
the row is inserted with all its columns, and of a row that is found by the keys exactly the columns
to update are assigned, each from the column of the same name. -/
theorem readUpsert_statement (hd : d.IsBuiltin) {verify : Bool} {st : Statement}
    (h : (Request.upsert x).statement d verify = .ok st ∨
      (Request.upsert x).guarded d verify = .ok st) :
    ∃ form u, d.upsert = some form ∧ d.readUpsert st = some u ∧ x.IsSaidBy form u := by
  obtain ⟨p, hp, rfl⟩ := Request.exists_rendered h
  obtain ⟨form, y, hy, hf, hp⟩ := exists_checked hp
  exact ⟨form, y.meaning form, hf, y.readUpsert_render hd hf hp, isSaidBy_meaning hy form⟩

/-- A merge in SQL Server with two keys, on columns named like words of the statement. -/
theorem readUpsert_statement_merge :
    let x : Upsertion :=
      { table := "t", columns := ["on", "id", "and"], values := [.int 7, .null, .int 3]
        conflictKeys := ["on", "id"] }
    let st : Statement :=
      ⟨"MERGE INTO [t] AS target USING (VALUES (@p1, @p2, @p3)) AS source ([on], [id], [and]) " ++
        "ON target.[on] = source.[on] AND target.[id] = source.[id] " ++
        "WHEN MATCHED THEN UPDATE SET target.[and] = source.[and] " ++
        "WHEN NOT MATCHED THEN INSERT ([on], [id], [and]) " ++
        "VALUES (source.[on], source.[id], source.[and]);", [.int 7, .null, .int 3]⟩
    Dialect.sqlServer.IsBuiltin ∧ (Request.upsert x).guarded .sqlServer false = .ok st ∧
      Dialect.sqlServer.readUpsert st = some
        { table := "t"
          row := [("on", .int 7), ("id", .null), ("and", .int 3)]
          inserted := [("on", "on"), ("id", "id"), ("and", "and")]
          target := some [("on", "on"), ("id", "id")]
          conflict := .change [("and", .offered "and")] } := by
  intro x st
  have hd : Dialect.sqlServer.IsBuiltin := .family .sqlServer
  have hst : (Request.upsert x).guarded .sqlServer false = .ok st := by decide +kernel
  obtain ⟨form, u, hf, hu, hx⟩ := readUpsert_statement hd (Or.inr hst)
  cases hf
  refine ⟨hd, hst, hu.trans (congrArg some ?_)⟩
  obtain ⟨table, row, inserted, target, conflict⟩ := u
  obtain ⟨rfl, rfl, rfl, rfl, -, -, -, hchanged, -⟩ := hx
  cases hchanged (by decide)
  rfl

end Upsertion

end BoundSql
