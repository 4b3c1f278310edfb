import BoundSql.Composer
import BoundSql.Proofs.Phrase.Spelling
import BoundSql.Proofs.Request.Names
import BoundSql.Proofs.Request.Values
import BoundSql.Proofs.Statement.Placeholders

/-!
# Statements that insert rows

An insertion of several rows lays them out one after the other, whatever the form of the dialect
(`Insertion.laidOut_batchInsert`): with `w` columns, the value at position `j` of the row at
position `i` has the placeholder with number `i * w + j + 1` and is bound at position `i * w + j`.
If its names are sound and nothing is to be returned, it is refused only for want of rows, or at
the first row of another width.

The insertion of one row is a case of it: with a single row, both requests have the same answer
(`Insertion.insert_eq_batchInsert`).
-/

namespace BoundSql

open Phrase

/-! ### What a statement says -/

/-- The placeholders of the row at position `i`, if every row has `w` values. -/
def Dialect.rowText (d : Dialect) (w i : Nat) : String :=
  "(" ++ ", ".intercalate ((List.range w).map fun j => d.placeholders.render (i * w + j + 1)) ++
    ")"

namespace Insertion

/-- The table and the list of columns. -/
def targetText (d : Dialect) (x : Insertion) : String :=
  d.quotes.quote x.table ++ " (" ++ d.listText x.columns ++ ")"

/-- The columns to return as they stand before the rows. -/
def outputText (d : Dialect) (x : Insertion) : String :=
  if d.returning = .output ∧ x.returning ≠ [] then
    " OUTPUT " ++ ", ".intercalate (x.returning.map fun c => "INSERTED." ++ d.quotes.quote c)
  else ""

/-- The columns to return as they stand at the end. -/
def returningText (d : Dialect) (x : Insertion) : String :=
  if d.returning = .trailing ∧ x.returning ≠ [] then " RETURNING " ++ d.listText x.returning
  else ""

/-- The text with the given rows: in Oracle each of several rows has an `INTO` of its own, and
elsewhere they share one `VALUES`. -/
def batchText (d : Dialect) (x : Insertion) (rows : List String) : String :=
  if d.family = some .oracle ∧ 2 ≤ rows.length then
    "INSERT ALL" ++ String.join (rows.map fun r => " INTO " ++ x.targetText d ++ " VALUES " ++ r) ++
      " SELECT 1 FROM DUAL"
  else
    "INSERT INTO " ++ x.targetText d ++ x.outputText d ++ " VALUES " ++ ", ".intercalate rows ++
      x.returningText d

/-- The statement inserts the rows in their order, numbered on from one another. -/
structure IsLaidOut (d : Dialect) (x : Insertion) (st : Statement) : Prop where
  rows_ne_nil : x.rows ≠ []
  width : ∀ r ∈ x.rows, r.length = x.columns.length
  sql : st.sql = x.batchText d ((List.range x.rows.length).map (d.rowText x.columns.length))
  length_params : st.params.length = x.rows.length * x.columns.length
  params : ∀ i j r v, x.rows[i]? = some r → r[j]? = some v →
    st.params[i * x.columns.length + j]? = some v

/-- The row at position `i` is the first that does not have `w` values. -/
structure IsFirstMisfit (w : Nat) (rows : List (List Value)) (i : Nat) (r : List Value) : Prop where
  row : rows[i]? = some r
  misfit : r.length ≠ w
  before : ∀ k s, k < i → rows[k]? = some s → s.length = w

end Insertion

/-! ### Checks -/

theorem Name.exists_checkAll {ss : List String} (h : AllNames ss) :
    ∃ ns, Name.checkAll ss = .ok ns :=
  exists_mapM_eq_ok fun s hs => ⟨⟨s, h s hs⟩, Name.check_eq_ok_iff.2 rfl⟩

namespace Insertion

variable {d : Dialect} {x : Insertion} {n : Names} {p : Phrase}

/-- Checked names are the given ones. -/
structure Names.Checks (n : Names) (x : Insertion) : Prop where
  table : n.table.text = x.table
  columns : n.columns.map Name.text = x.columns
  returning : n.returning.map Name.text = x.returning

theorem checks_of_names (h : x.names d = .ok n) : n.Checks x := by
  obtain ⟨-, h⟩ := ite_eq_ok.1 h
  obtain ⟨-, h⟩ := ite_eq_ok.1 h
  obtain ⟨table, ht, h⟩ := bind_eq_ok.1 h
  obtain ⟨columns, hc, h⟩ := bind_eq_ok.1 h
  obtain ⟨returning, hr, h⟩ := bind_eq_ok.1 h
  cases pure_eq_ok.1 h
  exact ⟨Name.check_eq_ok_iff.1 ht, Name.map_text_of_checkAll hc, Name.map_text_of_checkAll hr⟩

/-- Names that are sound pass the check if nothing is to be returned. -/
theorem exists_names (hc : x.columns ≠ []) (hr : x.returning = [])
    (hn : AllNames (x.table :: x.columns)) : ∃ n, x.names d = .ok n := by
  rw [allNames_cons] at hn
  obtain ⟨columns, hcolumns⟩ := Name.exists_checkAll hn.2
  have htable : Name.check x.table = .ok ⟨x.table, hn.1⟩ := Name.check_eq_ok_iff.2 rfl
  refine ⟨⟨⟨x.table, hn.1⟩, columns, []⟩, ?_⟩
  unfold names
  rw [hr, htable, hcolumns]
  simp [hc, Name.checkAll, bind, Except.bind, pure, Except.pure]

theorem width_of_checkWidths {w i : Nat} {rs : List (List Value)} {u : Unit}
    (h : checkWidths w i rs = .ok u) : ∀ r ∈ rs, r.length = w := by
  induction rs generalizing i with
  | nil => simp
  | cons r rs ih =>
    unfold checkWidths at h
    split at h
    case isTrue hr =>
      intro s hs
      rcases List.mem_cons.1 hs with rfl | hs
      · exact hr.symm
      · exact ih h s hs
    case isFalse => cases h

/-- Rows are refused at the first that does not have the given width. -/
theorem exists_misfit_of_checkWidths {w i : Nat} {rs : List (List Value)} {e : Error}
    (h : checkWidths w i rs = .error e) :
    ∃ k r, IsFirstMisfit w rs k r ∧ e = .badQuery (.rowWidth (i + k) r.length w) := by
  induction rs generalizing i with
  | nil => cases h
  | cons r rs ih =>
    unfold checkWidths at h
    split at h
    case isTrue hr =>
      obtain ⟨k, s, hs, rfl⟩ := ih h
      refine ⟨k + 1, s, ⟨hs.row, hs.misfit, ?_⟩, by rw [Nat.add_assoc, Nat.add_comm 1]⟩
      intro j t hj ht
      cases j with
      | zero =>
        cases ht
        exact hr.symm
      | succ j => exact hs.before j t (by omega) ht
    case isFalse hr =>
      cases h
      exact ⟨0, r, ⟨rfl, fun hw => hr hw.symm, fun k s hk => absurd hk (by omega)⟩, rfl⟩

/-- With sound names, rows can be refused for their number or for a width, and for nothing else. -/
theorem batchPhrase_cases (hn : x.names d = .ok n) :
    (x.rows = [] ∧ x.batchPhrase d = .error (.badQuery .noRow)) ∨
    (∃ i r, IsFirstMisfit x.columns.length x.rows i r ∧
      x.batchPhrase d = .error (.badQuery (.rowWidth i r.length x.columns.length))) ∨
    (x.rows ≠ [] ∧ (∀ r ∈ x.rows, r.length = x.columns.length) ∧ ∃ p, x.batchPhrase d = .ok p) := by
  unfold batchPhrase
  rw [hn]
  by_cases hrows : x.rows = []
  · exact Or.inl ⟨hrows, by rw [hrows]; rfl⟩
  · have hempty : x.rows.isEmpty = false := by simpa using hrows
    rw [hempty]
    cases hw : checkWidths x.columns.length 0 x.rows with
    | error e =>
      obtain ⟨i, r, hr, rfl⟩ := exists_misfit_of_checkWidths hw
      rw [Nat.zero_add]
      exact Or.inr (Or.inl ⟨i, r, hr, rfl⟩)
    | ok u => exact Or.inr (Or.inr ⟨hrows, width_of_checkWidths hw, _, rfl⟩)

/-- What an accepted insertion is made of. -/
theorem batchPhrase_eq_ok (h : x.batchPhrase d = .ok p) :
    ∃ n : Names, n.Checks x ∧ x.rows ≠ [] ∧ (∀ r ∈ x.rows, r.length = x.columns.length) ∧
      p = Form.batchInsert d.batch d.returning (.ofName n.table) (n.columns.map .ofName)
        (rowPhrases x.rows) (n.returning.map .ofName) := by
  obtain ⟨n, hn, h⟩ := bind_eq_ok.1 h
  obtain ⟨hrows, h⟩ := ite_eq_ok.1 h
  obtain ⟨u, hw, h⟩ := bind_eq_ok.1 h
  exact ⟨n, checks_of_names hn, by simpa using hrows, width_of_checkWidths hw,
    (pure_eq_ok.1 h).symm⟩

/-! ### Names and rows -/

theorem spells_names (ns : List Name) :
    Spells d (commas (ns.map ofName)) (d.listText (ns.map Name.text)) := by
  have h := spells_commas_map (d := d) spells_ofName ns
  rwa [Dialect.listText, List.map_map]

theorem spells_target (hn : n.Checks x) :
    Spells d (Form.target (ofName n.table) (n.columns.map ofName)) (x.targetText d) := by
  have hcolumns := spells_names (d := d) n.columns
  rw [hn.columns] at hcolumns
  refine ⟨by simp [Form.target, Form.parens, hcolumns.1], fun i => ?_⟩
  simp [Form.target, Form.parens, targetText, renderFrom_append, hcolumns.1, hcolumns.2, ← hn.table]

theorem spells_outputClause (hn : n.Checks x) :
    Spells d (Form.outputClause d.returning (n.returning.map ofName)) (x.outputText d) := by
  unfold Form.outputClause outputText
  rw [← hn.returning]
  simp only [ne_eq, List.map_eq_nil_iff, List.map_map]
  split_ifs
  · refine (spells_lit " OUTPUT ").append (spells_commas_map (fun c => ?_) n.returning)
    exact (spells_lit "INSERTED.").append (spells_ofName c)
  · exact spells_nil

theorem spells_returningClause (hn : n.Checks x) :
    Spells d (Form.returningClause d.returning (n.returning.map ofName)) (x.returningText d) := by
  unfold Form.returningClause returningText
  rw [← hn.returning]
  simp only [ne_eq, List.map_eq_nil_iff]
  split_ifs
  · exact (spells_lit " RETURNING ").append (spells_names n.returning)
  · exact spells_nil

/-! ### Layout -/

/-- Rows of one width, each behind the same words, are numbered by their position. -/
theorem renderEach_rows {w : Nat} {rows : List (List Value)} (hw : ∀ r ∈ rows, r.length = w)
    {before : Phrase} {s : String} (hb : Spells d before s) :
    d.engine.renderEach 1 (rows.map fun r => before ++ Form.parens (commas (r.map ofValue))) =
      (List.range rows.length).map fun i => s ++ d.rowText w i := by
  have hrow : ∀ r ∈ rows, Writes d (before ++ Form.parens (commas (r.map ofValue))) w fun i =>
      s ++ ("(" ++ ", ".intercalate ((List.range w).map fun j =>
        d.placeholders.render (i + j)) ++ ")") := by
    intro r hr
    have h := hb.append_writes (writes_values (d := d) r).parens
    rwa [hw r hr] at h
  have hnumber : ∀ i j, 1 + i * w + j = i * w + j + 1 := by
    intro i j
    omega
  rw [renderEach_map hrow]
  simp only [hnumber]
  rfl

/-- In the rows of one width one after the other, a value is found by its row and column. -/
theorem getElem?_flatten_rows {w : Nat} {rows : List (List Value)} (hw : ∀ r ∈ rows, r.length = w)
    {i j : Nat} {r : List Value} {v : Value} (hr : rows[i]? = some r) (hv : r[j]? = some v) :
    rows.flatten[i * w + j]? = some v := by
  induction rows generalizing i with
  | nil => cases hr
  | cons s rows ih =>
    have hs : s.length = w := hw s (by simp)
    rw [List.flatten_cons]
    cases i with
    | zero =>
      obtain rfl : s = r := by simpa using hr
      have hj : j < s.length := (List.getElem?_eq_some_iff.1 hv).1
      rwa [Nat.zero_mul, Nat.zero_add, List.getElem?_append_left hj]
    | succ i =>
      have hshift : (i + 1) * w + j = s.length + (i * w + j) := by
        rw [Nat.succ_mul, hs]
        omega
      rw [hshift, List.getElem?_append_right (by omega), Nat.add_sub_cancel_left]
      exact ih (fun t ht => hw t (List.mem_cons_of_mem s ht)) hr

theorem length_flatten_rows {w : Nat} {rows : List (List Value)} (hw : ∀ r ∈ rows, r.length = w) :
    rows.flatten.length = rows.length * w := by
  rw [List.length_flatten, List.map_congr_left hw]
  simp

theorem renderFrom_insertAll (hn : n.Checks x) (hw : ∀ r ∈ x.rows, r.length = x.columns.length) :
    renderFrom d 1 (Form.insertAll (ofName n.table) (n.columns.map ofName) (rowPhrases x.rows)) =
      ("INSERT ALL" ++
        String.join (((List.range x.rows.length).map (d.rowText x.columns.length)).map
          fun r => " INTO " ++ x.targetText d ++ " VALUES " ++ r) ++
        " SELECT 1 FROM DUAL").toList := by
  have hbefore := ((spells_lit " INTO ").append (spells_target (d := d) hn)).append
    (spells_lit " VALUES ")
  have hrows := renderEach_rows hw hbefore
  unfold Form.insertAll rowPhrases
  rw [renderFrom_engine, Engine.render_append, Engine.render_append, List.flatMap_map,
    List.flatMap_def, Engine.render_flatten, Engine.render_lit, Engine.render_lit, values_lit,
    List.length_nil, Nat.add_zero]
  simp only [List.append_assoc] at hrows ⊢
  rw [hrows, List.map_map]
  rfl

theorem renderFrom_insert (hn : n.Checks x) (hw : ∀ r ∈ x.rows, r.length = x.columns.length) :
    renderFrom d 1 (Form.insert d.returning (ofName n.table) (n.columns.map ofName)
      (rowPhrases x.rows) (n.returning.map ofName)) =
      ("INSERT INTO " ++ x.targetText d ++ x.outputText d ++ " VALUES " ++
        ", ".intercalate ((List.range x.rows.length).map (d.rowText x.columns.length)) ++
        x.returningText d).toList := by
  have htarget := spells_target (d := d) hn
  have houtput := spells_outputClause (d := d) hn
  have hreturning := spells_returningClause (d := d) hn
  have hrows := renderEach_rows hw (spells_nil (d := d))
  have hjoined : ∀ ps, renderFrom d 1 (commas ps) =
      (", ".intercalate (d.engine.renderEach 1 ps)).toList := by
    intro ps
    rw [renderFrom_engine, commas, Engine.render_join]
  unfold Form.insert rowPhrases
  simp only [List.map_map, Function.comp_def, List.nil_append, String.empty_append] at hrows ⊢
  simp [renderFrom_append, hjoined, htarget.1, htarget.2, houtput.1, houtput.2, hreturning.2, hrows,
    Function.comp_def]

theorem batch_eq_intoEach_iff (hd : d.IsBuiltin) :
    d.batch = .intoEach ↔ d.family = some .oracle := by
  cases hd with
  | family f => cases f <;> decide
  | sqlServerLegacy => decide
  | oracleVersion v => exact ⟨fun _ => rfl, fun _ => rfl⟩

theorem render_batchPhrase (hd : d.IsBuiltin) (h : x.batchPhrase d = .ok p) :
    p.render d 1 =
      x.batchText d ((List.range x.rows.length).map (d.rowText x.columns.length)) := by
  obtain ⟨n, hn, -, hw, rfl⟩ := batchPhrase_eq_ok h
  apply String.toList_inj.1
  have hform := batch_eq_intoEach_iff hd
  rw [toList_render]
  unfold Form.batchInsert batchText
  simp only [hform, rowPhrases, List.length_map, List.length_range, Nat.lt_iff_add_one_le]
  split_ifs
  · exact renderFrom_insertAll hn hw
  · exact renderFrom_insert hn hw

/-- What is built for an accepted insertion lays out its rows. -/
theorem isLaidOut_of_batchPhrase (hd : d.IsBuiltin) (h : x.batchPhrase d = .ok p) :
    x.IsLaidOut d ⟨p.render d 1, p.values⟩ := by
  obtain ⟨-, -, hrows, hw, -⟩ := batchPhrase_eq_ok h
  have hvalues : p.values = x.rows.flatten := values_batchPhrase h
  refine ⟨hrows, hw, render_batchPhrase hd h, ?_, fun i j r v hr hv => ?_⟩
  · rw [hvalues, length_flatten_rows hw]
  · rw [hvalues]
    exact getElem?_flatten_rows hw hr hv

/-- **The rows of an insertion are laid out in order.** Every statement for it has the rows one
after the other, with their placeholders numbered on from one another and their values bound in the
same order. If the names are sound and nothing is to be returned, the insertion is refused exactly
if it has no row or a row of another width, and then for that reason, at the first such row. -/
theorem laidOut_batchInsert (hd : d.IsBuiltin) (verify : Bool) (x : Insertion) :
    (∀ st, (Request.batchInsert x).statement d verify = .ok st → x.IsLaidOut d st) ∧
    (x.columns ≠ [] → x.returning = [] → (∀ s ∈ x.table :: x.columns, s.toList ∈ Name.language) →
      ((∃ e, (Request.batchInsert x).statement d verify = .error e) ↔
        x.rows = [] ∨ ∃ r ∈ x.rows, r.length ≠ x.columns.length) ∧
      ∀ e, (Request.batchInsert x).statement d verify = .error e →
        (x.rows = [] ∧ e = .badQuery .noRow) ∨
        ∃ i r, IsFirstMisfit x.columns.length x.rows i r ∧
          e = .badQuery (.rowWidth i r.length x.columns.length)) := by
  have hstatement : (Request.batchInsert x).statement d verify = (x.batchPhrase d).map _ :=
    Request.statement_eq hd (.batchInsert x) verify
  rw [hstatement]
  refine ⟨fun st h => ?_, fun hc hr hs => ?_⟩
  · obtain ⟨p, hp, rfl⟩ := map_eq_ok.1 h
    exact isLaidOut_of_batchPhrase hd hp
  · obtain ⟨n, hn⟩ := exists_names (d := d) hc hr fun s h => isName_iff.2 (hs s h)
    obtain ⟨hrows, hp⟩ | ⟨i, r, hr, hp⟩ | ⟨hrows, hw, p, hp⟩ := batchPhrase_cases hn
    · rw [hp]
      refine ⟨⟨fun _ => Or.inl hrows, fun _ => ⟨_, rfl⟩⟩, fun e h => ?_⟩
      cases h
      exact Or.inl ⟨hrows, rfl⟩
    · rw [hp]
      have hmem : r ∈ x.rows := List.mem_of_getElem? hr.row
      refine ⟨⟨fun _ => Or.inr ⟨r, hmem, hr.misfit⟩, fun _ => ⟨_, rfl⟩⟩, fun e h => ?_⟩
      cases h
      exact Or.inr ⟨i, r, hr, rfl⟩
    · rw [hp]
      refine ⟨⟨fun ⟨_, h⟩ => (by cases h), ?_⟩, fun e h => (by cases h)⟩
      rintro (h | ⟨r, hr, h⟩)
      · exact absurd h hrows
      · exact absurd (hw r hr) h

/-- Two rows in Oracle, and two rows of which the second lacks a value. -/
theorem laidOut_batchInsert_oracle :
    let x : Insertion :=
      { table := "app.users", columns := ["name", "age"]
        rows := [[.text "a", .int 1], [.text "b", .null]] }
    let y : Insertion := { x with rows := [[.text "a", .int 1], [.text "b"], []] }
    let st : Statement :=
      ⟨"INSERT ALL INTO \"app\".\"users\" (\"name\", \"age\") VALUES (:1, :2) " ++
        "INTO \"app\".\"users\" (\"name\", \"age\") VALUES (:3, :4) SELECT 1 FROM DUAL",
        [.text "a", .int 1, .text "b", .null]⟩
    let e : Error := .badQuery (.rowWidth 1 1 2)
    Dialect.oracle.IsBuiltin ∧ (Request.batchInsert x).statement .oracle true = .ok st ∧
      x.IsLaidOut .oracle st ∧
      (y.columns ≠ [] ∧ y.returning = [] ∧ ∀ s ∈ y.table :: y.columns, s.toList ∈ Name.language) ∧
      (Request.batchInsert y).statement .oracle true = .error e ∧
      ∃ i r, IsFirstMisfit 2 y.rows i r ∧ e = .badQuery (.rowWidth i r.length 2) := by
  intro x y st e
  have hd : Dialect.oracle.IsBuiltin := .family .oracle
  have hx : (Request.batchInsert x).statement .oracle true = .ok st := by decide +kernel
  have hy : (Request.batchInsert y).statement .oracle true = .error e := by decide +kernel
  have hnames : ∀ s ∈ y.table :: y.columns, s.toList ∈ Name.language := by
    have h : ∀ s ∈ y.table :: y.columns, isName s = true := by decide +kernel
    exact fun s hs => isName_iff.1 (h s hs)
  have hcolumns : y.columns ≠ [] := by decide
  obtain ⟨-, herror⟩ := (laidOut_batchInsert hd true y).2 hcolumns rfl hnames
  obtain ⟨hrows, -⟩ | hmisfit := herror e hy
  · cases hrows
  · exact ⟨hd, hx, (laidOut_batchInsert hd true x).1 st hx, ⟨hcolumns, rfl, hnames⟩, hy, hmisfit⟩

/-! ### One row -/

/-- A batch of one row takes no form of its own, in Oracle as elsewhere. -/
theorem batchInsert_of_length {form : BatchForm} {style : ReturningStyle} {table : Phrase}
    {columns returning : List Phrase} {rows : List (List Phrase)} (h : rows.length = 1) :
    Form.batchInsert form style table columns rows returning =
      Form.insert style table columns rows returning := by
  unfold Form.batchInsert
  exact if_neg fun hlt => by omega

/-- With one row, a single insertion and a batch are the same phrase or the same error. -/
theorem singlePhrase_eq_batchPhrase (d : Dialect) (h : x.rows.length = 1) :
    x.singlePhrase d = x.batchPhrase d := by
  have hempty : x.rows.isEmpty = false := by
    rw [List.isEmpty_eq_false_iff, ← List.length_pos_iff]
    omega
  have hphrases : (rowPhrases x.rows).length = 1 := by simpa [rowPhrases] using h
  unfold singlePhrase batchPhrase
  simp only [batchInsert_of_length hphrases, hempty, h, ne_eq, not_true_eq_false, if_false,
    Bool.false_eq_true]

/-- **A batch of one row is an insertion.** With exactly one row the two requests are the same
phrase, so in every dialect, however it quotes names, writes placeholders and inserts several rows,
they have the same text and the same values, or the same error. -/
theorem insert_eq_batchInsert (d : Dialect) (verify : Bool) (x : Insertion)
    (h : x.rows.length = 1) :
    (Request.insert x).phrase d = (Request.batchInsert x).phrase d ∧
      (Request.insert x).statement d verify = (Request.batchInsert x).statement d verify ∧
      ∀ c : Composer, c.build (.insert x) = c.build (.batchInsert x) := by
  have hphrase : ∀ d, (Request.insert x).phrase d = (Request.batchInsert x).phrase d := fun d =>
    singlePhrase_eq_batchPhrase d h
  have hstatement : ∀ d verify, (Request.insert x).statement d verify =
      (Request.batchInsert x).statement d verify := by
    intro d verify
    unfold Request.statement
    rw [hphrase d]
  refine ⟨hphrase d, hstatement d verify, fun c => ?_⟩
  -- Neither request is guarded.
  exact hstatement c.dialect c.verify

/-- A row with a returned column in SQL Server, and in Oracle, which cannot return it. -/
theorem insert_eq_batchInsert_returning :
    let x : Insertion :=
      { table := "users", columns := ["name"], rows := [[.text "a"]], returning := ["id"] }
    let st : Statement :=
      ⟨"INSERT INTO [users] ([name]) OUTPUT INSERTED.[id] VALUES (@p1)", [.text "a"]⟩
    x.rows.length = 1 ∧ (Request.insert x).statement .sqlServer true = .ok st ∧
      (Request.batchInsert x).statement .sqlServer true = .ok st ∧
      (Request.batchInsert x).statement .oracle true =
        .error (.unsupported "oracle" .returning) := by
  intro x st
  have hone : x.rows.length = 1 := rfl
  have hst : (Request.insert x).statement .sqlServer true = .ok st := by decide +kernel
  have he : (Request.insert x).statement .oracle true =
      .error (.unsupported "oracle" .returning) := by decide +kernel
  obtain ⟨-, hs, -⟩ := insert_eq_batchInsert .sqlServer true x hone
  obtain ⟨-, ho, -⟩ := insert_eq_batchInsert .oracle true x hone
  exact ⟨hone, hst, hs.symm.trans hst, ho.symm.trans he⟩

end Insertion

end BoundSql
