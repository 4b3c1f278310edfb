import BoundSql.Proofs.Phrase.Readers
import Mathlib.Logic.Function.Basic

/-!
# Upserts and what they mean

An upsert offers a row: it says which columns of the row are inserted, which columns find a row that
is already there, and what becomes of such a row. Every form of upsert has a grammar in which it is
read as saying so (`Reader.upsert`).

The phrase of a checked upsertion is read as it was meant in each of the forms
(`Reader.takes_upsert`): the offered row is inserted with all its columns, and a row that is already
there gets the offered values in the columns to update.
-/

namespace BoundSql

open Phrase Lexeme

/-! ### Meanings -/

/-- Where an assigned value comes from. -/
inductive Origin
  /-- A column of the offered row. -/
  | offered (column : String)
  /-- A column of the row that is already there. -/
  | present (column : String)
  deriving DecidableEq

namespace Origin

/-- The column of the offered row, if the value comes from there. -/
def offered? : Origin → Option String
  | offered c => some c
  | present _ => none

/-- The value, given the two rows. -/
def value (new old : String → Value) : Origin → Value
  | offered c => new c
  | present c => old c

end Origin

/-- What becomes of a row that is already there. -/
inductive Conflict
  /-- Its columns are assigned, one after the other. -/
  | change (assignments : List (String × Origin))
  /-- It is said that nothing is done. -/
  | nothing
  /-- It is not mentioned. -/
  | unmentioned
  deriving DecidableEq

namespace Conflict

def assignments : Conflict → List (String × Origin)
  | change as => as
  | nothing | unmentioned => []

/-- The columns that are assigned from the offered row, each with the column it is assigned from. -/
def copied (x : Conflict) : List (String × String) :=
  x.assignments.filterMap fun a => a.2.offered?.map fun c => (a.1, c)

/-- The row that is already there after the assignments. -/
def result (x : Conflict) (new old : String → Value) : String → Value :=
  x.assignments.foldl (fun row a => Function.update row a.1 (a.2.value new row)) old

/-- The given columns get the values that they have in the offered row. -/
def copying (cs : List String) : Conflict := change (cs.map fun c => (c, .offered c))

/-- The row that is already there stays as it is. A form that has to assign something assigns the
first of the keys to itself. -/
def keeping (keys : List String) : UpsertForm → Conflict
  | .duplicateKey => change ((keys.take 1).map fun k => (k, .present k))
  | .onConflict => nothing
  | .mergeValues | .mergeQuery => unmentioned

theorem copied_copying (cs : List String) : (copying cs).copied = cs.map fun c => (c, c) := by
  rw [copied, copying, assignments, List.filterMap_map]
  exact congrFun (List.filterMap_eq_map (f := fun c => (c, c))) cs

theorem copied_keeping (keys : List String) (form : UpsertForm) :
    (keeping keys form).copied = [] := by
  cases form with
  | duplicateKey => cases keys <;> rfl
  | onConflict | mergeValues | mergeQuery => rfl

theorem result_copying (cs : List String) (new old : String → Value) :
    (copying cs).result new old = fun c => if c ∈ cs then new c else old c := by
  induction cs generalizing old with
  | nil => rfl
  | cons b cs ih =>
    have hstep : (copying (b :: cs)).result new old =
        (copying cs).result new (Function.update old b (new b)) := rfl
    rw [hstep, ih]
    funext c
    by_cases hc : c ∈ cs
    · rw [if_pos hc, if_pos (List.mem_cons_of_mem b hc)]
    · by_cases hb : c = b
      · rw [if_neg hc, hb, Function.update_self, if_pos List.mem_cons_self]
      · have hbc : c ∉ b :: cs := fun h => (List.mem_cons.1 h).elim hb hc
        rw [if_neg hc, if_neg hbc, Function.update_of_ne hb]

theorem result_keeping (keys : List String) (form : UpsertForm) (new old : String → Value) :
    (keeping keys form).result new old = old := by
  cases form with
  | duplicateKey =>
    cases keys with
    | nil => rfl
    | cons k keys => exact Function.update_eq_self k old
  | onConflict | mergeValues | mergeQuery => rfl

end Conflict

/-- What an upsert says. -/
structure Upsert where
  table : String
  /-- The columns of the offered row with their values. -/
  row : List (String × Value)
  /-- The columns of the inserted row, each with a column of the offered row. -/
  inserted : List (String × String)
  /-- The columns by which a row is found, each with a column of the offered row; nothing if the
  upsert does not name them. -/
  target : Option (List (String × String))
  conflict : Conflict
  deriving DecidableEq

/-! ### Grammars -/

namespace Reader

variable {α β : Type}

/-- `(column, …)` -/
def columns : Reader (List String) := inParens (separated "," name)

/-- `(value, …)` -/
def bounds : Reader (List Value) := inParens (separated "," bound)

/-- Two lists of the same length, item by item. -/
def paired (as : List α) (bs : List β) : Reader (List (α × β)) :=
  if as.length = bs.length then pure (as.zip bs) else failure

/-- `a = b` -/
def equated (left : Reader α) (right : Reader β) : Reader (α × β) := do
  let a ← left
  words "="
  let b ← right
  return (a, b)

/-- `target.c = source.c` -/
def matched : Reader (String × String) := equated (columnOf "target") (columnOf "source")

/-- A column of the row of the given name, which is the offered row. -/
def offeredBy (row : String) : Reader Origin := do
  let c ← columnOf row
  return .offered c

/-- `VALUES(c)` for a column of the offered row, or a column of the row that is already there. -/
def valuesOrColumn : Reader Origin :=
  (do words "VALUES"; let c ← inParens name; return .offered c) <|>
    (do let c ← name; return .present c)

/-- `assignment, …` -/
def changes (assignment : Reader (String × Origin)) : Reader Conflict := do
  let as ← separated "," assignment
  return .change as

/-- `INSERT INTO table (column, …) VALUES (value, …)` -/
def insertion : Reader (String × List (String × Value)) := do
  words "INSERT INTO"
  let table ← name
  let cs ← columns
  words "VALUES"
  let vs ← bounds
  let row ← paired cs vs
  return (table, row)

/-- `insertion ON DUPLICATE KEY UPDATE assignment, …` -/
def duplicateKey : Reader Upsert := do
  let (table, row) ← insertion
  words "ON DUPLICATE KEY UPDATE"
  let conflict ← changes (equated name valuesOrColumn)
  return { table, row, inserted := row.map fun c => (c.1, c.1), target := none, conflict }

/-- `DO NOTHING` or `DO UPDATE SET assignment, …` -/
def conflictAction : Reader Conflict :=
  (do words "DO NOTHING"; return .nothing) <|>
    (do words "DO UPDATE SET"; changes (equated name (offeredBy "EXCLUDED")))

/-- `insertion ON CONFLICT (column, …) action` -/
def onConflict : Reader Upsert := do
  let (table, row) ← insertion
  words "ON CONFLICT"
  let keys ← columns
  let conflict ← conflictAction
  let target := keys.map fun k => (k, k)
  return { table, row, inserted := row.map fun c => (c.1, c.1), target, conflict }

/-- `WHEN MATCHED THEN UPDATE SET assignment, …` if it is there -/
def whenMatched : Reader Conflict :=
  (do words "WHEN MATCHED THEN UPDATE SET"
      changes (equated (columnOf "target") (offeredBy "source"))) <|>
    return .unmentioned

/-- `WHEN NOT MATCHED THEN INSERT (column, …) VALUES (source.c, …)` -/
def whenNotMatched : Reader (List (String × String)) := do
  words "WHEN NOT MATCHED THEN INSERT"
  let cs ← columns
  words "VALUES"
  let ss ← inParens (separated "," (columnOf "source"))
  paired cs ss

/-- What is done with a row that matches, and with one that does not. -/
def mergeActions : Reader (Conflict × List (String × String)) := do
  let conflict ← whenMatched
  let inserted ← whenNotMatched
  return (conflict, inserted)

/-- `MERGE INTO table AS target USING (VALUES (value, …)) AS source (column, …) ON condition` with
what it does, and a semicolon -/
def mergeValues : Reader Upsert := do
  words "MERGE INTO"
  let table ← name
  words "AS target USING (VALUES"
  let vs ← bounds
  words ") AS source"
  let cs ← columns
  let row ← paired cs vs
  words "ON"
  let target ← separated "AND" matched
  let (conflict, inserted) ← mergeActions
  words ";"
  return { table, row, inserted, target, conflict }

/-- `value AS column` -/
def item : Reader (String × Value) := do
  let v ← bound
  words "AS"
  let c ← name
  return (c, v)

/-- `MERGE INTO table target USING (SELECT item, … FROM DUAL) source ON (condition)` with what it
does -/
def mergeQuery : Reader Upsert := do
  words "MERGE INTO"
  let table ← name
  words "target USING (SELECT"
  let row ← separated "," item
  words "FROM DUAL) source ON"
  let target ← inParens (separated "AND" matched)
  let (conflict, inserted) ← mergeActions
  return { table, row, inserted, target, conflict }

/-- An upsert of the given form. -/
def upsert : UpsertForm → Reader Upsert
  | .duplicateKey => duplicateKey
  | .onConflict => onConflict
  | .mergeValues => mergeValues
  | .mergeQuery => mergeQuery

end Reader

/-! ### Checked upsertions -/

/-- An upsertion whose names have been checked, with a row, a value for each of its columns, and
conflict keys. -/
structure CheckedUpsertion where
  table : Name
  columns : List Name
  values : List Value
  keys : List Name
  updates : List Name
  columns_ne_nil : columns ≠ []
  keys_ne_nil : keys ≠ []
  length_eq : columns.length = values.length

namespace CheckedUpsertion

/-- The parts of its statement. -/
def parts (x : CheckedUpsertion) : Form.UpsertParts where
  table := ofName x.table
  columns := x.columns.map ofName
  values := x.values.map ofValue
  keys := x.keys.map ofName
  updates := x.updates.map ofName

/-- Every name, with itself. -/
def same (ns : List Name) : List (String × String) := ns.map fun n => (n.text, n.text)

/-- The columns with their values. -/
def row (x : CheckedUpsertion) : List (String × Value) := (x.columns.map Name.text).zip x.values

/-- The columns by which a row is found, in the forms that name them. -/
def target (x : CheckedUpsertion) : UpsertForm → Option (List (String × String))
  | .duplicateKey => none
  | .onConflict | .mergeValues | .mergeQuery => some (same x.keys)

/-- What becomes of a row that is already there. -/
def conflict (x : CheckedUpsertion) (form : UpsertForm) : Conflict :=
  if x.updates = [] then .keeping (x.keys.map Name.text) form
  else .copying (x.updates.map Name.text)

/-- What it says in the given form. -/
def meaning (x : CheckedUpsertion) (form : UpsertForm) : Upsert where
  table := x.table.text
  row := x.row
  inserted := same x.columns
  target := x.target form
  conflict := x.conflict form

variable (x : CheckedUpsertion)

theorem values_ne_nil : x.values ≠ [] := by
  rw [← List.length_pos_iff, ← x.length_eq, List.length_pos_iff]
  exact x.columns_ne_nil

theorem length_texts : (x.columns.map Name.text).length = x.values.length := by
  rw [List.length_map, x.length_eq]

theorem parts_updates_eq_nil : x.parts.updates = [] ↔ x.updates = [] := List.map_eq_nil_iff

theorem conflict_of_nil (h : x.updates = []) (form : UpsertForm) :
    x.conflict form = .keeping (x.keys.map Name.text) form := if_pos h

theorem conflict_of_ne_nil (h : x.updates ≠ []) (form : UpsertForm) :
    x.conflict form = .copying (x.updates.map Name.text) := if_neg h

/-- Without a clause of its own for a new row, every column of the row is inserted as it is. -/
theorem map_row : (x.row.map fun c => (c.1, c.1)) = same x.columns := by
  have h : x.row.map Prod.fst = x.columns.map Name.text :=
    List.map_fst_zip (Nat.le_of_eq x.length_texts)
  calc (x.row.map fun c => (c.1, c.1))
    _ = (x.row.map Prod.fst).map fun c => (c, c) := by rw [List.map_map]; rfl
    _ = same x.columns := by rw [h, List.map_map]; rfl

end CheckedUpsertion

/-! ### Readings of the parts -/

namespace Reader

section Parts

variable {α β γ : Type} {r : Reader α} {r' : Reader β} {p q : Phrase} {a : α} {b : β} {c : γ}
  {ls : List Lexeme}

theorem Takes.after_blank (h : r.Takes p a ls) : r.Takes (lit " " ++ p) a ls := h

theorem takes_columns {cs : List Name} (hne : cs ≠ []) (ls : List Lexeme) :
    columns.Takes (Form.parens (commas (cs.map ofName))) (cs.map Name.text) ls :=
  takes_inParens (takes_separated separates_comma ⟨trivial, rfl⟩ (fun c _ => takes_name c) hne)

theorem takes_bounds {vs : List Value} (hne : vs ≠ []) (ls : List Lexeme) :
    bounds.Takes (Form.parens (commas (vs.map ofValue))) vs ls := by
  have h : (separated "," bound).Takes (commas (vs.map ofValue)) (vs.map id) (mark ')' :: ls) :=
    takes_separated separates_comma ⟨trivial, rfl⟩ (fun v ls _ => takes_bound v ls) hne
  rw [List.map_id] at h
  exact takes_inParens h

theorem paired_of_length {as : List α} {bs : List β} (h : as.length = bs.length) :
    paired as bs = pure (as.zip bs) := if_pos h

theorem Takes.after_paired {as : List α} {bs : List β} {f : List (α × β) → Reader γ}
    (h : as.length = bs.length) (hq : (f (as.zip bs)).Takes q c ls) :
    (paired as bs >>= f).Takes q c ls := by
  rw [paired_of_length h]
  exact hq

theorem takes_equated (hp : ∀ ls, Apart ls → r.Takes p a ls) (hq : r'.Takes q b ls) :
    (equated r r').Takes (Form.equation p q) (a, b) ls := by
  rw [Form.equation, List.append_assoc]
  refine Takes.bind (hp _ ?_) ?_
  · trivial
  refine .after_words (fun _ => rfl) ?_
  exact hq.finish rfl

theorem takes_target (c : Name) (h : Apart ls) :
    (columnOf "target").Takes (lit "target." ++ ofName c) c.text ls :=
  takes_columnOf rfl rfl c h

theorem takes_source (c : Name) (h : Apart ls) :
    (columnOf "source").Takes (lit "source." ++ ofName c) c.text ls :=
  takes_columnOf rfl rfl c h

theorem takes_matched (k : Name) (h : Apart ls) :
    matched.Takes (Form.matched (ofName k)) (k.text, k.text) ls :=
  takes_equated (fun _ => takes_target k) (takes_source k h)

theorem takes_offeredBy {row column : String} (h : (columnOf row).Takes p column ls) :
    (offeredBy row).Takes p (.offered column) ls := h.finish rfl

theorem takes_changes {assignment : Reader (String × Origin)} {phrase : Name → Phrase}
    {us : List Name} (hls : Ends "," ls)
    (h : ∀ c ls, Apart ls → assignment.Takes (phrase c) (c.text, .offered c.text) ls)
    (hne : us ≠ []) :
    (changes assignment).Takes (commas (us.map phrase)) (.copying (us.map Name.text)) ls := by
  refine (takes_separated separates_comma hls h hne).finish ?_
  rw [Conflict.copying, List.map_map]
  rfl

/-- A column that is assigned to itself is not taken for one of the offered row: nothing stands in
parentheses behind it. -/
theorem takes_valuesOrColumn_present (k : Name) :
    valuesOrColumn.Takes (ofName k) (.present k.text) [] := by
  have h : name.Takes (ofName k) k.text [] := takes_name k trivial
  refine .orElse_right ?_ (h.finish rfl)
  have hl : solid ((ofName k).lex []) = [.word k.text.toList] := rfl
  rw [hl]
  by_cases hk : k.text.toList = "VALUES".toList
  · rw [hk]
    rfl
  · have hw : solid (spellText "VALUES" []) = [.word "VALUES".toList] := rfl
    refine bind_of_none ?_
    simp only [words, hw, List.isPrefixOf?, beq_iff_eq, Lexeme.word.injEq, Ne.symm hk, if_false,
      Option.map_none]

theorem takes_valuesOrColumn_offered (c : Name) (ls : List Lexeme) :
    valuesOrColumn.Takes (lit "VALUES" ++ Form.parens (ofName c)) (.offered c.text) ls := by
  have hw : (words "VALUES").Takes (lit "VALUES") () ((Form.parens (ofName c)).lex ls) := rfl
  have hc : (inParens name).Takes (Form.parens (ofName c)) c.text ls :=
    takes_inParens (takes_name c trivial)
  exact .orElse_left (hw.bind (hc.finish rfl))

end Parts

/-! ### Readings of the forms -/

variable (x : CheckedUpsertion) {p : Phrase}

theorem takes_insertion (ls : List Lexeme) :
    insertion.Takes x.parts.insertion (x.table.text, x.row) ls := by
  simp only [Form.UpsertParts.insertion, Form.target, List.append_assoc]
  refine .after_words (fun _ => rfl) ?_
  refine Takes.bind (takes_name x.table ?_) (.after_blank ?_)
  · trivial
  refine (takes_columns x.columns_ne_nil _).bind ?_
  refine .after_words (fun _ => rfl) ?_
  refine (takes_bounds x.values_ne_nil ls).finish ?_
  simp only [paired_of_length x.length_texts]
  rfl

theorem takes_whenNotMatched (ls : List Lexeme) :
    whenNotMatched.Takes
      (lit " WHEN NOT MATCHED THEN INSERT " ++ (Form.parens (commas x.parts.columns) ++
        (lit " VALUES " ++ Form.parens (commas (x.parts.columns.map fun c => lit "source." ++ c)))))
      (CheckedUpsertion.same x.columns) ls := by
  have hs : (inParens (separated "," (columnOf "source"))).Takes
      (Form.parens (commas (x.parts.columns.map fun c => lit "source." ++ c)))
      (x.columns.map Name.text) ls := by
    rw [CheckedUpsertion.parts, List.map_map]
    exact takes_inParens (takes_separated separates_comma ⟨trivial, rfl⟩
      (fun c _ => takes_source c) x.columns_ne_nil)
  refine .after_words (fun _ => rfl) ?_
  refine (takes_columns x.columns_ne_nil _).bind ?_
  refine .after_words (fun _ => rfl) ?_
  refine hs.finish ?_
  rw [paired_of_length rfl, List.zip_map']
  rfl

theorem takes_mergeActions (ls : List Lexeme) :
    mergeActions.Takes x.parts.mergeActions
      (x.conflict .mergeValues, CheckedUpsertion.same x.columns) ls := by
  have hn := (takes_whenNotMatched x ls).finish
    (f := fun inserted => pure (x.conflict .mergeValues, inserted)) rfl
  rw [Form.UpsertParts.mergeActions]
  simp only [List.append_assoc]
  refine Takes.bind ?_ hn
  by_cases hu : x.updates = []
  · -- The text goes on with the clause for a new row, which begins with the same word.
    rw [if_pos (x.parts_updates_eq_nil.2 hu), x.conflict_of_nil hu]
    exact .orElse_right (bind_of_none rfl) rfl
  · rw [if_neg (mt x.parts_updates_eq_nil.1 hu), x.conflict_of_ne_nil hu, CheckedUpsertion.parts,
      List.map_map]
    refine .orElse_left (.after_words (fun _ => rfl) ?_)
    refine takes_changes ⟨trivial, rfl⟩ (fun c ls h => ?_) hu
    exact takes_equated (fun _ => takes_target c) (takes_offeredBy (takes_source c h))

theorem takes_matching {ls : List Lexeme} (hls : Ends "AND" ls) :
    (separated "AND" matched).Takes x.parts.matching (CheckedUpsertion.same x.keys) ls := by
  rw [Form.UpsertParts.matching, CheckedUpsertion.parts, List.map_map]
  exact takes_separated separates_and hls (fun k _ => takes_matched k) x.keys_ne_nil

theorem ends_mergeActions (ls : List Lexeme) : Ends "AND" (x.parts.mergeActions.lex ls) := by
  rw [Form.UpsertParts.mergeActions]
  by_cases hu : x.parts.updates = []
  · rw [if_pos hu]
    exact ⟨trivial, rfl⟩
  · rw [if_neg hu]
    exact ⟨trivial, rfl⟩

theorem takes_conflictAction :
    conflictAction.Takes x.parts.conflictAction (x.conflict .onConflict) [] := by
  rw [Form.UpsertParts.conflictAction]
  by_cases hu : x.updates = []
  · rw [if_pos (x.parts_updates_eq_nil.2 hu), x.conflict_of_nil hu]
    have hw : (words "DO NOTHING").Takes (lit "DO NOTHING") () [] := rfl
    exact .orElse_left (hw.finish rfl)
  · rw [if_neg (mt x.parts_updates_eq_nil.1 hu), x.conflict_of_ne_nil hu, CheckedUpsertion.parts,
      List.map_map]
    refine .orElse_right (bind_of_none rfl) (.after_words (fun _ => rfl) ?_)
    refine takes_changes ⟨trivial, rfl⟩ (fun c ls h => ?_) hu
    have hc : (columnOf "EXCLUDED").Takes (lit "EXCLUDED." ++ ofName c) c.text ls :=
      takes_columnOf rfl rfl c h
    exact takes_equated (fun _ => takes_name c) (takes_offeredBy hc)

theorem takes_duplicateKeyUpdates {ps : List Phrase}
    (h : x.parts.duplicateKeyUpdates? = some ps) :
    (changes (equated name valuesOrColumn)).Takes (commas ps) (x.conflict .duplicateKey) [] := by
  rw [Form.UpsertParts.duplicateKeyUpdates?] at h
  by_cases hu : x.updates = []
  · obtain ⟨k, ks, hk⟩ := List.exists_cons_of_ne_nil x.keys_ne_nil
    have hkeys : x.parts.keys = ofName k :: ks.map ofName := by
      rw [CheckedUpsertion.parts, hk, List.map_cons]
    rw [if_pos (x.parts_updates_eq_nil.2 hu), hkeys] at h
    cases h
    rw [x.conflict_of_nil hu, hk, commas, join_singleton]
    have hself : (equated name valuesOrColumn).Takes (Form.equation (ofName k) (ofName k))
        (k.text, .present k.text) [] :=
      takes_equated (fun _ => takes_name k) (takes_valuesOrColumn_present k)
    exact (takes_separated_one rfl hself).finish rfl
  · rw [if_neg (mt x.parts_updates_eq_nil.1 hu)] at h
    cases h
    rw [x.conflict_of_ne_nil hu, CheckedUpsertion.parts, List.map_map]
    refine takes_changes ⟨trivial, rfl⟩ (fun c ls _ => ?_) hu
    exact takes_equated (fun _ => takes_name c) (takes_valuesOrColumn_offered c ls)

theorem takes_item (c : Name) (v : Value) {ls : List Lexeme} (h : Apart ls) :
    item.Takes (ofValue v ++ (lit " AS " ++ ofName c)) (c.text, v) ls := by
  refine (takes_bound v _).bind (.after_words (fun _ => rfl) ?_)
  exact (takes_name c h).finish rfl

theorem takes_items {ls : List Lexeme} (hls : Ends "," ls) :
    (separated "," item).Takes
      (commas (List.zipWith (fun v c => v ++ (lit " AS " ++ c)) x.parts.values x.parts.columns))
      x.row ls := by
  have hphrase : List.zipWith (fun v c => v ++ (lit " AS " ++ c)) x.parts.values x.parts.columns =
      (x.columns.zip x.values).map fun z => ofValue z.2 ++ (lit " AS " ++ ofName z.1) := by
    rw [CheckedUpsertion.parts, List.zipWith_map, List.zipWith_comm, List.zip_eq_zipWith,
      List.map_zipWith]
  have hrow : x.row = (x.columns.zip x.values).map fun z => (z.1.text, z.2) := by
    rw [CheckedUpsertion.row, List.zip_map_left]
    rfl
  have hne : x.columns.zip x.values ≠ [] := by
    rw [← List.length_pos_iff, List.length_zip, ← x.length_eq, Nat.min_self, List.length_pos_iff]
    exact x.columns_ne_nil
  rw [hphrase, hrow]
  exact takes_separated separates_comma hls (fun z _ => takes_item z.1 z.2) hne

theorem takes_duplicateKey (hp : Form.upsert? .duplicateKey x.parts = some p) :
    duplicateKey.Takes p (x.meaning .duplicateKey) [] := by
  obtain ⟨us, hus, rfl⟩ := Option.map_eq_some_iff.1 hp
  rw [List.append_assoc]
  refine (takes_insertion x _).bind ?_
  refine .after_words (fun _ => rfl) ?_
  refine (takes_duplicateKeyUpdates x hus).finish ?_
  simp only [x.map_row]
  rfl

theorem takes_onConflict (hp : Form.upsert? .onConflict x.parts = some p) :
    onConflict.Takes p (x.meaning .onConflict) [] := by
  cases hp
  simp only [List.append_assoc]
  refine (takes_insertion x _).bind ?_
  refine .after_words (fun _ => rfl) ?_
  refine (takes_columns x.keys_ne_nil _).bind (.after_blank ?_)
  refine (takes_conflictAction x).finish ?_
  simp only [x.map_row, List.map_map]
  rfl

theorem takes_mergeValues (hp : Form.upsert? .mergeValues x.parts = some p) :
    mergeValues.Takes p (x.meaning .mergeValues) [] := by
  cases hp
  simp only [List.append_assoc]
  refine .after_words (fun _ => rfl) ?_
  refine Takes.bind (takes_name x.table ?_) ?_
  · trivial
  refine .after_words (fun _ => rfl) ?_
  refine (takes_bounds x.values_ne_nil _).bind ?_
  refine .after_words (fun _ => rfl) ?_
  refine (takes_columns x.columns_ne_nil _).bind ?_
  refine .after_paired x.length_texts ?_
  refine .after_words (fun _ => rfl) ?_
  refine (takes_matching x ?_).bind ?_
  · rw [lex_append]
    exact ends_mergeActions x _
  refine (takes_mergeActions x _).bind ?_
  have hw : (words ";").Takes (lit ";") () [] := rfl
  exact hw.finish rfl

theorem takes_mergeQuery (hp : Form.upsert? .mergeQuery x.parts = some p) :
    mergeQuery.Takes p (x.meaning .mergeQuery) [] := by
  cases hp
  simp only [List.append_assoc]
  refine .after_words (fun _ => rfl) ?_
  refine Takes.bind (takes_name x.table ?_) ?_
  · trivial
  refine .after_words (fun _ => rfl) ?_
  refine (takes_items x ?_).bind ?_
  · refine .append ?_ _ _
    exact fun _ => ⟨trivial, rfl⟩
  refine .after_words (fun _ => rfl) ?_
  refine (takes_inParens (takes_matching x ?_)).bind ?_
  · exact ⟨trivial, rfl⟩
  exact (takes_mergeActions x []).finish rfl

/-- **The phrase of a checked upsertion is read as it was meant**, in every form. -/
theorem takes_upsert (form : UpsertForm) (hp : Form.upsert? form x.parts = some p) :
    (upsert form).Takes p (x.meaning form) [] := by
  cases form with
  | duplicateKey => exact takes_duplicateKey x hp
  | onConflict => exact takes_onConflict x hp
  | mergeValues => exact takes_mergeValues x hp
  | mergeQuery => exact takes_mergeQuery x hp

end Reader

end BoundSql
