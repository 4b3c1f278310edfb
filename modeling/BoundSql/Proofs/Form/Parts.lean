import BoundSql.Proofs.Form.Values

/-!
# Parts of forms

A form arranges its parts and adds words of its own. So a map of tokens that leaves words as they
are may be applied to the parts or to the whole (`Form.map_insert`, `Form.map_batchInsert`,
`Form.map_upsert?`).
-/

namespace BoundSql

namespace Form

open Phrase

/-- The parts of an upsert with a map applied to their tokens. -/
def UpsertParts.map (f : Token → Token) (x : UpsertParts) : UpsertParts where
  table := x.table.map f
  columns := x.columns.map (List.map f)
  values := x.values.map (List.map f)
  keys := x.keys.map (List.map f)
  updates := x.updates.map (List.map f)

variable {f : Token → Token}

section Maps

variable (hf : ∀ s, f (.text s) = .text s)

include hf

theorem map_lit (s : String) : (lit s).map f = lit s := by simp [lit, hf]

theorem map_join (separator : String) (ps : List Phrase) :
    (join separator ps).map f = join separator (ps.map (List.map f)) := by
  unfold join
  induction ps with
  | nil => rfl
  | cons p ps ih =>
    cases ps with
    | nil => simp
    | cons q ps =>
      simp only [List.map_cons, List.intercalate_cons_cons, List.map_append, map_lit hf] at ih ⊢
      rw [ih]

theorem map_commas (ps : List Phrase) : (commas ps).map f = commas (ps.map (List.map f)) :=
  map_join hf ", " ps

theorem map_parens (p : Phrase) : (parens p).map f = parens (p.map f) := by
  simp [parens, map_lit hf]

theorem map_target (table : Phrase) (columns : List Phrase) :
    (target table columns).map f = target (table.map f) (columns.map (List.map f)) := by
  simp [target, map_lit hf, map_parens hf, map_commas hf]

/-! ### Inserts -/

theorem map_outputClause (style : ReturningStyle) (returning : List Phrase) :
    (outputClause style returning).map f = outputClause style (returning.map (List.map f)) := by
  unfold outputClause
  simp only [ne_eq, List.map_eq_nil_iff]
  split_ifs
  · simp [map_lit hf, map_commas hf, Function.comp_def]
  · rfl

theorem map_returningClause (style : ReturningStyle) (returning : List Phrase) :
    (returningClause style returning).map f =
      returningClause style (returning.map (List.map f)) := by
  unfold returningClause
  simp only [ne_eq, List.map_eq_nil_iff]
  split_ifs
  · simp [map_lit hf, map_commas hf]
  · rfl

variable (table : Phrase) (columns : List Phrase) (rows : List (List Phrase))
  (returning : List Phrase)

theorem map_insert (style : ReturningStyle) :
    (insert style table columns rows returning).map f =
      insert style (table.map f) (columns.map (List.map f)) (rows.map (List.map (List.map f)))
        (returning.map (List.map f)) := by
  simp [insert, map_lit hf, map_target hf, map_outputClause hf, map_returningClause hf,
    map_commas hf, map_parens hf, Function.comp_def]

theorem map_insertAll :
    (insertAll table columns rows).map f =
      insertAll (table.map f) (columns.map (List.map f)) (rows.map (List.map (List.map f))) := by
  simp [insertAll, map_lit hf, map_target hf, map_commas hf, map_parens hf, List.map_flatMap,
    List.flatMap_map]

theorem map_batchInsert (form : BatchForm) (style : ReturningStyle) :
    (batchInsert form style table columns rows returning).map f =
      batchInsert form style (table.map f) (columns.map (List.map f))
        (rows.map (List.map (List.map f))) (returning.map (List.map f)) := by
  unfold batchInsert
  rw [List.length_map]
  split_ifs
  · exact map_insertAll hf table columns rows
  · exact map_insert hf table columns rows returning style

/-! ### Upserts -/

theorem map_equation (a b : Phrase) : (equation a b).map f = equation (a.map f) (b.map f) := by
  simp [equation, map_lit hf]

theorem map_matched (c : Phrase) : (matched c).map f = matched (c.map f) := by
  simp [matched, map_equation hf, map_lit hf]

variable (x : UpsertParts)

theorem map_insertion : x.insertion.map f = (x.map f).insertion := by
  simp [UpsertParts.insertion, UpsertParts.map, map_lit hf, map_target hf, map_parens hf,
    map_commas hf]

theorem map_duplicateKeyUpdates? :
    x.duplicateKeyUpdates?.map (List.map (List.map f)) = (x.map f).duplicateKeyUpdates? := by
  unfold UpsertParts.duplicateKeyUpdates?
  simp only [UpsertParts.map, List.map_eq_nil_iff]
  split_ifs
  · cases hk : x.keys with
    | nil => cases x.columns <;> simp [map_equation hf]
    | cons k ks => simp [map_equation hf]
  · simp [map_equation hf, map_lit hf, map_parens hf, Function.comp_def]

theorem map_conflictAction : x.conflictAction.map f = (x.map f).conflictAction := by
  unfold UpsertParts.conflictAction
  simp only [UpsertParts.map, List.map_eq_nil_iff]
  split_ifs
  · exact map_lit hf _
  · simp [map_lit hf, map_commas hf, map_equation hf, Function.comp_def]

theorem map_matching : x.matching.map f = (x.map f).matching := by
  simp [UpsertParts.matching, UpsertParts.map, map_join hf, map_matched hf, Function.comp_def]

theorem map_mergeActions : x.mergeActions.map f = (x.map f).mergeActions := by
  unfold UpsertParts.mergeActions
  simp only [UpsertParts.map, List.map_eq_nil_iff]
  split_ifs <;>
    simp [map_lit hf, map_parens hf, map_commas hf, map_matched hf, Function.comp_def]

theorem map_upsert? (form : UpsertForm) :
    (upsert? form x).map (List.map f) = upsert? form (x.map f) := by
  cases form with
  | duplicateKey =>
    simp only [upsert?, ← map_duplicateKeyUpdates? hf, Option.map_map]
    simp [Function.comp_def, map_insertion hf, map_lit hf, map_commas hf]
  | onConflict =>
    simp [upsert?, map_insertion hf, map_lit hf, map_parens hf, map_commas hf,
      map_conflictAction hf]
    rfl
  | mergeValues =>
    simp [upsert?, map_lit hf, map_parens hf, map_commas hf, map_matching hf, map_mergeActions hf]
    rfl
  | mergeQuery =>
    have hitems : (List.zipWith (fun v c => v ++ lit " AS " ++ c) x.values x.columns).map
        (List.map f) =
        List.zipWith (fun v c => v ++ lit " AS " ++ c) (x.map f).values (x.map f).columns := by
      simp [UpsertParts.map, List.map_zipWith, List.zipWith_map, map_lit hf]
    simp only [upsert?, Option.map_some, List.map_append, map_lit hf, map_parens hf, map_commas hf,
      map_matching hf, map_mergeActions hf, hitems]
    rfl

end Maps

end Form

end BoundSql
