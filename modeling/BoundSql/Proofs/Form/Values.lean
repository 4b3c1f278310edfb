import BoundSql.Form
import Mathlib.Tactic.SplitIfs

/-!
# Values of forms

The values of phrases that are put together, in the order of their placeholders. Separators and the
words of a form bind nothing, so a form whose names bind nothing binds what its rows or its one row
of values bind (`values_insert`, `values_batchInsert`, `values_upsert`), whichever form it is and
however often it repeats a name.
-/

namespace BoundSql

namespace Phrase

/-- The values of several phrases, one phrase after the other. -/
def allValues (ps : List Phrase) : List Value := ps.flatMap values

@[simp] theorem allValues_nil : allValues [] = [] := rfl

@[simp] theorem allValues_cons (p : Phrase) (ps : List Phrase) :
    allValues (p :: ps) = values p ++ allValues ps := rfl

@[simp] theorem allValues_append (ps qs : List Phrase) :
    allValues (ps ++ qs) = allValues ps ++ allValues qs := List.flatMap_append

theorem allValues_eq_nil_iff {ps : List Phrase} : allValues ps = [] ↔ ∀ p ∈ ps, values p = [] :=
  List.flatMap_eq_nil_iff

@[simp] theorem allValues_ofValue (vs : List Value) : allValues (vs.map ofValue) = vs := by
  induction vs with
  | nil => rfl
  | cons v vs ih => simp [ih]

@[simp] theorem allValues_ofName (ns : List Name) : allValues (ns.map ofName) = [] :=
  allValues_eq_nil_iff.2 (List.forall_mem_map.2 fun n _ => values_ofName n)

@[simp] theorem values_join (sep : String) (ps : List Phrase) :
    values (join sep ps) = allValues ps := by
  unfold join
  induction ps with
  | nil => rfl
  | cons p ps ih =>
    cases ps with
    | nil => simp
    | cons q ps =>
      rw [List.intercalate_cons_cons, values_append, values_append, ih]
      simp

@[simp] theorem values_commas (ps : List Phrase) : values (commas ps) = allValues ps :=
  values_join ", " ps

@[simp] theorem values_flatten (ps : List Phrase) : values ps.flatten = allValues ps := by
  induction ps with
  | nil => rfl
  | cons p ps ih => simp [ih]

end Phrase

namespace Form

open Phrase

/-! ### Inserts -/

@[simp] theorem values_parens (p : Phrase) : values (parens p) = values p := by simp [parens]

section Insert

variable {table : Phrase} {columns returning : List Phrase} (ht : values table = [])
  (hc : allValues columns = [])

include ht hc

theorem values_target : values (target table columns) = [] := by simp [target, ht, hc]

/-- The rows of an insert bind their values row by row; its names bind nothing. -/
theorem values_insert (style : ReturningStyle) (rows : List (List Phrase))
    (hr : allValues returning = []) :
    values (insert style table columns rows returning) = rows.flatMap allValues := by
  have houtput : values (outputClause style returning) = [] := by
    unfold outputClause
    split_ifs
    · have h : allValues (returning.map fun c => lit "INSERTED." ++ c) = [] := by
        rw [allValues_eq_nil_iff] at hr ⊢
        exact List.forall_mem_map.2 fun c hc => by simp [hr c hc]
      simp [h]
    · rfl
  have hreturning : values (returningClause style returning) = [] := by
    unfold returningClause
    split_ifs
    · simp [hr]
    · rfl
  have hrows : allValues (rows.map fun r => parens (commas r)) = rows.flatMap allValues := by
    rw [allValues, List.flatMap_map]
    simp
  simp [insert, values_target ht hc, houtput, hreturning, hrows]

theorem values_insertAll (rows : List (List Phrase)) :
    values (insertAll table columns rows) = rows.flatMap allValues := by
  have hrows : allValues (rows.map fun r =>
      lit " INTO " ++ target table columns ++ lit " VALUES " ++ parens (commas r)) =
      rows.flatMap allValues := by
    rw [allValues, List.flatMap_map]
    simp [values_target ht hc]
  rw [insertAll, List.flatMap_def, values_append, values_append, values_flatten, hrows]
  simp

theorem values_batchInsert (form : BatchForm) (style : ReturningStyle) (rows : List (List Phrase))
    (hr : allValues returning = []) :
    values (batchInsert form style table columns rows returning) = rows.flatMap allValues := by
  unfold batchInsert
  split_ifs
  · exact values_insertAll ht hc rows
  · exact values_insert ht hc style rows hr

end Insert

/-! ### Upserts -/

/-- The names of an upsert bind nothing. -/
structure UpsertParts.IsSilent (x : UpsertParts) : Prop where
  table : Phrase.values x.table = []
  columns : allValues x.columns = []
  keys : allValues x.keys = []
  updates : allValues x.updates = []

section Upsert

variable {x : UpsertParts} (h : x.IsSilent)

/-- What is written of names that bind nothing binds nothing. -/
theorem allValues_map {ps : List Phrase} (hp : allValues ps = []) {f : Phrase → Phrase}
    (hf : ∀ p, values p = [] → values (f p) = []) : allValues (ps.map f) = [] := by
  rw [allValues_eq_nil_iff] at hp ⊢
  exact List.forall_mem_map.2 fun p hm => hf p (hp p hm)

theorem values_equation (a b : Phrase) : values (equation a b) = values a ++ values b := by
  simp [equation]

theorem values_matched {c : Phrase} (hc : values c = []) : values (matched c) = [] := by
  simp [matched, values_equation, hc]

/-- Each value next to its name, and the names bind nothing. -/
theorem allValues_zipWith {vs cs : List Phrase} (hc : allValues cs = [])
    (hl : vs.length = cs.length) :
    allValues (List.zipWith (fun v c => v ++ lit " AS " ++ c) vs cs) = allValues vs := by
  induction vs generalizing cs with
  | nil => rfl
  | cons v vs ih =>
    cases cs with
    | nil => cases hl
    | cons c cs =>
      rw [allValues_cons, List.append_eq_nil_iff] at hc
      rw [List.zipWith_cons_cons, allValues_cons, ih hc.2 (by simpa using hl)]
      simp [hc.1]

include h

theorem values_insertion : values x.insertion = allValues x.values := by
  simp [UpsertParts.insertion, values_target h.table h.columns]

theorem allValues_duplicateKeyUpdates {us : List Phrase} (hu : x.duplicateKeyUpdates? = some us) :
    allValues us = [] := by
  unfold UpsertParts.duplicateKeyUpdates? at hu
  split_ifs at hu
  · obtain ⟨k, hk, rfl⟩ := Option.map_eq_some_iff.1 hu
    have hk : values k = [] := by
      cases hks : x.keys.head? with
      | some k' =>
        rw [hks] at hk
        cases hk
        exact allValues_eq_nil_iff.1 h.keys k (List.mem_of_mem_head? hks)
      | none =>
        rw [hks] at hk
        exact allValues_eq_nil_iff.1 h.columns k (List.mem_of_mem_head? hk)
    simp [values_equation, hk]
  · cases hu
    exact allValues_map h.updates fun c hc => by simp [values_equation, hc]

theorem values_conflictAction : values x.conflictAction = [] := by
  have hu : allValues (x.updates.map fun c => equation c (lit "EXCLUDED." ++ c)) = [] :=
    allValues_map h.updates fun c hc => by simp [values_equation, hc]
  unfold UpsertParts.conflictAction
  split_ifs
  · rfl
  · simp [hu]

theorem values_matching : values x.matching = [] := by
  rw [UpsertParts.matching, values_join]
  exact allValues_map h.keys fun _ => values_matched

theorem values_mergeActions : values x.mergeActions = [] := by
  have hu : allValues (x.updates.map matched) = [] :=
    allValues_map h.updates fun _ => values_matched
  have hs : allValues (x.columns.map fun c => lit "source." ++ c) = [] :=
    allValues_map h.columns fun c hc => by simp [hc]
  unfold UpsertParts.mergeActions
  split_ifs <;> simp [hu, hs, h.columns]

/-- **Every form of upsert binds the values of its row, each once and in order.** -/
theorem values_upsert {form : UpsertForm} (hl : x.values.length = x.columns.length) {p : Phrase}
    (hp : upsert? form x = some p) : values p = allValues x.values := by
  cases form with
  | duplicateKey =>
    obtain ⟨us, hus, rfl⟩ := Option.map_eq_some_iff.1 hp
    simp [values_insertion h, allValues_duplicateKeyUpdates h hus]
  | onConflict =>
    cases hp
    simp [values_insertion h, h.keys, values_conflictAction h]
  | mergeValues =>
    cases hp
    simp [h.table, h.columns, values_matching h, values_mergeActions h]
  | mergeQuery =>
    cases hp
    simp [-List.append_assoc, h.table, allValues_zipWith h.columns hl, values_matching h,
      values_mergeActions h]

end Upsert

end Form

end BoundSql
