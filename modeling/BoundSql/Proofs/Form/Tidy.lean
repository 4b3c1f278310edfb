import BoundSql.Form
import BoundSql.Proofs.Phrase.Tidy

/-!
# Tidy forms

The forms of statements put tidy phrases together to tidy phrases. One upsert ends with a
semicolon, which no tidy phrase holds; what stands before it is tidy.
-/

namespace BoundSql

namespace Form

open Phrase

variable {table : Phrase} {columns returning : List Phrase} {rows : List (List Phrase)}

theorem tidy_parens {p : Phrase} (h : Tidy p) : Tidy (parens p) where
  neat := by simp +decide [parens, lit, neat_append, h.neat]
  balanced k := by simp [parens, lit, depth?_append, h.balanced _, Token.depth?, parenStep]

theorem startsSafe_parens (p : Phrase) : StartsSafe (parens p) := by
  simp +decide [parens, lit]

theorem tidy_update {assignments condition : Phrase} (ht : Tidy table) (ha : Tidy assignments)
    (hc : Tidy condition) : Tidy (update table assignments condition) where
  neat := by simp +decide [update, lit, neat_append, ht.neat, ha.neat, hc.neat]
  balanced k := by
    simp [update, lit, depth?_append, ht.balanced _, ha.balanced _, hc.balanced _, Token.depth?,
      parenStep]

theorem tidy_delete {condition : Phrase} (ht : Tidy table) (hc : Tidy condition) :
    Tidy (delete table condition) where
  neat := by simp +decide [delete, lit, neat_append, ht.neat, hc.neat]
  balanced k := by
    simp [delete, lit, depth?_append, ht.balanced _, hc.balanced _, Token.depth?, parenStep]

/-! ### Inserts -/

theorem tidy_target (ht : Tidy table) (hc : ∀ c ∈ columns, Tidy c) :
    Tidy (target table columns) := by
  have h := tidy_parens (Tidy.commas hc)
  refine ⟨?_, fun k => ?_⟩
  · simp +decide [target, lit, neat_append, ht.neat, h.neat]
  · simp [target, lit, depth?_append, ht.balanced _, h.balanced _, Token.depth?, parenStep]

theorem tidy_outputClause (style : ReturningStyle) (hr : ∀ c ∈ returning, Tidy c) :
    Tidy (outputClause style returning) ∧ StartsSafe (outputClause style returning) := by
  unfold outputClause
  split_ifs
  · have h : Tidy (commas (returning.map fun c => lit "INSERTED." ++ c)) := by
      refine Tidy.commas fun p hp => ?_
      obtain ⟨c, hc, rfl⟩ := List.mem_map.1 hp
      exact (tidy_lit (by decide)).lit_append (by simp +decide [lit]) (hr c hc)
    exact ⟨(tidy_lit (by decide)).lit_append (by simp +decide [lit]) h,
      by simp +decide [lit]⟩
  · exact ⟨tidy_nil, startsSafe_nil⟩

theorem tidy_returningClause (style : ReturningStyle) (hr : ∀ c ∈ returning, Tidy c) :
    Tidy (returningClause style returning) ∧ StartsSafe (returningClause style returning) := by
  unfold returningClause
  split_ifs
  · exact ⟨(tidy_lit (by decide)).lit_append (by simp +decide [lit])
      (Tidy.commas hr), by simp +decide [lit]⟩
  · exact ⟨tidy_nil, startsSafe_nil⟩

theorem tidy_insert (style : ReturningStyle) (ht : Tidy table) (hc : ∀ c ∈ columns, Tidy c)
    (hv : ∀ r ∈ rows, ∀ v ∈ r, Tidy v) (hr : ∀ c ∈ returning, Tidy c) :
    Tidy (insert style table columns rows returning) := by
  have h1 := tidy_target ht hc
  obtain ⟨h2, h2'⟩ := tidy_outputClause style hr
  obtain ⟨h3, h3'⟩ := tidy_returningClause style hr
  have h4 : Tidy (commas (rows.map fun r => parens (commas r))) := by
    refine Tidy.commas fun p hp => ?_
    obtain ⟨r, hr, rfl⟩ := List.mem_map.1 hp
    exact tidy_parens (Tidy.commas (hv r hr))
  refine ⟨?_, fun k => ?_⟩
  · simp +decide [insert, lit, neat_append, h1.neat, h2.neat, h3.neat, h4.neat, h2'.append, h3']
  · simp [insert, lit, depth?_append, h1.balanced _, h2.balanced _, h3.balanced _, h4.balanced _,
      Token.depth?, parenStep]

theorem tidy_insertAll (ht : Tidy table) (hc : ∀ c ∈ columns, Tidy c)
    (hv : ∀ r ∈ rows, ∀ v ∈ r, Tidy v) : Tidy (insertAll table columns rows) := by
  have h1 := tidy_target ht hc
  have h2 : ∀ p ∈ rows.map fun r =>
      lit " INTO " ++ target table columns ++ lit " VALUES " ++ parens (commas r),
      Tidy p ∧ StartsSafe p := by
    intro p hp
    obtain ⟨r, hr, rfl⟩ := List.mem_map.1 hp
    have h3 := tidy_parens (Tidy.commas (hv r hr))
    refine ⟨⟨?_, fun k => ?_⟩, ?_⟩
    · simp +decide [lit, neat_append, h1.neat, h3.neat]
    · simp [lit, depth?_append, h1.balanced _, h3.balanced _, Token.depth?, parenStep]
    · simp +decide [lit]
  obtain ⟨h4, h4'⟩ := Tidy.flatten h2
  rw [← List.flatMap_def] at h4 h4'
  unfold insertAll
  exact ((tidy_lit (by decide)).append h4 (Or.inr h4')).append (tidy_lit (by decide))
    (Or.inr (by simp +decide [lit]))

theorem tidy_batchInsert (form : BatchForm) (style : ReturningStyle) (ht : Tidy table)
    (hc : ∀ c ∈ columns, Tidy c) (hv : ∀ r ∈ rows, ∀ v ∈ r, Tidy v)
    (hr : ∀ c ∈ returning, Tidy c) :
    Tidy (batchInsert form style table columns rows returning) := by
  unfold batchInsert
  split_ifs
  · exact tidy_insertAll ht hc hv
  · exact tidy_insert style ht hc hv hr

/-! ### Upserts -/

theorem tidy_equation {a b : Phrase} (ha : Tidy a) (hb : Tidy b) : Tidy (equation a b) where
  neat := by simp +decide [equation, lit, neat_append, ha.neat, hb.neat]
  balanced k := by
    simp [equation, lit, depth?_append, ha.balanced _, hb.balanced _, Token.depth?, parenStep]

theorem tidy_matched {c : Phrase} (hc : Tidy c) : Tidy (matched c) := by
  have h1 : Tidy (lit "target." ++ c) :=
    (tidy_lit (by decide)).lit_append (by simp +decide [lit]) hc
  have h2 : Tidy (lit "source." ++ c) :=
    (tidy_lit (by decide)).lit_append (by simp +decide [lit]) hc
  exact tidy_equation h1 h2

/-- The parts of an upsert are tidy. -/
structure UpsertParts.Tidy (x : UpsertParts) : Prop where
  table : x.table.Tidy
  columns : ∀ c ∈ x.columns, c.Tidy
  values : ∀ v ∈ x.values, v.Tidy
  keys : ∀ k ∈ x.keys, k.Tidy
  updates : ∀ u ∈ x.updates, u.Tidy

variable {x : UpsertParts}

theorem tidy_map {ps : List Phrase} {f : Phrase → Phrase} (hps : ∀ p ∈ ps, p.Tidy)
    (hf : ∀ p, p.Tidy → (f p).Tidy) : ∀ p ∈ ps.map f, p.Tidy := by
  intro p hp
  obtain ⟨q, hq, rfl⟩ := List.mem_map.1 hp
  exact hf q (hps q hq)

theorem tidy_insertion (h : x.Tidy) : x.insertion.Tidy := by
  have h1 := tidy_target h.table h.columns
  have h2 := tidy_parens (Tidy.commas h.values)
  refine ⟨?_, fun k => ?_⟩
  · simp +decide [UpsertParts.insertion, lit, neat_append, h1.neat, h2.neat]
  · simp [UpsertParts.insertion, lit, depth?_append, h1.balanced _, h2.balanced _, Token.depth?,
      parenStep]

theorem tidy_duplicateKeyUpdates (h : x.Tidy) {us : List Phrase}
    (hu : x.duplicateKeyUpdates? = some us) : ∀ u ∈ us, u.Tidy := by
  unfold UpsertParts.duplicateKeyUpdates? at hu
  split_ifs at hu
  · obtain ⟨k, hk, rfl⟩ := Option.map_eq_some_iff.1 hu
    have hk : k.Tidy := by
      cases hks : x.keys.head? with
      | some k' =>
        rw [hks] at hk
        cases hk
        exact h.keys k (List.mem_of_mem_head? hks)
      | none =>
        rw [hks] at hk
        exact h.columns k (List.mem_of_mem_head? hk)
    intro u hu
    rw [List.mem_singleton.1 hu]
    exact tidy_equation hk hk
  · cases hu
    refine tidy_map h.updates fun c hc => tidy_equation hc ?_
    exact (tidy_lit (by decide)).append (tidy_parens hc)
      (Or.inr (startsSafe_parens c))

theorem tidy_conflictAction (h : x.Tidy) : x.conflictAction.Tidy := by
  unfold UpsertParts.conflictAction
  split_ifs
  · exact tidy_lit (by decide)
  · refine (tidy_lit (by decide)).lit_append (by simp +decide [lit]) (Tidy.commas ?_)
    refine tidy_map h.updates fun c hc => tidy_equation hc ?_
    exact (tidy_lit (by decide)).lit_append (by simp +decide [lit]) hc

theorem tidy_matching (h : x.Tidy) : x.matching.Tidy :=
  Tidy.join (tidy_lit (by decide)) (by simp +decide [lit]) (by simp +decide [lit])
    (tidy_map h.keys fun _ => tidy_matched)

theorem tidy_mergeActions (h : x.Tidy) : x.mergeActions.Tidy ∧ StartsSafe x.mergeActions := by
  have h1 := tidy_parens (Tidy.commas h.columns)
  have h2 : Tidy (parens (commas (x.columns.map fun c => lit "source." ++ c))) :=
    tidy_parens (Tidy.commas (tidy_map h.columns fun c hc =>
      (tidy_lit (by decide)).lit_append (by simp +decide [lit]) hc))
  have h3 : Tidy (commas (x.updates.map matched)) :=
    Tidy.commas (tidy_map h.updates fun _ => tidy_matched)
  unfold UpsertParts.mergeActions
  generalize parens (commas (x.columns.map fun c => lit "source." ++ c)) = sources at h2 ⊢
  refine ⟨⟨?_, fun k => ?_⟩, ?_⟩ <;> split_ifs
  · simp +decide [lit, neat_append, h1.neat, h2.neat]
  · simp +decide [lit, neat_append, h1.neat, h2.neat, h3.neat]
  · simp [lit, depth?_append, h1.balanced _, h2.balanced _, Token.depth?, parenStep]
  · simp [lit, depth?_append, h1.balanced _, h2.balanced _, h3.balanced _, Token.depth?,
      parenStep]
  · simp +decide [lit]
  · simp +decide [lit]

/-- What ends an upsert after everything else. -/
def terminator : UpsertForm → Phrase
  | .mergeValues => lit ";"
  | _ => []

/-- The values that a query of one row offers under the names of their columns. -/
theorem tidy_offered (h : x.Tidy) :
    Tidy (commas (List.zipWith (fun v c => v ++ lit " AS " ++ c) x.values x.columns)) := by
  refine Tidy.commas fun p hp => ?_
  rw [← List.map_uncurry_zip_eq_zipWith] at hp
  obtain ⟨⟨v, c⟩, hvc, rfl⟩ := List.mem_map.1 hp
  obtain ⟨hv, hc⟩ := List.of_mem_zip hvc
  have hv := h.values v hv
  have hc := h.columns c hc
  rw [Function.uncurry_apply_pair]
  refine ⟨?_, fun k => ?_⟩
  · simp +decide [lit, neat_append, hv.neat, hc.neat]
  · simp [lit, depth?_append, hv.balanced _, hc.balanced _, Token.depth?, parenStep]

theorem tidy_upsert (form : UpsertForm) (h : x.Tidy) {p : Phrase}
    (hp : upsert? form x = some p) : ∃ body : Phrase, body.Tidy ∧ p = body ++ terminator form := by
  have hi := tidy_insertion h
  obtain ⟨ha, ha'⟩ := tidy_mergeActions h
  have ht := h.table
  cases form with
  | duplicateKey =>
    obtain ⟨us, hus, rfl⟩ := Option.map_eq_some_iff.1 hp
    have hu := Tidy.commas (tidy_duplicateKeyUpdates h hus)
    refine ⟨_, ⟨?_, fun k => ?_⟩, (List.append_nil _).symm⟩
    · simp +decide [lit, neat_append, hi.neat, hu.neat]
    · simp [lit, depth?_append, hi.balanced _, hu.balanced _, Token.depth?, parenStep]
  | onConflict =>
    cases hp
    have hk := tidy_parens (Tidy.commas h.keys)
    have hc := tidy_conflictAction h
    refine ⟨_, ⟨?_, fun k => ?_⟩, (List.append_nil _).symm⟩
    · simp +decide [lit, neat_append, hi.neat, hk.neat, hc.neat]
    · simp [lit, depth?_append, hi.balanced _, hk.balanced _, hc.balanced _, Token.depth?,
        parenStep]
  | mergeValues =>
    cases hp
    have hv := tidy_parens (Tidy.commas h.values)
    have hc := tidy_parens (Tidy.commas h.columns)
    have hm := tidy_matching h
    refine ⟨_, ⟨?_, fun k => ?_⟩, rfl⟩
    · simp +decide [lit, neat_append, ht.neat, hv.neat, hc.neat, hm.neat, ha.neat, ha']
    · simp [lit, depth?_append, ht.balanced _, hv.balanced _, hc.balanced _, hm.balanced _,
        ha.balanced _, Token.depth?, parenStep]
  | mergeQuery =>
    cases hp
    have hs := tidy_offered h
    have hm := tidy_parens (tidy_matching h)
    -- The selected items stay closed, so that only the words of the form are opened below.
    generalize commas (List.zipWith _ x.values x.columns) = source at hs ⊢
    refine ⟨_, ⟨?_, fun k => ?_⟩, (List.append_nil _).symm⟩
    · simp +decide [lit, neat_append, ht.neat, hs.neat, hm.neat, ha.neat, ha']
    · simp [lit, depth?_append, ht.balanced _, hs.balanced _, hm.balanced _, ha.balanced _,
        Token.depth?, parenStep]

end Form

end BoundSql
