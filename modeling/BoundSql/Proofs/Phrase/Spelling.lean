import BoundSql.Proofs.Engine.Writing

/-!
# The spelling of phrases

What a phrase says in a dialect, as a text. A phrase that binds nothing has the same text wherever
it stands (`Phrase.Spells`); the text of any other depends on the number of its first placeholder
(`Phrase.Writes`). In a list of items that bind equally many values the items are numbered on from
one another, so the first placeholder of an item is told by its position (`Phrase.renderEach_map`).
-/

namespace BoundSql

open Phrase

/-- Names in the quotes of a dialect, with commas between them. -/
def Dialect.listText (d : Dialect) (names : List String) : String :=
  ", ".intercalate (names.map d.quotes.quote)

namespace Phrase

variable {d : Dialect}

/-! ### Phrases that bind nothing -/

/-- The phrase binds nothing and has the given text, wherever it stands. -/
def Spells (d : Dialect) (p : Phrase) (text : String) : Prop :=
  values p = [] ∧ ∀ i, renderFrom d i p = text.toList

theorem spells_nil : Spells d [] "" := ⟨rfl, fun _ => rfl⟩

theorem spells_lit (s : String) : Spells d (lit s) s := ⟨rfl, fun i => renderFrom_lit d i s⟩

theorem spells_ofName (n : Name) : Spells d (ofName n) (d.quotes.quote n.text) :=
  ⟨rfl, fun i => by simp⟩

theorem spells_column {s : String} {p : Phrase} (h : column s = .ok p) :
    Spells d p (d.quotes.quote s) := by
  obtain ⟨n, rfl, rfl⟩ := column_eq_ok.1 h
  exact spells_ofName n

theorem Spells.append {p q : Phrase} {s t : String} (hp : Spells d p s) (hq : Spells d q t) :
    Spells d (p ++ q) (s ++ t) :=
  ⟨by simp [hp.1, hq.1], fun i => by simp [renderFrom_append, hp.1, hp.2, hq.2]⟩

/-- Phrases with commas between them have the texts with commas between them. -/
theorem spells_commas {α : Type} {text : α → String} {as : List α} {ps : List Phrase}
    (h : List.Forall₂ (fun a p => Spells d p (text a)) as ps) :
    Spells d (commas ps) (", ".intercalate (as.map text)) := by
  unfold commas join
  induction h with
  | nil => exact spells_nil
  | @cons a p as ps hp hps ih =>
    cases hps with
    | nil => simpa using hp
    | cons hp' hps =>
      rw [List.intercalate_cons_cons, List.map_cons, List.map_cons, String.intercalate_cons_cons]
      exact (hp.append (spells_lit ", ")).append ih

/-- Compiled items that bind nothing, with commas between them. -/
theorem spells_commas_of_mapM {α : Type} {f : α → Except Error Phrase} {text : α → String}
    (hf : ∀ a p, f a = .ok p → Spells d p (text a)) {as : List α} {ps : List Phrase}
    (h : as.mapM f = .ok ps) : Spells d (commas ps) (", ".intercalate (as.map text)) :=
  spells_commas ((mapM_eq_ok.1 h).imp hf)

theorem spells_commas_map {α : Type} {phrase : α → Phrase} {text : α → String}
    (h : ∀ a, Spells d (phrase a) (text a)) (as : List α) :
    Spells d (commas (as.map phrase)) (", ".intercalate (as.map text)) :=
  spells_commas (List.forall₂_map_right_iff.2 (List.forall₂_same.2 fun a _ => h a))

/-! ### Phrases that bind values -/

/-- The phrase binds `n` values, and if the first has the number `i`, its text is `text i`. -/
def Writes (d : Dialect) (p : Phrase) (n : Nat) (text : Nat → String) : Prop :=
  (values p).length = n ∧ ∀ i, renderFrom d i p = (text i).toList

variable {p q : Phrase} {n : Nat} {s t : String} {text : Nat → String}

theorem Spells.append_writes (hp : Spells d p s) (hq : Writes d q n text) :
    Writes d (p ++ q) n fun i => s ++ text i :=
  ⟨by simp [hp.1, hq.1], fun i => by simp [renderFrom_append, hp.1, hp.2, hq.2]⟩

theorem Writes.append_spells (hp : Writes d p n text) (hq : Spells d q t) :
    Writes d (p ++ q) n fun i => text i ++ t :=
  ⟨by simp [hp.1, hq.1], fun i => by simp [renderFrom_append, hp.2, hq.2]⟩

theorem Writes.parens (hp : Writes d p n text) :
    Writes d (Form.parens p) n fun i => "(" ++ text i ++ ")" :=
  ((spells_lit "(").append_writes hp).append_spells (spells_lit ")")

/-! ### Lists of items -/

theorem renderFrom_engine (i : Nat) (p : Phrase) :
    renderFrom d i p = (d.engine.render i p).toList := by
  rw [Dialect.render_engine, toList_render]

/-- **Items that bind equally many values are numbered by their position**: those before the item
at position `k` take up `k` times as many numbers. -/
theorem renderEach_map {α : Type} {phrase : α → Phrase} {as : List α}
    (h : ∀ a ∈ as, Writes d (phrase a) n text) (i : Nat) :
    d.engine.renderEach i (as.map phrase) =
      (List.range as.length).map fun k => text (i + k * n) := by
  induction as generalizing i with
  | nil => rfl
  | cons a as ih =>
    obtain ⟨hn, ht⟩ := h a (by simp)
    have ha : d.engine.render i (phrase a) = text i := by
      rw [← String.toList_inj, ← renderFrom_engine, ht]
    have hrest := ih (fun b hb => h b (List.mem_cons_of_mem a hb)) (i + n)
    have hshift : ∀ k, i + n + k * n = i + (k + 1) * n := fun k => by
      rw [Nat.add_assoc, Nat.add_comm n, ← Nat.succ_mul]
    simp only [hshift] at hrest
    rw [List.map_cons, Engine.renderEach, hn, ha, hrest, List.length_cons, List.range_succ_eq_map,
      List.map_cons, List.map_map, Nat.zero_mul, Nat.add_zero]
    rfl

/-- Values with commas between them. -/
theorem writes_values (vs : List Value) :
    Writes d (commas (vs.map ofValue)) vs.length fun i =>
      ", ".intercalate ((List.range vs.length).map fun k => d.placeholders.render (i + k)) := by
  refine ⟨by simp, fun i => ?_⟩
  rw [renderFrom_engine, Engine.render_values, Engine.placeholdersFrom, List.range'_eq_map_range,
    List.map_map]
  rfl

end Phrase

end BoundSql
