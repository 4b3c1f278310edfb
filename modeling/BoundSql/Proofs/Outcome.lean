import BoundSql.Request
import Mathlib.Data.List.Forall2

/-!
# Outcomes of checks

A chain of checks succeeds only if every check in it does (`bind_eq_ok`, `mapM_eq_ok`). Two chains
agree if they fail with the same error or succeed with related results, and they do so if they
agree step by step (`Agree.bind`). Items compiled one by one give what compiling the whole list
gives (`Progress.result_run`), and a statement is always the rendered phrase of its request
(`Request.exists_rendered`).
-/

namespace BoundSql

section Success

variable {ε α β : Type}

theorem bind_eq_ok {x : Except ε α} {f : α → Except ε β} {b : β} :
    (x >>= f) = .ok b ↔ ∃ a, x = .ok a ∧ f a = .ok b := by
  cases x with
  | error e => exact ⟨fun h => (by cases h), fun ⟨a, h, _⟩ => (by cases h)⟩
  | ok a => exact ⟨fun h => ⟨a, rfl, h⟩, fun ⟨a', h, h'⟩ => (by cases h; exact h')⟩

theorem map_eq_ok {x : Except ε α} {f : α → β} {b : β} :
    x.map f = .ok b ↔ ∃ a, x = .ok a ∧ f a = b := by
  cases x <;> simp [Except.map]

theorem pure_eq_ok {a b : α} : (pure a : Except ε α) = .ok b ↔ a = b := by
  simp [pure, Except.pure]

/-- A refusal that has not struck. -/
theorem ite_eq_ok {c : Prop} [Decidable c] {e : ε} {x : Except ε α} {b : α} :
    (if c then .error e else x) = .ok b ↔ ¬ c ∧ x = .ok b := by
  by_cases h : c <;> simp [h]

theorem mapM_eq_ok {f : α → Except ε β} {as : List α} {bs : List β} :
    as.mapM f = .ok bs ↔ List.Forall₂ (fun a b => f a = .ok b) as bs := by
  induction as generalizing bs with
  | nil =>
    rw [List.mapM_nil, pure_eq_ok, List.forall₂_nil_left_iff]
    exact eq_comm
  | cons a as ih =>
    rw [List.mapM_cons, bind_eq_ok, List.forall₂_cons_left_iff]
    constructor
    · rintro ⟨b, hb, h⟩
      obtain ⟨cs, hcs, h⟩ := bind_eq_ok.1 h
      exact ⟨b, cs, hb, ih.1 hcs, (pure_eq_ok.1 h).symm⟩
    · rintro ⟨b, cs, hb, hcs, rfl⟩
      exact ⟨b, hb, bind_eq_ok.2 ⟨cs, ih.2 hcs, rfl⟩⟩

/-- A list of checks succeeds if each of them does. -/
theorem exists_mapM_eq_ok {f : α → Except ε β} {as : List α} (h : ∀ a ∈ as, ∃ b, f a = .ok b) :
    ∃ bs, as.mapM f = .ok bs := by
  induction as with
  | nil => exact ⟨[], rfl⟩
  | cons a as ih =>
    obtain ⟨b, hb⟩ := h a (by simp)
    obtain ⟨bs, hbs⟩ := ih fun c hc => h c (List.mem_cons_of_mem a hc)
    exact ⟨b :: bs, mapM_eq_ok.2 (.cons hb (mapM_eq_ok.1 hbs))⟩

/-- Every member of a list has a partner in a list that is related to it. -/
theorem exists_partner {R : α → β → Prop} {as : List α} {bs : List β} (h : List.Forall₂ R as bs)
    {a : α} (ha : a ∈ as) : ∃ b ∈ bs, R a b := by
  induction h with
  | nil => cases ha
  | @cons c b as bs hcb _ ih =>
    rcases List.mem_cons.1 ha with rfl | ha
    · exact ⟨b, by simp, hcb⟩
    · obtain ⟨d, hd, had⟩ := ih ha
      exact ⟨d, by simp [hd], had⟩

theorem isEmpty_eq_of_forall₂ {R : α → β → Prop} {as : List α} {bs : List β}
    (h : List.Forall₂ R as bs) : as.isEmpty = bs.isEmpty := by
  cases h <;> rfl

theorem exists_of_mem_mapM {f : α → Except ε β} {as : List α} {bs : List β}
    (h : as.mapM f = .ok bs) {b : β} (hb : b ∈ bs) : ∃ a ∈ as, f a = .ok b :=
  exists_partner (mapM_eq_ok.1 h).flip hb

end Success

/-! ### Agreement -/

section Agreement

variable {ε α β γ δ : Type} {R : α → β → Prop} {S : γ → δ → Prop}

/-- The same error, or results that are related. -/
def Agree (R : α → β → Prop) : Except ε α → Except ε β → Prop
  | .ok a, .ok b => R a b
  | .error e, .error e' => e = e'
  | _, _ => False

@[simp] theorem agree_ok {a : α} {b : β} :
    Agree R (.ok a : Except ε α) (.ok b) ↔ R a b := Iff.rfl

@[simp] theorem agree_error {e e' : ε} :
    Agree R (.error e : Except ε α) (.error e') ↔ e = e' := Iff.rfl

theorem agree_pure {a : α} {b : β} (h : R a b) :
    Agree R (pure a : Except ε α) (pure b) := h

theorem agree_iff {x : Except ε α} {y : Except ε β} : Agree R x y ↔
    (∃ e, x = .error e ∧ y = .error e) ∨ ∃ a b, x = .ok a ∧ y = .ok b ∧ R a b := by
  cases x <;> cases y <;> simp [Agree, eq_comm]

theorem Agree.refl (x : Except ε α) : Agree Eq x x := by
  cases x <;> rfl

theorem Agree.of_eq {x y : Except ε α} (h : x = y) : Agree Eq x y := h ▸ .refl x

/-- Of chains that agree, both succeed or none. -/
theorem Agree.exists_ok_iff {x : Except ε α} {y : Except ε β} (h : Agree R x y) :
    (∃ a, x = .ok a) ↔ ∃ b, y = .ok b := by
  obtain ⟨e, rfl, rfl⟩ | ⟨a, b, rfl, rfl, -⟩ := agree_iff.1 h
  · simp
  · exact ⟨fun _ => ⟨b, rfl⟩, fun _ => ⟨a, rfl⟩⟩

theorem Agree.mono {T : α → β → Prop} {x : Except ε α} {y : Except ε β} (h : Agree R x y)
    (hT : ∀ a b, R a b → T a b) : Agree T x y := by
  obtain ⟨e, rfl, rfl⟩ | ⟨a, b, rfl, rfl, hab⟩ := agree_iff.1 h
  · rfl
  · exact hT a b hab

/-- The same refusal before what follows. -/
theorem Agree.refuse {c : Prop} [Decidable c] {e : ε} {x : Except ε α} {y : Except ε β}
    (h : Agree R x y) : Agree R (if c then .error e else x) (if c then .error e else y) := by
  by_cases hc : c
  · simp [hc]
  · simpa [hc] using h

theorem Agree.bind {x : Except ε α} {y : Except ε β} {f : α → Except ε γ} {g : β → Except ε δ}
    (h : Agree R x y) (hf : ∀ a b, R a b → Agree S (f a) (g b)) :
    Agree S (x >>= f) (y >>= g) := by
  obtain ⟨e, rfl, rfl⟩ | ⟨a, b, rfl, rfl, hab⟩ := agree_iff.1 h
  · rfl
  · exact hf a b hab

/-- The same step before chains that agree whatever it gives. -/
theorem Agree.bind_same {x : Except ε α} {f : α → Except ε γ} {g : α → Except ε δ}
    (h : ∀ a, Agree S (f a) (g a)) : Agree S (x >>= f) (x >>= g) := by
  cases x with
  | error e => rfl
  | ok a => exact h a

/-- The same step before chains that agree on what it gives. -/
theorem Agree.bind_known {x : Except ε α} {f : α → Except ε γ} {g : α → Except ε δ}
    (h : ∀ a, x = .ok a → Agree S (f a) (g a)) : Agree S (x >>= f) (x >>= g) := by
  cases x with
  | error e => rfl
  | ok a => exact h a rfl

/-- Chains that agree are related in what they really give. -/
theorem Agree.origin {x : Except ε α} {y : Except ε β} (h : Agree R x y) :
    Agree (fun a b => R a b ∧ x = .ok a ∧ y = .ok b) x y := by
  obtain ⟨e, rfl, rfl⟩ | ⟨a, b, rfl, rfl, hab⟩ := agree_iff.1 h
  · rfl
  · exact ⟨hab, rfl, rfl⟩

theorem Agree.map {x : Except ε α} {y : Except ε β} {f : α → γ} {g : β → δ} (h : Agree R x y)
    (hf : ∀ a b, R a b → S (f a) (g b)) : Agree S (x.map f) (y.map g) := by
  obtain ⟨e, rfl, rfl⟩ | ⟨a, b, rfl, rfl, hab⟩ := agree_iff.1 h
  · rfl
  · exact hf a b hab

theorem Agree.map_eq {x : Except ε α} {y : Except ε β} {f : α → γ} {g : β → γ} (h : Agree R x y)
    (hf : ∀ a b, R a b → f a = g b) : x.map f = y.map g := by
  obtain ⟨e, rfl, rfl⟩ | ⟨a, b, rfl, rfl, hab⟩ := agree_iff.1 h
  · rfl
  · exact congrArg Except.ok (hf a b hab)

end Agreement

/-! ### Items compiled one by one -/

theorem Progress.result_run {α : Type} (f : α → Except Error Phrase)
    (assemble : List Phrase → Phrase) (as : List α) :
    (Progress.run f as).result assemble = (as.mapM f).map assemble := by
  have h : ∀ as : List α, (Progress.run f as).fault.elim (.ok (Progress.run f as).done)
      .error = as.mapM f := by
    intro as
    induction as with
    | nil => rfl
    | cons a as ih =>
      rw [List.mapM_cons, ← ih]
      cases ha : f a with
      | error e => rw [run_cons_error f ha]; rfl
      | ok p =>
        rw [run_cons_ok f ha]
        cases (Progress.run f as).fault <;> rfl
  rw [← h as]
  unfold result
  cases (Progress.run f as).fault <;> rfl

theorem Where.phrase_eq (w : Where) :
    w.phrase = (w.effective.mapM Predicate.phrase).map Where.assemble :=
  Progress.result_run _ _ _

theorem Assignment.listPhrase_eq (as : List Assignment) :
    listPhrase as = ((effective as).mapM phrase).map Phrase.commas :=
  Progress.result_run _ _ _

/-! ### Statements -/

open Phrase in
/-- What a statement that reads items is made of. -/
theorem Query.assemble_eq_ok {d : Dialect} {q : Query} {items p : Phrase}
    (h : q.assemble d items = .ok p) :
    ∃ source page condition gs os, q.source = .ok source ∧ q.page d = .ok page ∧
      q.conditions.phrase = .ok condition ∧ q.groups = .ok gs ∧ q.orderBy.mapM orderItem = .ok os ∧
      p = addPage d (!q.orderBy.isEmpty) page
        (lit "SELECT " ++ (items ++ (lit " FROM " ++ (source ++ (lit " WHERE " ++ (condition ++
          (clause " GROUP BY " gs ++ clause " ORDER BY " os))))))) := by
  obtain ⟨source, hs, h⟩ := bind_eq_ok.1 h
  obtain ⟨page, hp, h⟩ := bind_eq_ok.1 h
  obtain ⟨condition, hc, h⟩ := bind_eq_ok.1 h
  obtain ⟨gs, hg, h⟩ := bind_eq_ok.1 h
  obtain ⟨os, ho, h⟩ := bind_eq_ok.1 h
  refine ⟨source, page, condition, gs, os, hs, hp, hc, hg, ho, ?_⟩
  rw [← pure_eq_ok.1 h, isEmpty_eq_of_forall₂ (mapM_eq_ok.1 ho)]
  simp only [List.append_assoc]

/-- A statement, guarded or not, is the rendered phrase of its request with its values. -/
theorem Request.exists_rendered {d : Dialect} {r : Request} {verify : Bool} {st : Statement}
    (h : r.statement d verify = .ok st ∨ r.guarded d verify = .ok st) :
    ∃ p, r.phrase d = .ok p ∧ st = ⟨p.render d 1, p.values⟩ := by
  have hs : r.statement d verify = .ok st := by
    rcases h with h | h
    · exact h
    · obtain ⟨-, -, h⟩ := bind_eq_ok.1 h
      exact h
  obtain ⟨p, hp, hs⟩ := bind_eq_ok.1 hs
  obtain ⟨-, hs⟩ := ite_eq_ok.1 hs
  cases hs
  exact ⟨p, hp, rfl⟩

end BoundSql
