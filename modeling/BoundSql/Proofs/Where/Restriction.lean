import BoundSql.Dialect.Builtin
import BoundSql.Proofs.Where.Reading
import BoundSql.Request

/-!
# When a condition restricts the rows

AND binds more tightly than OR, so the terms of a condition fall into groups: all terms of some
group must hold. A condition can fail if its terms can come out in such a way that it does not
hold, where every atom comes out as it likes. It can fail if and only if no group consists of terms
that always hold (`canFail_iff`).

The guard over modifications only looks at the first predicate. What it lets through can fail
exactly if every group has a predicate other than a NOT IN with nothing in its list
(`Request.canFail_iff_of_guarded`). A condition of such predicates alone passes the guard and holds
of every row (`Request.guarded_unrestricted`).
-/

namespace BoundSql

namespace Condition

/-! ### Groups -/

/-- The groups of joined terms, of which the first one begins with the given terms. -/
def groupsFrom {α : Type} (current : List α) : List (Connective × α) → List (List α)
  | [] => [current]
  | (.and, a) :: rest => groupsFrom (current ++ [a]) rest
  | (.or, a) :: rest => current :: groupsFrom [a] rest

/-- The groups of joined terms. -/
def groups {α : Type} : List (Connective × α) → List (List α)
  | [] => []
  | (_, a) :: rest => groupsFrom [a] rest

/-- Whether joined truth values hold: all those of some group. -/
def holds (xs : List (Connective × Bool)) : Bool := (groups xs).any fun g => g.all id

/-- The ways a term can come out. -/
def Term.Admits : Term → Bool → Prop
  | always, b => b = true
  | never, b => b = false
  | atom, _ => True

/-- Some way in which the terms can come out makes the condition fail. -/
def CanFail (items : List Item) : Prop :=
  ∃ xs : List (Connective × Bool),
    List.Forall₂ (fun i x => i.1 = x.1 ∧ i.2.Admits x.2) items xs ∧ holds xs = false

section Groups

variable {α β : Type} {R : α → β → Prop} {f : α → β}

theorem rel_groupsFrom {as : List α} {bs : List β} (h : List.Forall₂ R as bs)
    {xs : List (Connective × α)} {ys : List (Connective × β)}
    (hxy : List.Forall₂ (fun x y => x.1 = y.1 ∧ R x.2 y.2) xs ys) :
    List.Forall₂ (List.Forall₂ R) (groupsFrom as xs) (groupsFrom bs ys) := by
  induction hxy generalizing as bs with
  | nil => exact .cons h .nil
  | @cons x y xs ys hxy _ ih =>
    obtain ⟨c, a⟩ := x
    obtain ⟨c', b⟩ := y
    obtain ⟨rfl, hab⟩ : c = c' ∧ R a b := hxy
    cases c with
    | and => exact ih (List.rel_append h (.cons hab .nil))
    | or => exact .cons h (ih (.cons hab .nil))

theorem rel_groups {xs : List (Connective × α)} {ys : List (Connective × β)}
    (hxy : List.Forall₂ (fun x y => x.1 = y.1 ∧ R x.2 y.2) xs ys) :
    List.Forall₂ (List.Forall₂ R) (groups xs) (groups ys) := by
  cases hxy with
  | nil => exact .nil
  | cons h hs => exact rel_groupsFrom (.cons h.2 .nil) hs

theorem groupsFrom_map (as : List α) (xs : List (Connective × α)) :
    groupsFrom (as.map f) (xs.map fun x => (x.1, f x.2)) =
      (groupsFrom as xs).map (List.map f) := by
  induction xs generalizing as with
  | nil => rfl
  | cons x xs ih =>
    obtain ⟨c, a⟩ := x
    cases c with
    | and => simpa [groupsFrom] using ih (as ++ [a])
    | or => simpa [groupsFrom] using ih [a]

/-- The groups of renamed terms are the renamed groups. -/
theorem groups_map (xs : List (Connective × α)) :
    groups (xs.map fun x => (x.1, f x.2)) = (groups xs).map (List.map f) := by
  cases xs with
  | nil => rfl
  | cons x xs => exact groupsFrom_map [x.2] xs

end Groups

/-! ### Failure -/

/-- **A condition can fail if and only if every group has a term that does not always hold.** -/
theorem canFail_iff {items : List Item} :
    CanFail items ↔ ∀ g ∈ groups items, ∃ t ∈ g, t ≠ .always := by
  constructor
  · rintro ⟨xs, hxs, hf⟩ g hg
    -- The group has come out false somewhere, where a term that always holds cannot.
    obtain ⟨bs, hbs, hgb⟩ := exists_partner (rel_groups hxs) hg
    have hall : ¬ bs.all id = true := List.any_eq_false.1 hf bs hbs
    obtain ⟨b, hb, rfl⟩ : ∃ b ∈ bs, b = false := by simpa using hall
    obtain ⟨t, ht, htb⟩ := exists_partner hgb.flip hb
    refine ⟨t, ht, ?_⟩
    rintro rfl
    cases htb
  · intro h
    -- Everything that need not hold comes out false.
    refine ⟨items.map fun i => (i.1, i.2 == .always), ?_, ?_⟩
    · rw [List.forall₂_map_right_iff]
      refine List.forall₂_same.2 fun i _ => ⟨rfl, ?_⟩
      cases i.2 <;> simp [Term.Admits]
    · rw [holds, groups_map (f := (· == Term.always)), List.any_map, List.any_eq_false]
      intro g hg
      obtain ⟨t, ht, hne⟩ := h g hg
      simpa using ⟨t, ht, hne⟩

/-- A term that always holds makes no difference to the group it begins. -/
theorem forall_groupsFrom_always {ts : List Term} {items : List Item} :
    (∀ g ∈ groupsFrom (.always :: ts) items, ∃ t ∈ g, t ≠ .always) ↔
      ∀ g ∈ groupsFrom ts items, ∃ t ∈ g, t ≠ .always := by
  induction items generalizing ts with
  | nil => simp [groupsFrom]
  | cons i items ih =>
    obtain ⟨c, t⟩ := i
    cases c with
    | and => exact ih
    | or => simp [groupsFrom]

end Condition

/-! ### The guard -/

/-- A NOT IN with nothing in its list, which holds of every row. -/
def Predicate.isVacuous (p : Predicate) : Bool := p.operator == .notIn && p.operand.isEmpty

theorem Predicate.term_ne_always {p : Predicate} : p.term ≠ .always ↔ p.isVacuous = false := by
  unfold term isVacuous
  split_ifs with h1 h2
  · simp [h1.1]
  · simp [h2.1, h2.2]
  · simpa [not_and] using h2

/-- The predicates that are not left out, in groups joined by AND. -/
def Where.groups (w : Where) : List (List Predicate) :=
  Condition.groups (w.effective.map fun p => (p.connective, p))

open Condition Phrase

theorem Where.groups_term (w : Where) :
    Condition.groups (w.effective.map fun p => (p.connective, p.term)) =
      w.groups.map (List.map Predicate.term) := by
  unfold groups
  rw [← groups_map, List.map_map]
  rfl

/-- **When the condition of a statement can fail.** -/
theorem Where.canFail_iff {w : Where} {clause : Phrase} (h : w.phrase = .ok clause) :
    ∃ items, read clause = some items ∧
      (CanFail items ↔
        w.isRestricted = true ∧ ∀ g ∈ w.groups, ∃ p ∈ g, p.isVacuous = false) := by
  refine ⟨_, read_phrase h, ?_⟩
  rw [Condition.canFail_iff]
  have hg := w.groups_term
  have hm : (∀ g ∈ w.groups.map (List.map Predicate.term), ∃ t ∈ g, t ≠ .always) ↔
      ∀ g ∈ w.groups, ∃ p ∈ g, p.isVacuous = false := by
    simp [← Predicate.term_ne_always]
  rw [← hm, ← hg]
  unfold isRestricted
  cases w.effective with
  | nil => simp [Condition.groups, groupsFrom]
  | cons p ps =>
    cases hc : p.connective with
    | and => simpa [Condition.groups, groupsFrom, hc] using forall_groupsFrom_always
    | or => simp [Condition.groups, groupsFrom, hc]

namespace Request

/-- The statement of a change to existing rows ends with its condition. -/
theorem exists_clause {d : Dialect} {verify : Bool} {m : Modification} {r : Request}
    (hr : r = .update m ∨ r = .delete m) {st : Statement}
    (h : r.statement d verify = .ok st ∨ r.guarded d verify = .ok st) :
    ∃ front clause, m.conditions.phrase = .ok clause ∧
      st = ⟨(front ++ lit " WHERE " ++ clause).render d 1,
        (front ++ lit " WHERE " ++ clause).values⟩ := by
  obtain ⟨p, hp, rfl⟩ := exists_rendered h
  rcases hr with rfl | rfl
  · obtain ⟨table, -, hp⟩ := bind_eq_ok.1 hp
    obtain ⟨as, -, hp⟩ := bind_eq_ok.1 hp
    obtain ⟨-, hp⟩ := ite_eq_ok.1 hp
    obtain ⟨clause, hc, hp⟩ := bind_eq_ok.1 hp
    cases pure_eq_ok.1 hp
    exact ⟨_, clause, hc, rfl⟩
  · obtain ⟨table, -, hp⟩ := bind_eq_ok.1 hp
    obtain ⟨clause, hc, hp⟩ := bind_eq_ok.1 hp
    cases pure_eq_ok.1 hp
    exact ⟨_, clause, hc, rfl⟩

theorem isRestricted_of_guard {m : Modification} {r : Request}
    (hr : r = .update m ∨ r = .delete m) {u : Unit} (h : r.guard = .ok u) :
    m.conditions.isRestricted = true := by
  by_contra hn
  rcases hr with rfl | rfl <;> simp [guard, Modification.guard, hn] at h

/-- **What the guard lets through can fail exactly if every group has a predicate other than a NOT
IN with nothing in its list.** -/
theorem canFail_iff_of_guarded {d : Dialect} {verify : Bool} {m : Modification} {r : Request}
    (hr : r = .update m ∨ r = .delete m) {st : Statement} (h : r.guarded d verify = .ok st) :
    ∃ front clause items, m.conditions.phrase = .ok clause ∧
      st.sql = (front ++ lit " WHERE " ++ clause).render d 1 ∧ read clause = some items ∧
      (CanFail items ↔ ∀ g ∈ m.conditions.groups, ∃ p ∈ g, p.isVacuous = false) := by
  obtain ⟨front, clause, hc, rfl⟩ := exists_clause hr (Or.inr h)
  obtain ⟨u, hg, -⟩ := bind_eq_ok.1 h
  obtain ⟨items, hi, hf⟩ := Where.canFail_iff hc
  refine ⟨front, clause, items, hc, rfl, hi, hf.trans ?_⟩
  exact and_iff_right (isRestricted_of_guard hr hg)

/-- A deletion of one row in MySQL. -/
theorem canFail_deletion :
    let m : Modification :=
      { table := "users", conditions := [⟨"id", .equal, .single (.int 5), .and⟩] }
    let st : Statement := ⟨"DELETE FROM `users` WHERE 1=1 AND `id` = ?", [.int 5]⟩
    (delete m).guarded .mysql true = .ok st ∧
      ∃ front clause items, m.conditions.phrase = .ok clause ∧
        st.sql = (front ++ lit " WHERE " ++ clause).render .mysql 1 ∧
        read clause = some items ∧ CanFail items := by
  intro m st
  have h : (delete m).guarded .mysql true = .ok st := by decide +kernel
  obtain ⟨front, clause, items, hc, hst, hi, hf⟩ := canFail_iff_of_guarded (Or.inr rfl) h
  exact ⟨h, front, clause, items, hc, hst, hi, hf.2 (by decide +kernel)⟩

/-- A deletion in MySQL whose list of ids to keep is empty: it deletes all rows. -/
theorem guarded_unrestricted :
    let m : Modification := { table := "users", conditions := [⟨"id", .notIn, .list [], .and⟩] }
    let st : Statement := ⟨"DELETE FROM `users` WHERE 1=1 AND `id` NOT IN ()", []⟩
    (delete m).guarded .mysql true = .ok st ∧
      ∃ clause items, m.conditions.phrase = .ok clause ∧ read clause = some items ∧
        ¬ CanFail items := by
  intro m st
  have h : (delete m).guarded .mysql true = .ok st := by decide +kernel
  obtain ⟨front, clause, hc, -⟩ := exists_clause (Or.inr rfl) (Or.inr h)
  obtain ⟨items, hi, hf⟩ := Where.canFail_iff hc
  have hn : ¬ ∀ g ∈ m.conditions.groups, ∃ p ∈ g, p.isVacuous = false := by decide +kernel
  exact ⟨h, clause, items, hc, hi, fun hcan => hn (hf.1 hcan).2⟩

end Request

end BoundSql
