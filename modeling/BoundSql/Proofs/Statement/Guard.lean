import BoundSql.Composer
import BoundSql.Proofs.Engine.Dialects
import BoundSql.Proofs.Request.Faults
import BoundSql.Proofs.Where.Restriction

/-!
# What the guard refuses

A composer refuses an update or a deletion if and only if no predicate of it remains or the first
that does is joined by OR, and it looks at nothing else before that: no other fault of the
description can come first, and what it lets through it answers without a further check of its own
(`Composer.build_change`). The guard and the compiler leave out the same predicates. What is refused
would have had a condition that holds of every row.

The guard comes before the engine and looks at the description alone, so what it refuses is the same
in every engine (`Engine.guarded_change`).
-/

namespace BoundSql

open Phrase Condition

/-! ### Open conditions -/

/-- The value is null or the empty text. -/
def Predicate.IsBlank (p : Predicate) : Prop :=
  p.operand = .single .null ∨ p.operand = .single (.text "")

/-- No predicate remains, or the first that does is joined by OR. -/
def Where.IsOpen (w : Where) : Prop :=
  (∀ p ∈ w, p.IsBlank) ∨
    ∃ before p after, w = before ++ p :: after ∧ (∀ q ∈ before, q.IsBlank) ∧ ¬ p.IsBlank ∧
      p.connective = .or

theorem Predicate.isSkipped_iff {p : Predicate} : p.isSkipped = true ↔ p.IsBlank := by
  unfold isSkipped IsBlank
  cases p.operand with
  | list vs => simp [Operand.isBlank]
  | single v => cases v <;> simp [Operand.isBlank, Value.isBlank]

theorem Where.effective_eq_nil_iff {w : Where} : w.effective = [] ↔ ∀ p ∈ w, p.IsBlank := by
  simp [effective, List.filter_eq_nil_iff, Predicate.isSkipped_iff]

theorem Where.effective_eq_cons_iff {w : Where} {p : Predicate} {ps : List Predicate} :
    w.effective = p :: ps ↔ ∃ before after, w = before ++ p :: after ∧
      (∀ q ∈ before, q.IsBlank) ∧ ¬ p.IsBlank ∧ effective after = ps := by
  simp [effective, List.filter_eq_cons_iff, Predicate.isSkipped_iff, ← Bool.not_eq_true]

/-- The predicates of an open condition that remain are none, or begin with one joined by OR. -/
theorem Where.isOpen_iff {w : Where} :
    w.IsOpen ↔ w.effective = [] ∨ ∃ p ps, w.effective = p :: ps ∧ p.connective = .or := by
  unfold IsOpen
  rw [effective_eq_nil_iff]
  refine or_congr Iff.rfl ?_
  constructor
  · rintro ⟨before, p, after, hw, hb, hp, hc⟩
    exact ⟨p, effective after, effective_eq_cons_iff.2 ⟨before, after, hw, hb, hp, rfl⟩, hc⟩
  · rintro ⟨p, ps, he, hc⟩
    obtain ⟨before, after, hw, hb, hp, -⟩ := effective_eq_cons_iff.1 he
    exact ⟨before, p, after, hw, hb, hp, hc⟩

/-- The guard looks for an open condition. -/
theorem Where.isRestricted_iff {w : Where} : w.isRestricted = true ↔ ¬ w.IsOpen := by
  rw [isOpen_iff]
  unfold isRestricted
  cases w.effective with
  | nil => simp
  | cons p ps => cases hc : p.connective <;> simp [hc]

/-! ### Refusals -/

/-- The request for a change to existing rows. -/
def Change.request : Change → Modification → Request
  | update, m => .update m
  | delete, m => .delete m

theorem Change.guard_request (k : Change) (m : Modification) :
    (k.request m).guard = m.guard k := by
  cases k <;> rfl

/-- Without the guard no change is refused: what goes wrong with it is a fault of the description or
of the finished statement, whatever the engine makes of the parts. -/
theorem Change.statement_ne_unguarded (k k' : Change) (m : Modification) (E : Engine)
    (verify : Bool) : E.statement verify (k.request m) ≠ .error (.unguarded k') := by
  have hw : Invalid ((Writer.request (k.request m)).written E []) := by
    cases k with
    | update =>
      change Invalid ((Writer.update m).written E [])
      rw [Writer.written_update]
      exact (Name.invalid_check _).bind fun _ => (Assignment.invalid_listPhrase _).bind fun _ =>
        .refuse rfl ((Where.invalid_phrase _).bind fun _ => .ok _)
    | delete =>
      change Invalid ((Writer.delete m).written E [])
      rw [Writer.written_delete]
      exact (Name.invalid_check _).bind fun _ => (Where.invalid_phrase _).bind fun _ => .ok _
  have hs : FailsOnly (fun e => e.kind ≠ .security) (E.statement verify (k.request m)) := by
    unfold Engine.statement
    rw [Writer.statement_eq]
    exact (hw.mono fun e he => by simp [he]).bind fun x =>
      FailsOnly.refuse (by simp [Error.kind]) (FailsOnly.ok _)
  exact fun h => hs _ h rfl

theorem Engine.guarded_request (E : Engine) (verify : Bool) (k : Change) (m : Modification) :
    E.guarded verify (k.request m) =
      if m.conditions.isRestricted then E.statement verify (k.request m)
      else .error (.unguarded k) := by
  unfold Engine.guarded
  rw [k.guard_request, Modification.guard]
  cases m.conditions.isRestricted <;> rfl

/-- **What the guard refuses in any engine.** A change is refused exactly if its condition is open,
and otherwise answered as if there were no guard. -/
theorem Engine.guarded_change (E : Engine) (verify : Bool) (k : Change) (m : Modification) :
    (∀ k', E.guarded verify (k.request m) = .error (.unguarded k') ↔
      k' = k ∧ m.conditions.IsOpen) ∧
    (¬ m.conditions.IsOpen → E.guarded verify (k.request m) = E.statement verify (k.request m)) := by
  rw [E.guarded_request]
  cases hr : m.conditions.isRestricted with
  | true =>
    have ho := Where.isRestricted_iff.1 hr
    rw [if_pos rfl]
    exact ⟨fun k' => ⟨fun h => absurd h (k.statement_ne_unguarded k' m E verify),
      fun h => absurd h.2 ho⟩, fun _ => rfl⟩
  | false =>
    have ho : m.conditions.IsOpen := by
      by_contra ho
      rw [Where.isRestricted_iff.2 ho] at hr
      cases hr
    rw [if_neg (by simp)]
    exact ⟨fun k' => by simp [ho, eq_comm], fun h => absurd ho h⟩

/-! ### Open conditions in a statement -/

/-- The text of an open condition. -/
theorem Where.render_open {w : Where} {clause : Phrase} (h : w.phrase = .ok clause)
    (ho : w.IsOpen) (E : Engine) (i : Nat) :
    E.render i clause = "1=1" ∨ ∃ rest, E.render i clause = "1=1 OR " ++ rest := by
  rw [Where.phrase_eq] at h
  obtain ⟨ps, hps, rfl⟩ := map_eq_ok.1 h
  obtain hw | ⟨p, qs, hw, hc⟩ := isOpen_iff.1 ho
  · rw [hw] at hps
    cases pure_eq_ok.1 hps
    exact Or.inl (by simp [assemble, base])
  · rw [hw] at hps
    obtain ⟨t, ts, ht, -, rfl⟩ := List.forall₂_cons_left_iff.1 (mapM_eq_ok.1 hps)
    obtain ⟨n, -, ht⟩ := bind_eq_ok.1 ht
    obtain ⟨u, -, ht⟩ := bind_eq_ok.1 ht
    cases pure_eq_ok.1 ht
    refine Or.inr ⟨E.render i (u ++ ts.flatten), ?_⟩
    simp [assemble, base, hc, Connective.text, Engine.render_append, ← String.append_assoc]

/-- **What the guard refuses.** A change is refused exactly if its condition is open, whatever else
is wrong with it, and otherwise answered as if there were no guard. The condition has one term for
every predicate that remains, after the one that every condition begins with; and an open condition
holds of every row. -/
theorem Composer.build_change (c : Composer) (k : Change) (m : Modification) :
    (∀ k', c.build (k.request m) = .error (.unguarded k') ↔ k' = k ∧ m.conditions.IsOpen) ∧
    (¬ m.conditions.IsOpen →
      c.build (k.request m) = (k.request m).statement c.dialect c.verify) ∧
    ∀ clause, m.conditions.phrase = .ok clause →
      ∃ items, read clause = some items ∧
        items.length = m.conditions.effective.length + 1 ∧
        (m.conditions.IsOpen → ¬ CanFail items ∧ ∀ d i,
          clause.render d i = "1=1" ∨ ∃ rest, clause.render d i = "1=1 OR " ++ rest) := by
  have hguard := c.dialect.engine.guarded_change c.verify k m
  rw [Dialect.guarded_engine, Dialect.statement_engine] at hguard
  refine ⟨hguard.1, hguard.2, fun clause hc => ?_⟩
  obtain ⟨items, hi, hf⟩ := Where.canFail_iff hc
  refine ⟨items, hi, ?_, fun ho => ⟨fun hcan => ?_, fun d i => ?_⟩⟩
  · rw [read_phrase hc] at hi
    cases hi
    simp
  · exact Where.isRestricted_iff.1 (hf.1 hcan).1 ho
  · have hrender := Where.render_open hc ho d.engine i
    rwa [Dialect.render_engine] at hrender

/-- A deletion in SQL Server whose table is no name, with a predicate joined by OR behind a blank
one, and the same deletion with the predicate joined by AND. -/
theorem Composer.build_change_deletion :
    let c : Composer := { dialect := .sqlServer, verify := false }
    let m (o : Connective) : Modification :=
      { table := "users; --"
        conditions := [⟨"name", .equal, .single (.text ""), .and⟩,
          ⟨"id", .equal, .single (.int 5), o⟩] }
    ((m .or).conditions.IsOpen ∧ c.build (.delete (m .or)) = .error (.unguarded .delete) ∧
      ∃ clause items, (m .or).conditions.phrase = .ok clause ∧ read clause = some items ∧
        items.length = 2 ∧ ¬ CanFail items) ∧
      ¬ (m .and).conditions.IsOpen ∧
      c.build (.delete (m .and)) = .error (.badName "users; --") := by
  intro c m
  have ho : (m .or).conditions.IsOpen := Where.isOpen_iff.2 (Or.inr ⟨_, [], rfl, rfl⟩)
  have ha : ¬ (m .and).conditions.IsOpen := Where.isRestricted_iff.1 (by decide +kernel)
  obtain ⟨clause, hc⟩ : ∃ clause, (m .or).conditions.phrase = .ok clause := ⟨_, rfl⟩
  obtain ⟨hr, -, hclause⟩ := c.build_change .delete (m .or)
  obtain ⟨items, hi, hl, hf⟩ := hclause clause hc
  obtain ⟨-, hs, -⟩ := c.build_change .delete (m .and)
  refine ⟨⟨ho, (hr .delete).2 ⟨rfl, ho⟩, clause, items, hc, hi, ?_, (hf ho).1⟩, ha,
    (hs ha).trans ?_⟩
  · rw [hl]
    decide +kernel
  · decide +kernel

end BoundSql
