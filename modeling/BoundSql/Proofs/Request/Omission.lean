import BoundSql.Proofs.Engine.Dialects
import BoundSql.Proofs.Statement.Guard

/-!
# What is left out

Predicates with a blank value, assignments of the empty text and choices among nothing are left out
of statements. They leave no trace: two requests that differ only in such items, wherever these
stand and whatever names, operators and connectives they bear, are answered alike, by a statement
with the same text and the same values or with the same error (`Composer.build_eq_of_sameUpTo`).

They are skipped before anything is asked of the engine, so the two requests have one program, and
what they give is the same in every engine (`Engine.eq_of_sameUpTo`).
-/

namespace BoundSql

/-! ### Idle items -/

/-- Lists that differ only in idle members, wherever these stand in either of them. -/
inductive SameUpTo {α : Type} (idle : α → Prop) : List α → List α → Prop
  | nil : SameUpTo idle [] []
  | keep (a : α) {as bs : List α} (h : SameUpTo idle as bs) : SameUpTo idle (a :: as) (a :: bs)
  | insert {a : α} (ha : idle a) {as bs : List α} (h : SameUpTo idle as bs) :
    SameUpTo idle as (a :: bs)
  | remove {a : α} (ha : idle a) {as bs : List α} (h : SameUpTo idle as bs) :
    SameUpTo idle (a :: as) bs

/-- The assignment of the empty text in any mode, or a choice among nothing. -/
def Assignment.IsVoid : Assignment → Prop
  | plain _ _ v => v = .text ""
  | cases _ _ bs => bs = []

/-- Requests of one kind that differ only in blank predicates and void assignments. -/
inductive Request.SameUpToIdle : Request → Request → Prop
  | rows (q : Query) {w : Where} (hw : SameUpTo Predicate.IsBlank q.conditions w) :
    SameUpToIdle (.rows q) (.rows { q with conditions := w })
  | count (q : Query) {w : Where} (hw : SameUpTo Predicate.IsBlank q.conditions w) :
    SameUpToIdle (.count q) (.count { q with conditions := w })
  | aggregate (q : Query) {w : Where} (hw : SameUpTo Predicate.IsBlank q.conditions w) :
    SameUpToIdle (.aggregate q) (.aggregate { q with conditions := w })
  | update (m : Modification) {as : List Assignment} {w : Where}
    (ha : SameUpTo Assignment.IsVoid m.assignments as)
    (hw : SameUpTo Predicate.IsBlank m.conditions w) :
    SameUpToIdle (.update m) (.update { m with assignments := as, conditions := w })
  | delete (m : Modification) {as : List Assignment} {w : Where}
    (ha : SameUpTo Assignment.IsVoid m.assignments as)
    (hw : SameUpTo Predicate.IsBlank m.conditions w) :
    SameUpToIdle (.delete m) (.delete { m with assignments := as, conditions := w })

/-- Members that are skipped because they are idle do not count. -/
theorem filter_eq_of_sameUpTo {α : Type} {idle : α → Prop} {skip : α → Bool}
    (hs : ∀ a, idle a → skip a = true) {as bs : List α} (h : SameUpTo idle as bs) :
    (as.filter fun a => !skip a) = bs.filter fun a => !skip a := by
  induction h with
  | nil => rfl
  | keep a _ ih => rw [List.filter_cons, List.filter_cons, ih]
  | insert ha _ ih => rw [List.filter_cons_of_neg (by simp [hs _ ha]), ih]
  | remove ha _ ih => rw [List.filter_cons_of_neg (by simp [hs _ ha]), ih]

theorem Where.effective_eq_of_sameUpTo {v w : Where} (h : SameUpTo Predicate.IsBlank v w) :
    v.effective = w.effective :=
  filter_eq_of_sameUpTo (fun _ => Predicate.isSkipped_iff.2) h

theorem Assignment.isSkipped_iff {a : Assignment} : a.isSkipped = true ↔ a.IsVoid := by
  cases a with
  | plain f mode v => cases v <;> simp [isSkipped, IsVoid, Value.isEmptyText]
  | cases f g bs => exact List.isEmpty_iff

theorem Assignment.effective_eq_nil_iff {as : List Assignment} :
    effective as = [] ↔ ∀ a ∈ as, a.IsVoid := by
  simp [effective, List.filter_eq_nil_iff, isSkipped_iff]

/-! ### Programs -/

namespace Writer

/-- Members that are skipped are not written. -/
theorem items_eq_of_sameUpTo {α : Type} {idle : α → Prop} {skip : α → Bool}
    (hs : ∀ a, idle a → skip a = true) (item : α → Writer String) {as bs : List α}
    (h : SameUpTo idle as bs) : items skip item as = items skip item bs := by
  induction h with
  | nil => rfl
  | keep a _ ih => rw [items, items, ih]
  | insert ha _ ih => rw [items, if_pos (hs _ ha), ih]
  | remove ha _ ih => rw [items, if_pos (hs _ ha), ih]

theorem condition_eq_of_sameUpTo {v w : Where} (h : SameUpTo Predicate.IsBlank v w) :
    condition v = condition w := by
  unfold condition
  rw [items_eq_of_sameUpTo (fun _ => Predicate.isSkipped_iff.2) predicate h]

theorem assignments_eq_of_sameUpTo {as bs : List Assignment}
    (h : SameUpTo Assignment.IsVoid as bs) : assignments as = assignments bs := by
  unfold assignments
  rw [items_eq_of_sameUpTo (fun _ => Assignment.isSkipped_iff.2) assignment h]

theorem reading_eq_of_sameUpTo {q : Query} {w : Where}
    (h : SameUpTo Predicate.IsBlank q.conditions w) (items : String) :
    reading q items = reading { q with conditions := w } items := by
  unfold reading
  rw [condition_eq_of_sameUpTo h]
  rfl

end Writer

namespace Request.SameUpToIdle

variable {r s : Request} (h : r.SameUpToIdle s)

include h

/-- Requests that differ only in idle items are one program. -/
theorem program_eq : Writer.request r = Writer.request s := by
  cases h with
  | rows q hw => exact bind_congr fun items => Writer.reading_eq_of_sameUpTo hw items
  | count q hw =>
    change Writer.count _ = Writer.count _
    unfold Writer.count
    rw [Writer.condition_eq_of_sameUpTo hw]
    rfl
  | aggregate q hw =>
    exact bind_congr fun E => bind_congr fun items => Writer.reading_eq_of_sameUpTo hw _
  | update m ha hw =>
    change Writer.update _ = Writer.update _
    unfold Writer.update Writer.updateWith
    rw [Writer.assignments_eq_of_sameUpTo ha, Writer.condition_eq_of_sameUpTo hw]
  | delete m ha hw =>
    change Writer.delete _ = Writer.delete _
    unfold Writer.delete
    rw [Writer.condition_eq_of_sameUpTo hw]

theorem guard_eq : r.guard = s.guard := by
  have hguard : ∀ (m : Modification) {as : List Assignment} {w : Where} (k : Change),
      SameUpTo Predicate.IsBlank m.conditions w →
      m.guard k = Modification.guard { m with assignments := as, conditions := w } k := by
    intro m as w k hw
    have hr : m.conditions.isRestricted = w.isRestricted := by
      unfold Where.isRestricted
      rw [Where.effective_eq_of_sameUpTo hw]
    unfold Modification.guard
    rw [hr]
  cases h with
  | update m ha hw | delete m ha hw => exact hguard m _ hw
  | _ => rfl

end Request.SameUpToIdle

/-- **What is left out leaves no trace in any engine**, with the guard and without it. -/
theorem Engine.eq_of_sameUpTo (E : Engine) (verify : Bool) {r s : Request}
    (h : r.SameUpToIdle s) :
    E.statement verify r = E.statement verify s ∧ E.guarded verify r = E.guarded verify s := by
  have hs : E.statement verify r = E.statement verify s := by
    unfold statement
    rw [h.program_eq]
  refine ⟨hs, ?_⟩
  unfold guarded
  rw [h.guard_eq, hs]

/-- **What is left out leaves no trace.** Requests that differ only in blank predicates and void
assignments have the same statement or the same error, in any dialect, with the guard and without
it; and so have the two statements of a page. -/
theorem Composer.build_eq_of_sameUpTo (c : Composer) :
    (∀ r s : Request, r.SameUpToIdle s →
      r.statement c.dialect c.verify = s.statement c.dialect c.verify ∧ c.build r = c.build s) ∧
    ∀ (q : Query) (w : Where), SameUpTo Predicate.IsBlank q.conditions w →
      c.page q = c.page { q with conditions := w } := by
  have hb : ∀ r s : Request, r.SameUpToIdle s →
      r.statement c.dialect c.verify = s.statement c.dialect c.verify ∧ c.build r = c.build s := by
    intro r s h
    have hE := c.dialect.engine.eq_of_sameUpTo c.verify h
    rwa [Dialect.statement_engine, Dialect.statement_engine, Dialect.guarded_engine,
      Dialect.guarded_engine] at hE
  refine ⟨hb, fun q w hw => ?_⟩
  unfold page
  rw [(hb _ _ (.rows q hw)).2, (hb _ _ (.count q hw)).2]

/-- An update in SQL Server with a blank predicate in front, joined by OR and on a column that is no
name, and with two void assignments, one before and one after the assignment that counts. -/
theorem Composer.build_eq_of_sameUpTo_update :
    let c : Composer := { dialect := .sqlServer }
    let p : Predicate := ⟨"id", .equal, .single (.int 7), .and⟩
    let m : Modification :=
      { table := "users", assignments := [.plain "age" .increase (.int 1)], conditions := [p] }
    let as : List Assignment :=
      [.plain "a;b" .decrease (.text ""), .plain "age" .increase (.int 1), .cases "" "?" []]
    let w : Where := [⟨"1 OR 1", .between, .single .null, .or⟩, p]
    let st : Statement :=
      ⟨"UPDATE [users] SET [age] = [age] + @p1 WHERE 1=1 AND [id] = @p2", [.int 1, .int 7]⟩
    Request.SameUpToIdle (.update m) (.update { m with assignments := as, conditions := w }) ∧
      c.build (.update m) = .ok st ∧
      c.build (.update { m with assignments := as, conditions := w }) = .ok st := by
  intro c p m as w st
  have hplain : Assignment.IsVoid (.plain "a;b" .decrease (.text "")) := rfl
  have hcases : Assignment.IsVoid (.cases "" "?" []) := rfl
  have hblank : Predicate.IsBlank ⟨"1 OR 1", .between, .single .null, .or⟩ := Or.inl rfl
  have ha : SameUpTo Assignment.IsVoid m.assignments as :=
    .insert hplain (.keep _ (.insert hcases .nil))
  have hw : SameUpTo Predicate.IsBlank m.conditions w := .insert hblank (.keep p .nil)
  have h : Request.SameUpToIdle (.update m) _ := .update m ha hw
  have hm : c.build (.update m) = .ok st := by decide +kernel
  exact ⟨h, hm, ((c.build_eq_of_sameUpTo.1 _ _ h).2).symm.trans hm⟩

end BoundSql
