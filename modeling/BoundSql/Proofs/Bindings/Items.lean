import BoundSql.Proofs.Bindings.Writer
import BoundSql.Proofs.Request.Names

/-!
# Binding item by item

Predicates and assignments are bound one after the other. What makes one of them unfit is told from
its description alone: a text that is no name, or an operand that does not suit the operator
(`Predicate.fault?`, `Assignment.fault?`).

If all items are fit, each binds its values; otherwise those before the first unfit one do, and that
one and all after it bind nothing (`Bindings.itemByItem`). Values that were bound before stay where
they are. Which values are bound, and which item is unfit, does not depend on the engine that writes
the text (`Writer.itemByItem_outcomeIn`).
-/

namespace BoundSql

open Phrase

/-! ### Unfit items -/

/-- What is wrong with what a column is compared with, if anything. -/
def Operator.fault? (o : Operator) : Operand → Option PredicateFault
  | .single v =>
    match o with
    | .equal | .notEqual | .greater | .less | .greaterEqual | .lessEqual => none
    | .isIn | .notIn => none
    | .contains | .startsWith | .endsWith => if v.text? = none then some .noText else none
    | .isNull =>
      match v with
      | .text s => if NullTest.parse? s = none then some .notNullTest else none
      | _ => some .notNullTest
    | .between | .notBetween => some .notPair
  | .list vs =>
    match o with
    | .isIn | .notIn => none
    | .between | .notBetween => if vs.length = 2 then none else some .notPair
    | _ => some .listOperand

/-- The error of a predicate that cannot be bound. Its name counts before its operand. -/
def Predicate.fault? (p : Predicate) : Option Error :=
  if isName p.field = true then (p.operator.fault? p.operand).map (.badPredicate p.field)
  else some (.badName p.field)

/-- The values of a predicate. -/
def Predicate.bindings (p : Predicate) : List Value := p.operator.bindings p.operand

/-- The error of an assignment that cannot be bound, for the first text that is no name. -/
def Assignment.fault? (a : Assignment) : Option Error :=
  (a.names.find? fun s => !isName s).map (.badAssignment a.field)

/-- What one item gives: its values, or its error. -/
inductive Binds (fault? : Option Error) (values : List Value) : Except Error Phrase → Prop
  | fit {p : Phrase} (hf : fault? = none) (hp : p.values = values) : Binds fault? values (.ok p)
  | unfit {e : Error} (hf : fault? = some e) : Binds fault? values (.error e)

namespace Predicate

variable {p : Predicate} {column : Phrase}

/-- The test of a predicate is compiled if the operand suits the operator. -/
theorem test_cases (p : Predicate) (column : Phrase) :
    (p.operator.fault? p.operand = none ∧ ∃ t, p.test column = .ok t) ∨
      ∃ f, p.operator.fault? p.operand = some f ∧
        p.test column = .error (.badPredicate p.field f) := by
  obtain ⟨field, operator, operand, connective⟩ := p
  cases operand with
  | single v =>
    cases operator with
    | equal | notEqual | greater | less | greaterEqual | lessEqual | isIn | notIn =>
      exact Or.inl ⟨rfl, _, rfl⟩
    | contains | startsWith | endsWith =>
      cases hv : v.text? with
      | some s => exact Or.inl ⟨by simp [Operator.fault?, hv], _, test_eq_ok.2 (.like rfl hv rfl)⟩
      | none =>
        refine Or.inr ⟨.noText, by simp [Operator.fault?, hv], ?_⟩
        simp [test, patternText, value, hv, bind, Except.bind, Except.map]
    | isNull =>
      cases v with
      | text s =>
        cases hs : NullTest.parse? s with
        | some t => exact Or.inl ⟨by simp [Operator.fault?, hs], _, test_eq_ok.2 (.null rfl rfl hs)⟩
        | none =>
          refine Or.inr ⟨.notNullTest, by simp [Operator.fault?, hs], ?_⟩
          simp [test, nullTest, value, hs, bind, Except.bind, Except.map]
      | _ => exact Or.inr ⟨.notNullTest, rfl, rfl⟩
    | between | notBetween => exact Or.inr ⟨.notPair, rfl, rfl⟩
  | list vs =>
    cases operator with
    | isIn | notIn => exact Or.inl ⟨rfl, _, rfl⟩
    | between | notBetween =>
      match vs with
      | [low, high] => exact Or.inl ⟨rfl, _, rfl⟩
      | [] | [_] => exact Or.inr ⟨.notPair, rfl, rfl⟩
      | _ :: _ :: _ :: _ => exact Or.inr ⟨.notPair, by simp [Operator.fault?], rfl⟩
    | _ => exact Or.inr ⟨.listOperand, rfl, rfl⟩

/-- A predicate is compiled if it is fit. -/
theorem binds_phrase (p : Predicate) : Binds p.fault? p.bindings p.phrase := by
  unfold fault?
  split_ifs with hn
  · have hname : p.phrase = (p.test (ofName ⟨p.field, hn⟩) >>= fun t =>
        pure (lit " " ++ lit p.connective.text ++ lit " " ++ t)) := by
      unfold phrase
      rw [(Name.check_eq_ok_iff (n := ⟨p.field, hn⟩)).2 rfl]
      rfl
    obtain ⟨hf, t, ht⟩ | ⟨f, hf, ht⟩ := p.test_cases (ofName ⟨p.field, hn⟩)
    · have hp : p.phrase = .ok (lit " " ++ lit p.connective.text ++ lit " " ++ t) := by
        rw [hname, ht]
        rfl
      rw [hf, hp]
      exact .fit rfl (values_phrase hp)
    · rw [hf, hname, ht]
      exact .unfit rfl
  · have hp : p.phrase = .error (.badName p.field) := by
      unfold phrase
      rw [Name.check_eq_error (by simpa using hn)]
      rfl
    rw [hp]
    exact .unfit rfl

end Predicate

namespace Assignment

theorem checkName_of_isName {f s : String} (h : isName s = true) :
    checkName f s = .ok ⟨s, h⟩ := by
  unfold checkName
  rw [(Name.check_eq_ok_iff (n := ⟨s, h⟩)).2 rfl]
  rfl

theorem checkName_of_not {f s : String} (h : isName s = false) :
    checkName f s = .error (.badAssignment f s) := by
  unfold checkName
  rw [Name.check_eq_error h]
  rfl

theorem fault_of_phrase_eq_error {a : Assignment} {e : Error} (h : a.phrase = .error e) :
    a.fault? = some e := by
  cases a with
  | plain f mode v =>
    simp only [phrase] at h
    cases hf : isName f with
    | false =>
      rw [checkName_of_not hf] at h
      cases h
      simp [fault?, names, field, hf]
    | true =>
      rw [checkName_of_isName hf] at h
      cases h
  | cases f g bs =>
    simp only [phrase] at h
    cases hf : isName f with
    | false =>
      rw [checkName_of_not hf] at h
      cases h
      simp [fault?, names, field, hf]
    | true =>
      rw [checkName_of_isName hf] at h
      cases hg : isName g with
      | false =>
        rw [checkName_of_not hg] at h
        cases h
        simp [fault?, names, field, hf, hg]
      | true =>
        rw [checkName_of_isName hg] at h
        cases h

/-- An assignment is compiled if it is fit. -/
theorem binds_phrase (a : Assignment) : Binds a.fault? a.values a.phrase := by
  cases hp : a.phrase with
  | error e => exact .unfit (fault_of_phrase_eq_error hp)
  | ok p =>
    refine .fit ?_ (values_phrase hp)
    have hn := allNames_names hp
    unfold fault?
    rw [Option.map_eq_none_iff, List.find?_eq_none]
    intro s hs
    simpa using hn s hs

end Assignment

/-! ### Item by item -/

section Items

variable {α : Type} {fault? : α → Option Error} {bindings : α → List Value}

/-- What binding items comes to: all are fit and have been bound, or those before the first unfit
one have been bound, and nothing else has. -/
inductive ItemByItem (fault? : α → Option Error) (bindings : α → List Value) (b : Bindings) :
    List α → Except Error String × Bindings → Prop
  | all {as : List α} (text : String) (h : ∀ a ∈ as, fault? a = none) :
      ItemByItem fault? bindings b as (.ok text, b.extend (as.flatMap bindings))
  | upTo {before after : List α} {a : α} {e : Error} (hb : ∀ c ∈ before, fault? c = none)
      (ha : fault? a = some e) :
      ItemByItem fault? bindings b (before ++ a :: after)
        (.error e, b.extend (before.flatMap bindings))

namespace Progress

theorem values_cons (p : Phrase) (x : Progress) :
    (⟨p :: x.done, x.fault⟩ : Progress).values = p.values ++ x.values := rfl

/-- Items that are compiled one by one: all of them, or those before the first unfit one. -/
theorem run_cases {f : α → Except Error Phrase} (h : ∀ a, Binds (fault? a) (bindings a) (f a))
    (as : List α) :
    ((∀ a ∈ as, fault? a = none) ∧ (run f as).fault = none ∧
      (run f as).values = as.flatMap bindings) ∨
    ∃ before a after e, as = before ++ a :: after ∧ (∀ c ∈ before, fault? c = none) ∧
      fault? a = some e ∧ (run f as).fault = some e ∧
      (run f as).values = before.flatMap bindings := by
  induction as with
  | nil => exact Or.inl ⟨by simp, rfl, rfl⟩
  | cons a as ih =>
    have ha := h a
    cases hx : f a with
    | error e =>
      rw [hx] at ha
      obtain - | hf := ha
      rw [run_cons_error f hx]
      exact Or.inr ⟨[], a, as, e, rfl, by simp, hf, rfl, rfl⟩
    | ok p =>
      rw [hx] at ha
      obtain ⟨hf, hp⟩ := ha
      rw [run_cons_ok f hx, values_cons, hp]
      obtain ⟨hall, hfault, hv⟩ | ⟨before, c, after, e, rfl, hb, hc, hfault, hv⟩ := ih
      · refine Or.inl ⟨?_, hfault, by rw [List.flatMap_cons, hv]⟩
        simpa [hf] using hall
      · refine Or.inr ⟨a :: before, c, after, e, rfl, ?_, hc, hfault, by rw [List.flatMap_cons, hv]⟩
        simpa [hf] using hb

end Progress

/-- The same of the bindings, whatever the text of the compiled items is. -/
theorem itemByItem_run {f : α → Except Error Phrase}
    (h : ∀ a, Binds (fault? a) (bindings a) (f a)) (assemble : List Phrase → Phrase)
    (text : Phrase → String) (b : Bindings) (as : List α) :
    ItemByItem fault? bindings b as
      (((Progress.run f as).result assemble).map text, b.extend (Progress.run f as).values) := by
  obtain ⟨hall, hfault, hv⟩ | ⟨before, a, after, e, rfl, hb, ha, hfault, hv⟩ :=
    Progress.run_cases h as
  · unfold Progress.result
    rw [hfault, hv]
    exact .all _ hall
  · unfold Progress.result
    rw [hfault, hv]
    exact .upTo hb ha

end Items

namespace Writer

/-- What a step gives if an engine writes its text, and the bindings after it. -/
def outcomeIn {α : Type} (m : Writer α) (E : Engine) (b : Bindings) :
    Except Error α × Bindings :=
  ((m.perform E b.values).1, { b with values := (m.perform E b.values).2 })

/-- **Conditions and assignments are bound item by item in every engine.** -/
theorem itemByItem_outcomeIn (E : Engine) (b : Bindings) :
    (∀ w : Where, ItemByItem Predicate.fault? Predicate.bindings b w.effective
        ((condition w).outcomeIn E b) ∧
      b.values <+: ((condition w).outcomeIn E b).2.values) ∧
    ∀ as : List Assignment, ItemByItem Assignment.fault? Assignment.values b
        (Assignment.effective as) ((assignments as).outcomeIn E b) ∧
      b.values <+: ((assignments as).outcomeIn E b).2.values := by
  constructor
  · intro w
    rw [outcomeIn, perform_condition]
    exact ⟨itemByItem_run Predicate.binds_phrase _ _ b _, _, rfl⟩
  · intro as
    rw [outcomeIn, perform_assignments]
    exact ⟨itemByItem_run Assignment.binds_phrase _ _ b _, _, rfl⟩

end Writer

namespace Bindings

/-- **Conditions and assignments are bound item by item.** Binding them step by step, with every
check and every value in its place, binds all items that are not left out, in order, or else those
before the first unfit one and nothing of that one or of those after it. What was bound before
stays in front. -/
theorem itemByItem (b : Bindings) :
    (∀ w : Where, (Writer.condition w).outcome b = b.bindWhere w ∧
      ItemByItem Predicate.fault? Predicate.bindings b w.effective (b.bindWhere w) ∧
      b.values <+: (b.bindWhere w).2.values) ∧
    ∀ as : List Assignment, (Writer.assignments as).outcome b = b.bindAssignments as ∧
      ItemByItem Assignment.fault? Assignment.values b (Assignment.effective as)
        (b.bindAssignments as) ∧
      b.values <+: (b.bindAssignments as).2.values := by
  obtain ⟨hw, has⟩ := Writer.itemByItem_outcomeIn b.dialect.engine b
  constructor
  · intro w
    rw [← Writer.outcome_condition]
    exact ⟨rfl, hw w⟩
  · intro as
    rw [← Writer.outcome_assignments]
    exact ⟨rfl, has as⟩

/-- Bytes are no text for a pattern: what stands before it has been bound, and nothing else. -/
example :
    let b : Bindings := ⟨.postgres, [.int 7]⟩
    b.bindWhere [⟨"id", .equal, .single (.int 1), .and⟩, ⟨"", .between, .single .null, .or⟩,
      ⟨"name", .contains, .single (.bytes [0]), .and⟩, ⟨"age", .less, .single (.int 2), .and⟩] =
      (.error (.badPredicate "name" .noText), b.extend [.int 1]) := by
  decide +kernel

end Bindings

end BoundSql
