import BoundSql.Bindings
import BoundSql.Proofs.Engine.Writing

/-!
# Bindings and writing step by step

Binding a condition or a list of assignments as a whole does what writing it step by step does, with
every check and every value in its place (`Writer.outcome_condition`,
`Writer.outcome_assignments`).
-/

namespace BoundSql

open Phrase

namespace Bindings

/-- A value that is added has the placeholder with the next number. -/
theorem add_eq (b : Bindings) (v : Value) :
    b.add v = (b.dialect.placeholders.render b.next, b.extend [v]) :=
  Prod.ext (String.toList_inj.1 (by simp [add, bind, PlaceholderStyle.chars])) rfl

theorem next_extend (b : Bindings) (vs : List Value) : (b.extend vs).next = b.next + vs.length := by
  simp only [next, values_extend, List.length_append]
  omega

theorem extend_extend (b : Bindings) (vs ws : List Value) :
    (b.extend vs).extend ws = b.extend (vs ++ ws) := by
  simp [extend]

@[simp] theorem extend_nil (b : Bindings) : b.extend [] = b := by simp [extend]

@[simp] theorem dialect_extend (b : Bindings) (vs : List Value) :
    (b.extend vs).dialect = b.dialect := rfl

/-- Values that are added have the placeholders from the next number on. -/
theorem addAll_eq (b : Bindings) (vs : List Value) :
    b.addAll vs = ((List.range vs.length).map fun k => b.dialect.placeholders.render (b.next + k),
      b.extend vs) := by
  induction vs generalizing b with
  | nil => simp [addAll]
  | cons v vs ih =>
    have hshift : ∀ k, b.next + 1 + k = b.next + (k + 1) := fun k => by omega
    unfold addAll
    simp only [add_eq, ih, next_extend, extend_extend, dialect_extend, List.length_singleton,
      hshift]
    rw [List.length_cons, List.range_succ_eq_map, List.map_cons, List.map_map]
    rfl

/-- Binding compiled items gives the error of the first that fails, or the text of the phrase made
of them, whose values are bound. -/
theorem bindProgress_cases (b : Bindings) (x : Progress) {assemble : List Phrase → Phrase}
    (ha : ∀ ps, Phrase.values (assemble ps) = allValues ps) :
    (∃ e, x.result assemble = .error e ∧ (b.bindProgress x assemble).1 = .error e) ∨
      ∃ p, x.result assemble = .ok p ∧
        b.bindProgress x assemble = (.ok (p.render b.dialect b.next), b.extend p.values) := by
  obtain ⟨done, fault⟩ := x
  cases fault with
  | some e => exact Or.inl ⟨e, rfl, rfl⟩
  | none =>
    have hv : (⟨done, none⟩ : Progress).values = (assemble done).values := (ha done).symm
    exact Or.inr ⟨assemble done, rfl, by rw [← hv]; rfl⟩

end Bindings

namespace Writer

theorem map_render_engine (d : Dialect) (i : Nat) (x : Except Error Phrase) :
    x.map (d.engine.render i) = x.map fun p => p.render d i := by
  cases x <;> simp [Except.map]

/-- **A condition is bound step by step.** -/
theorem outcome_condition (b : Bindings) (w : Where) :
    (condition w).outcome b = b.bindWhere w := by
  rw [outcome, perform_condition, map_render_engine]
  rfl

/-- **A list of assignments is bound step by step.** -/
theorem outcome_assignments (b : Bindings) (as : List Assignment) :
    (assignments as).outcome b = b.bindAssignments as := by
  rw [outcome, perform_assignments, map_render_engine]
  rfl

end Writer

end BoundSql
