import BoundSql.Predicate
import BoundSql.Proofs.Outcome

/-!
# Compiled predicates

What the test of a predicate can look like: `Compiled` lists the six shapes with the operators and
operands that lead to them, and `test_eq_ok` says that these are all.
-/

namespace BoundSql

namespace Operator

/-- The pattern an operator makes of a text; only three operators test for a pattern. -/
def pattern? (o : Operator) (s : String) : Option String :=
  match o with
  | contains => some ("%" ++ s ++ "%")
  | startsWith => some (s ++ "%")
  | endsWith => some ("%" ++ s)
  | _ => none

/-- The word for membership in a list. -/
def memberWord? : Operator → Option String
  | isIn => some "IN"
  | notIn => some "NOT IN"
  | _ => none

/-- The word for a range. -/
def rangeWord? : Operator → Option String
  | between => some "BETWEEN"
  | notBetween => some "NOT BETWEEN"
  | _ => none

end Operator

namespace Predicate

/-- The test of a column that a predicate is compiled to. -/
inductive Compiled (column : Phrase) (p : Predicate) : Phrase → Prop
  | compare {symbol : String} {v : Value} (hs : p.operator.symbol? = some symbol)
      (hv : p.operand = .single v) : Compiled column p (Test.compare column symbol v)
  | member {word : String} (hw : p.operator.memberWord? = some word) :
      Compiled column p (Test.member column word p.operand)
  | like {v : Value} {s pattern : String} (hv : p.operand = .single v) (hs : v.text? = some s)
      (hp : p.operator.pattern? s = some pattern) : Compiled column p (Test.like column pattern)
  | null {s : String} {t : NullTest} (ho : p.operator = .isNull)
      (hv : p.operand = .single (.text s)) (ht : NullTest.parse? s = some t) :
      Compiled column p (Test.null column t)
  | range {word : String} {low high : Value} (hw : p.operator.rangeWord? = some word)
      (hv : p.operand = .list [low, high]) : Compiled column p (Test.range column word low high)

variable {p : Predicate} {column : Phrase}

theorem value_eq_ok {v : Value} : p.value = .ok v ↔ p.operand = .single v := by
  unfold value
  split <;> simp_all

theorem patternText_eq_ok {s : String} :
    p.patternText = .ok s ↔ ∃ v, p.operand = .single v ∧ v.text? = some s := by
  unfold patternText
  rw [bind_eq_ok]
  refine exists_congr fun v => and_congr value_eq_ok ?_
  split <;> simp_all

theorem nullTest_eq_ok {t : NullTest} :
    p.nullTest = .ok t ↔
      ∃ s, p.operand = .single (.text s) ∧ NullTest.parse? s = some t := by
  unfold nullTest
  rw [bind_eq_ok]
  constructor
  · rintro ⟨v, hv, h⟩
    cases v with
    | text s =>
      refine ⟨s, value_eq_ok.1 hv, ?_⟩
      cases hs : NullTest.parse? s <;> simp_all
    | _ => cases h
  · rintro ⟨s, hs, ht⟩
    exact ⟨.text s, value_eq_ok.2 hs, by simp [ht]⟩

theorem ends_eq_ok {e : Value × Value} : p.ends = .ok e ↔ p.operand = .list [e.1, e.2] := by
  unfold ends
  split
  · simp_all [Prod.ext_iff]
  · rename_i h
    constructor
    · intro h'
      cases h'
    · intro h'
      exact absurd h' (h _ _)

/-- **The shapes of compiled predicates.** -/
theorem test_eq_ok {t : Phrase} : p.test column = .ok t ↔ p.Compiled column t := by
  constructor
  · intro h
    unfold test at h
    cases ho : p.operator <;> rw [ho] at h
    case isIn | notIn =>
      cases h
      exact .member (by rw [ho]; rfl)
    all_goals obtain ⟨x, hx, rfl⟩ := map_eq_ok.1 h
    case contains | startsWith | endsWith =>
      obtain ⟨v, hv, hs⟩ := patternText_eq_ok.1 hx
      exact .like hv hs (by rw [ho]; rfl)
    case isNull =>
      obtain ⟨s, hs, ht⟩ := nullTest_eq_ok.1 hx
      exact .null ho hs ht
    case between | notBetween => exact .range (by rw [ho]; rfl) (ends_eq_ok.1 hx)
    all_goals exact .compare (by rw [ho]; rfl) (value_eq_ok.1 hx)
  · intro h
    unfold test
    cases h with
    | compare hs hv =>
      cases ho : p.operator <;> rw [ho] at hs <;> cases hs <;> rw [value_eq_ok.2 hv] <;> rfl
    | member hw => cases ho : p.operator <;> rw [ho] at hw <;> cases hw <;> rfl
    | like hv hs hp =>
      cases ho : p.operator <;> rw [ho] at hp <;> cases hp <;>
        rw [patternText_eq_ok.2 ⟨_, hv, hs⟩] <;> rfl
    | null ho hv ht =>
      rw [ho, nullTest_eq_ok.2 ⟨_, hv, ht⟩]
      rfl
    | @range word low high hw hv =>
      cases ho : p.operator <;> rw [ho] at hw <;> cases hw <;>
        rw [(ends_eq_ok (e := (low, high))).2 hv] <;> rfl

end Predicate

end BoundSql
