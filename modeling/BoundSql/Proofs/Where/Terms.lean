import BoundSql.Proofs.Where.Decoding
import BoundSql.Proofs.Where.Restriction

/-!
# Terms told by the text

What a condition comes to is read from its text as well: the decoder finds the clauses in it, and
the operator of a clause and its values tell whether it always holds, never holds, or may do either.
The terms are those that are read from the phrase (`Dialect.readCondition_render`), so whether the
condition of a finished statement can fail is told by the text of the statement and its values
(`Request.canFail_iff_of_text`).
-/

namespace BoundSql

open Phrase Condition

/-! ### Clauses -/

/-- What a clause comes to. Nothing is in an empty list, and everything is outside of it. -/
def Condition.Clause.term (c : Clause) : Term :=
  if c.operator = "IN" ∧ c.values = [] then .never
  else if c.operator = "NOT IN" ∧ c.values = [] then .always
  else .atom

/-- The words of a membership test belong to no other operator. -/
theorem Predicate.operatorText_iff (p : Predicate) :
    (p.operatorText = "IN" ↔ p.operator = .isIn) ∧
      (p.operatorText = "NOT IN" ↔ p.operator = .notIn) := by
  unfold operatorText
  cases p.operator with
  | isNull =>
    cases p.nullTest with
    | error e => simp
    | ok t => cases t <;> simp [NullTest.text]
  | _ => simp

/-- A list has nothing in it if no value is bound for it. -/
theorem Operand.isEmpty_iff {o : Operator} (ho : o = .isIn ∨ o = .notIn) (x : Operand) :
    x.isEmpty = true ↔ o.bindings x = [] := by
  rcases ho with rfl | rfl <;> cases x <;> simp [isEmpty, Operator.bindings]

/-- A clause comes to what its predicate comes to. -/
theorem Predicate.term_clause (p : Predicate) : p.clause.term = p.term := by
  obtain ⟨hin, hnot⟩ := p.operatorText_iff
  unfold Clause.term term clause
  simp only [hin, hnot]
  by_cases hi : p.operator = .isIn
  · simp only [hi, Operand.isEmpty_iff (.inl rfl)]
  · by_cases hn : p.operator = .notIn
    · simp only [hn, Operand.isEmpty_iff (.inr rfl)]
    · simp [hi, hn]

/-! ### Conditions -/

/-- The terms of a condition, as its text and the bound values tell them, if the first placeholder
of the text has the number `i`. -/
def Dialect.readCondition (d : Dialect) (i : Nat) (text : String) (values : List Value) :
    Option (List Item) :=
  (d.decode i text values).map fun cs =>
    (.and, .always) :: cs.map fun c => (c.connective, c.term)

/-- **The text of a condition is read as its phrase is**, whatever has been bound before it. -/
theorem Dialect.readCondition_render {d : Dialect} (hd : d.IsBuiltin) {w : Where} {clause : Phrase}
    (h : w.phrase = .ok clause) (before : List Value) :
    d.readCondition (before.length + 1) (clause.render d (before.length + 1))
      (before ++ clause.values) = read clause := by
  have hl := lexemes_render_given hd.quotes_mem (Where.tidy_phrase h).neat before []
    (Nat.add_comm before.length 1)
  rw [List.append_nil] at hl
  have hdecode : d.decode (before.length + 1) (clause.render d (before.length + 1))
      (before ++ clause.values) = some (w.effective.map Predicate.clause) :=
    (congrArg _ hl).trans (Condition.decode_phrase h)
  rw [readCondition, hdecode, read_phrase h, Option.map_some, List.map_map]
  refine congrArg (fun is => some ((Connective.and, Term.always) :: is)) (List.map_congr_left ?_)
  intro p _
  exact congrArg (Prod.mk p.connective) p.term_clause

/-- A `NOT IN` of an empty list, which the guard lets through, holds of every row. -/
example : Dialect.mysql.readCondition 1 "1=1 AND `id` NOT IN ()" [] =
    some [(.and, .always), (.and, .always)] := by
  decide +kernel

/-! ### Statements -/

namespace Request

/-- **Whether what the guard lets through can fail is told by its text.** The statement ends with a
text whose terms, read with its bound values, can fail exactly if every group of the predicates that
remain has one other than a NOT IN with nothing in its list. The first placeholder of that text is
numbered on from the values of what comes before it. -/
theorem canFail_iff_of_text {d : Dialect} (hd : d.IsBuiltin) {verify : Bool} {m : Modification}
    {r : Request} (hr : r = .update m ∨ r = .delete m) {st : Statement}
    (h : r.guarded d verify = .ok st) :
    ∃ front text before values items, st.sql = front ++ " WHERE " ++ text ∧
      st.params = before ++ values ∧
      d.readCondition (before.length + 1) text st.params = some items ∧
      (CanFail items ↔ ∀ g ∈ m.conditions.groups, ∃ p ∈ g, p.isVacuous = false) := by
  obtain ⟨front, clause, hc, rfl⟩ := exists_clause hr (Or.inr h)
  obtain ⟨u, hg, -⟩ := bind_eq_ok.1 h
  obtain ⟨items, hi, hf⟩ := Where.canFail_iff hc
  have hparams : (front ++ lit " WHERE " ++ clause).values = front.values ++ clause.values := by
    simp
  refine ⟨front.render d 1, clause.render d (front.values.length + 1), front.values, clause.values,
    items, ?_, hparams, ?_, hf.trans (and_iff_right (isRestricted_of_guard hr hg))⟩
  · rw [← Dialect.render_engine, ← Dialect.render_engine, ← Dialect.render_engine]
    simp [Engine.render_append, Nat.add_comm, String.append_assoc]
  · have hread := Dialect.readCondition_render hd hc front.values
    rw [hi] at hread
    rwa [hparams]

end Request

end BoundSql
