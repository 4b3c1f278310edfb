import BoundSql.Proofs.Assignment.Decoding
import BoundSql.Proofs.Bindings.Items
import BoundSql.Proofs.Engine.Dialects
import BoundSql.Proofs.Request.Omission

/-!
# Statements of updates

What the assignments of an update come to in its statement. Their text and the bound values tell all
that are not left out, and the text is empty if and only if all are left out. An update of a checked
table is refused for want of an assignment exactly in that case, whatever its predicates are
(`Assignment.told_by_text`).

`Writer.update` binds an update step by step and looks at the text of its assignments to see whether
there are any. It gives the same statement.
-/

namespace BoundSql

open Phrase

/-! ### The text of assignments -/

namespace Assignment

/-- Whatever is wrong with assignments, it is not that they are lacking. -/
theorem listPhrase_ne (as : List Assignment) (f : QueryFault) :
    FailsOnly (· ≠ .badQuery f) (listPhrase as) := by
  have hphrase : ∀ a : Assignment, FailsOnly (· ≠ .badQuery f) a.phrase := by
    rintro a e he rfl
    have hb := a.binds_phrase
    rw [he] at hb
    obtain - | hf := hb
    obtain ⟨s, -, hs⟩ := Option.map_eq_some_iff.1 hf
    cases hs
  rw [listPhrase_eq]
  exact (FailsOnly.mapM hphrase _).map

end Assignment

theorem Where.phrase_ne (w : Where) (f : QueryFault) : FailsOnly (· ≠ .badQuery f) w.phrase := by
  have hphrase : ∀ p : Predicate, FailsOnly (· ≠ .badQuery f) p.phrase := by
    rintro p e he rfl
    have hb := p.binds_phrase
    rw [he] at hb
    obtain - | hf := hb
    unfold Predicate.fault? at hf
    split_ifs at hf
    · obtain ⟨x, -, hx⟩ := Option.map_eq_some_iff.1 hf
      cases hx
    · cases hf
  rw [Where.phrase_eq]
  exact (FailsOnly.mapM hphrase _).map

/-! ### Updates -/

namespace Modification

variable {m : Modification}

theorem statement_update (m : Modification) (d : Dialect) (verify : Bool) :
    (Request.update m).statement d verify = m.updatePhrase >>= Statement.ofPhrase d verify :=
  rfl

theorem updatePhrase_eq (m : Modification) :
    m.updatePhrase = (do
      let n ← Name.check m.table
      let p ← Assignment.listPhrase m.assignments
      if Assignment.effective m.assignments = [] then .error (.badQuery .noAssignment)
      else m.conditions.phrase.map (Form.update (ofName n) p)) := by
  unfold updatePhrase tablePhrase
  cases Name.check m.table with
  | error e => rfl
  | ok n =>
    cases Assignment.listPhrase m.assignments with
    | error e => rfl
    | ok p =>
      cases Assignment.effective m.assignments with
      | nil => rfl
      | cons a as => cases m.conditions.phrase <;> rfl

/-- An update of a checked table lacks an assignment if all are left out, and only then. -/
theorem updatePhrase_eq_noAssignment (ht : isName m.table = true) :
    m.updatePhrase = .error (.badQuery .noAssignment) ↔
      Assignment.effective m.assignments = [] := by
  have hn : Name.check m.table = .ok ⟨m.table, ht⟩ := Name.check_eq_ok_iff.2 rfl
  rw [updatePhrase_eq, hn]
  cases hp : Assignment.listPhrase m.assignments with
  | error e =>
    have hne : Assignment.effective m.assignments ≠ [] := by
      intro heff
      rw [Assignment.listPhrase_eq, heff] at hp
      cases hp
    have he : (.error e : Except Error Phrase) ≠ .error (.badQuery .noAssignment) := fun h =>
      Assignment.listPhrase_ne _ _ e hp (Except.error.inj h)
    exact iff_of_false he hne
  | ok p =>
    change (if _ then _ else _) = _ ↔ _
    split_ifs with heff
    · exact iff_of_true rfl heff
    · have hw : FailsOnly (· ≠ .badQuery .noAssignment)
          (m.conditions.phrase.map (Form.update (ofName ⟨m.table, ht⟩) p)) :=
        (m.conditions.phrase_ne .noAssignment).map
      exact iff_of_false (fun h => hw _ h rfl) heff

end Modification

/-! ### What the assignments of an update come to -/

namespace Assignment

theorem statement_eq_noAssignment {m : Modification} (ht : isName m.table = true) (d : Dialect)
    (verify : Bool) :
    (Request.update m).statement d verify = .error (.badQuery .noAssignment) ↔
      ∀ a ∈ m.assignments, a.IsVoid := by
  rw [← effective_eq_nil_iff, ← Modification.updatePhrase_eq_noAssignment ht, m.statement_update]
  cases hm : m.updatePhrase with
  | error e => constructor <;> (intro h; cases h; rfl)
  | ok p =>
    refine iff_of_false (fun h => ?_) (fun h => by cases h)
    change Statement.close d verify _ _ = _ at h
    unfold Statement.close at h
    split_ifs at h
    cases h

/-- **The assignments of an update are told by their text, and their lack is noticed.** From the
text and the bound values all assignments can be read that are not left out, so lists with the same
text and the same values do not differ in those. The text is empty if and only if all are left out,
and an update of a checked table is refused for want of an assignment exactly in that case, whatever
its predicates are. -/
theorem told_by_text :
    (∀ b : Bindings, b.dialect.IsBuiltin →
      (∀ as text b', b.bindAssignments as = (.ok text, b') →
        b.dialect.decodeAssignments b.next text b'.values = some (effective as)) ∧
      ∀ as cs text b₁ b₂, b.bindAssignments as = (.ok text, b₁) →
        b.bindAssignments cs = (.ok text, b₂) → b₁.values = b₂.values →
        effective as = effective cs) ∧
    (∀ (b : Bindings) as text b', b.bindAssignments as = (.ok text, b') →
      (text = "" ↔ ∀ a ∈ as, a.IsVoid)) ∧
    ∀ (d : Dialect) (verify : Bool) (m : Modification),
      (Writer.update m).statement d verify = (Request.update m).statement d verify ∧
      (isName m.table = true →
        ((Request.update m).statement d verify = .error (.badQuery .noAssignment) ↔
          ∀ a ∈ m.assignments, a.IsVoid)) := by
  refine ⟨fun b hd => ?_, fun b as text b' h => ?_, fun d verify m => ?_⟩
  · have hdecode : ∀ as text b', b.bindAssignments as = (.ok text, b') →
        b.dialect.decodeAssignments b.next text b'.values = some (effective as) :=
      fun _ _ _ => Bindings.decode_bindAssignments hd
    refine ⟨hdecode, fun as cs text b₁ b₂ h₁ h₂ hv => ?_⟩
    have h := hdecode as text b₁ h₁
    rw [hv, hdecode cs text b₂ h₂] at h
    exact (Option.some.inj h).symm
  · obtain ⟨p, hp, rfl, -⟩ := Bindings.bindAssignments_eq_ok h
    rw [← Dialect.render_engine, render_listPhrase_eq_empty hp, effective_eq_nil_iff]
  · exact ⟨d.statement_engine verify (.update m), fun ht => statement_eq_noAssignment ht d verify⟩

/-- In PostgreSQL after one value: a column that is counted up and a case distinction on a column
named like a word of it, with and without assignments that are left out. An update with nothing but
those, whose predicate has no name, lacks an assignment. -/
theorem told_by_text_cases :
    let b : Bindings := ⟨.postgres, [.int 7]⟩
    let as : List Assignment :=
      [.plain "n" .increase (.int 1),
        .cases "t.when" "end" [⟨.assign, .int 2, .null⟩, ⟨.decrease, .text "", .int 3⟩]]
    let void : List Assignment := [.plain "a;b" .decrease (.text ""), .cases "" "?" []]
    let text := "\"n\" = \"n\" + $2, \"t\".\"when\" = " ++
      "(CASE \"end\" WHEN $3 THEN $4 WHEN $5 THEN \"end\" - $6 END)"
    let b' := b.extend [.int 1, .int 2, .null, .text "", .int 3]
    let m : Modification :=
      { table := "users", assignments := void
        conditions := [⟨"1 OR 1", .between, .single (.int 1), .or⟩] }
    b.dialect.IsBuiltin ∧ b.bindAssignments as = (.ok text, b') ∧
      b.bindAssignments (void ++ as) = (.ok text, b') ∧ effective as = effective (void ++ as) ∧
      b.dialect.decodeAssignments b.next text b'.values = some as ∧
      (text = "" ↔ ∀ a ∈ as, a.IsVoid) ∧ isName m.table = true ∧
      (Request.update m).statement .oracle true = .error (.badQuery .noAssignment) := by
  intro b as void text b' m
  have hd : b.dialect.IsBuiltin := .family .postgres
  have has : b.bindAssignments as = (.ok text, b') := by decide +kernel
  have hvoid : b.bindAssignments (void ++ as) = (.ok text, b') := by decide +kernel
  have ht : isName m.table = true := by decide
  obtain ⟨hread, hempty, hupdate⟩ := told_by_text
  obtain ⟨hdecode, hsame⟩ := hread b hd
  refine ⟨hd, has, hvoid, hsame as (void ++ as) text b' b' has hvoid rfl, hdecode as text b' has,
    hempty b as text b' has, ht, ((hupdate .oracle true m).2 ht).2 ?_⟩
  intro a ha
  rcases List.mem_pair.1 ha with rfl | rfl <;> rfl

end Assignment

end BoundSql
