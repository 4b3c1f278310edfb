import BoundSql.Dialect.Builtin
import BoundSql.Proofs.Phrase.Reading
import BoundSql.Proofs.Request.Faults
import BoundSql.Proofs.Request.Tidy

/-!
# Placeholders of statements

In a statement of a built-in dialect the scanner finds the placeholders with the numbers from one
to the number of values, each once and in order (`Request.placeholders_statement`). The comparison
of the two numbers therefore never fails, and asking for it changes nothing.
-/

namespace BoundSql

open Phrase Scanner

theorem Dialect.IsBuiltin.quotes_mem {d : Dialect} (h : d.IsBuiltin) : d.quotes ∈ Quotes.usual := by
  cases h with
  | family f => cases f <;> decide
  | sqlServerLegacy => decide
  | oracleVersion v => exact List.mem_cons_self

variable {d : Dialect}

/-- The semicolon that may end a statement binds nothing. -/
theorem Request.values_terminator (d : Dialect) (r : Request) : values (r.terminator d) = [] := by
  cases r with
  | upsert x =>
    cases h : d.upsert with
    | none => simp [Request.terminator, h]
    | some form => cases form <;> simp [Request.terminator, h, Form.terminator]
  | _ => rfl

/-- What the statement of a request ends with: a semicolon for the upserts of SQL Server. -/
def Request.ending (d : Dialect) : Request → List Char
  | upsert _ => if d.family = some .sqlServer then [';'] else []
  | _ => []

theorem Request.ending_cases (d : Dialect) (r : Request) :
    r.ending d = [] ∨ r.ending d = [';'] := by
  cases r with
  | upsert x =>
    unfold ending
    split_ifs
    · exact Or.inr rfl
    · exact Or.inl rfl
  | _ => exact Or.inl rfl

theorem Request.renderFrom_terminator (hd : d.IsBuiltin) (r : Request) (i : Nat) :
    renderFrom d i (r.terminator d) = r.ending d := by
  cases r with
  | upsert x =>
    cases hd with
    | family f => cases f <;> rfl
    | sqlServerLegacy => rfl
    | oracleVersion v => rfl
  | _ => rfl

/-- The text of a request holds the placeholders of its values in order, ends outside quotes, and
has balanced parentheses. -/
theorem Request.holds (hd : d.IsBuiltin) {r : Request} {p : Phrase} (h : r.phrase d = .ok p) :
    d.scanner.Holds .plain (renderFrom d 1 p)
      ((List.range' 1 (values p).length).map d.placeholders.render) some := by
  have hq := hd.quotes_mem
  have hk : d.scanner.Knows .plain := trivial
  obtain ⟨body, hb, rfl⟩ := Request.tidy_phrase h
  have hr := holds_renderFrom hq hb.neat hk rfl (Or.inl rfl) 1
  have hbody : d.scanner.Holds .plain (renderFrom d 1 body) _ some :=
    ⟨hr.found, hr.isOutside, fun k => (hr.depth k).trans (hb.balanced k)⟩
  rw [renderFrom_append, values_append, r.values_terminator, List.append_nil,
    renderFrom_terminator hd]
  rcases r.ending_cases d with he | he
  · rwa [he, List.append_nil]
  · have hs : ∀ c ∈ [';'], d.scanner.IsPlain c := fun c hc =>
      isPlain_of_isBreak hq (by rw [List.mem_singleton.1 hc]; decide)
    have hend : d.scanner.Holds _ [';'] [] some :=
      (reads_break hq (knows_after hk _) hr.isOutside hs ⟨';', rfl, rfl⟩).holds rfl rfl fun _ => rfl
    rw [he]
    simpa using hbody.append hend

/-- The placeholders in the text of a request are those of its values, in order. -/
theorem Request.placeholders_render (hd : d.IsBuiltin) {r : Request} {p : Phrase}
    (h : r.phrase d = .ok p) : d.scanner.placeholders (p.render d 1) =
      (List.range' 1 (values p).length).map d.placeholders.render := by
  rw [placeholders_eq_found, toList_render, (Request.holds hd h).found]
  rfl

theorem Request.close_eq (hd : d.IsBuiltin) {r : Request} {p : Phrase} (h : r.phrase d = .ok p)
    (verify : Bool) : Statement.ofPhrase d verify p = .ok ⟨p.render d 1, p.values⟩ := by
  have hc : d.scanner.count (p.render d 1) = p.values.length := by
    rw [Scanner.count, placeholders_render hd h, List.length_map, List.length_range']
  simp [Statement.ofPhrase, Statement.close, hc]

theorem Request.statement_eq (hd : d.IsBuiltin) (r : Request) (verify : Bool) :
    r.statement d verify = (r.phrase d).map fun p => ⟨p.render d 1, p.values⟩ := by
  unfold Request.statement
  cases h : r.phrase d with
  | error e => rfl
  | ok p => exact close_eq hd h verify

/-- A request has a statement exactly if it has a phrase. -/
theorem Request.exists_statement_iff (hd : d.IsBuiltin) {r : Request} {verify : Bool} :
    (∃ st, r.statement d verify = .ok st) ↔ ∃ p, r.phrase d = .ok p := by
  rw [statement_eq hd]
  cases r.phrase d <;> simp [Except.map]

theorem Request.faultless_statement (hd : d.IsBuiltin) (r : Request) (verify : Bool) :
    Faultless (r.statement d verify) := by
  rw [statement_eq hd]
  exact (r.faultless_phrase d).map

/-- **The placeholders of a statement are numbered from one in the order of its values.** Checking
this number against the values changes no answer and never fails. -/
theorem Request.placeholders_statement (hd : d.IsBuiltin) (r : Request) :
    (∀ st, r.statement d false = .ok st → d.scanner.placeholders st.sql =
      (List.range' 1 st.params.length).map d.placeholders.render) ∧
    r.statement d true = r.statement d false ∧ r.guarded d true = r.guarded d false ∧
    ∀ verify n m, r.statement d verify ≠ .error (.placeholderMismatch n m) ∧
      r.guarded d verify ≠ .error (.placeholderMismatch n m) := by
  have hv : r.statement d true = r.statement d false := by
    rw [statement_eq hd, statement_eq hd]
  refine ⟨fun st h => ?_, hv, ?_, fun verify n m => ⟨fun h => ?_, fun h => ?_⟩⟩
  · rw [statement_eq hd] at h
    obtain ⟨p, hp, rfl⟩ := map_eq_ok.1 h
    exact placeholders_render hd hp
  · unfold Request.guarded
    rw [hv]
  · exact r.faultless_statement hd verify _ h rfl
  · exact (r.faultless_guard.bind fun _ => r.faultless_statement hd verify) _ h rfl

/-- A deletion in PostgreSQL with three values, one of them a question mark. -/
theorem Request.placeholders_deletion :
    let r : Request := .delete
      { table := "users"
        conditions := [⟨"id", .isIn, .list [.int 1, .int 2], .and⟩,
          ⟨"name", .equal, .single (.text "?"), .or⟩] }
    let st : Statement :=
      ⟨"DELETE FROM \"users\" WHERE 1=1 AND \"id\" IN ($1, $2) OR \"name\" = $3",
        [.int 1, .int 2, .text "?"]⟩
    Dialect.postgres.IsBuiltin ∧ r.statement .postgres false = .ok st ∧
      Dialect.postgres.scanner.placeholders st.sql = ["$1", "$2", "$3"] := by
  intro r st
  have hd : Dialect.postgres.IsBuiltin := .family .postgres
  have hr : r.statement .postgres false = .ok st := by decide +kernel
  exact ⟨hd, hr, ((placeholders_statement hd r).1 st hr).trans (by decide +kernel)⟩

end BoundSql
