import BoundSql.Proofs.Phrase.Hygiene
import BoundSql.Proofs.Statement.Placeholders

/-!
# Closed statements

A statement of a built-in dialect ends outside quotes, its parentheses outside quotes are balanced,
and it holds nothing that opens a literal or a comment or begins a second statement: the only
semicolon there may be is the last character of an upsert of SQL Server (`Request.closed`). Nothing
a caller supplies can change that, not even at the joints between the parts of the statement.
-/

namespace BoundSql

open Phrase Scanner

/-- A text without comments, literals and second statements, read with the quotes of a dialect. -/
structure Dialect.Closed (d : Dialect) (cs : List Char) : Prop where
  isOutside : (d.scanner.after .plain cs).isOutside = true
  isBalanced : isBalanced (d.scanner.outside .plain cs) = true
  pairs : ∀ x ∈ [('-', '-'), ('/', '*'), ('*', '/')], hasPair x cs = false
  chars : ∀ c ∈ ['#', '\x00', '\''], c ∉ cs

namespace Request

variable {d : Dialect} {r : Request}

/-- A statement, guarded or not, is the rendered phrase of its request. -/
theorem exists_phrase (hd : d.IsBuiltin) {verify : Bool} {st : Statement}
    (h : r.statement d verify = .ok st ∨ r.guarded d verify = .ok st) :
    ∃ p, r.phrase d = .ok p ∧ st.sql.toList = renderFrom d 1 p := by
  have hs : r.statement d verify = .ok st := by
    rcases h with h | h
    · exact h
    · obtain ⟨-, -, h⟩ := bind_eq_ok.1 h
      exact h
  rw [statement_eq hd] at hs
  obtain ⟨p, hp, rfl⟩ := map_eq_ok.1 hs
  exact ⟨p, hp, toList_render d 1 p⟩

/-- **Every statement of a built-in dialect is closed**, and what stands before its ending holds no
semicolon. -/
theorem closed (hd : d.IsBuiltin) {verify : Bool} {st : Statement}
    (h : r.statement d verify = .ok st ∨ r.guarded d verify = .ok st) :
    d.Closed st.sql.toList ∧ ∃ body, st.sql.toList = body ++ r.ending d ∧ ';' ∉ body := by
  have hq := hd.quotes_mem
  obtain ⟨p, hp, hst⟩ := exists_phrase hd h
  have hr := Request.holds hd hp
  obtain ⟨body, hb, rfl⟩ := tidy_phrase hp
  have htext : st.sql.toList = renderFrom d 1 body ++ r.ending d := by
    rw [hst, renderFrom_append, renderFrom_terminator hd]
  have hbody : ∀ c ∈ renderFrom d 1 body, c ∉ dangerousChars := fun c =>
    notMem_renderFrom hq hb.neat
  refine ⟨⟨?_, ?_, fun x hx => ?_, fun c hc hm => ?_⟩, _, htext, fun hm => hbody _ hm (by decide)⟩
  · rw [hst]
    exact hr.isOutside
  · rw [hst, isBalanced, hr.depth 0]
    rfl
  · have h1 : hasPair x ([] ++ renderFrom d 1 body) = false :=
      hasPair_renderFrom hq hx hb.neat rfl (Or.inl (by simp)) 1
    rw [List.nil_append] at h1
    rw [htext]
    rcases r.ending_cases d with he | he
    · rwa [he, List.append_nil]
    · rw [he]
      exact hasPair_joint hx h1 rfl (Or.inr ⟨';', rfl, rfl⟩)
  · have hsub : ['#', '\x00', '\''] ⊆ dangerousChars := by simp [dangerousChars]
    have hne : ';' ∉ ['#', '\x00', '\''] := by decide
    rw [htext, List.mem_append] at hm
    rcases hm with hm | hm
    · exact hbody c hm (hsub hc)
    · rcases r.ending_cases d with he | he
      · rw [he] at hm
        cases hm
      · rw [he] at hm
        exact hne (List.mem_singleton.1 hm ▸ hc)

/-- An upsert in SQL Server of a hostile value. -/
theorem closed_upsert :
    let r : Request := .upsert
      { table := "users"
        columns := ["id", "name"]
        values := [.int 1, .text "'; --"]
        conflictKeys := ["id"] }
    Dialect.sqlServer.IsBuiltin ∧ ∃ st, r.guarded .sqlServer false = .ok st ∧
      Dialect.sqlServer.Closed st.sql.toList ∧
      ∃ body, st.sql.toList = body ++ [';'] ∧ ';' ∉ body := by
  intro r
  have hd : Dialect.sqlServer.IsBuiltin := .family .sqlServer
  obtain ⟨st, hr⟩ : ∃ st, r.guarded .sqlServer false = .ok st := ⟨_, rfl⟩
  exact ⟨hd, st, hr, closed hd (Or.inr hr)⟩

end Request

end BoundSql
