import BoundSql.Proofs.Phrase.Neutral
import BoundSql.Proofs.Request.Values
import BoundSql.Proofs.Statement.Placeholders

/-!
# Statements across dialects

A request that asks for no window of rows and for no returned columns is portable: any two built-in
dialects refuse it with the same error, or answer it with statements that bind the same values
(`Request.portable`). Upserts and inserts of several rows apart, the statements even have the same
text but for the quotes of names and the writing of placeholders.
-/

namespace BoundSql

open Phrase

/-! ### Portable requests -/

namespace Request

/-- Requests in which no dialect has a choice of its own but how to write an upsert and an insert of
several rows: no window of rows and no returned columns. -/
def IsPortable : Request → Prop
  | rows q | aggregate q => q.limit = none
  | insert x | batchInsert x => x.returning = []
  | count _ | update _ | delete _ | upsert _ => True

/-- Requests that all dialects put into the same words. -/
def SharesText : Request → Prop
  | upsert _ | batchInsert _ => False
  | rows _ | count _ | aggregate _ | insert _ | update _ | delete _ => True

end Request

variable {d d' : Dialect}

/-! ### Queries -/

theorem Query.assemble_eq {q : Query} (h : q.limit = none) (items : Phrase) :
    q.assemble d items = q.assemble d' items := by
  have hp : q.page d = .ok none := by simp [Query.page, h]
  have hp' : q.page d' = .ok none := by simp [Query.page, h]
  unfold assemble
  rw [hp, hp']
  rfl

theorem Query.rowsPhrase_eq {q : Query} (h : q.limit = none) : q.rowsPhrase d = q.rowsPhrase d' :=
  bind_congr fun items => assemble_eq h items

theorem Query.aggregatePhrase_eq {q : Query} (h : q.limit = none) :
    q.aggregatePhrase d = q.aggregatePhrase d' :=
  bind_congr fun items => assemble_eq h items

/-! ### Insertions -/

namespace Insertion

variable {x : Insertion}

theorem names_eq_of_returning (h : x.returning = []) : x.names d = x.names d' := by
  unfold names
  simp [h]

theorem returning_of_names {n : Names} (h : x.returning = []) (hn : x.names d = .ok n) :
    n.returning = [] := by
  obtain ⟨-, hn⟩ := ite_eq_ok.1 hn
  obtain ⟨-, hn⟩ := ite_eq_ok.1 hn
  obtain ⟨table, -, hn⟩ := bind_eq_ok.1 hn
  obtain ⟨columns, -, hn⟩ := bind_eq_ok.1 hn
  obtain ⟨returning, hr, hn⟩ := bind_eq_ok.1 hn
  cases pure_eq_ok.1 hn
  rw [h] at hr
  exact (pure_eq_ok.1 hr).symm

theorem agree_singlePhrase_of_returning (h : x.returning = []) :
    Agree Eq (x.singlePhrase d) (x.singlePhrase d') := by
  have hd : x.names d' = x.names d := names_eq_of_returning h
  unfold singlePhrase
  rw [hd]
  refine .bind_known fun n hn => .refuse (.bind_same fun _ => agree_pure ?_)
  -- With nothing to return, no style of returning writes anything.
  simp [returning_of_names h hn, Form.insert, Form.outputClause, Form.returningClause]

theorem agree_batchPhrase_of_returning (h : x.returning = []) :
    Agree (fun _ _ => True) (x.batchPhrase d) (x.batchPhrase d') := by
  have hd : x.names d' = x.names d := names_eq_of_returning h
  unfold batchPhrase
  rw [hd]
  exact .bind_same fun n => .refuse (.bind_same fun _ => trivial)

end Insertion

/-! ### Upsertions -/

theorem Dialect.IsBuiltin.exists_upsert (hd : d.IsBuiltin) : ∃ form, d.upsert = some form := by
  cases hd with
  | family f => cases f <;> exact ⟨_, rfl⟩
  | sqlServerLegacy => exact ⟨_, rfl⟩
  | oracleVersion v => exact ⟨_, rfl⟩

/-- With a conflict key, every form of upsert has something to write. -/
theorem Form.exists_upsert (form : UpsertForm) {x : UpsertParts} (h : x.keys ≠ []) :
    ∃ p, upsert? form x = some p := by
  cases form with
  | duplicateKey =>
    obtain ⟨k, ks, hk⟩ := List.exists_cons_of_ne_nil h
    unfold upsert? UpsertParts.duplicateKeyUpdates?
    by_cases hu : x.updates = []
    · simp [hu, hk]
    · simp [hu]
  | onConflict | mergeValues | mergeQuery => exact ⟨_, rfl⟩

namespace Upsertion

variable {x : Upsertion}

theorem conflictKeys_ne_nil_of_check {u : Unit} (h : x.check = .ok u) : x.conflictKeys ≠ [] := by
  obtain ⟨-, h⟩ := ite_eq_ok.1 h
  obtain ⟨-, h⟩ := ite_eq_ok.1 h
  obtain ⟨hk, -⟩ := ite_eq_ok.1 h
  simpa using hk

theorem agree_phrase_builtin (hd : d.IsBuiltin) (hd' : d'.IsBuiltin) :
    Agree (fun _ _ => True) (x.phrase d) (x.phrase d') := by
  obtain ⟨form, hf⟩ := hd.exists_upsert
  obtain ⟨form', hf'⟩ := hd'.exists_upsert
  unfold phrase
  refine .bind_known fun _ hx => .bind_same fun table => .bind_same fun columns =>
    .bind_known fun keys hk => .bind_same fun updates => ?_
  have hne : keys.map ofName ≠ [] := by
    intro hnil
    have hl := (mapM_eq_ok.1 hk).length_eq
    rw [List.map_eq_nil_iff.1 hnil] at hl
    exact conflictKeys_ne_nil_of_check hx (List.length_eq_zero_iff.1 hl)
  let parts : Form.UpsertParts := ⟨ofName table, columns.map ofName, x.values.map ofValue,
    keys.map ofName, updates.map ofName⟩
  obtain ⟨p, hp⟩ := Form.exists_upsert form (x := parts) hne
  obtain ⟨p', hp'⟩ := Form.exists_upsert form' (x := parts) hne
  simp only [hf, hf', Option.bind_some, parts] at hp hp' ⊢
  rw [hp, hp']
  trivial

end Upsertion

/-! ### Requests -/

namespace Request

variable {r : Request}

theorem agree_phrase_of_isPortable (hd : d.IsBuiltin) (hd' : d'.IsBuiltin) (hr : r.IsPortable) :
    Agree (fun p p' => r.SharesText → p = p') (r.phrase d) (r.phrase d') := by
  have same : ∀ {x y : Except Error Phrase}, Agree Eq x y →
      Agree (fun p p' => r.SharesText → p = p') x y := fun h => h.mono fun _ _ h _ => h
  cases r with
  | rows q => exact same (.of_eq (Query.rowsPhrase_eq hr))
  | count q => exact same (.refl q.countPhrase)
  | aggregate q => exact same (.of_eq (Query.aggregatePhrase_eq hr))
  | insert x => exact same (Insertion.agree_singlePhrase_of_returning hr)
  | batchInsert x =>
    exact (Insertion.agree_batchPhrase_of_returning hr).mono fun _ _ _ h => h.elim
  | update m => exact same (.refl m.updatePhrase)
  | delete m => exact same (.refl m.deletePhrase)
  | upsert x => exact (Upsertion.agree_phrase_builtin hd hd').mono fun _ _ _ h => h.elim

theorem bindings_eq_of_isPortable (hr : r.IsPortable) : r.bindings d = r.bindings d' := by
  cases r with
  | rows q | aggregate q =>
    have hl : q.limit = none := hr
    simp [bindings, Query.bindings, hl]
  | _ => rfl

theorem neat_phrase_of_sharesText (hs : r.SharesText) {p : Phrase} (h : r.phrase d = .ok p) :
    Neat p := by
  have ht : r.terminator d = [] := by
    cases r with
    | upsert x => exact hs.elim
    | _ => rfl
  obtain ⟨body, hb, rfl⟩ := tidy_phrase h
  rw [ht, List.append_nil]
  exact hb.neat

/-- **Statements across dialects.** Of a request without a window of rows and without returned
columns, any two built-in dialects make the same error, or statements that bind the same values;
upserts and inserts of several rows apart, their texts are the same once the quotes of names are
taken away and every placeholder is replaced by its number. -/
theorem portable (hd : d.IsBuiltin) (hd' : d'.IsBuiltin) (hr : r.IsPortable)
    (verify verify' : Bool) :
    Agree (fun st st' => st.params = st'.params ∧
        (r.SharesText → d.neutral st.sql = d'.neutral st'.sql))
      (r.statement d verify) (r.statement d' verify') ∧
    Agree (fun st st' => st.params = st'.params ∧
        (r.SharesText → d.neutral st.sql = d'.neutral st'.sql))
      (r.guarded d verify) (r.guarded d' verify') := by
  have hs : Agree (fun st st' => st.params = st'.params ∧
      (r.SharesText → d.neutral st.sql = d'.neutral st'.sql))
      (r.statement d verify) (r.statement d' verify') := by
    rw [statement_eq hd, statement_eq hd']
    refine (agree_phrase_of_isPortable hd hd' hr).origin.map fun p p' h => ?_
    obtain ⟨hpp, hp, hp'⟩ := h
    refine ⟨?_, fun hshares => ?_⟩
    · calc values p
        _ = r.bindings d := values_phrase hp
        _ = r.bindings d' := bindings_eq_of_isPortable hr
        _ = values p' := (values_phrase hp').symm
    · cases hpp hshares
      have hn : Neat p := neat_phrase_of_sharesText hshares hp
      calc d.neutral (p.render d 1)
        _ = p.neutral := neutral_render hd.quotes_mem hn
        _ = d'.neutral (p.render d' 1) := (neutral_render hd'.quotes_mem hn).symm
  exact ⟨hs, .bind_same fun _ => hs⟩

/-- An update in MySQL and in SQL Server, in other quotes and with other placeholders. -/
theorem portable_update :
    let r : Request := .update
      { table := "shop.items"
        assignments := [.plain "stock" .decrease (.int 2)]
        conditions := [⟨"id", .equal, .single (.text "?"), .and⟩] }
    let st : Statement :=
      ⟨"UPDATE \x60shop\x60.\x60items\x60 SET \x60stock\x60 = \x60stock\x60 - ? " ++
        "WHERE 1=1 AND \x60id\x60 = ?", [.int 2, .text "?"]⟩
    let st' : Statement :=
      ⟨"UPDATE [shop].[items] SET [stock] = [stock] - @p1 WHERE 1=1 AND [id] = @p2",
        [.int 2, .text "?"]⟩
    Dialect.mysql.IsBuiltin ∧ Dialect.sqlServer.IsBuiltin ∧ r.IsPortable ∧ r.SharesText ∧
      r.guarded .mysql true = .ok st ∧ r.guarded .sqlServer false = .ok st' ∧
      Dialect.mysql.neutral st.sql = Dialect.sqlServer.neutral st'.sql := by
  intro r st st'
  have hd : Dialect.mysql.IsBuiltin := .family .mysql
  have hd' : Dialect.sqlServer.IsBuiltin := .family .sqlServer
  have hr : r.IsPortable := trivial
  have hs : r.SharesText := trivial
  have h : r.guarded .mysql true = .ok st := by decide +kernel
  have h' : r.guarded .sqlServer false = .ok st' := by decide +kernel
  have hp := (portable hd hd' hr true false).2
  rw [h, h'] at hp
  exact ⟨hd, hd', hr, hs, h, h', hp.2 hs⟩

end Request

end BoundSql
