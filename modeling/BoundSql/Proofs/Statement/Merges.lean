import BoundSql.Proofs.Statement.Upserts

/-!
# Columns of merges

A merge offers a row as the rows of a source, which declares the columns of the row, and refers to
columns of the source to find a row, to update it and to insert one. It refers to the conflict keys,
to the columns to update and to the inserted columns, in this order, and declares the inserted
columns only.

Conflict keys are checked to be inserted columns, and columns to update are not. A merge therefore
refers only to declared columns exactly if the columns to update are inserted ones
(`Upsertion.isClosed_iff`), as they are by default. A list of columns to update may name another
column, and then the merge refers to a column that its source does not have
(`Upsertion.not_isClosed_update`).
-/

namespace BoundSql

/-! ### References -/

namespace Upsert

/-- The columns that the offered row is declared with. -/
def declared (u : Upsert) : List String := u.row.map Prod.fst

/-- The columns of the offered row that are referred to: to find a row, to update it, and to insert
one. -/
def referred (u : Upsert) : List String :=
  (u.target.getD []).map Prod.snd ++ u.conflict.copied.map Prod.snd ++ u.inserted.map Prod.snd

/-- Every column of the offered row that is referred to is declared. -/
def IsClosed (u : Upsert) : Prop := ∀ c ∈ u.referred, c ∈ u.declared

end Upsert

namespace Upsertion

variable {d : Dialect} {x : Upsertion}

/-! ### Checks -/

/-- The conflict keys of an accepted row are columns of it. -/
theorem conflictKeys_subset_of_check {u : Unit} (h : x.check = .ok u) :
    ∀ k ∈ x.conflictKeys, k ∈ x.columns := by
  obtain ⟨-, h⟩ := ite_eq_ok.1 h
  obtain ⟨-, h⟩ := ite_eq_ok.1 h
  obtain ⟨-, h⟩ := ite_eq_ok.1 h
  cases hk : x.conflictKeys.find? fun k => !x.columns.contains k with
  | some k =>
    rw [hk] at h
    cases h
  | none => simpa using hk

theorem updateColumns_subset_of_none (h : x.updates = none) :
    ∀ c ∈ x.updateColumns, c ∈ x.columns := by
  intro c hc
  rw [updateColumns_of_none h] at hc
  exact (List.mem_filter.1 hc).1

/-- A statement for an upsertion is read as what has been checked. -/
theorem exists_meaning (hd : d.IsBuiltin) {verify : Bool} {st : Statement}
    (h : (Request.upsert x).statement d verify = .ok st ∨
      (Request.upsert x).guarded d verify = .ok st) :
    ∃ form y, x.check = .ok () ∧ CheckedUpsertion.Checks y x ∧ d.upsert = some form ∧
      d.readUpsert st = some (y.meaning form) := by
  obtain ⟨p, hp, rfl⟩ := Request.exists_rendered h
  obtain ⟨form, y, hy, hf, hform⟩ := exists_checked hp
  obtain ⟨u, hx, -⟩ := bind_eq_ok.1 hp
  exact ⟨form, y, hx, hy, hf, y.readUpsert_render hd hf hform⟩

/-! ### Merges -/

/-- SQL Server and Oracle name the columns by which a row is found. -/
theorem ne_duplicateKey (hd : d.IsBuiltin)
    (hm : d.family = some .sqlServer ∨ d.family = some .oracle) {form : UpsertForm}
    (hf : d.upsert = some form) : form ≠ .duplicateKey := by
  rintro rfl
  cases hd with
  | family f => cases f <;> revert hm hf <;> decide
  | sqlServerLegacy => cases hf
  | oracleVersion v => cases hf

theorem declared_of_isSaidBy {form : UpsertForm} {u : Upsert} (hx : x.check = .ok ())
    (hu : x.IsSaidBy form u) : u.declared = x.columns := by
  rw [Upsert.declared, hu.row, List.map_fst_zip]
  exact (length_eq_of_check hx).le

theorem referred_of_isSaidBy {form : UpsertForm} {u : Upsert} (hform : form ≠ .duplicateKey)
    (hu : x.IsSaidBy form u) :
    u.referred = x.conflictKeys ++ x.updateColumns ++ x.columns := by
  have hsame : ∀ cs : List String, (cs.map fun c => (c, c)).map Prod.snd = cs := fun cs => by
    rw [List.map_map]
    exact List.map_id cs
  have hcopied : u.conflict.copied = x.updateColumns.map fun c => (c, c) := by
    by_cases hn : x.updateColumns = []
    · rw [hu.kept hn, Conflict.copied_keeping, hn]
      rfl
    · rw [hu.changed hn, Conflict.copied_copying]
  rw [Upsert.referred, hu.target, if_neg hform, Option.getD_some, hcopied, hu.inserted, hsame,
    hsame, hsame]

/-- **A merge refers to the columns that its source declares, if it updates no others.** The source
declares the inserted columns; the merge refers to the conflict keys in its condition, to the
columns to update and to the inserted columns; and all of these are declared exactly if the columns
to update are, which is so by default. -/
theorem isClosed_iff (hd : d.IsBuiltin)
    (hm : d.family = some .sqlServer ∨ d.family = some .oracle) {verify : Bool} {st : Statement}
    (h : (Request.upsert x).statement d verify = .ok st ∨
      (Request.upsert x).guarded d verify = .ok st) :
    ∃ u, d.readUpsert st = some u ∧ u.declared = x.columns ∧
      u.referred = x.conflictKeys ++ x.updateColumns ++ x.columns ∧
      (u.IsClosed ↔ ∀ c ∈ x.updateColumns, c ∈ x.columns) ∧ (x.updates = none → u.IsClosed) := by
  obtain ⟨form, y, hx, hy, hf, hu⟩ := exists_meaning hd h
  have hsaid := isSaidBy_meaning hy form
  have hdeclared := declared_of_isSaidBy hx hsaid
  have hreferred := referred_of_isSaidBy (ne_duplicateKey hd hm hf) hsaid
  have hiff : (y.meaning form).IsClosed ↔ ∀ c ∈ x.updateColumns, c ∈ x.columns := by
    unfold Upsert.IsClosed
    rw [hdeclared, hreferred]
    constructor
    · intro hclosed c hc
      exact hclosed c (by simp [hc])
    · intro hupdates c hc
      rcases List.mem_append.1 hc with hc | hc
      · exact (List.mem_append.1 hc).elim (conflictKeys_subset_of_check hx c) (hupdates c)
      · exact hc
  exact ⟨_, hu, hdeclared, hreferred, hiff, fun hn => hiff.2 (updateColumns_subset_of_none hn)⟩

/-- A merge in Oracle that updates one of its columns. -/
theorem isClosed_iff_oracle :
    let x : Upsertion :=
      { table := "users", columns := ["id", "name"], values := [.int 1, .text "a"]
        conflictKeys := ["id"], updates := some ["name"] }
    let st : Statement :=
      ⟨"MERGE INTO \"users\" target " ++
        "USING (SELECT :1 AS \"id\", :2 AS \"name\" FROM DUAL) source " ++
        "ON (target.\"id\" = source.\"id\") " ++
        "WHEN MATCHED THEN UPDATE SET target.\"name\" = source.\"name\" " ++
        "WHEN NOT MATCHED THEN INSERT (\"id\", \"name\") VALUES (source.\"id\", source.\"name\")",
        [.int 1, .text "a"]⟩
    Dialect.oracle.IsBuiltin ∧ Dialect.oracle.family = some .oracle ∧
      (Request.upsert x).statement .oracle true = .ok st ∧
      ∃ u, Dialect.oracle.readUpsert st = some u ∧ u.declared = ["id", "name"] ∧
        u.referred = ["id", "name", "id", "name"] ∧ u.IsClosed := by
  intro x st
  have hd : Dialect.oracle.IsBuiltin := .family .oracle
  have hst : (Request.upsert x).statement .oracle true = .ok st := by decide +kernel
  obtain ⟨u, hu, hdeclared, hreferred, hiff, -⟩ := isClosed_iff hd (Or.inr rfl) (Or.inl hst)
  exact ⟨hd, rfl, hst, u, hu, hdeclared, hreferred, hiff.2 (by decide)⟩

/-- A merge in SQL Server that updates a column which is not inserted: it refers to a column that
its source does not have. -/
theorem not_isClosed_update :
    let x : Upsertion :=
      { table := "users", columns := ["id", "name"], values := [.int 1, .text "a"]
        conflictKeys := ["id"], updates := some ["age"] }
    let st : Statement :=
      ⟨"MERGE INTO [users] AS target USING (VALUES (@p1, @p2)) AS source ([id], [name]) " ++
        "ON target.[id] = source.[id] " ++
        "WHEN MATCHED THEN UPDATE SET target.[age] = source.[age] " ++
        "WHEN NOT MATCHED THEN INSERT ([id], [name]) VALUES (source.[id], source.[name]);",
        [.int 1, .text "a"]⟩
    (Request.upsert x).statement .sqlServer true = .ok st ∧
      ∃ u, Dialect.sqlServer.readUpsert st = some u ∧ u.declared = ["id", "name"] ∧
        "age" ∈ u.referred ∧ ¬ u.IsClosed := by
  intro x st
  have hst : (Request.upsert x).statement .sqlServer true = .ok st := by decide +kernel
  obtain ⟨form, y, hx, hy, hf, hu⟩ := exists_meaning (.family .sqlServer) (Or.inl hst)
  have hsaid := isSaidBy_meaning hy form
  have hdeclared : _ = ["id", "name"] := declared_of_isSaidBy hx hsaid
  have hreferred := referred_of_isSaidBy (by rintro rfl; cases hf) hsaid
  have hage : "age" ∈ (y.meaning form).referred := by
    rw [hreferred]
    decide
  refine ⟨hst, _, hu, hdeclared, hage, fun hclosed => ?_⟩
  have hmem := hclosed "age" hage
  rw [hdeclared] at hmem
  exact absurd hmem (by decide)

end Upsertion

end BoundSql
