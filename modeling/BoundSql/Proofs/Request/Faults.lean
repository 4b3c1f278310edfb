import BoundSql.Proofs.Outcome
import BoundSql.Request

/-!
# Faults of descriptions

The phrase of a request fails because of the dialect or the description, and never with a fault of
the finished statement (`Request.faultless_phrase`): that one only `Statement.close` can give. What
goes wrong with a condition, with assignments or with the phrase of a modification is a fault of the
description (`Modification.invalid_updatePhrase`).
-/

namespace BoundSql

/-- Whatever goes wrong is of the given sort. -/
def FailsOnly {α : Type} (P : Error → Prop) (x : Except Error α) : Prop := ∀ e, x = .error e → P e

/-- Whatever goes wrong is no fault of a finished statement. -/
abbrev Faultless {α : Type} (x : Except Error α) : Prop :=
  FailsOnly (fun e => e.kind ≠ .statement) x

/-- Whatever goes wrong is a fault of the description. -/
abbrev Invalid {α : Type} (x : Except Error α) : Prop :=
  FailsOnly (fun e => e.kind = .validation) x

namespace FailsOnly

variable {α β : Type} {P Q : Error → Prop}

theorem ok (a : α) : FailsOnly P (.ok a) := by
  intro e h
  cases h

theorem pure (a : α) : FailsOnly P (pure a) := ok a

theorem error {e : Error} (h : P e) : FailsOnly P (.error e : Except Error α) := by
  intro e' h'
  cases h'
  exact h

theorem mono {x : Except Error α} (h : FailsOnly P x) (hPQ : ∀ e, P e → Q e) : FailsOnly Q x :=
  fun e he => hPQ e (h e he)

/-- A refusal before what follows. -/
theorem refuse {c : Prop} [Decidable c] {e : Error} {x : Except Error α} (h : P e)
    (hx : FailsOnly P x) : FailsOnly P (if c then .error e else x) := by
  split
  · exact error h
  · exact hx

theorem bind {x : Except Error α} {f : α → Except Error β} (hx : FailsOnly P x)
    (hf : ∀ a, FailsOnly P (f a)) : FailsOnly P (x >>= f) := by
  intro e h
  cases x with
  | error e' =>
    cases h
    exact hx e rfl
  | ok a => exact hf a e h

theorem map {x : Except Error α} {f : α → β} (hx : FailsOnly P x) : FailsOnly P (x.map f) := by
  intro e h
  cases x with
  | error e' =>
    cases h
    exact hx e rfl
  | ok a => cases h

theorem mapM {f : α → Except Error β} (hf : ∀ a, FailsOnly P (f a)) (as : List α) :
    FailsOnly P (as.mapM f) := by
  induction as with
  | nil => exact pure []
  | cons a as ih =>
    rw [List.mapM_cons]
    exact (hf a).bind fun _ => ih.bind fun _ => pure _

end FailsOnly

theorem Invalid.faultless {α : Type} {x : Except Error α} (h : Invalid x) : Faultless x :=
  h.mono fun e he => by simp [he]

open FailsOnly

/-! ### Names and selected items -/

theorem Name.invalid_check (s : String) : Invalid (Name.check s) := by
  unfold Name.check
  split
  · exact ok _
  · exact error (by simp [Error.kind])

theorem Name.faultless_check (s : String) : Faultless (Name.check s) := (invalid_check s).faultless

theorem faultless_column (s : String) : Faultless (column s) := (Name.faultless_check s).map

theorem faultless_selectItem (s : String) : Faultless (selectItem s) := by
  unfold selectItem Fragment.check
  split_ifs
  · exact map (ok _)
  · exact map (error (by simp [Error.kind]))
  · exact (Name.faultless_check s).map

/-! ### Conditions and assignments -/

namespace Predicate

variable (p : Predicate)

theorem invalid_value : Invalid p.value := by
  unfold value
  split
  · exact ok _
  · exact error (by simp [Error.kind])

theorem invalid_patternText : Invalid p.patternText := by
  refine p.invalid_value.bind fun v => ?_
  split
  · exact ok _
  · exact error (by simp [Error.kind])

theorem invalid_nullTest : Invalid p.nullTest := by
  refine p.invalid_value.bind fun v => ?_
  dsimp only
  split
  · exact ok _
  · exact error (by simp [Error.kind])

theorem invalid_ends : Invalid p.ends := by
  unfold ends
  split
  · exact ok _
  · exact error (by simp [Error.kind])

theorem invalid_test (column : Phrase) : Invalid (p.test column) := by
  unfold test
  split
  case h_7 | h_8 => exact ok _
  case h_9 | h_10 | h_11 => exact p.invalid_patternText.map
  case h_12 => exact p.invalid_nullTest.map
  case h_13 | h_14 => exact p.invalid_ends.map
  all_goals exact p.invalid_value.map

theorem invalid_phrase : Invalid p.phrase :=
  (Name.invalid_check _).bind fun _ => (p.invalid_test _).bind fun _ => pure _

end Predicate

theorem Where.invalid_phrase (w : Where) : Invalid w.phrase := by
  rw [Where.phrase_eq]
  exact (mapM Predicate.invalid_phrase _).map

theorem Where.faultless_phrase (w : Where) : Faultless w.phrase := w.invalid_phrase.faultless

namespace Assignment

theorem invalid_checkName (f s : String) : Invalid (checkName f s) := by
  intro e h
  unfold checkName at h
  cases hn : Name.check s <;> rw [hn] at h <;> cases h
  simp [Error.kind]

theorem invalid_phrase (a : Assignment) : Invalid a.phrase := by
  cases a with
  | plain f mode v => exact (invalid_checkName f f).bind fun _ => pure _
  | cases f g bs =>
    exact (invalid_checkName f f).bind fun _ => (invalid_checkName f g).bind fun _ => pure _

theorem invalid_listPhrase (as : List Assignment) : Invalid (listPhrase as) := by
  rw [listPhrase_eq]
  exact (mapM invalid_phrase _).map

end Assignment

/-! ### Queries -/

theorem Aggregate.faultless_phrase (a : Aggregate) : Faultless a.phrase := by
  have hf : Faultless (AggregateFunction.parse a.function) := by
    unfold AggregateFunction.parse
    split
    · exact ok _
    · exact error (by simp [Error.kind])
  have hx : ∀ f, Faultless (argument f a.field) := by
    intro f
    unfold argument
    split_ifs
    · exact ok _
    · exact error (by simp [Error.kind])
    · exact faultless_column _
  have hn : Faultless a.aliasName := by
    unfold aliasName
    split_ifs
    · exact error (by simp [Error.kind])
    · exact faultless_column _
  exact hf.bind fun f => (hx f).bind fun _ => hn.bind fun _ => pure _

namespace Query

variable (d : Dialect) (q : Query)

theorem faultless_source : Faultless q.source := by
  refine (faultless_column _).bind fun t => ?_
  cases q.tableAlias with
  | none => exact pure _
  | some a => exact (faultless_column a).bind fun _ => pure _

theorem faultless_groups : Faultless q.groups := mapM faultless_column _

theorem faultless_projection : Faultless q.projection := by
  refine (mapM faultless_selectItem _).bind fun items => ?_
  split_ifs
  · cases q.tableAlias with
    | none => exact pure _
    | some a => exact (faultless_column a).bind fun _ => pure _
  · exact pure _

theorem faultless_aggregateProjection : Faultless q.aggregateProjection := by
  refine refuse (by simp [Error.kind]) ?_
  exact q.faultless_groups.bind fun _ =>
    (mapM Aggregate.faultless_phrase _).bind fun _ => pure _

theorem faultless_page : Faultless (q.page d) := by
  unfold Query.page
  split
  · refine map ?_
    unfold Dialect.page
    split
    case h_5 =>
      split_ifs
      · exact ok _
      · exact error (by simp [Error.kind])
    all_goals exact ok _
  · exact ok _

theorem faultless_assemble (items : Phrase) : Faultless (q.assemble d items) :=
  q.faultless_source.bind fun _ => (q.faultless_page d).bind fun _ =>
    (Where.faultless_phrase _).bind fun _ => q.faultless_groups.bind fun _ =>
      (mapM (fun _ => (faultless_column _).map) _).bind fun _ => pure _

theorem faultless_rowsPhrase : Faultless (q.rowsPhrase d) :=
  q.faultless_projection.bind fun items => q.faultless_assemble d items

theorem faultless_aggregatePhrase : Faultless (q.aggregatePhrase d) :=
  q.faultless_aggregateProjection.bind fun items => q.faultless_assemble d items

theorem faultless_countPhrase : Faultless q.countPhrase := by
  refine q.faultless_source.bind fun _ => (Where.faultless_phrase _).bind fun _ =>
    q.faultless_groups.bind fun gs => ?_
  split_ifs <;> exact pure _

end Query

/-! ### Changes to rows -/

theorem Name.faultless_checkAll (ss : List String) : Faultless (Name.checkAll ss) :=
  mapM Name.faultless_check ss

namespace Insertion

variable (d : Dialect) (x : Insertion)

theorem faultless_names : Faultless (x.names d) := by
  refine refuse (by simp [Error.kind]) (refuse (by simp [Error.kind]) ?_)
  exact (Name.faultless_check _).bind fun _ => (Name.faultless_checkAll _).bind fun _ =>
    (Name.faultless_checkAll _).bind fun _ => pure _

theorem faultless_checkWidths (columns i : Nat) (rs : List (List Value)) :
    Faultless (checkWidths columns i rs) := by
  induction rs generalizing i with
  | nil => exact ok _
  | cons r rs ih =>
    unfold checkWidths
    split_ifs
    · exact ih _
    · exact error (by simp [Error.kind])

theorem faultless_singlePhrase : Faultless (x.singlePhrase d) := by
  refine (x.faultless_names d).bind fun _ => refuse (by simp [Error.kind]) ?_
  exact (faultless_checkWidths _ _ _).bind fun _ => pure _

theorem faultless_batchPhrase : Faultless (x.batchPhrase d) := by
  refine (x.faultless_names d).bind fun _ => refuse (by simp [Error.kind]) ?_
  exact (faultless_checkWidths _ _ _).bind fun _ => pure _

end Insertion

namespace Modification

variable (m : Modification)

theorem invalid_updatePhrase : Invalid m.updatePhrase := by
  refine (Name.invalid_check _).map.bind fun _ =>
    (Assignment.invalid_listPhrase _).bind fun _ => refuse (by simp [Error.kind]) ?_
  exact (Where.invalid_phrase _).bind fun _ => pure _

theorem invalid_deletePhrase : Invalid m.deletePhrase :=
  (Name.invalid_check _).map.bind fun _ => (Where.invalid_phrase _).bind fun _ => pure _

end Modification

namespace Upsertion

variable (d : Dialect) (x : Upsertion)

theorem faultless_check : Faultless x.check := by
  refine refuse (by simp [Error.kind]) (refuse (by simp [Error.kind])
    (refuse (by simp [Error.kind]) ?_))
  split
  · exact error (by simp [Error.kind])
  · exact ok _

theorem faultless_phrase : Faultless (x.phrase d) := by
  refine x.faultless_check.bind fun _ => (Name.faultless_check _).bind fun _ =>
    (Name.faultless_checkAll _).bind fun _ => (Name.faultless_checkAll _).bind fun _ =>
      (Name.faultless_checkAll _).bind fun _ => ?_
  dsimp only
  split
  · exact pure _
  · exact error (by simp [Error.kind])

end Upsertion

/-! ### Requests -/

/-- **The phrase of a request never fails with a fault of the finished statement.** -/
theorem Request.faultless_phrase (d : Dialect) (r : Request) : Faultless (r.phrase d) := by
  cases r with
  | rows q => exact q.faultless_rowsPhrase d
  | count q => exact q.faultless_countPhrase
  | aggregate q => exact q.faultless_aggregatePhrase d
  | insert x => exact x.faultless_singlePhrase d
  | batchInsert x => exact x.faultless_batchPhrase d
  | update m => exact m.invalid_updatePhrase.faultless
  | delete m => exact m.invalid_deletePhrase.faultless
  | upsert x => exact x.faultless_phrase d

theorem Request.faultless_guard (r : Request) : Faultless r.guard := by
  have h : ∀ (m : Modification) (c : Change), Faultless (m.guard c) := by
    intro m c
    unfold Modification.guard
    split_ifs
    · exact ok _
    · exact error (by simp [Error.kind])
  cases r with
  | update m => exact h m _
  | delete m => exact h m _
  | _ => exact ok _

end BoundSql
