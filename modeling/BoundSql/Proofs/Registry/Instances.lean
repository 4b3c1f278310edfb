import BoundSql.Proofs.Registry.Calls

/-!
# Instances of a registry

What a registry gives for a name after a run is said by the calls of the run alone
(`Registry.create_run`): the instance registered last under the name since the last reset; or else
one instance for each family, which has the dialect of the family, stays the same until the next
reset and is none of those handed out before the last one; or else an error. Asking for a name
changes nothing that a later call tells, except which instances are handed out.

The last part needs that instances are told apart by their numbers, so a caller may only register
what has a number already (`Registry.allowed`): an instance it has made or been given.
-/

namespace BoundSql

namespace Registry

/-! ### Runs -/

/-- Whether a call registers nothing but an instance whose number has been given out. -/
def allows (r : Registry) : Call → Bool
  | .register _ i => i.id < r.fresh
  | _ => true

/-- Whether calls register nothing but instances whose numbers have been given out by then. -/
def allowed (r : Registry) : List Call → Bool
  | [] => true
  | c :: calls => r.allows c && (r.call c).allowed calls

/-- The instance is the answer to one of the calls. -/
def HandedOut (calls : List Call) (i : Instance) : Prop :=
  ∃ before n after, calls = before ++ .create n :: after ∧
    ((run {} before).create n).1 = .ok i

/-- What is said of the instance that a family has after some calls. -/
structure StandsFor (f : Family) (calls : List Call) (i : Instance) : Prop where
  dialect : i.dialect = f.dialect
  /-- It is given for every name of the family under which nothing is registered, until the next
  reset. -/
  shared : ∀ n more, registryKey n ∈ f.aliases → .reset ∉ more →
    registered? n (calls ++ more) = none → ((run {} (calls ++ more)).create n).1 = .ok i
  /-- It is none of those handed out before a reset. -/
  fresh : ∀ before after j, calls = before ++ .reset :: after → allowed {} before = true →
    HandedOut before j → j.id ≠ i.id

variable {r s : Registry} {n : String} {f : Family} {i : Instance}

theorem allowed_append {calls more : List Call} (h : r.allowed (calls ++ more) = true) :
    r.allowed calls = true := by
  induction calls generalizing r with
  | nil => rfl
  | cons c calls ih =>
    obtain ⟨hc, h⟩ := Bool.and_eq_true_iff.1 h
    exact Bool.and_eq_true_iff.2 ⟨hc, ih h⟩

/-! ### Instances kept for families -/

/-- A call forgets all instances, keeps those that there are, or makes one for a family that has
none. -/
theorem call_cases (r : Registry) (c : Call) :
    (c = .reset ∧ (r.call c).cache = [] ∧ (r.call c).fresh = r.fresh) ∨
    ((r.call c).cache = r.cache ∧ r.fresh ≤ (r.call c).fresh) ∨
    ∃ f, r.cache.lookup f = none ∧ (r.call c).cache = (f, ⟨r.fresh, f.dialect⟩) :: r.cache ∧
      (r.call c).fresh = r.fresh + 1 := by
  cases c with
  | make d => exact Or.inr (Or.inl ⟨rfl, Nat.le_succ _⟩)
  | register n i => exact Or.inr (Or.inl ⟨rfl, le_rfl⟩)
  | reset => exact Or.inl ⟨rfl, rfl, rfl⟩
  | create n =>
    change _ ∨ ((r.create n).2.cache = _ ∧ _ ≤ (r.create n).2.fresh) ∨
      ∃ f, _ ∧ (r.create n).2.cache = _ ∧ (r.create n).2.fresh = _
    obtain ⟨i, -, h⟩ | ⟨f, i, -, -, -, h⟩ | ⟨f, -, -, hf, h⟩ | ⟨-, -, h⟩ := create_cases r n <;>
      rw [h]
    · exact Or.inr (Or.inl ⟨rfl, le_rfl⟩)
    · exact Or.inr (Or.inl ⟨rfl, le_rfl⟩)
    · exact Or.inr (Or.inr ⟨f, hf, rfl, rfl⟩)
    · exact Or.inr (Or.inl ⟨rfl, le_rfl⟩)

theorem fresh_le_call (r : Registry) (c : Call) : r.fresh ≤ (r.call c).fresh := by
  obtain ⟨-, -, h⟩ | ⟨-, h⟩ | ⟨f, -, -, h⟩ := call_cases r c <;> omega

theorem fresh_le_run (r : Registry) (calls : List Call) : r.fresh ≤ (r.run calls).fresh :=
  run_induction (P := fun s => r.fresh ≤ s.fresh) (fun s c h => h.trans (fresh_le_call s c)) le_rfl
    calls

/-- The instances kept for families have their dialects, and numbers given out from `k` on. -/
def IsSince (k : Nat) (r : Registry) : Prop :=
  k ≤ r.fresh ∧ ∀ f i, (f, i) ∈ r.cache → i.dialect = f.dialect ∧ k ≤ i.id ∧ i.id < r.fresh

theorem IsSince.call {k : Nat} (h : r.IsSince k) (c : Call) : (r.call c).IsSince k := by
  obtain ⟨hk, hcache⟩ := h
  have hle := fresh_le_call r c
  refine ⟨hk.trans hle, fun f i hi => ?_⟩
  have hold : (f, i) ∈ r.cache → i.dialect = f.dialect ∧ k ≤ i.id ∧ i.id < (r.call c).fresh :=
    fun hi => ⟨(hcache f i hi).1, (hcache f i hi).2.1, (hcache f i hi).2.2.trans_le hle⟩
  obtain ⟨-, hc, -⟩ | ⟨hc, -⟩ | ⟨g, -, hc, hf⟩ := call_cases r c <;> rw [hc] at hi
  · cases hi
  · exact hold hi
  · rcases List.mem_cons.1 hi with hi | hi
    · cases hi
      exact ⟨rfl, hk, by rw [hf]; exact Nat.lt_succ_self _⟩
    · exact hold hi

theorem IsSince.run {k : Nat} (h : r.IsSince k) (calls : List Call) : (r.run calls).IsSince k :=
  run_induction (fun _ c h => h.call c) h calls

/-- After a reset all instances are made anew. -/
theorem isSince_reset (r : Registry) (calls : List Call) :
    (r.reset.run calls).IsSince r.fresh :=
  IsSince.run (r := r.reset) ⟨le_rfl, fun _ _ h => absurd h List.not_mem_nil⟩ calls

theorem isSince_run (calls : List Call) : (run {} calls).IsSince 0 := isSince_reset {} calls

/-- An instance is kept until the next reset. -/
theorem lookup_cache_run {calls : List Call} (hc : .reset ∉ calls)
    (h : r.cache.lookup f = some i) : (r.run calls).cache.lookup f = some i := by
  induction calls generalizing r with
  | nil => exact h
  | cons c calls ih =>
    obtain ⟨hne, hc⟩ := not_or.1 (List.mem_cons.not.1 hc)
    refine ih hc ?_
    obtain ⟨rfl, -, -⟩ | ⟨hcache, -⟩ | ⟨g, hg, hcache, -⟩ := call_cases r c
    · exact absurd rfl hne
    · rwa [hcache]
    · -- A new instance is made for another family, since this one has an instance already.
      have hfg : f ≠ g := fun hfg => by rw [hfg, hg] at h; cases h
      rw [hcache, List.lookup_cons, beq_false_of_ne hfg]
      exact h

/-- The instance that is given for a name of a family is kept for the family. -/
theorem exists_create_family (hn : r.custom.lookup (registryKey n) = none)
    (hf : registryKey n ∈ f.aliases) :
    ∃ i, (r.create n).1 = .ok i ∧ (r.create n).2.cache.lookup f = some i := by
  obtain ⟨i, hi, -⟩ | ⟨g, i, -, hg, hi, h⟩ | ⟨g, -, hg, -, h⟩ | ⟨-, hno, -⟩ := create_cases r n
  · cases hn.symm.trans hi
  · cases Family.eq_of_mem_aliases hf hg
    exact ⟨i, by rw [h], by rwa [h]⟩
  · cases Family.eq_of_mem_aliases hf hg
    exact ⟨_, by rw [h], by rw [h]; exact List.lookup_cons_self⟩
  · exact absurd hf (hno f)

theorem create_of_kept (hn : r.custom.lookup (registryKey n) = none)
    (hf : registryKey n ∈ f.aliases) (hi : r.cache.lookup f = some i) : (r.create n).1 = .ok i := by
  obtain ⟨j, hj, hcache⟩ := exists_create_family hn hf
  have hkept : (r.run [.create n]).cache.lookup f = some i := lookup_cache_run (by simp) hi
  cases hcache.symm.trans hkept
  exact hj

/-! ### Numbers of instances -/

/-- What is registered has numbers given out already. -/
def IsNumbered (r : Registry) : Prop := ∀ k i, (k, i) ∈ r.custom → i.id < r.fresh

theorem IsNumbered.call (h : r.IsNumbered) {c : Call} (hc : r.allows c = true) :
    (r.call c).IsNumbered := by
  intro k i hi
  have hle := fresh_le_call r c
  cases c with
  | make d => exact (h k i hi).trans_le hle
  | create n =>
    rw [Registry.call, custom_create] at hi
    exact (h k i hi).trans_le hle
  | register n j =>
    rcases List.mem_cons.1 hi with hi | hi
    · obtain ⟨-, rfl⟩ := Prod.mk.inj hi
      unfold allows at hc
      exact of_decide_eq_true hc
    · exact h k i hi
  | reset => cases hi

theorem IsNumbered.run (h : r.IsNumbered) {calls : List Call} (hc : r.allowed calls = true) :
    (r.run calls).IsNumbered := by
  induction calls generalizing r with
  | nil => exact h
  | cons c calls ih =>
    obtain ⟨hc, hcalls⟩ := Bool.and_eq_true_iff.1 hc
    exact ih (h.call hc) hcalls

theorem mem_of_lookup {α : Type} [BEq α] [LawfulBEq α] {l : List (α × Instance)} {a : α}
    (h : l.lookup a = some i) : (a, i) ∈ l := by
  obtain ⟨l₁, l₂, rfl, -⟩ := List.lookup_eq_some_iff.1 h
  simp

theorem HandedOut.id_lt {calls : List Call} (hc : allowed {} calls = true)
    (h : HandedOut calls i) : i.id < (run {} calls).fresh := by
  obtain ⟨before, n, after, rfl, hi⟩ := h
  have hbefore : (run {} before).IsNumbered :=
    IsNumbered.run (fun _ _ h => by cases h) (allowed_append hc)
  have hsince := isSince_run before
  rw [run_append, run_cons]
  refine lt_of_lt_of_le ?_ (fresh_le_run _ after)
  change _ < ((run {} before).create n).2.fresh
  generalize run {} before = r at hi hbefore hsince
  obtain ⟨j, hj, h⟩ | ⟨f, j, -, -, hj, h⟩ | ⟨f, -, -, -, h⟩ | ⟨-, -, h⟩ := create_cases r n <;>
    rw [h] at hi <;> cases hi <;> rw [h]
  · exact hbefore _ _ (mem_of_lookup hj)
  · exact (hsince.2 _ _ (mem_of_lookup hj)).2.2
  · exact Nat.lt_succ_self _

theorem standsFor_of_lookup {calls : List Call} (h : (run {} calls).cache.lookup f = some i) :
    StandsFor f calls i := by
  refine ⟨((isSince_run calls).2 _ _ (mem_of_lookup h)).1, fun n more hn hmore hfree => ?_,
    fun before after j hcalls hbefore hj => ?_⟩
  · rw [← lookup_run, run_append] at hfree
    rw [run_append]
    exact create_of_kept hfree hn (lookup_cache_run hmore h)
  · rw [hcalls, run_append, run_cons] at h
    have hnew := ((isSince_reset (run {} before) after).2 _ _ (mem_of_lookup h)).2.1
    exact ((hj.id_lt hbefore).trans_le hnew).ne

/-! ### What asking does not change -/

theorem custom_run (h : r.custom = s.custom) (calls : List Call) :
    (r.run calls).custom = (s.run calls).custom := by
  induction calls generalizing r s with
  | nil => exact h
  | cons c calls ih =>
    refine ih ?_
    cases c with
    | make d => exact h
    | create n => simpa [call] using h
    | register n i => exact congrArg ((registryKey n, i) :: ·) h
    | reset => rfl

theorem isSupported_congr (h : r.custom = s.custom) (n : String) :
    r.isSupported n = s.isSupported n := by
  unfold isSupported
  rw [h]

theorem names_congr (h : r.custom = s.custom) : r.names = s.names := by
  unfold names
  rw [h]

theorem dialect_ofFamily {k : Nat} (h : r.IsSince k) (f : Family) :
    (r.ofFamily f).1.dialect = f.dialect := by
  unfold ofFamily
  cases hf : r.cache.lookup f with
  | none => rfl
  | some i => exact (h.2 _ _ (mem_of_lookup hf)).1

theorem create_congr {k l : Nat} (hr : r.IsSince k) (hs : s.IsSince l) (h : r.custom = s.custom)
    (n : String) :
    (r.create n).1.map Instance.dialect = (s.create n).1.map Instance.dialect := by
  unfold create
  rw [h]
  cases s.custom.lookup (registryKey n) with
  | some i => rfl
  | none =>
    cases Family.ofName? (registryKey n) with
    | none => rfl
    | some f => simp [Except.map, dialect_ofFamily hr, dialect_ofFamily hs]

/-- **What a registry gives for a name is said by its calls**: what was registered last under the
name since the last reset, or else the one instance that its family has since then, or else an
error. To ask for a name changes no answer to a later call, but for the instances it is made of. -/
theorem create_run (calls : List Call) (n : String) :
    let r := run {} calls
    (∀ i, registered? n calls = some i → (r.create n).1 = .ok i) ∧
    (registered? n calls = none →
      (∀ f : Family, registryKey n ∈ f.aliases →
        ∃ i, (r.create n).1 = .ok i ∧ StandsFor f (calls ++ [.create n]) i) ∧
      ((∀ f : Family, registryKey n ∉ f.aliases) →
        (r.create n).1 = .error (.unknownDialect n))) ∧
    ∀ more m,
      let s := run {} (calls ++ .create n :: more)
      let t := run {} (calls ++ more)
      s.isSupported m = t.isSupported m ∧ s.names = t.names ∧
        (s.create m).1.map Instance.dialect = (t.create m).1.map Instance.dialect := by
  intro r
  refine ⟨fun i hi => ?_, fun hnone => ⟨fun f hf => ?_, fun hno => ?_⟩, fun more m => ?_⟩
  · rw [← lookup_run] at hi
    simp [create, r, hi]
  · rw [← lookup_run] at hnone
    obtain ⟨i, hi, hkept⟩ := exists_create_family hnone hf
    refine ⟨i, hi, standsFor_of_lookup ?_⟩
    rw [run_concat]
    exact hkept
  · rw [← lookup_run] at hnone
    simp [create, r, hnone, Family.ofName?_registryKey_eq_none.2 hno]
  · intro s t
    have hcustom : s.custom = t.custom := by
      simp only [s, t, run_append, run_cons]
      exact custom_run (custom_create r n) more
    exact ⟨isSupported_congr hcustom m, names_congr hcustom,
      create_congr (isSince_run _) (isSince_run _) hcustom m⟩

/-- SQLite is asked for before a reset and after it, a name that was registered before the reset is
unknown after it, and one of the names of MySQL stands for a dialect of its own. -/
theorem create_run_reset :
    let legacy : Instance := ⟨0, .sqlServerLegacy⟩
    let before : List Call :=
      [.make .sqlServerLegacy, .register " MSSQL2008" legacy, .create "SQLite"]
    let after : List Call := [.register "TiDB " legacy, .create "MySQL"]
    let calls := before ++ .reset :: after
    let r := run {} calls
    registered? "tidb" calls = some legacy ∧ (r.create "tidb").1 = .ok legacy ∧
    registered? "sqlite3" calls = none ∧ registryKey "sqlite3" ∈ Family.sqlite.aliases ∧
    (∃ i, (r.create "sqlite3").1 = .ok i ∧ StandsFor .sqlite (calls ++ [.create "sqlite3"]) i ∧
      HandedOut before ⟨1, .sqlite⟩ ∧ 1 ≠ i.id) ∧
    registered? "mssql2008" calls = none ∧
    (r.create "mssql2008").1 = .error (.unknownDialect "mssql2008") := by
  intro legacy before after calls r
  have htidb : registered? "tidb" calls = some legacy := by decide +kernel
  have hsqlite : registered? "sqlite3" calls = none := by decide +kernel
  have hmssql : registered? "mssql2008" calls = none := by decide +kernel
  have halias : registryKey "sqlite3" ∈ Family.sqlite.aliases := by decide
  have hno : ∀ f : Family, registryKey "mssql2008" ∉ f.aliases := fun f => by cases f <;> decide
  have hold : HandedOut before ⟨1, .sqlite⟩ :=
    ⟨before.dropLast, "SQLite", [], rfl, by decide +kernel⟩
  obtain ⟨i, hi, hstands⟩ := ((create_run calls "sqlite3").2.1 hsqlite).1 .sqlite halias
  have hnew : 1 ≠ i.id :=
    hstands.fresh before (after ++ [.create "sqlite3"]) _ rfl (by decide +kernel) hold
  exact ⟨htidb, (create_run calls "tidb").1 legacy htidb, hsqlite, halias,
    ⟨i, hi, hstands, hold, hnew⟩, hmssql, ((create_run calls "mssql2008").2.1 hmssql).2 hno⟩

end Registry

end BoundSql
