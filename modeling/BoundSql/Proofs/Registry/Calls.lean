import BoundSql.Proofs.Registry.Key
import Mathlib.Data.List.Induction

/-!
# Calls of a registry

A registry begins empty and changes only by its calls. What asking for a name can do is said once
(`Registry.create_cases`). What is registered under a name after a run is what the calls since the
last reset say (`Registry.lookup_run`), and whether a name is supported, or can be asked for with
success, depends on that and on the families alone (`Registry.isSupported_iff`,
`Registry.exists_create_iff`).
-/

namespace BoundSql

namespace Registry

/-- What a caller does with a registry. -/
inductive Call
  /-- Makes an instance of a dialect. -/
  | make (d : Dialect)
  /-- Asks for the instance that a name stands for. -/
  | create (name : String)
  /-- Registers an instance under a name. -/
  | register (name : String) (i : Instance)
  /-- Resets the registry. -/
  | reset
  deriving DecidableEq

/-- The registry after a call. -/
def call (r : Registry) : Call → Registry
  | .make d => (r.make d).2
  | .create name => (r.create name).2
  | .register name i => r.register name i
  | .reset => r.reset

/-- The registry after some calls. -/
def run (r : Registry) (calls : List Call) : Registry := calls.foldl call r

variable {r : Registry} {n : String}

@[simp] theorem run_nil : r.run [] = r := rfl

@[simp] theorem run_cons (c : Call) (calls : List Call) :
    r.run (c :: calls) = (r.call c).run calls := rfl

theorem run_append (calls more : List Call) : r.run (calls ++ more) = (r.run calls).run more :=
  List.foldl_append

theorem run_concat (calls : List Call) (c : Call) : r.run (calls ++ [c]) = (r.run calls).call c :=
  run_append calls [c]

/-- What every call keeps is kept by a run. -/
theorem run_induction {P : Registry → Prop} (hcall : ∀ r c, P r → P (r.call c)) (h : P r)
    (calls : List Call) : P (r.run calls) := by
  induction calls generalizing r with
  | nil => exact h
  | cons c calls ih => exact ih (hcall r c h)

/-! ### Asking for a name -/

/-- A name gives what is registered under it, the instance kept for its family, a new instance that
is kept from then on, or an error. -/
theorem create_cases (r : Registry) (n : String) :
    (∃ i, r.custom.lookup (registryKey n) = some i ∧ r.create n = (.ok i, r)) ∨
    (∃ f i, r.custom.lookup (registryKey n) = none ∧ registryKey n ∈ f.aliases ∧
      r.cache.lookup f = some i ∧ r.create n = (.ok i, r)) ∨
    (∃ f, r.custom.lookup (registryKey n) = none ∧ registryKey n ∈ f.aliases ∧
      r.cache.lookup f = none ∧ r.create n = (.ok ⟨r.fresh, f.dialect⟩,
        { r with fresh := r.fresh + 1, cache := (f, ⟨r.fresh, f.dialect⟩) :: r.cache })) ∨
    (r.custom.lookup (registryKey n) = none ∧ (∀ f : Family, registryKey n ∉ f.aliases) ∧
      r.create n = (.error (.unknownDialect n), r)) := by
  cases hcustom : r.custom.lookup (registryKey n) with
  | some i => exact Or.inl ⟨i, rfl, by simp [create, hcustom]⟩
  | none =>
    cases hname : Family.ofName? (registryKey n) with
    | none =>
      refine Or.inr (Or.inr (Or.inr ⟨rfl, Family.ofName?_registryKey_eq_none.1 hname, ?_⟩))
      simp [create, hcustom, hname]
    | some f =>
      have hf : registryKey n ∈ f.aliases := Family.ofName?_registryKey.1 hname
      cases hcache : r.cache.lookup f with
      | some i =>
        exact Or.inr (Or.inl ⟨f, i, rfl, hf, hcache, by
          simp [create, ofFamily, hcustom, hname, hcache]⟩)
      | none =>
        exact Or.inr (Or.inr (Or.inl ⟨f, rfl, hf, hcache, by
          simp [create, ofFamily, make, hcustom, hname, hcache]⟩))

/-- Asking registers nothing. -/
@[simp] theorem custom_create (r : Registry) (n : String) : (r.create n).2.custom = r.custom := by
  obtain ⟨i, -, h⟩ | ⟨f, i, -, -, -, h⟩ | ⟨f, -, -, -, h⟩ | ⟨-, -, h⟩ := create_cases r n <;> rw [h]

theorem isSome_lookup_iff {l : List (String × Instance)} {k : String} :
    (l.lookup k).isSome = true ↔ k ∈ l.map Prod.fst := by
  simp only [List.lookup_isSome_iff, beq_iff_eq, List.mem_map, @eq_comm _ k]

/-- A name is supported if something is registered under its key or the key is a family's. -/
theorem isSupported_iff : r.isSupported n = true ↔
    registryKey n ∈ r.custom.map Prod.fst ∨ ∃ f : Family, registryKey n ∈ f.aliases := by
  rw [isSupported, Bool.or_eq_true, isSome_lookup_iff, Option.isSome_iff_exists]
  simp only [Family.ofName?_registryKey]

/-- Asking succeeds if something is registered under the key or the key is a family's. -/
theorem exists_create_iff : (∃ i, (r.create n).1 = .ok i) ↔
    registryKey n ∈ r.custom.map Prod.fst ∨ ∃ f : Family, registryKey n ∈ f.aliases := by
  rw [← isSome_lookup_iff]
  obtain ⟨i, hi, h⟩ | ⟨f, i, hi, hf, -, h⟩ | ⟨f, hi, hf, -, h⟩ | ⟨hi, hf, h⟩ := create_cases r n
  · simp [h, hi]
  · simpa [h, hi] using ⟨f, hf⟩
  · simpa [h, hi] using ⟨f, hf⟩
  · simpa [h, hi] using hf

/-! ### What is registered -/

/-- The instance that a call registers under a name, if it does. -/
def Call.registers? (n : String) : Call → Option Instance
  | register m i => if registryKey m = registryKey n then some i else none
  | _ => none

/-- The calls since the last reset, the latest first. -/
def recent (calls : List Call) : List Call := calls.reverse.takeWhile (· ≠ .reset)

/-- The instance registered last under a name since the last reset. -/
def registered? (n : String) (calls : List Call) : Option Instance :=
  (recent calls).findSome? (Call.registers? n)

theorem recent_concat (calls : List Call) (c : Call) :
    recent (calls ++ [c]) = if c = .reset then [] else c :: recent calls := by
  by_cases h : c = .reset <;> simp [recent, h]

theorem lookup_call (r : Registry) (n : String) {c : Call} (h : c ≠ .reset) :
    (r.call c).custom.lookup (registryKey n) =
      (c.registers? n).or (r.custom.lookup (registryKey n)) := by
  cases c with
  | make d => rfl
  | create m =>
    rw [call, custom_create]
    rfl
  | register m i =>
    rw [call, register, List.lookup_cons, Call.registers?]
    by_cases hk : registryKey m = registryKey n
    · simp [hk]
    · rw [beq_false_of_ne (Ne.symm hk), if_neg hk, Option.none_or]
  | reset => exact absurd rfl h

/-- **A run registers what its calls say.** -/
theorem lookup_run (n : String) (calls : List Call) :
    (run {} calls).custom.lookup (registryKey n) = registered? n calls := by
  -- The last call decides whether those before it still count, so the induction is on the end.
  induction calls using List.reverseRecOn with
  | nil => rfl
  | append_singleton calls c ih =>
    rw [run_concat, registered?, recent_concat]
    by_cases h : c = .reset
    · rw [if_pos h, h]
      rfl
    · rw [if_neg h, lookup_call _ n h, ih, List.findSome?_cons]
      cases c.registers? n <;> rfl

end Registry

end BoundSql
