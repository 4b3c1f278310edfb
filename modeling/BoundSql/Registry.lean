import BoundSql.Dialect.Builtin

/-!
# The registry of dialects

A registry finds dialects by name. A name stands for the dialect registered under it last, and
else for the family of engines that goes by it. The dialect of a family is made when it is first
asked for and kept until the registry is reset, so all names of a family give the same instance.
Blanks around a name and the case of its letters do not matter.
-/

namespace BoundSql

/-- A dialect as an object of its own, told apart from others by a number. -/
structure Instance where
  id : Nat
  dialect : Dialect
  deriving DecidableEq

/-- The form under which a name is looked up. -/
def registryKey (s : String) : String := Text.lower (Text.trim s)

/-- A registry of dialects. -/
structure Registry where
  /-- The number of the next instance. -/
  fresh : Nat := 0
  /-- The instances made for families, with the latest one first. -/
  cache : List (Family × Instance) := []
  /-- The registered instances by their keys, with the latest one first. -/
  custom : List (String × Instance) := []
  deriving DecidableEq

namespace Registry

/-- Makes a new instance of a dialect. -/
def make (r : Registry) (d : Dialect) : Instance × Registry :=
  (⟨r.fresh, d⟩, { r with fresh := r.fresh + 1 })

/-- The instance for a family, made if there is none yet. -/
def ofFamily (r : Registry) (f : Family) : Instance × Registry :=
  match r.cache.lookup f with
  | some i => (i, r)
  | none =>
    let (i, r) := r.make f.dialect
    (i, { r with cache := (f, i) :: r.cache })

/-- The instance for a name, or the error that no dialect has it. -/
def create (r : Registry) (name : String) : Except Error Instance × Registry :=
  match r.custom.lookup (registryKey name) with
  | some i => (.ok i, r)
  | none =>
    match Family.ofName? (registryKey name) with
    | some f => (.ok (r.ofFamily f).1, (r.ofFamily f).2)
    | none => (.error (.unknownDialect name), r)

/-- Registers an instance under a name. -/
def register (r : Registry) (name : String) (i : Instance) : Registry :=
  { r with custom := (registryKey name, i) :: r.custom }

/-- Forgets all instances. -/
def reset (r : Registry) : Registry := { fresh := r.fresh }

/-- Whether some dialect has the name. -/
def isSupported (r : Registry) (name : String) : Bool :=
  (r.custom.lookup (registryKey name)).isSome || (Family.ofName? (registryKey name)).isSome

/-- A text put into its place in an increasing list, unless it is there already. -/
def insertName (s : String) : List String → List String
  | [] => [s]
  | t :: ts => if s < t then s :: t :: ts else if s = t then t :: ts else t :: insertName s ts

/-- All names, in increasing order of their code points. -/
def names (r : Registry) : List String :=
  (Family.allNames ++ r.custom.map (·.1)).foldr insertName []

theorem mem_insertName {s t : String} {l : List String} :
    t ∈ insertName s l ↔ t = s ∨ t ∈ l := by
  induction l with
  | nil => simp [insertName]
  | cons u l ih =>
    simp only [insertName]
    split
    · simp
    · split
      · subst_vars
        simp
      · simp only [List.mem_cons, ih]
        constructor
        · rintro (h | h | h) <;> simp [h]
        · rintro (h | h | h) <;> simp [h]

/-- The names are those of the families and the keys of what is registered. -/
theorem mem_names {r : Registry} {t : String} :
    t ∈ r.names ↔ t ∈ Family.allNames ∨ t ∈ r.custom.map (·.1) := by
  unfold names
  rw [← List.mem_append]
  generalize Family.allNames ++ r.custom.map (·.1) = l
  induction l with
  | nil => simp
  | cons s l ih => simp [mem_insertName, ih]

end Registry

end BoundSql
