import BoundSql.Registry
import Mathlib.Data.List.DropRight
import Mathlib.Tactic.SplitIfs

/-!
# Keys of names

A name is looked up under its key. The key of a key is the key itself (`registryKey_registryKey`),
and the names of the families are keys. So although the search for a family trims and folds case
once more, a key finds a family exactly if it is one of its names (`Family.ofName?_registryKey`).
-/

namespace BoundSql

namespace Text

/-- The code of a letter in lower case. -/
theorem toNat_toLower (c : Char) :
    c.toLower.toNat = if 65 ≤ c.toNat ∧ c.toNat ≤ 90 then c.toNat + 32 else c.toNat := by
  unfold Char.toLower
  split_ifs with h1 h2 h2
  · have hsum : (c.val + ('a'.val - 'A'.val)).toNat = c.toNat + 32 := by
      rw [UInt32.toNat_add]
      change (c.toNat + 32) % 4294967296 = c.toNat + 32
      omega
    exact hsum
  · exact absurd h1 h2
  · exact absurd h2 h1
  · rfl

/-- The code of a letter in upper case. -/
theorem toNat_toUpper (c : Char) :
    c.toUpper.toNat = if 97 ≤ c.toNat ∧ c.toNat ≤ 122 then c.toNat - 32 else c.toNat := by
  unfold Char.toUpper
  split_ifs with h1 h2 h2
  · have hsum : (c.val + ('A'.val - 'a'.val)).toNat = c.toNat - 32 := by
      rw [UInt32.toNat_add]
      change (c.toNat + 4294967264) % 4294967296 = c.toNat - 32
      omega
    exact hsum
  · exact absurd h1 h2
  · exact absurd h2 h1
  · rfl

theorem toUpper_toLower (c : Char) : c.toLower.toUpper = c.toUpper := by
  refine Char.toNat_inj.1 ?_
  rw [toNat_toUpper, toNat_toUpper, toNat_toLower]
  split_ifs <;> omega

theorem isBlank_toLower (c : Char) : isBlank c.toLower = isBlank c := by
  unfold isBlank
  rw [toNat_toLower]
  generalize c.toNat = n
  split_ifs with h
  · rw [Bool.eq_iff_iff]
    simp only [Bool.or_eq_true, Bool.and_eq_true, decide_eq_true_eq, beq_iff_eq]
    omega
  · rfl

theorem lower_lower (s : String) : lower (lower s) = lower s := by
  apply String.toList_inj.1
  rw [toList_lower, toList_lower, List.map_map]
  refine List.map_congr_left fun c _ => Char.toNat_inj.1 ?_
  rw [Function.comp_apply, toNat_toLower c.toLower, toNat_toLower c]
  split_ifs <;> omega

theorem trimChars_map_toLower (cs : List Char) :
    trimChars (cs.map Char.toLower) = (trimChars cs).map Char.toLower := by
  have h : isBlank ∘ Char.toLower = isBlank := funext isBlank_toLower
  simp [trimChars, List.dropWhile_map, ← List.map_reverse, h]

/-- Trimming leaves no blank at the front, and none at the back. -/
theorem trimChars_trimChars (cs : List Char) : trimChars (trimChars cs) = trimChars cs := by
  have hfront : ∀ ds : List Char, ∀ c ∈ (ds.dropWhile isBlank).head?, isBlank c = false := by
    intro ds c hc
    have h := List.head?_dropWhile_not isBlank ds
    rw [Option.mem_def.1 hc] at h
    exact h
  apply trimChars_eq_self
  · intro c hc
    have hc : ((cs.dropWhile isBlank).rdropWhile isBlank).head? = some c := hc
    obtain ⟨t, ht⟩ := List.rdropWhile_prefix isBlank (cs.dropWhile isBlank)
    refine hfront cs c ?_
    rw [← ht, List.head?_append, hc]
    rfl
  · intro c hc
    rw [trimChars, List.getLast?_reverse] at hc
    exact hfront _ c hc

theorem trim_trim (s : String) : trim (trim s) = trim s := by
  apply String.toList_inj.1
  simp [trimChars_trimChars]

theorem trim_lower (s : String) : trim (lower s) = lower (trim s) := by
  apply String.toList_inj.1
  simp [trimChars_map_toLower]

end Text

open Text

/-- **A key is its own key.** -/
@[simp] theorem registryKey_registryKey (s : String) :
    registryKey (registryKey s) = registryKey s := by
  unfold registryKey
  rw [trim_lower, trim_trim, lower_lower]

theorem trim_registryKey (s : String) : trim (registryKey s) = registryKey s := by
  unfold registryKey
  rw [trim_lower, trim_trim]

theorem lower_registryKey (s : String) : lower (registryKey s) = registryKey s := lower_lower _

namespace Family

theorem registryKey_alias {f : Family} {a : String} (h : a ∈ f.aliases) : registryKey a = a := by
  have hall : ∀ f ∈ all, ∀ a ∈ f.aliases, registryKey a = a := by decide
  exact hall f f.mem_all a h

theorem eq_of_mem_aliases {f g : Family} {a : String} (hf : a ∈ f.aliases) (hg : a ∈ g.aliases) :
    f = g := by
  have hall : ∀ f ∈ all, ∀ g ∈ all, ∀ a ∈ f.aliases, a ∈ g.aliases → f = g := by decide
  exact hall f f.mem_all g g.mem_all a hf hg

theorem any_sameLetters_iff {f : Family} {s : String} :
    (f.aliases.any fun a => sameLetters a (trim (registryKey s))) = true ↔
      registryKey s ∈ f.aliases := by
  have hlower : ∀ a ∈ f.aliases, lower a = a := fun a ha => by
    rw [← registryKey_alias ha, lower_registryKey]
  simp only [List.any_eq_true, sameLetters_iff, trim_registryKey, lower_registryKey]
  constructor
  · rintro ⟨a, ha, h⟩
    rwa [← h, hlower a ha]
  · exact fun h => ⟨registryKey s, h, hlower _ h⟩

/-- A key stands for the family that it is a name of. -/
theorem ofName?_registryKey {s : String} {f : Family} :
    ofName? (registryKey s) = some f ↔ registryKey s ∈ f.aliases := by
  have hmem : ∀ g, ofName? (registryKey s) = some g → registryKey s ∈ g.aliases := fun g h => by
    unfold ofName? at h
    have hany := List.find?_some h
    exact any_sameLetters_iff.1 hany
  refine ⟨hmem f, fun h => ?_⟩
  cases hg : ofName? (registryKey s) with
  | none =>
    unfold ofName? at hg
    have hany := List.find?_eq_none.1 hg f f.mem_all
    exact absurd (any_sameLetters_iff.2 h) hany
  | some g => rw [eq_of_mem_aliases (hmem g hg) h]

theorem ofName?_registryKey_eq_none {s : String} :
    ofName? (registryKey s) = none ↔ ∀ f : Family, registryKey s ∉ f.aliases := by
  rw [Option.eq_none_iff_forall_ne_some]
  simp only [ne_eq, ofName?_registryKey]

end Family

end BoundSql
