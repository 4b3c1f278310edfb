import BoundSql.Proofs.Registry.Calls
import BoundSql.Proofs.Text.Bytes

/-!
# Names of a registry

A registry has three views of its names: whether a name is supported, whether asking for it
succeeds, and the list of all names. After any run the three agree on every name, and the list
increases in the order of bytes and holds nothing but keys (`Registry.views_agree`).
-/

namespace BoundSql

namespace Registry

/-! ### The order of the list -/

theorem pairwise_insertName {s : String} {l : List String} (h : l.Pairwise (· < ·)) :
    (insertName s l).Pairwise (· < ·) := by
  induction l with
  | nil => exact List.pairwise_singleton _ s
  | cons t l ih =>
    unfold insertName
    split_ifs with hlt heq
    · refine h.cons fun u hu => ?_
      rcases List.mem_cons.1 hu with rfl | hu
      · exact hlt
      · exact hlt.trans (List.rel_of_pairwise_cons h hu)
    · exact h
    · refine (ih h.of_cons).cons fun u hu => ?_
      rcases mem_insertName.1 hu with rfl | hu
      · exact lt_of_le_of_ne (not_lt.1 hlt) (Ne.symm heq)
      · exact List.rel_of_pairwise_cons h hu

theorem pairwise_names (r : Registry) : r.names.Pairwise (· < ·) := by
  unfold names
  generalize Family.allNames ++ r.custom.map (·.1) = l
  induction l with
  | nil => exact List.Pairwise.nil
  | cons s l ih => exact pairwise_insertName ih

/-! ### The keys in the list -/

/-- Everything is registered under a key. -/
def IsKeyed (r : Registry) : Prop := ∀ k ∈ r.custom.map Prod.fst, registryKey k = k

theorem IsKeyed.call {r : Registry} (h : r.IsKeyed) (c : Call) : (r.call c).IsKeyed := by
  cases c with
  | make d => exact h
  | create n =>
    unfold IsKeyed Registry.call
    rw [custom_create]
    exact h
  | register n i =>
    intro k hk
    rcases List.mem_cons.1 hk with rfl | hk
    · exact registryKey_registryKey n
    · exact h k hk
  | reset => exact fun k hk => absurd hk List.not_mem_nil

theorem isKeyed_run (calls : List Call) : (run {} calls).IsKeyed :=
  run_induction (fun _ c h => h.call c) (fun _ hk => absurd hk List.not_mem_nil) calls

theorem mem_allNames {a : String} : a ∈ Family.allNames ↔ ∃ f : Family, a ∈ f.aliases := by
  simp [Family.allNames, Family.mem_all]

theorem IsKeyed.map_names {r : Registry} (h : r.IsKeyed) : r.names.map registryKey = r.names := by
  refine List.map_congr_left (fun t ht => ?_) |>.trans (List.map_id _)
  rcases mem_names.1 ht with ht | ht
  · obtain ⟨f, hf⟩ := mem_allNames.1 ht
    exact Family.registryKey_alias hf
  · exact h t ht

/-- **The three views of a registry agree.** After any run a name is supported exactly if asking for
it succeeds, and exactly if its key is one of the names. The names strictly increase in the order of
their bytes, so none is listed twice. They are keys, and those of the families are among them. -/
theorem views_agree (calls : List Call) :
    let r := run {} calls
    (∀ n, r.isSupported n = true ↔ ∃ i, (r.create n).1 = .ok i) ∧
    (∀ n, r.isSupported n = true ↔ registryKey n ∈ r.names) ∧
    r.names.Pairwise (fun s t => Text.bytes s < Text.bytes t) ∧ r.names.Nodup ∧
    r.names.map registryKey = r.names ∧ Family.allNames ⊆ r.names := by
  intro r
  refine ⟨fun n => isSupported_iff.trans exists_create_iff.symm, fun n => ?_, ?_, ?_, ?_, ?_⟩
  · rw [isSupported_iff, mem_names, mem_allNames, or_comm]
  · exact r.pairwise_names.imp Text.bytes_lt_bytes.2
  · exact r.pairwise_names.imp ne_of_lt
  · exact (isKeyed_run calls).map_names
  · exact fun a ha => mem_names.2 (Or.inl ha)

end Registry

end BoundSql
