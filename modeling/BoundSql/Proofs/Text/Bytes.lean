import Mathlib.Data.String.Basic
import Mathlib.Tactic.SplitIfs

/-!
# Bytes of texts

UTF-8 keeps the order of code points: a text comes before another by its characters exactly if it
does by its bytes (`Text.bytes_lt_bytes`). A longer character begins with a greater byte, and the
bytes of characters of one length are the digits of their code points, the highest first.
-/

namespace BoundSql.Text

/-- The bytes of a text in UTF-8. -/
def bytes (s : String) : List UInt8 := s.toUTF8.data.toList

theorem bytes_eq (s : String) : bytes s = s.toList.flatMap String.utf8EncodeChar := by
  have h : s.toUTF8 = (s.toList.flatMap String.utf8EncodeChar).toByteArray :=
    String.utf8Encode_toList.symm
  rw [bytes, h, List.data_toByteArray]

/-- The bytes of a character come before those of a later one, whatever follows them. -/
theorem encode_lt_encode {c d : Char} (h : c < d) (xs ys : List UInt8) :
    String.utf8EncodeChar c ++ xs < String.utf8EncodeChar d ++ ys := by
  have hlt : c.val.toNat < d.val.toNat := h
  have hd : d.val.toNat < 1114112 := d.valid.elim (fun h => by omega) And.right
  unfold String.utf8EncodeChar
  generalize c.val.toNat = v at hlt ⊢
  generalize d.val.toNat = w at hlt hd ⊢
  dsimp only
  by_cases hv : v ≤ 65535
  · split_ifs <;>
      simp only [List.cons_append, List.nil_append, List.cons_lt_cons_iff, UInt8.lt_iff_toNat_lt,
        ← UInt8.toNat_inj, UInt8.toNat_ofNat'] <;> omega
  · -- Both have four bytes; the first of them to differ decides.
    have h1 : v / 262144 < w / 262144 ∨ v / 262144 = w / 262144 := by omega
    have h2 : v / 4096 < w / 4096 ∨ v / 4096 = w / 4096 := by omega
    rw [if_neg (by omega), if_neg (by omega), if_neg hv, if_neg (by omega), if_neg (by omega),
      if_neg (by omega)]
    simp only [List.cons_append, List.nil_append, List.cons_lt_cons_iff, UInt8.lt_iff_toNat_lt,
      ← UInt8.toNat_inj, UInt8.toNat_ofNat']
    rcases h1 with h1 | h1 <;> rcases h2 with h2 | h2 <;> omega

theorem flatMap_lt_flatMap {cs ds : List Char} (h : cs < ds) :
    cs.flatMap String.utf8EncodeChar < ds.flatMap String.utf8EncodeChar := by
  induction cs generalizing ds with
  | nil =>
    cases ds with
    | nil => exact absurd h (List.lt_irrefl _)
    | cons d ds =>
      rw [List.flatMap_cons, List.flatMap_nil]
      cases he : String.utf8EncodeChar d with
      | nil => exact absurd he String.utf8EncodeChar_ne_nil
      | cons b bs => exact List.nil_lt_cons _ _
  | cons c cs ih =>
    cases ds with
    | nil => exact absurd h (List.not_lt_nil _)
    | cons d ds =>
      rw [List.flatMap_cons, List.flatMap_cons]
      rcases List.cons_lt_cons_iff.1 h with hcd | ⟨rfl, htail⟩
      · exact encode_lt_encode hcd _ _
      · exact List.append_left_lt (ih htail)

/-- **The order of bytes is that of code points.** -/
theorem bytes_lt_bytes {s t : String} : bytes s < bytes t ↔ s < t := by
  have hlt : ∀ s t : String, s < t → bytes s < bytes t := by
    intro s t h
    rw [bytes_eq, bytes_eq]
    exact flatMap_lt_flatMap (String.lt_iff_toList_lt.1 h)
  refine ⟨fun h => ?_, hlt s t⟩
  rcases lt_trichotomy s t with hst | rfl | hts
  · exact hst
  · exact absurd h (List.lt_irrefl _)
  · exact absurd (hlt t s hts) (List.lt_asymm h)

end BoundSql.Text
