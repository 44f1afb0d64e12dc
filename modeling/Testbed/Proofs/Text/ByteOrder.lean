import Testbed.Dict
import Testbed.Proofs.Text.Percent
import Mathlib.Data.List.Lex
import Mathlib.Data.String.Basic

/-!
# Texts in byte order

Texts are ordered character by character, and by this order maps are kept. It is the order of the bytes, since of two
characters the one of the smaller code has the smaller bytes, whatever follows (`utf8EncodeChar_append_lt`).
-/

namespace Testbed.Text

variable {c d : Char} {cs ds : List Char} {s t : String}

theorem utf8EncodeChar_append_lt (h : c < d) (xs ys : Bytes) :
    String.utf8EncodeChar c ++ xs < String.utf8EncodeChar d ++ ys := by
  have hlt : c.val.toNat < d.val.toNat := h
  have hvalid : d.val.toNat < 0x110000 := d.valid.elim (fun h => Nat.lt_trans h (by decide)) And.right
  -- every byte but the first holds six bits
  have hparts (k : Nat) : k / 4096 = k / 64 / 64 ∧ k / 262144 = k / 64 / 64 / 64 := ⟨by omega, by omega⟩
  simp only [String.utf8EncodeChar, hparts]
  generalize c.val.toNat = m at hlt ⊢
  generalize d.val.toNat = n at hlt hvalid ⊢
  split_ifs <;>
    simp only [List.cons_append, List.nil_append, List.cons_lt_cons_iff, UInt8.lt_iff_toNat_lt, ← UInt8.toNat_inj,
      UInt8.toNat_ofNat'] <;>
    omega

theorem flatMap_utf8EncodeChar_lt (h : cs < ds) :
    cs.flatMap String.utf8EncodeChar < ds.flatMap String.utf8EncodeChar := by
  induction h with
  | @nil d ds =>
    rw [List.flatMap_nil, List.flatMap_cons]
    obtain ⟨b, bs, hd⟩ := List.exists_cons_of_ne_nil (String.utf8EncodeChar_ne_nil (c := d))
    rw [hd]
    exact List.nil_lt_cons b _
  | rel hlt => exact utf8EncodeChar_append_lt hlt _ _
  | cons _ ih => exact List.append_left_lt ih

theorem utf8_lt_utf8_iff : utf8 s < utf8 t ↔ s < t := by
  have hlt {s t : String} (h : s < t) : utf8 s < utf8 t := by
    rw [utf8_eq_flatMap, utf8_eq_flatMap]
    exact flatMap_utf8EncodeChar_lt (String.lt_iff_toList_lt.1 h)
  refine ⟨fun h => ?_, hlt⟩
  rcases lt_trichotomy s t with hst | rfl | hts
  · exact hst
  · exact absurd h (List.lt_irrefl _)
  · exact absurd (hlt hts) (List.lt_asymm h)

theorem compare_eq_lt_iff : compare s t = .lt ↔ utf8 s < utf8 t := by
  rw [utf8_lt_utf8_iff]
  exact compare_lt_iff_lt

theorem append_lt_append (start : String) (h : s < t) : start ++ s < start ++ t := by
  rw [String.lt_iff_toList_lt, String.toList_append, String.toList_append]
  exact List.append_left_lt (String.lt_iff_toList_lt.1 h)

end Testbed.Text

namespace Testbed.Dict

theorem pairwise_keys {α : Type} (d : Dict α) : d.keys.Pairwise (· < ·) := by
  rw [keys, List.pairwise_map]
  exact d.ascending.imp compare_lt_iff_lt.1

end Testbed.Dict
