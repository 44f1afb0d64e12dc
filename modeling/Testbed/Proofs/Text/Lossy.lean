import Testbed.Proofs.Text.Percent
import Mathlib.Tactic.IntervalCases

/-!
# Text survives lenient reading

Bytes that are the UTF-8 form of a text are read leniently as that text (`ofUtf8Lossy_utf8`): each character
is told by its first byte, and none of its bytes breaks off (`decodeLossy_utf8EncodeChar`).
-/

namespace Testbed.Text

variable {b low high : UInt8} {more rest : Bytes} {k n : Nat}

/-! ### Bytes -/

/-- A byte that continues a character holds six bits of it. -/
theorem toNat_continuation (h : k < 64) : (UInt8.ofNat (k + 128) &&& 0x3f).toNat = k := by
  have hall : ∀ k < 64, (UInt8.ofNat (k + 128) &&& 0x3f).toNat = k := by decide +kernel
  exact hall k h

theorem continued_cons (h : k < 64) (hlow : low.toNat ≤ k + 128) (hhigh : k + 128 ≤ high.toNat) (n : Nat) (bs : Bytes) :
    continued (n + 1) low high (UInt8.ofNat (k + 128) :: bs) = continued n 0x80 0xbf bs + 1 := by
  have hk : (UInt8.ofNat (k + 128)).toNat = k + 128 := by
    rw [UInt8.toNat_ofNat']
    omega
  rw [continued, if_pos]
  rw [UInt8.le_iff_toNat_le, UInt8.le_iff_toNat_le, hk]
  exact ⟨hlow, hhigh⟩

theorem continued_cons_plain (h : k < 64) (n : Nat) (bs : Bytes) :
    continued (n + 1) 0x80 0xbf (UInt8.ofNat (k + 128) :: bs) = continued n 0x80 0xbf bs + 1 := by
  refine continued_cons h ?_ ?_ n bs
  · show 128 ≤ k + 128
    omega
  · show k + 128 ≤ 191
    omega

/-- A whole character is read as what its bytes hold. -/
theorem decodeLossy_whole (hb : 0x80 ≤ b) (hfollowing : following b = some (n, low, high)) (hlength : more.length = n)
    (hcontinued : continued n low high (more ++ rest) = n) :
    decodeLossy (b :: (more ++ rest)) = assemble b n more :: decodeLossy rest := by
  subst hlength
  rw [decodeLossy, if_neg (UInt8.not_lt.2 hb), hfollowing]
  simp only [hcontinued, if_true, List.take_left, List.drop_left]

/-! ### Characters of several bytes -/

section
variable {k₁ k₂ k₃ : Nat}

theorem decodeLossy_two (hlow : 2 ≤ k) (hhigh : k < 32) (h₁ : k₁ < 64) (rest : Bytes) :
    decodeLossy (UInt8.ofNat (k + 192) :: UInt8.ofNat (k₁ + 128) :: rest) =
      Char.ofNat (64 * k + k₁) :: decodeLossy rest := by
  have hfirst : 0x80 ≤ UInt8.ofNat (k + 192) ∧ following (UInt8.ofNat (k + 192)) = some (1, 0x80, 0xbf) ∧
      (UInt8.ofNat (k + 192) &&& (0x3f >>> UInt8.ofNat 1)).toNat = k := by
    interval_cases k <;> decide
  obtain ⟨hb, hfollowing, hbits⟩ := hfirst
  have hmore : continued 1 0x80 0xbf ([UInt8.ofNat (k₁ + 128)] ++ rest) = 1 := by
    rw [List.singleton_append, continued_cons_plain h₁]
    rfl
  refine (decodeLossy_whole hb hfollowing rfl hmore).trans ?_
  simp only [assemble, List.foldl_cons, List.foldl_nil, hbits, toNat_continuation h₁]

/-- Of three bytes; a form that is too long and the code of a surrogate have no such bytes. -/
theorem decodeLossy_three (h : k < 16) (h₁ : k₁ < 64) (h₂ : k₂ < 64) (hlong : k = 0 → 32 ≤ k₁)
    (hsurrogate : k = 13 → k₁ < 32) (rest : Bytes) :
    decodeLossy (UInt8.ofNat (k + 224) :: UInt8.ofNat (k₁ + 128) :: UInt8.ofNat (k₂ + 128) :: rest) =
      Char.ofNat (64 * (64 * k + k₁) + k₂) :: decodeLossy rest := by
  have hfirst : 0x80 ≤ UInt8.ofNat (k + 224) ∧ following (UInt8.ofNat (k + 224)) =
        some (2, if k = 0 then 0xa0 else 0x80, if k = 13 then 0x9f else 0xbf) ∧
      (UInt8.ofNat (k + 224) &&& (0x3f >>> UInt8.ofNat 2)).toNat = k := by
    interval_cases k <;> decide
  obtain ⟨hb, hfollowing, hbits⟩ := hfirst
  have hmore : continued 2 (if k = 0 then 0xa0 else 0x80) (if k = 13 then 0x9f else 0xbf)
      ([UInt8.ofNat (k₁ + 128), UInt8.ofNat (k₂ + 128)] ++ rest) = 2 := by
    rw [List.cons_append, continued_cons h₁, List.singleton_append, continued_cons_plain h₂]
    · rfl
    · split
      · show 160 ≤ k₁ + 128
        omega
      · show 128 ≤ k₁ + 128
        omega
    · split
      · show k₁ + 128 ≤ 159
        omega
      · show k₁ + 128 ≤ 191
        omega
  refine (decodeLossy_whole hb hfollowing rfl hmore).trans ?_
  simp only [assemble, List.foldl_cons, List.foldl_nil, hbits, toNat_continuation h₁, toNat_continuation h₂]

/-- Of four bytes; a form that is too long and a code beyond the last have no such bytes. -/
theorem decodeLossy_four (h : k < 5) (h₁ : k₁ < 64) (h₂ : k₂ < 64) (h₃ : k₃ < 64) (hlong : k = 0 → 16 ≤ k₁)
    (hbeyond : k = 4 → k₁ < 16) (rest : Bytes) :
    decodeLossy (UInt8.ofNat (k + 240) :: UInt8.ofNat (k₁ + 128) :: UInt8.ofNat (k₂ + 128) ::
        UInt8.ofNat (k₃ + 128) :: rest) =
      Char.ofNat (64 * (64 * (64 * k + k₁) + k₂) + k₃) :: decodeLossy rest := by
  have hfirst : 0x80 ≤ UInt8.ofNat (k + 240) ∧ following (UInt8.ofNat (k + 240)) =
        some (3, if k = 0 then 0x90 else 0x80, if k = 4 then 0x8f else 0xbf) ∧
      (UInt8.ofNat (k + 240) &&& (0x3f >>> UInt8.ofNat 3)).toNat = k := by
    interval_cases k <;> decide
  obtain ⟨hb, hfollowing, hbits⟩ := hfirst
  have hmore : continued 3 (if k = 0 then 0x90 else 0x80) (if k = 4 then 0x8f else 0xbf)
      ([UInt8.ofNat (k₁ + 128), UInt8.ofNat (k₂ + 128), UInt8.ofNat (k₃ + 128)] ++ rest) = 3 := by
    rw [List.cons_append, continued_cons h₁, List.cons_append, continued_cons_plain h₂, List.singleton_append,
      continued_cons_plain h₃]
    · rfl
    · split
      · show 144 ≤ k₁ + 128
        omega
      · show 128 ≤ k₁ + 128
        omega
    · split
      · show k₁ + 128 ≤ 143
        omega
      · show k₁ + 128 ≤ 191
        omega
  refine (decodeLossy_whole hb hfollowing rfl hmore).trans ?_
  simp only [assemble, List.foldl_cons, List.foldl_nil, hbits, toNat_continuation h₁, toNat_continuation h₂,
    toNat_continuation h₃]

end

/-! ### Texts -/

theorem decodeLossy_utf8EncodeChar (c : Char) (rest : Bytes) :
    decodeLossy (String.utf8EncodeChar c ++ rest) = c :: decodeLossy rest := by
  have hvalid : c.val.toNat < 0xd800 ∨ 0xdfff < c.val.toNat ∧ c.val.toNat < 0x110000 := c.valid
  have hchar : Char.ofNat c.val.toNat = c := Char.ofNat_toNat c
  have hpart (m : Nat) : m % 64 < 64 := Nat.mod_lt m (by decide)
  simp only [String.utf8EncodeChar]
  generalize c.val.toNat = n at hvalid hchar ⊢
  by_cases h₁ : n ≤ 127
  · have hn : (UInt8.ofNat n).toNat = n := UInt8.toNat_ofNat_of_lt' (Nat.lt_of_le_of_lt h₁ (by decide))
    rw [if_pos h₁, List.singleton_append, decodeLossy, if_pos, hn, hchar]
    rw [UInt8.lt_iff_toNat_lt, hn]
    exact Nat.lt_succ_of_le h₁
  rw [if_neg h₁]
  by_cases h₂ : n ≤ 2047
  · have hcode : 64 * (n / 64 % 32) + n % 64 = n := by omega
    rw [if_pos h₂, List.cons_append, List.singleton_append, decodeLossy_two (by omega) (by omega) (hpart n), hcode,
      hchar]
  rw [if_neg h₂]
  by_cases h₃ : n ≤ 65535
  · have hcode : 64 * (64 * (n / 4096 % 16) + n / 64 % 64) + n % 64 = n := by omega
    rw [if_pos h₃, List.cons_append, List.cons_append, List.singleton_append,
      decodeLossy_three (by omega) (hpart _) (hpart n) (by omega) (by omega), hcode, hchar]
  · have hcode : 64 * (64 * (64 * (n / 262144 % 8) + n / 4096 % 64) + n / 64 % 64) + n % 64 = n := by omega
    rw [if_neg h₃, List.cons_append, List.cons_append, List.cons_append, List.singleton_append,
      decodeLossy_four (by omega) (hpart _) (hpart _) (hpart n) (by omega) (by omega), hcode, hchar]

theorem decodeLossy_flatMap (cs : List Char) : decodeLossy (cs.flatMap String.utf8EncodeChar) = cs := by
  induction cs with
  | nil => rw [List.flatMap_nil, decodeLossy]
  | cons c cs ih => rw [List.flatMap_cons, decodeLossy_utf8EncodeChar, ih]

theorem ofUtf8Lossy_utf8 (s : String) : ofUtf8Lossy (utf8 s) = s := by
  rw [ofUtf8Lossy, utf8_eq_flatMap, decodeLossy_flatMap, String.ofList_toList]

end Testbed.Text
