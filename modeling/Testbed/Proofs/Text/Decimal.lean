import Testbed.Text.Decimal
import Mathlib.Data.List.Induction
import Mathlib.Tactic.Common

/-!
# Numerals are read back

A number is written in digits only, and read back from them wherever it is within the bound. What is read as a number at
all is a numeral of it (`readDigits?_eq_some_iff`).
-/

namespace Testbed.Text

theorem isDigit_of_mem_ofNat {n : Nat} {c : Char} (h : c ∈ (ofNat n).toList) : c.isDigit = true := by
  rw [ofNat, String.toList_ofList] at h
  exact Nat.isDigit_of_mem_toDigits (by decide) (by decide) h

theorem readUnsigned?_ofNat (bound n : Nat) : readUnsigned? bound (ofNat n) = if n < bound then some n else none := by
  have hdigits : ∀ c ∈ Nat.toDigits 10 n, c.isDigit = true := fun c hc =>
    Nat.isDigit_of_mem_toDigits (by decide) (by decide) hc
  have hread : readDigits? (Nat.toDigits 10 n) = some n := by
    have hall : (Nat.toDigits 10 n).all Char.isDigit = true := List.all_eq_true.2 hdigits
    simp [readDigits?, hall, Nat.toDigits_ne_nil]
  have hsign : ∀ cs, Nat.toDigits 10 n ≠ '+' :: cs := by
    intro cs h
    have hplus := hdigits '+' (h ▸ List.mem_cons_self)
    exact absurd hplus (by decide)
  rw [readUnsigned?, ofNat, String.toList_ofList]
  split
  · rename_i cs h
    exact absurd h (hsign cs)
  · rw [hread, Option.filter_some]
    simp

/-! ### Numerals -/

/-- One or more digits, and the number that they denote. -/
inductive IsNumeral : List Char → Nat → Prop
  | digit {d : Nat} (hd : d < 10) : IsNumeral [d.digitChar] d
  | snoc {cs : List Char} {n d : Nat} (h : IsNumeral cs n) (hd : d < 10) :
    IsNumeral (cs ++ [d.digitChar]) (10 * n + d)

theorem toNat_of_isDigit {c : Char} (h : c.isDigit = true) : 48 ≤ c.toNat ∧ c.toNat ≤ 57 := by
  simpa [Char.isDigit, UInt32.le_iff_toNat_le] using h

theorem exists_digitChar {c : Char} (h : c.isDigit = true) : ∃ d < 10, c = d.digitChar := by
  have hrange := toNat_of_isDigit h
  refine ⟨c.toNat - 48, by omega, Char.toNat_inj.1 ?_⟩
  rw [Nat.toNat_digitChar_of_lt_ten (by omega)]
  omega

theorem ofDigitChars_snoc (cs : List Char) {d : Nat} (hd : d < 10) :
    Nat.ofDigitChars 10 (cs ++ [d.digitChar]) 0 = 10 * Nat.ofDigitChars 10 cs 0 + d := by
  have hzero : '0'.toNat = 48 := rfl
  rw [Nat.ofDigitChars_append, Nat.ofDigitChars_cons, Nat.toNat_digitChar_of_lt_ten hd, hzero]
  simp

theorem IsNumeral.ne_nil_and_isDigit {cs : List Char} {n : Nat} (h : IsNumeral cs n) :
    cs ≠ [] ∧ ∀ c ∈ cs, c.isDigit = true := by
  induction h with
  | digit hd => simp [Nat.isDigit_digitChar, hd]
  | snoc _ hd ih => simpa [or_imp, forall_and, Nat.isDigit_digitChar, hd] using ih.2

theorem IsNumeral.ofDigitChars_eq {cs : List Char} {n : Nat} (h : IsNumeral cs n) : Nat.ofDigitChars 10 cs 0 = n := by
  induction h with
  | digit hd => simpa using ofDigitChars_snoc [] hd
  | snoc _ hd ih => rw [ofDigitChars_snoc _ hd, ih]

theorem IsNumeral.readDigits?_eq {cs : List Char} {n : Nat} (h : IsNumeral cs n) : readDigits? cs = some n := by
  obtain ⟨hne, hdigits⟩ := h.ne_nil_and_isDigit
  rw [readDigits?, if_pos (by simpa [hne] using hdigits), h.ofDigitChars_eq]

theorem isNumeral_of_isDigit {cs : List Char} (hne : cs ≠ []) (h : ∀ c ∈ cs, c.isDigit = true) :
    IsNumeral cs (Nat.ofDigitChars 10 cs 0) := by
  induction cs using List.reverseRecOn with
  | nil => exact absurd rfl hne
  | append_singleton cs c ih =>
    obtain ⟨d, hd, rfl⟩ := exists_digitChar (h c (by simp))
    rw [ofDigitChars_snoc _ hd]
    by_cases hcs : cs = []
    · simpa [hcs] using IsNumeral.digit hd
    · exact .snoc (ih hcs fun c hc => h c (by simp [hc])) hd

/-- What is read as a number is a numeral of it. -/
theorem readDigits?_eq_some_iff {cs : List Char} {n : Nat} : readDigits? cs = some n ↔ IsNumeral cs n := by
  refine ⟨fun h => ?_, IsNumeral.readDigits?_eq⟩
  rw [readDigits?, Option.ite_none_right_eq_some] at h
  obtain ⟨hdigits, h⟩ := h
  obtain rfl := Option.some.inj h
  simp only [Bool.and_eq_true, List.all_eq_true] at hdigits
  exact isNumeral_of_isDigit (by simpa using hdigits.1) hdigits.2

/-! ### Numerals that are written -/

theorem ofNat_inj {m n : Nat} : ofNat m = ofNat n ↔ m = n := by
  refine ⟨fun h => ?_, congrArg ofNat⟩
  have hm := readUnsigned?_ofNat (m + n + 1) m
  rw [h, readUnsigned?_ofNat, if_pos (by omega), if_pos (by omega)] at hm
  exact (Option.some.inj hm).symm

theorem ofNat_ne_empty (n : Nat) : ofNat n ≠ "" := by
  intro h
  have hlist := congrArg String.toList h
  rw [ofNat, String.toList_ofList] at hlist
  exact Nat.toDigits_ne_nil hlist

/-- A sign is no digit, so numerals of both signs differ. -/
theorem ofNat_ne_minus (m n : Nat) : ofNat m ≠ "-" ++ ofNat n := by
  intro h
  have hminus : '-' ∈ (ofNat m).toList := by simp [h]
  exact absurd (isDigit_of_mem_ofNat hminus) (by decide)

theorem ofInt_inj {i j : Int} : ofInt i = ofInt j ↔ i = j := by
  refine ⟨fun h => ?_, congrArg ofInt⟩
  cases i with
  | ofNat m =>
    cases j with
    | ofNat n => rw [ofNat_inj.1 h]
    | negSucc n => exact absurd h (ofNat_ne_minus m _)
  | negSucc m =>
    cases j with
    | ofNat n => exact absurd h.symm (ofNat_ne_minus n _)
    | negSucc n =>
      have hdigits : ofNat (m + 1) = ofNat (n + 1) := by simpa [ofInt, ← String.toList_inj] using h
      rw [Nat.succ.inj (ofNat_inj.1 hdigits)]

theorem ofInt_ne_empty (i : Int) : ofInt i ≠ "" := by
  cases i with
  | ofNat n => exact ofNat_ne_empty n
  | negSucc n => simp [ofInt, ← String.toList_inj]

theorem of_mem_ofInt {i : Int} {c : Char} (h : c ∈ (ofInt i).toList) : c = '-' ∨ c.isDigit = true := by
  cases i with
  | ofNat n => exact .inr (isDigit_of_mem_ofNat h)
  | negSucc n =>
    rw [ofInt, String.toList_append] at h
    rcases List.mem_append.1 h with h | h
    · exact .inl (by simpa using h)
    · exact .inr (isDigit_of_mem_ofNat h)

end Testbed.Text
