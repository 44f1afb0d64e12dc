import Testbed.Proofs.Codec.Readers
import Testbed.Proofs.Outcome
import Testbed.Proofs.Value.Parts

/-!
# What is written

The form of a value (`form`) has every count in four bytes. It is written where four bytes can hold every
count (`encode_eq_ok_iff`); where they cannot, a length of `2 ^ 32` or more is what writing fails with
(`encode_of_not_fits`).
-/

namespace Testbed.Codec

open Outcome

variable {α : Type} {v : Value} {n : Nat} {b : Bytes} {e : Error}

mutual

/-- The bytes of a value; its counts are exact below `2 ^ 32`. -/
def form : Value → Bytes
  | .null => [0]
  | .bool b => [2, if b then 1 else 0]
  | .int i => 3 :: word i.toUInt32
  | .string s => 4 :: (word (UInt32.ofNat (Text.utf8 s).length) ++ Text.utf8 s)
  | .list items => 5 :: (word (UInt32.ofNat items.length) ++ formItems items)
  | .map pairs => 6 :: (word (UInt32.ofNat pairs.length) ++ formPairs pairs)

def formItems : List Value → Bytes
  | [] => []
  | x :: xs => form x ++ formItems xs

def formPairs : List (Value × Value) → Bytes
  | [] => []
  | (k, v) :: ps => form k ++ (form v ++ formPairs ps)

end

theorem formItems_eq_flatMap (vs : List Value) : formItems vs = vs.flatMap form := by
  induction vs with
  | nil => rfl
  | cons v vs ih => simp [formItems, ih]

theorem formPairs_eq_flatMap (ps : List (Value × Value)) :
    formPairs ps = ps.flatMap fun p => form p.1 ++ form p.2 := by
  induction ps with
  | nil => rfl
  | cons p ps ih => simp [formPairs, ih]

/-! ### Rows -/

theorem encodeItems_eq_mapM (vs : List Value) : encodeItems vs = (vs.mapM encode).map List.flatten := by
  induction vs with
  | nil => rfl
  | cons v vs ih =>
    rw [encodeItems, ih, List.mapM_cons]
    cases encode v with
    | error e => rfl
    | ok b => cases vs.mapM encode <;> rfl

/-- A key and what stands under it. -/
def encodePair (p : Value × Value) : Except Error Bytes := do
  let key ← encode p.1
  let value ← encode p.2
  .ok (key ++ value)

theorem encodePairs_eq_mapM (ps : List (Value × Value)) :
    encodePairs ps = (ps.mapM encodePair).map List.flatten := by
  induction ps with
  | nil => rfl
  | cons p ps ih =>
    rw [encodePairs, ih, List.mapM_cons, encodePair]
    cases encode p.1 with
    | error e => rfl
    | ok k =>
      cases encode p.2 with
      | error e => rfl
      | ok v => cases ps.mapM encodePair <;> simp [bind, Except.bind, Except.map, pure, Except.pure]

/-! ### Success -/

theorem count_eq_ok_iff : count n = .ok b ↔ n < 2 ^ 32 ∧ b = word (UInt32.ofNat n) := by
  rw [count]
  split
  · rename_i hn
    simp only [Except.ok.injEq, eq_comm, show n < 2 ^ 32 from hn, true_and]
  · rename_i hn
    exact iff_of_false nofun fun h => hn h.1

theorem count_eq_error_iff : count n = .error e ↔ 2 ^ 32 ≤ n ∧ e = .tooLong n := by
  rw [count]
  split
  · rename_i hn
    exact iff_of_false nofun fun h => Nat.not_lt.2 h.1 hn
  · rename_i hn
    simp only [Except.error.injEq, eq_comm, show 2 ^ 32 ≤ n from Nat.not_lt.1 hn, true_and]

theorem encode_of_fits (hf : v.Fits) : encode v = .ok (form v) := by
  induction hf with
  | null | bool | int => rfl
  | string hlen => rw [encode, count_eq_ok_iff.2 ⟨hlen, rfl⟩]; rfl
  | list hlen _ ih =>
    rw [encode, count_eq_ok_iff.2 ⟨hlen, rfl⟩, encodeItems_eq_mapM, mapM_eq_ok_map ih, form, formItems_eq_flatMap]
    rfl
  | map hlen _ _ ihk ihv =>
    have hpair : ∀ p ∈ _, encodePair p = .ok (form p.1 ++ form p.2) := fun p hp => by
      rw [encodePair, ihk p hp, ihv p hp]
      rfl
    rw [encode, count_eq_ok_iff.2 ⟨hlen, rfl⟩, encodePairs_eq_mapM, mapM_eq_ok_map hpair, form, formPairs_eq_flatMap]
    rfl

theorem fits_of_encode (h : encode v = .ok b) : v.Fits := by
  induction v generalizing b with
  | null => exact .null
  | bool c => exact .bool c
  | int i => exact .int i
  | string s =>
    obtain ⟨_, hcount, -⟩ := bind_eq_ok.1 (by rwa [encode] at h)
    exact .string (count_eq_ok_iff.1 hcount).1
  | list xs ih =>
    obtain ⟨_, hcount, h⟩ := bind_eq_ok.1 (by rwa [encode] at h)
    obtain ⟨_, hitems, -⟩ := bind_eq_ok.1 h
    obtain ⟨bs, hbs, -⟩ := map_eq_ok.1 (encodeItems_eq_mapM xs ▸ hitems)
    refine .list (count_eq_ok_iff.1 hcount).1 fun x hx => ?_
    obtain ⟨_, hx'⟩ := exists_mapM_eq_ok.1 ⟨bs, hbs⟩ x hx
    exact ih x hx hx'
  | map ps ih =>
    obtain ⟨_, hcount, h⟩ := bind_eq_ok.1 (by rwa [encode] at h)
    obtain ⟨_, hpairs, -⟩ := bind_eq_ok.1 h
    obtain ⟨bs, hbs, -⟩ := map_eq_ok.1 (encodePairs_eq_mapM ps ▸ hpairs)
    have hparts (p) (hp : p ∈ ps) : p.1.Fits ∧ p.2.Fits := by
      obtain ⟨_, hp'⟩ := exists_mapM_eq_ok.1 ⟨bs, hbs⟩ p hp
      obtain ⟨_, hk, hp'⟩ := bind_eq_ok.1 hp'
      obtain ⟨_, hv, -⟩ := bind_eq_ok.1 hp'
      exact ⟨(ih p hp).1 hk, (ih p hp).2 hv⟩
    exact .map (count_eq_ok_iff.1 hcount).1 (fun p hp => (hparts p hp).1) fun p hp => (hparts p hp).2

theorem encode_eq_ok_iff : encode v = .ok b ↔ v.Fits ∧ b = form v := by
  constructor
  · intro h
    have hf := fits_of_encode h
    rw [encode_of_fits hf] at h
    exact ⟨hf, (Except.ok.inj h).symm⟩
  · rintro ⟨hf, rfl⟩
    exact encode_of_fits hf

/-! ### Failure -/

theorem tooLong_of_encode (h : encode v = .error e) : ∃ n, 2 ^ 32 ≤ n ∧ e = .tooLong n := by
  induction v with
  | null | bool | int => cases h
  | string s =>
    rcases bind_eq_error.1 (by rwa [encode] at h) with hcount | ⟨_, -, h⟩
    · exact ⟨_, count_eq_error_iff.1 hcount⟩
    · cases h
  | list xs ih =>
    rcases bind_eq_error.1 (by rwa [encode] at h) with hcount | ⟨_, -, h⟩
    · exact ⟨_, count_eq_error_iff.1 hcount⟩
    rcases bind_eq_error.1 h with hitems | ⟨_, -, h⟩
    · obtain ⟨x, hx, hx'⟩ := exists_of_mapM_eq_error (map_eq_error.1 (encodeItems_eq_mapM xs ▸ hitems))
      exact ih x hx hx'
    · cases h
  | map ps ih =>
    rcases bind_eq_error.1 (by rwa [encode] at h) with hcount | ⟨_, -, h⟩
    · exact ⟨_, count_eq_error_iff.1 hcount⟩
    rcases bind_eq_error.1 h with hpairs | ⟨_, -, h⟩
    · obtain ⟨p, hp, hp'⟩ := exists_of_mapM_eq_error (map_eq_error.1 (encodePairs_eq_mapM ps ▸ hpairs))
      rcases bind_eq_error.1 hp' with hk | ⟨_, -, hp'⟩
      · exact (ih p hp).1 hk
      rcases bind_eq_error.1 hp' with hv | ⟨_, -, hp'⟩
      · exact (ih p hp).2 hv
      · cases hp'
    · cases h

theorem encode_of_not_fits (hf : ¬ v.Fits) : ∃ n, 2 ^ 32 ≤ n ∧ encode v = .error (.tooLong n) := by
  cases h : encode v with
  | ok b => exact absurd (fits_of_encode h) hf
  | error e =>
    obtain ⟨n, hn, rfl⟩ := tooLong_of_encode h
    exact ⟨n, hn, rfl⟩

/-! ### Behind a marker -/

theorem encodeResult_of_fits (hf : v.Fits) : encodeResult v = .ok (1 :: form v) := by
  rw [encodeResult, encode_of_fits hf]
  rfl

end Testbed.Codec
