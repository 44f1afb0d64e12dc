import Testbed.Proofs.Codec.Form
import Testbed.Proofs.Text.Percent
import Testbed.Rehearsal.Daemon
import Testbed.Rehearsal.Stage
import Testbed.Server

/-!
# Responses

What a request came to is answered as it is if it can be written. A value that cannot is answered as a body that
bears no value is, whatever was done for it (`respond_of_encode_error`).
-/

namespace Testbed.Server

variable {v : Value}

theorem respond_of_fits (hf : v.Fits) : respond (.ok v) = ⟨200, some contentType, 1 :: Codec.form v⟩ := by
  rw [respond, Except.bind, Codec.encodeResult_of_fits hf]
  rfl

theorem respond_of_encode_error {cause : Codec.Error} (h : Codec.encode v = .error cause) :
    respond (.ok v) = respond (.error (.malformed cause)) := by
  rw [respond, Except.bind, Codec.encodeResult, h]
  rfl

/-- The text of a response to a value with a length of `n` that cannot be written. -/
def tooLongText (n : Nat) : String := "malformed body: " ++ Text.ofNat n ++ " does not fit a u32 length prefix"

theorem message_tooLong (n : Nat) : Failure.message (.malformed (.tooLong n)) = tooLongText n :=
  (String.append_assoc ..).symm

theorem respond_of_not_fits (hf : ¬v.Fits) : ∃ n, 2 ^ 32 ≤ n ∧ respond (.ok v) = .ofText 400 (tooLongText n) := by
  obtain ⟨n, hn, h⟩ := Codec.encode_of_not_fits hf
  exact ⟨n, hn, by rw [respond_of_encode_error h, ← message_tooLong]; rfl⟩

theorem status_respond_ok_iff : (respond (.ok v)).status = 200 ↔ v.Fits := by
  by_cases hf : v.Fits
  · rw [respond_of_fits hf]
    exact iff_of_true rfl hf
  · obtain ⟨n, -, h⟩ := respond_of_not_fits hf
    rw [h]
    exact iff_of_false (by simp [Http.Response.ofText]) hf

theorem status_respond (outcome : Except Failure Value) : (respond outcome).status ∈ [200, 400, 500] := by
  rcases outcome with e | v
  · show e.status ∈ _
    cases e <;> simp [Failure.status]
  · by_cases hf : v.Fits
    · rw [respond_of_fits hf]
      exact List.mem_cons_self
    · obtain ⟨n, -, h⟩ := respond_of_not_fits hf
      rw [h]
      exact List.mem_cons_of_mem _ List.mem_cons_self

section
open Rehearsal

/-- So many letters. -/
def letters (n : Nat) : String := String.ofList (List.replicate n 'a')

theorem length_utf8_letters (n : Nat) : (Text.utf8 (letters n)).length = n := by
  have hletter : String.utf8EncodeChar 'a' = [97] := by decide
  rw [letters, Text.utf8_ofList, List.flatMap_replicate, hletter]
  simp

theorem encode_letters {n : Nat} (h : 2 ^ 32 ≤ n) : Codec.encode (.string (letters n)) = .error (.tooLong n) := by
  rw [Codec.encode, length_utf8_letters, Codec.count_eq_error_iff.2 ⟨h, rfl⟩]
  rfl

theorem tooLongText_two_pow :
    tooLongText (2 ^ 32) = "malformed body: 4294967296 does not fit a u32 length prefix" := by decide +kernel

/-- Starts a stand-in for whatever it is asked, and answers `text`. -/
def hoarder (text : String) : Provider (Cast Daemon) where
  name := "hoarder"
  advertised _ _ := []
  canResolve _ _ _ := true
  resolve name _ _ s :=
    match getStandIn "Hoard" name (.ofParams "hoarder" "hoard" .root ∅) {} s with
    | (.ok _, s) => (.ok (some text), s)
    | (.error cause, s) => (.error (.resource cause), s)

def bareStage : Cast Daemon := { world := { runtime := {} } }

theorem resolve_hoarder (text : String) :
    let hoarded := ((⟨[hoarder text]⟩ : Engine (Cast Daemon)).resolve "hoard" ∅ ∅).run bareStage
    hoarded.1 = .ok (some text) ∧ hoarded.2.registry.size = 1 := by
  intro hoarded
  exact ⟨rfl, rfl⟩

end

end Testbed.Server
