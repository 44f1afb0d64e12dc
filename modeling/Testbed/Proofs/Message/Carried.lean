import Testbed.Proofs.Codec.RoundTrip
import Testbed.Proofs.Message.RoundTrip

/-!
# Messages in binary form

A message that was written in binary form is read as it was exactly if no value in it is higher than its own
two levels leave room for; a higher one makes reading stop, and nothing else is read in its place
(`decode_encode_messages`).
-/

namespace Testbed

namespace Message

/-- What is read back from a value is read back from its binary form, as far down as that is read. -/
theorem map_decode_encode {α : Type} {ofValue : Value → Read α} {a : α} {v : Value} {shallow : Prop}
    [Decidable shallow] (hv : v.Ordered) (hf : v.Fits) (hread : ofValue v = .ok a) (hheight : v.height ≤ 64 ↔ shallow) :
    (Codec.encode v >>= Codec.decode).map ofValue = if shallow then .ok (.ok a) else .error .tooDeep := by
  have hdecode := Codec.decode_of_decodeNext (Codec.decodeNext_form hv hf)
  rw [Codec.encode_of_fits hf, ← hread]
  show (Codec.decode (Codec.form v)).map ofValue = _
  rw [hdecode]
  by_cases h : shallow
  · rw [if_pos h, if_pos (hheight.2 h)]
    rfl
  · rw [if_neg h, if_neg fun hle => h (hheight.1 hle)]
    rfl

/-- Of each message the first part says that it is read back from its value, the second what comes of its
binary form: an error of the codec, or what the value in it is read as. -/
theorem decode_encode_messages (r : ResolveRequest) (l : ListRequest) (d : Descriptor)
    (hr : ∀ v ∈ r.values, v.Ordered) (hl : ∀ v ∈ l.values, v.Ordered)
    (hrfits : r.toValue.Fits) (hlfits : l.toValue.Fits) (hdfits : d.toValue.Fits) :
    (ResolveRequest.ofValue r.toValue = .ok r ∧
      (Codec.encode r.toValue >>= Codec.decode).map ResolveRequest.ofValue =
        if ∀ v ∈ r.values, v.height ≤ 62 then .ok (.ok r) else .error .tooDeep) ∧
    (ListRequest.ofValue l.toValue = .ok l ∧
      (Codec.encode l.toValue >>= Codec.decode).map ListRequest.ofValue =
        if ∀ v ∈ l.values, v.height ≤ 62 then .ok (.ok l) else .error .tooDeep) ∧
    (Descriptor.ofValue d.toValue = .ok d ∧
      (Codec.encode d.toValue >>= Codec.decode).map Descriptor.ofValue = .ok (.ok d)) := by
  refine ⟨⟨r.ofValue_toValue, ?_⟩, ⟨l.ofValue_toValue, ?_⟩, d.ofValue_toValue, ?_⟩
  · exact map_decode_encode (ResolveRequest.ordered_toValue hr) hrfits r.ofValue_toValue
      ResolveRequest.height_toValue_le_iff
  · exact map_decode_encode (ListRequest.ordered_toValue hl) hlfits l.ofValue_toValue
      (ListRequest.height_toValue_le_iff (by decide))
  · have hheight : d.toValue.height ≤ 64 ↔ True := iff_true_intro (Nat.le_trans d.height_toValue_le (by decide))
    have hdecode := map_decode_encode d.ordered_toValue hdfits d.ofValue_toValue hheight
    rwa [if_pos trivial] at hdecode

end Message

/-- `n` lists, each the only item of the next. -/
def Value.tower : Nat → Value
  | 0 => .null
  | n + 1 => .list [tower n]

theorem Value.tower_spec (n : Nat) : (tower n).Ordered ∧ (tower n).Fits ∧ (tower n).height = n := by
  induction n with
  | zero => exact ⟨trivial, .null, rfl⟩
  | succ n ih =>
    obtain ⟨hordered, hfits, hheight⟩ := ih
    refine ⟨⟨hordered, trivial⟩, .list (by norm_num) (List.forall_mem_singleton.2 hfits), ?_⟩
    simp [tower, height, heightItems, hheight]

namespace Message

/-- One message on either side of the bound. -/
theorem decode_encode_tower :
    let r : ResolveRequest := ⟨"x", Dict.empty.insert "é" (.tower 62), ∅⟩
    let l : ListRequest := ⟨Dict.empty.insert "" [], Dict.empty.insert "k" (.tower 63)⟩
    let d : Descriptor := ⟨"n", "", "i", "a.b"⟩
    (Codec.encode r.toValue >>= Codec.decode).map ResolveRequest.ofValue = .ok (.ok r) ∧
      (Codec.encode l.toValue >>= Codec.decode).map ListRequest.ofValue = .error .tooDeep ∧
      (Codec.encode d.toValue >>= Codec.decode).map Descriptor.ofValue = .ok (.ok d) := by
  intro r l d
  have hr : r.values = [.tower 62] := rfl
  have hl : l.values = [.tower 63] := rfl
  have hr62 := Value.tower_spec 62
  have hl63 := Value.tower_spec 63
  have hrfits : r.toValue.Fits := by
    refine ResolveRequest.fits_toValue (by decide) (Value.fits_ofDict (by decide) ?_) (Value.fits_ofDict (by decide) ?_)
    · exact List.forall_mem_singleton.2 ⟨by decide, hr62.2.1⟩
    · exact List.forall_mem_nil _
  have hlfits : l.toValue.Fits := by
    refine ListRequest.fits_toValue (Value.fits_ofDict (by decide) ?_) (Value.fits_ofDict (by decide) ?_)
    · exact List.forall_mem_singleton.2 ⟨by decide, Value.fits_ofStrings (by decide) nofun⟩
    · exact List.forall_mem_singleton.2 ⟨by decide, hl63.2.1⟩
  have hdfits : d.toValue.Fits := Descriptor.fits_toValue (by decide) (by decide) (by decide) (by decide)
  have h := decode_encode_messages r l d (by simpa [hr] using hr62.1) (by simpa [hl] using hl63.1) hrfits hlfits hdfits
  simp only [hr, hl, List.forall_mem_singleton, hr62.2.2, hl63.2.2] at h
  exact ⟨h.1.2, h.2.1.2, h.2.2.2⟩

end Message

end Testbed
