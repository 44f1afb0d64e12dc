import Testbed.Proofs.Codec.Readers
import Testbed.Text.Percent

/-!
# Percent encoding is undone by decoding

A text is read back from its encoded form wherever the percent sign itself is escaped
(`decodeText?_encode`). The encoded form of a segment is ASCII and has none of the characters that end a
segment (`not_mem_of_mem_encode`).
-/

namespace Testbed.Text

variable {bs : Bytes} {b : UInt8} {escaped : UInt8 → Bool} {s : String} {ch : Char}

theorem utf8_ofList (cs : List Char) : utf8 (String.ofList cs) = cs.flatMap String.utf8EncodeChar := by
  simp [utf8, List.utf8Encode]

theorem utf8_eq_flatMap (s : String) : utf8 s = s.toList.flatMap String.utf8EncodeChar := by
  rw [← utf8_ofList, String.ofList_toList]

theorem utf8EncodeChar_of_lt (h : ch.toNat < 128) : String.utf8EncodeChar ch = [UInt8.ofNat ch.toNat] :=
  if_pos (Nat.le_of_lt_succ h)

theorem le_of_mem_utf8EncodeChar (h : 128 ≤ ch.toNat) (hb : b ∈ String.utf8EncodeChar ch) : 128 ≤ b := by
  have hlong : ¬ch.val.toNat ≤ 127 := Nat.not_le.2 h
  simp only [String.utf8EncodeChar, if_neg hlong] at hb
  rw [UInt8.le_iff_toNat_le]
  show 128 ≤ b.toNat
  split_ifs at hb
  all_goals
    simp only [List.mem_cons, List.not_mem_nil, or_false] at hb
    rcases hb with rfl | rfl | rfl | rfl <;> rw [UInt8.toNat_ofNat'] <;> omega

theorem forall_byte {P : UInt8 → Prop} (h : ∀ n < 256, P (UInt8.ofNat n)) (b : UInt8) : P b := by
  have := h b.toNat b.toNat_lt
  rwa [UInt8.ofNat_toNat] at this

theorem utf8EncodeChar_ofByte (h : b < 128) : String.utf8EncodeChar (Char.ofNat b.toNat) = [b] := by
  have hb : b.toNat < 128 := UInt8.lt_iff_toNat_lt.1 h
  have hchar : (Char.ofNat b.toNat).toNat = b.toNat := by
    rw [Char.toNat_ofNat, if_pos (.inl (by omega))]
  rw [utf8EncodeChar_of_lt (by rwa [hchar]), hchar, UInt8.ofNat_toNat]

theorem utf8_ofBytes (h : ∀ b ∈ bs, b < 128) : utf8 (String.ofList (bs.map fun b => Char.ofNat b.toNat)) = bs := by
  rw [utf8_ofList, List.flatMap_map]
  induction bs with
  | nil => rfl
  | cons b bs ih =>
    obtain ⟨hb, hbs⟩ := List.forall_mem_cons.1 h
    rw [List.flatMap_cons, utf8EncodeChar_ofByte hb, ih hbs, List.singleton_append]

namespace Percent

theorem hexValue?_hexByte (b : UInt8) : hexValue? (hexByte (b / 16)) = some (b / 16) ∧
    hexValue? (hexByte (b % 16)) = some (b % 16) ∧ 16 * (b / 16) + b % 16 = b := by
  refine forall_byte (P := fun b => hexValue? (hexByte (b / 16)) = some (b / 16) ∧
    hexValue? (hexByte (b % 16)) = some (b % 16) ∧ 16 * (b / 16) + b % 16 = b) ?_ b
  decide +kernel

theorem decode_cons {b : UInt8} (h : b ≠ 37) (bs : Bytes) : decode (b :: bs) = b :: decode bs := by
  rw [decode]
  exact fun _ _ _ he _ => h he

/-- The written form of one byte. -/
def escape (escaped : UInt8 → Bool) (b : UInt8) : Bytes :=
  if 0x80 ≤ b || escaped b then [37, hexByte (b / 16), hexByte (b % 16)] else [b]

theorem decode_escape (h : escaped 37 = true) (b : UInt8) (bs : Bytes) :
    decode (escape escaped b ++ bs) = b :: decode bs := by
  rw [escape]
  split
  · obtain ⟨hhigh, hlow, hb⟩ := hexValue?_hexByte b
    simp only [List.cons_append, List.nil_append, decode, hhigh, hlow, hb]
  · rename_i hb
    refine decode_cons (fun he => hb ?_) bs
    rw [he, h, Bool.or_true]

theorem decode_encodeBytes (h : escaped 37 = true) (bs : Bytes) : decode (encodeBytes escaped bs) = bs := by
  induction bs with
  | nil => rfl
  | cons b bs ih =>
    show decode (escape escaped b ++ encodeBytes escaped bs) = b :: bs
    rw [decode_escape h, ih]

theorem escape_lt (b : UInt8) : ∀ x ∈ escape escaped b, x < 128 := by
  have hdigits : hexByte (b / 16) < 128 ∧ hexByte (b % 16) < 128 :=
    forall_byte (P := fun b => hexByte (b / 16) < 128 ∧ hexByte (b % 16) < 128) (by decide +kernel) b
  rw [escape]
  split
  · simpa using hdigits
  · rename_i hb
    rw [Bool.or_eq_true, decide_eq_true_eq, not_or, UInt8.not_le] at hb
    exact fun x hx => List.mem_singleton.1 hx ▸ hb.1

/-- What ends a segment of a path is escaped. -/
theorem escape_inSegment (b : UInt8) :
    ((escape inSegment b).all fun x => Char.ofNat x.toNat ∉ ['#', '/', '?']) = true :=
  forall_byte (P := fun b => ((escape inSegment b).all fun x => Char.ofNat x.toNat ∉ ['#', '/', '?']) = true)
    (by decide +kernel) b

theorem encodeBytes_lt (bs : Bytes) : ∀ x ∈ encodeBytes escaped bs, x < 128 := by
  intro x hx
  obtain ⟨b, -, hx⟩ := List.mem_flatMap.1 hx
  exact escape_lt b x hx

theorem utf8_encode (s : String) : utf8 (encode escaped s) = encodeBytes escaped (utf8 s) :=
  utf8_ofBytes (encodeBytes_lt _)

theorem decodeText?_encode (h : escaped 37 = true) (s : String) : decodeText? (encode escaped s) = some s := by
  rw [decodeText?, utf8_encode, decode_encodeBytes h, Codec.ofUtf8?_eq_some]

theorem encode_ne_empty (h : escaped 37 = true) (hs : s ≠ "") : encode escaped s ≠ "" := by
  intro he
  have hread := decodeText?_encode h s
  rw [he] at hread
  have hempty : decodeText? "" = some "" := by decide
  exact hs (Option.some.inj (hread.symm.trans hempty))

theorem encode_eq_self (h : ((utf8 s).all fun b => b < 128 && !escaped b) = true) : encode escaped s = s := by
  have hplain : encodeBytes escaped (utf8 s) = utf8 s := by
    rw [encodeBytes]
    refine (List.flatMap_congr fun b hb => ?_).trans (List.flatMap_singleton' _)
    have hb := List.all_eq_true.1 h b hb
    rw [Bool.and_eq_true, decide_eq_true_eq, Bool.not_eq_true'] at hb
    rw [hb.2, Bool.or_false, if_neg]
    rw [decide_eq_true_eq, UInt8.not_le]
    exact hb.1
  have hread : ofUtf8? (utf8 (encode escaped s)) = ofUtf8? (utf8 s) := by rw [utf8_encode, hplain]
  rw [Codec.ofUtf8?_eq_some.2 rfl, Codec.ofUtf8?_eq_some.2 rfl] at hread
  exact Option.some.inj hread

theorem not_mem_of_mem_encode {c : Char} (h : c ∈ (encode inSegment s).toList) : c ∉ ['#', '/', '?'] := by
  rw [encode, String.toList_ofList] at h
  obtain ⟨x, hx, rfl⟩ := List.mem_map.1 h
  obtain ⟨b, -, hx⟩ := List.mem_flatMap.1 hx
  exact of_decide_eq_true (List.all_eq_true.1 (escape_inSegment b) x hx)

end Percent

end Testbed.Text
