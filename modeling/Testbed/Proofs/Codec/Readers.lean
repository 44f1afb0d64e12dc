import Testbed.Codec
import Mathlib

/-!
# What readers accept

A reader accepts a written form (`Reads`): it succeeds exactly on what is written with anything behind
it, and leaves just that behind. Readers in a row accept forms in a row, and so the written forms of
booleans, numbers, strings and rows come from those of a byte and of a count (`bigEndian`).
-/

namespace Testbed.Codec

variable {α β : Type} {item : Step α} {W W' : α → Bytes → Prop} {x y : α} {a b bs rest rest' : Bytes}

/-- The reader succeeds on just what is written as `W` says, whatever stands behind it. -/
structure Reads (item : Step α) (W : α → Bytes → Prop) : Prop where
  sound : ∀ {bs x rest}, item bs = .ok (x, rest) → ∃ b, bs = b ++ rest ∧ W x b
  complete : ∀ {x b}, W x b → ∀ rest, item (b ++ rest) = .ok (x, rest)

namespace Reads

theorem congr (h : Reads item W) (hW : ∀ x b, W x b ↔ W' x b) : Reads item W' where
  sound hr := (h.sound hr).imp fun _ hb => hb.imp_right (hW _ _).1
  complete hx := h.complete ((hW _ _).2 hx)

/-- What is read is read in one way only. -/
theorem unique (h : Reads item W) (ha : W x a) (hb : W y b) (he : a ++ rest = b ++ rest') :
    x = y ∧ rest = rest' := by
  have hx := h.complete ha rest
  rw [he, h.complete hb rest'] at hx
  injection hx with hx
  injection hx with hxy hrest
  exact ⟨hxy.symm, hrest.symm⟩

/-- With nothing behind it, a form is all there is to read. -/
theorem ok_nil_iff (h : Reads item W) : item b = .ok (x, []) ↔ W x b := by
  constructor
  · intro hr
    obtain ⟨form, hform, hW⟩ := h.sound hr
    rw [List.append_nil] at hform
    exact hform ▸ hW
  · intro hW
    have hr := h.complete hW []
    rwa [List.append_nil] at hr

/-- Forms of one thing are the same at once where they begin the same bytes. -/
theorem append_eq_append_iff (h : Reads item W) (ha : W x a) (hb : W x b) :
    a ++ rest = b ++ rest' ↔ a = b ∧ rest = rest' := by
  refine ⟨fun he => ?_, fun ⟨ha, hrest⟩ => by rw [ha, hrest]⟩
  obtain ⟨-, rfl⟩ := h.unique ha hb he
  exact ⟨List.append_cancel_right he, rfl⟩

theorem andThen {f : α → Step β} {V : α → β → Bytes → Prop} (h : Reads item W) (hf : ∀ x, Reads (f x) (V x)) :
    Reads (fun bs => do
      let (x, bs) ← item bs
      f x bs) fun y b => ∃ x b₁ b₂, b = b₁ ++ b₂ ∧ W x b₁ ∧ V x y b₂ where
  sound {bs y rest} hr := by
    cases hx : item bs with
    | error e => rw [hx] at hr; cases hr
    | ok r =>
      rw [hx] at hr
      obtain ⟨b₁, rfl, hW⟩ := h.sound hx
      obtain ⟨b₂, hb₂, hV⟩ := (hf r.1).sound hr
      exact ⟨b₁ ++ b₂, by rw [List.append_assoc, ← hb₂], r.1, b₁, b₂, rfl, hW, hV⟩
  complete {y b} hy rest := by
    obtain ⟨x, b₁, b₂, rfl, hW, hV⟩ := hy
    rw [List.append_assoc]
    show item (b₁ ++ (b₂ ++ rest)) >>= _ = _
    rw [h.complete hW]
    exact (hf x).complete hV rest

/-- A reader that adds nothing to what was read. -/
theorem andThenOk {f : α → β} (h : Reads item W) : Reads (fun bs => do
      let (x, bs) ← item bs
      .ok (f x, bs)) fun y b => ∃ x, y = f x ∧ W x b where
  sound {bs y rest} hr := by
    cases hx : item bs with
    | error e => rw [hx] at hr; cases hr
    | ok r =>
      rw [hx] at hr
      cases hr
      obtain ⟨b, hb, hW⟩ := h.sound hx
      exact ⟨b, hb, r.1, rfl, hW⟩
  complete {y b} hy rest := by
    obtain ⟨x, rfl, hW⟩ := hy
    show item (b ++ rest) >>= _ = _
    rw [h.complete hW]
    rfl

end Reads

/-! ### Bytes and counts -/

theorem reads_take (n : Nat) : Reads (take n) fun x b => b = x ∧ x.length = n where
  sound {bs x rest} h := by
    simp only [take] at h
    split at h
    · rename_i hn
      cases h
      exact ⟨bs.take n, (List.take_append_drop n bs).symm, rfl, hn⟩
    · cases h
  complete {x b} h rest := by
    obtain ⟨rfl, rfl⟩ := h
    simp [take]

/-- The number that bytes are, high byte first. -/
def bigEndian (bs : Bytes) : Nat := bs.foldl (fun n b => 256 * n + b.toNat) 0

theorem exists_of_length_eq_four (h : b.length = 4) : ∃ b₁ b₂ b₃ b₄, b = [b₁, b₂, b₃, b₄] := by
  match b, h with
  | [b₁, b₂, b₃, b₄], _ => exact ⟨b₁, b₂, b₃, b₄, rfl⟩

theorem bigEndian_quad (b₁ b₂ b₃ b₄ : UInt8) : bigEndian [b₁, b₂, b₃, b₄] =
    256 * (256 * (256 * b₁.toNat + b₂.toNat) + b₃.toNat) + b₄.toNat := by
  simp [bigEndian]

theorem bigEndian_lt (h : b.length = 4) : bigEndian b < 2 ^ 32 := by
  obtain ⟨b₁, b₂, b₃, b₄, rfl⟩ := exists_of_length_eq_four h
  have := b₁.toNat_lt; have := b₂.toNat_lt; have := b₃.toNat_lt; have := b₄.toNat_lt
  rw [bigEndian_quad]
  omega

theorem eq_of_bigEndian_eq (ha : a.length = 4) (hb : b.length = 4) (h : bigEndian a = bigEndian b) : a = b := by
  obtain ⟨a₁, a₂, a₃, a₄, rfl⟩ := exists_of_length_eq_four ha
  obtain ⟨b₁, b₂, b₃, b₄, rfl⟩ := exists_of_length_eq_four hb
  have := a₁.toNat_lt; have := a₂.toNat_lt; have := a₃.toNat_lt; have := a₄.toNat_lt
  have := b₁.toNat_lt; have := b₂.toNat_lt; have := b₃.toNat_lt; have := b₄.toNat_lt
  rw [bigEndian_quad, bigEndian_quad] at h
  simp only [List.cons.injEq, ← UInt8.toNat_inj, and_true]
  omega

theorem length_word (w : UInt32) : (word w).length = 4 := rfl

theorem bigEndian_word (w : UInt32) : bigEndian (word w) = w.toNat := by
  have := w.toNat_lt
  simp only [word, bigEndian_quad, UInt32.toNat_toUInt8, UInt32.toNat_shiftRight, UInt32.reduceToNat,
    Nat.reduceMod, Nat.shiftRight_eq_div_pow]
  omega

/-- Four shifted bytes do not overlap. -/
theorem toNat_joined (b₁ b₂ b₃ b₄ : UInt8) :
    ((b₁.toUInt32 <<< 24) ||| (b₂.toUInt32 <<< 16) ||| (b₃.toUInt32 <<< 8) ||| b₄.toUInt32).toNat =
      bigEndian [b₁, b₂, b₃, b₄] := by
  have h₁ := b₁.toNat_lt; have h₂ := b₂.toNat_lt; have h₃ := b₃.toNat_lt; have h₄ := b₄.toNat_lt
  have hshift (n k : Nat) (hn : n < 2 ^ 8) (hk : k ≤ 24) : n <<< k % 2 ^ 32 = n <<< k := by
    rw [Nat.shiftLeft_eq]
    refine Nat.mod_eq_of_lt ?_
    calc n * 2 ^ k < 2 ^ 8 * 2 ^ k := Nat.mul_lt_mul_of_pos_right hn (Nat.two_pow_pos k)
      _ ≤ 2 ^ 8 * 2 ^ 24 := Nat.mul_le_mul_left _ (Nat.pow_le_pow_right (by decide) hk)
      _ = 2 ^ 32 := by decide
  simp only [UInt32.toNat_or, UInt32.toNat_shiftLeft, UInt8.toNat_toUInt32, UInt32.reduceToNat, Nat.reduceMod]
  rw [hshift _ _ h₁ (by decide), hshift _ _ h₂ (by decide), hshift _ _ h₃ (by decide), Nat.or_assoc, Nat.or_assoc]
  -- A disjunction with what lies below its lowest bit is a sum, from the right on.
  have h₃₄ : b₃.toNat <<< 8 + b₄.toNat < 2 ^ 16 := by rw [Nat.shiftLeft_eq]; omega
  have h₂₄ : b₂.toNat <<< 16 + (b₃.toNat <<< 8 + b₄.toNat) < 2 ^ 24 := by simp only [Nat.shiftLeft_eq]; omega
  rw [← Nat.shiftLeft_add_eq_or_of_lt h₄, ← Nat.shiftLeft_add_eq_or_of_lt h₃₄, ← Nat.shiftLeft_add_eq_or_of_lt h₂₄,
    bigEndian_quad]
  simp only [Nat.shiftLeft_eq]
  omega

/-- A number as it stands before what it counts. -/
def Counts (bs : Bytes) (n : Nat) : Prop := bs.length = 4 ∧ bigEndian bs = n

theorem Counts.lt {n : Nat} (h : Counts b n) : n < 2 ^ 32 := h.2 ▸ bigEndian_lt h.1

theorem Counts.eq_ofNat {n : Nat} (h : Counts b n) : Counts b (UInt32.ofNat n).toNat := by
  rw [UInt32.toNat_ofNat_of_lt' h.lt]
  exact h

theorem Counts.unique {n : Nat} (ha : Counts a n) (hb : Counts b n) : a = b :=
  eq_of_bigEndian_eq ha.1 hb.1 (ha.2.trans hb.2.symm)

theorem counts_word {n : Nat} (h : n < 2 ^ 32) : Counts (word (UInt32.ofNat n)) n :=
  ⟨length_word _, by rw [bigEndian_word, UInt32.toNat_ofNat_of_lt' h]⟩

theorem reads_readWord : Reads readWord fun w b => Counts b w.toNat where
  sound {bs w rest} h := by
    match bs with
    | [] | [_] | [_, _] | [_, _, _] => cases h
    | b₁ :: b₂ :: b₃ :: b₄ :: bs =>
      cases h
      exact ⟨[b₁, b₂, b₃, b₄], rfl, rfl, (toNat_joined ..).symm⟩
  complete {w b} h rest := by
    obtain ⟨hlen, hb⟩ := h
    obtain ⟨b₁, b₂, b₃, b₄, rfl⟩ := exists_of_length_eq_four hlen
    rw [← toNat_joined, UInt32.toNat_inj] at hb
    rw [← hb]
    rfl

/-! ### Scalars -/

theorem reads_readBool : Reads readBool fun v b => ∃ c : Bool, v = .bool c ∧ b = [if c then 1 else 0] where
  sound {bs v rest} h := by
    cases bs with
    | nil => cases h
    | cons c bs =>
      simp only [readBool, byte, bind, Except.bind] at h
      split at h
      · cases h; exact ⟨[0], by simp [*], false, rfl, rfl⟩
      · split at h
        · cases h; exact ⟨[1], by simp [*], true, rfl, rfl⟩
        · cases h
  complete h rest := by
    obtain ⟨c, rfl, rfl⟩ := h
    cases c <;> rfl

/-- The integer that four bytes are in two's complement. -/
def twosComplement (bs : Bytes) : Int :=
  if bigEndian bs < 2 ^ 31 then bigEndian bs else bigEndian bs - 2 ^ 32

theorem toInt_toInt32 {w : UInt32} (h : bigEndian b = w.toNat) : w.toInt32.toInt = twosComplement b := by
  have hw : w.toInt32.toInt = w.toBitVec.toInt := rfl
  rw [hw, BitVec.toInt_eq_toNat_cond, twosComplement, h]
  have : w.toBitVec.toNat = w.toNat := rfl
  split <;> split <;> omega

theorem twosComplement_word (i : Int32) : twosComplement (word i.toUInt32) = i.toInt := by
  rw [← toInt_toInt32 (bigEndian_word i.toUInt32)]
  rfl

theorem reads_readInt :
    Reads readInt fun v b => ∃ i : Int32, v = .int i ∧ b.length = 4 ∧ twosComplement b = i.toInt := by
  refine (reads_readWord.andThenOk (f := fun w => Value.int w.toInt32)).congr fun v b => ⟨?_, ?_⟩
  · rintro ⟨w, rfl, hb⟩
    exact ⟨w.toInt32, rfl, hb.1, (toInt_toInt32 hb.2).symm⟩
  · rintro ⟨i, rfl, hlen, hb⟩
    have hw : Counts b (UInt32.ofNat (bigEndian b)).toNat := Counts.eq_ofNat ⟨hlen, rfl⟩
    refine ⟨UInt32.ofNat (bigEndian b), congrArg Value.int (Int32.toInt_inj.1 ?_), hw⟩
    rw [toInt_toInt32 hw.2, hb]

theorem ofUtf8?_eq_some {s : String} : Text.ofUtf8? bs = some s ↔ bs = Text.utf8 s := by
  unfold Text.ofUtf8? String.fromUTF8? Text.utf8
  constructor
  · intro h
    split at h
    · cases h
      simp [String.fromUTF8]
    · cases h
  · rintro rfl
    have hs : s.toByteArray.data.toList.toByteArray = s.toByteArray := ByteArray.ext (by simp)
    simp only [hs, s.isValidUTF8, dite_true]
    rfl

/-- A reader of nothing, which takes bytes for text. -/
theorem reads_text (raw : Bytes) : Reads (fun bs => match Text.ofUtf8? raw with
      | some s => .ok (Value.string s, bs)
      | none => .error .invalidUtf8) fun v b => ∃ s, v = .string s ∧ raw = Text.utf8 s ∧ b = [] where
  sound {bs v rest} h := by
    split at h
    · rename_i s hs
      cases h
      exact ⟨[], rfl, s, rfl, ofUtf8?_eq_some.1 hs, rfl⟩
    · cases h
  complete h rest := by
    obtain ⟨s, rfl, hs, rfl⟩ := h
    rw [ofUtf8?_eq_some.2 hs]
    rfl

theorem reads_readString : Reads readString fun v b => ∃ s n, v = .string s ∧ b = n ++ Text.utf8 s ∧
    Counts n (Text.utf8 s).length := by
  refine (reads_readWord.andThen fun n => (reads_take n.toNat).andThen reads_text).congr fun v b => ⟨?_, ?_⟩
  · rintro ⟨w, n, _, rfl, hn, raw, _, _, rfl, ⟨rfl, hraw⟩, s, rfl, rfl, rfl⟩
    exact ⟨s, n, rfl, by rw [List.append_nil], hraw ▸ hn⟩
  · rintro ⟨s, n, rfl, rfl, hn⟩
    have hw := hn.eq_ofNat
    exact ⟨_, n, _, rfl, hw, _, _, [], (List.append_nil _).symm, ⟨rfl, hn.2.symm.trans hw.2⟩, s, rfl, rfl, rfl⟩

/-! ### Rows -/

/-- Several forms in a row, each with what it is the form of. -/
def Row (W : α → Bytes → Prop) (xs : List α) (bs : Bytes) : Prop :=
  ∃ parts : List (α × Bytes), xs = parts.map Prod.fst ∧ bs = (parts.map Prod.snd).flatten ∧ ∀ p ∈ parts, W p.1 p.2

namespace Reads

/-- A row of written forms is the row of some forms only if each is. -/
theorem flatMap_eq_flatten_iff (h : Reads item W) (write : α → Bytes) {parts : List (α × Bytes)}
    (hparts : ∀ p ∈ parts, W p.1 p.2) (hwrite : ∀ p ∈ parts, W p.1 (write p.1)) :
    (parts.map Prod.fst).flatMap write = (parts.map Prod.snd).flatten ↔ ∀ p ∈ parts, write p.1 = p.2 := by
  induction parts with
  | nil => simp
  | cons p parts ih =>
    obtain ⟨hp, hparts⟩ := List.forall_mem_cons.1 hparts
    obtain ⟨hw, hwrite⟩ := List.forall_mem_cons.1 hwrite
    simp only [List.map_cons, List.flatMap_cons, List.flatten_cons, h.append_eq_append_iff hw hp, ih hparts hwrite,
      List.forall_mem_cons]

theorem readTimes (h : Reads item W) (n : Nat) : Reads (readTimes item n) fun xs b => xs.length = n ∧ Row W xs b := by
  induction n with
  | zero =>
    refine ⟨fun {bs xs rest} hr => ?_, fun {xs b} hb rest => ?_⟩
    · cases hr
      exact ⟨[], rfl, rfl, [], rfl, rfl, nofun⟩
    · obtain ⟨hn, parts, rfl, rfl, -⟩ := hb
      rw [List.length_map, List.length_eq_zero_iff] at hn
      rw [hn]
      rfl
  | succ n ih =>
    refine (h.andThen fun x => ih.andThenOk (f := (x :: ·))).congr fun xs b => ⟨?_, ?_⟩
    · rintro ⟨x, b₁, b₂, rfl, hx, xs, rfl, rfl, parts, rfl, rfl, hparts⟩
      exact ⟨rfl, (x, b₁) :: parts, rfl, rfl, List.forall_mem_cons.2 ⟨hx, hparts⟩⟩
    · rintro ⟨hn, parts, rfl, rfl, hparts⟩
      cases parts with
      | nil => cases hn
      | cons p parts =>
        obtain ⟨hp, hparts⟩ := List.forall_mem_cons.1 hparts
        exact ⟨p.1, p.2, _, rfl, hp, _, rfl, Nat.succ.inj hn, parts, rfl, rfl, hparts⟩

/-- A count and as many forms in a row. -/
theorem counted (h : Reads item W) (f : List α → β) : Reads (fun bs => do
      let (n, bs) ← readWord bs
      let (xs, bs) ← Codec.readTimes item n.toNat bs
      .ok (f xs, bs)) fun y b => ∃ xs n body, y = f xs ∧ b = n ++ body ∧ Counts n xs.length ∧ Row W xs body := by
  refine (reads_readWord.andThen fun n => (h.readTimes n.toNat).andThenOk (f := f)).congr fun y b => ⟨?_, ?_⟩
  · rintro ⟨w, n, body, rfl, hn, xs, rfl, hxs, hrow⟩
    exact ⟨xs, n, body, rfl, rfl, hxs ▸ hn, hrow⟩
  · rintro ⟨xs, n, body, rfl, rfl, hn, hrow⟩
    have hw := hn.eq_ofNat
    exact ⟨_, n, body, rfl, hw, xs, rfl, hn.2.symm.trans hw.2, hrow⟩

theorem readPair {item : Step Value} {W : Value → Bytes → Prop} (h : Reads item W) :
    Reads (readPair item) fun p b => ∃ b₁ b₂, b = b₁ ++ b₂ ∧ W p.1 b₁ ∧ W p.2 b₂ := by
  refine (h.andThen fun k => h.andThenOk (f := fun v => (k, v))).congr fun p b => ⟨?_, ?_⟩
  · rintro ⟨k, b₁, b₂, rfl, hk, v, rfl, hv⟩
    exact ⟨b₁, b₂, rfl, hk, hv⟩
  · rintro ⟨b₁, b₂, rfl, hk, hv⟩
    exact ⟨p.1, b₁, b₂, rfl, hk, p.2, rfl, hv⟩

end Reads

end Testbed.Codec
