import Testbed.Proofs.Codec.Form

/-!
# What is written is read again

Reading undoes writing as far down as a reader goes, and stops with `Error.tooDeep` at a value that is
higher than that (`readValue_form`), whatever stands behind it. A marker takes one level, and a row of
values is read as far as all of them are.
-/

namespace Testbed.Codec

open Outcome

variable {α : Type} {v : Value} {vs : List Value} {n : Nat} {item : Step α} {write : α → Bytes} {ok : α → Prop}
  [DecidablePred ok] {e : Error} {xs : List α}

theorem ite_bind {β γ : Type} {c : Prop} [Decidable c] (y : β) (f : β → Except Error γ) :
    (if c then .ok y else .error e) >>= f = if c then f y else .error e := by
  split <;> rfl

/-! ### Rows -/

/-- A row of written values is read to its end, or up to the first that cannot be. -/
theorem readTimes_flatMap
    (h : ∀ x ∈ xs, ∀ rest, item (write x ++ rest) = if ok x then .ok (x, rest) else .error e) (rest : Bytes) :
    readTimes item xs.length (xs.flatMap write ++ rest) = if ∀ x ∈ xs, ok x then .ok (xs, rest) else .error e := by
  induction xs with
  | nil => simp [readTimes]
  | cons x xs ih =>
    obtain ⟨hx, hxs⟩ := List.forall_mem_cons.1 h
    simp only [List.length_cons, readTimes, List.flatMap_cons, List.append_assoc, hx, ite_bind, ih hxs,
      List.forall_mem_cons, ite_and]

theorem readWord_word (h : n < 2 ^ 32) (rest : Bytes) :
    readWord (word (UInt32.ofNat n) ++ rest) = .ok (UInt32.ofNat n, rest) :=
  reads_readWord.complete (counts_word h).eq_ofNat rest

/-- A count and what it counts. -/
theorem read_counted (hlen : xs.length < 2 ^ 32)
    (h : ∀ x ∈ xs, ∀ rest, item (write x ++ rest) = if ok x then .ok (x, rest) else .error e) (f : List α → Value)
    (rest : Bytes) :
    (do
      let (n, bs) ← readWord (word (UInt32.ofNat xs.length) ++ (xs.flatMap write ++ rest))
      let (ys, bs) ← readTimes item n.toNat bs
      .ok (f ys, bs)) = if ∀ x ∈ xs, ok x then .ok (f xs, rest) else .error e := by
  rw [readWord_word hlen]
  show readTimes item (UInt32.ofNat xs.length).toNat (xs.flatMap write ++ rest) >>= _ = _
  rw [UInt32.toNat_ofNat_of_lt' hlen, readTimes_flatMap h, ite_bind]

/-- A pair is read if both its parts are. -/
theorem readPair_append {item : Step Value} {p : Value × Value} {b₁ b₂ : Bytes} {ok₁ ok₂ : Prop} [Decidable ok₁]
    [Decidable ok₂] (h₁ : ∀ rest, item (b₁ ++ rest) = if ok₁ then .ok (p.1, rest) else .error e)
    (h₂ : ∀ rest, item (b₂ ++ rest) = if ok₂ then .ok (p.2, rest) else .error e) (rest : Bytes) :
    readPair item ((b₁ ++ b₂) ++ rest) = if ok₁ ∧ ok₂ then .ok (p, rest) else .error e := by
  simp only [readPair, List.append_assoc, h₁, h₂, ite_bind, ite_and]

/-! ### Values -/

theorem readValue_form (hv : v.Ordered) (hf : v.Fits) (levels : Nat) (rest : Bytes) :
    readValue levels (form v ++ rest) = if v.height < levels then .ok (v, rest) else .error .tooDeep := by
  induction hf generalizing levels rest with
  | null =>
    cases levels with
    | zero => rfl
    | succ levels => rfl
  | bool b =>
    cases levels with
    | zero => rfl
    | succ levels => exact reads_readBool.complete ⟨b, rfl, rfl⟩ rest
  | int i =>
    cases levels with
    | zero => rfl
    | succ levels =>
      exact reads_readInt.complete ⟨i, rfl, length_word _, twosComplement_word i⟩ rest
  | string hlen =>
    cases levels with
    | zero => rfl
    | succ levels => exact reads_readString.complete ⟨_, _, rfl, rfl, counts_word hlen⟩ rest
  | @list xs hlen _ ih =>
    cases levels with
    | zero => rfl
    | succ levels =>
      have hitems := read_counted hlen (fun x hx => ih x hx (Value.ordered_list.1 hv x hx) levels) Value.list rest
      simp only [form, formItems_eq_flatMap, List.cons_append, List.append_assoc, readValue, byte, Nat.lt_succ_iff,
        Value.height_list_le_iff]
      exact hitems
  | @map ps hlen _ _ ihk ihv =>
    cases levels with
    | zero => rfl
    | succ levels =>
      obtain ⟨hasc, hps⟩ := Value.ordered_map.1 hv
      have hpairs := read_counted hlen (fun p hp => readPair_append (ihk p hp (hps p hp).1 levels)
        (ihv p hp (hps p hp).2 levels)) Value.ofPairs rest
      rw [Value.ofPairs, Assoc.ofList_eq_self hasc] at hpairs
      simp only [form, formPairs_eq_flatMap, List.cons_append, List.append_assoc, readValue, byte, Nat.lt_succ_iff,
        Value.height_map_le_iff]
      exact hpairs

theorem readValue_marked (levels : Nat) (bs : Bytes) : readValue (levels + 1) (1 :: bs) = readValue levels bs := rfl

theorem decodeNext_form (hv : v.Ordered) (hf : v.Fits) (rest : Bytes) :
    decodeNext (form v ++ rest) = if v.height ≤ 64 then .ok (v, rest) else .error .tooDeep := by
  rw [decodeNext, readValue_form hv hf]
  simp only [maxDepth, Nat.lt_succ_iff]

/-- A marker takes one level. -/
theorem decodeNext_marked (hv : v.Ordered) (hf : v.Fits) (rest : Bytes) :
    decodeNext (1 :: form v ++ rest) = if v.height ≤ 63 then .ok (v, rest) else .error .tooDeep := by
  rw [decodeNext, List.cons_append, readValue_marked, readValue_form hv hf]
  simp only [maxDepth, Nat.lt_succ_iff]

/-- A body on its own, if it can be read with anything behind it. -/
theorem decode_of_decodeNext {b : Bytes} {ok : Prop} [Decidable ok]
    (h : ∀ rest, decodeNext (b ++ rest) = if ok then .ok (v, rest) else .error .tooDeep) :
    decode b = if ok then .ok v else .error .tooDeep := by
  have h := h []
  rw [List.append_nil] at h
  rw [decode, h]
  split <;> rfl

/-- Values are read again exactly up to the deepest level, alone, with anything behind them and in streams,
and one level less of them behind a marker. -/
theorem decode_encode_height (v : Value) (hv : v.Ordered) (hf : v.Fits) (rest : Bytes) (vs : List Value)
    (hvs : ∀ w ∈ vs, w.Ordered ∧ w.Fits) :
    ∃ b r bs rs, encode v = .ok b ∧ encodeResult v = .ok r ∧ vs.mapM encode = .ok bs ∧ vs.mapM encodeResult = .ok rs ∧
      decodeNext (b ++ rest) = (if v.height ≤ 64 then .ok (v, rest) else .error .tooDeep) ∧
      decodeNext (r ++ rest) = (if v.height ≤ 63 then .ok (v, rest) else .error .tooDeep) ∧
      decode b = (if v.height ≤ 64 then .ok v else .error .tooDeep) ∧
      decode r = (if v.height ≤ 63 then .ok v else .error .tooDeep) ∧
      readTimes decodeNext vs.length (bs.flatten ++ rest) =
        (if ∀ w ∈ vs, w.height ≤ 64 then .ok (vs, rest) else .error .tooDeep) ∧
      readTimes decodeNext vs.length (rs.flatten ++ rest) =
        (if ∀ w ∈ vs, w.height ≤ 63 then .ok (vs, rest) else .error .tooDeep) := by
  refine ⟨_, _, _, _, encode_of_fits hf, encodeResult_of_fits hf, mapM_eq_ok_map fun w hw => encode_of_fits (hvs w hw).2,
    mapM_eq_ok_map fun w hw => encodeResult_of_fits (hvs w hw).2, decodeNext_form hv hf rest, decodeNext_marked hv hf rest,
    ?_, ?_, ?_, ?_⟩
  · exact decode_of_decodeNext (decodeNext_form hv hf)
  · exact decode_of_decodeNext (decodeNext_marked hv hf)
  · exact readTimes_flatMap (fun w hw => decodeNext_form (hvs w hw).1 (hvs w hw).2) rest
  · exact readTimes_flatMap (fun w hw => decodeNext_marked (hvs w hw).1 (hvs w hw).2) rest

theorem decode_encode_height_two :
    let v : Value := .map [(.null, .list [.int (-2), .string "é"]), (.list [], .bool true)]
    v.Ordered ∧ v.Fits ∧ (encode v >>= fun b => decodeNext (b ++ [7])) = .ok (v, [7]) ∧
      ∃ r, encodeResult v = .ok r ∧ readTimes decodeNext 2 (r ++ [1, 0]) = .ok ([v, .null], []) := by
  intro v
  have hv : v.Ordered := by simp [v, Value.Ordered, Value.OrderedItems, Value.OrderedPairs, Assoc.Ascending]; rfl
  have hf : v.Fits := by
    refine .map (by decide) ?_ ?_ <;> simp only [List.forall_mem_cons]
    · exact ⟨.null, .list (by decide) (List.forall_mem_nil _), List.forall_mem_nil _⟩
    · refine ⟨.list (by decide) ?_, .bool true, List.forall_mem_nil _⟩
      simp only [List.forall_mem_cons]
      exact ⟨.int (-2), .string (by decide), List.forall_mem_nil _⟩
  have hheight : v.height = 2 := rfl
  have hnull : Value.null.height = 0 := rfl
  have hvs : ∀ w ∈ [v, .null], w.Ordered ∧ w.Fits := by
    simp only [List.forall_mem_cons]
    exact ⟨⟨hv, hf⟩, ⟨trivial, .null⟩, List.forall_mem_nil _⟩
  obtain ⟨b, -, -, -, hb, -, -, -, hread, -⟩ := decode_encode_height v hv hf [7] [v, .null] hvs
  obtain ⟨-, r, -, rs, -, hr, -, hrs, -, -, -, -, -, hreads⟩ := decode_encode_height v hv hf [] [v, .null] hvs
  have hnext : [v, .null].mapM encodeResult = .ok [r, [1, 0]] := by
    rw [List.mapM_cons, hr]
    rfl
  obtain rfl := Except.ok.inj (hnext.symm.trans hrs)
  simp only [hheight, hnull, List.forall_mem_cons, List.flatten_cons, List.flatten_nil, List.append_nil] at hread hreads
  exact ⟨hv, hf, by rw [hb]; exact hread, r, hr, hreads⟩

end Testbed.Codec
