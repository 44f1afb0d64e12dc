import Testbed.Proofs.Codec.Grammar
import Testbed.Proofs.Codec.RoundTrip

/-!
# Reading what has arrived so far

When more bytes arrive behind what a reader was given, what it has read stays read, what it refuses stays
refused, and what it lacks it lacks less of by just the bytes that came (`Extends`). Readers in a row keep to
this if each does (`Extends.bind`), and so all readers do down from those of a byte and of a count. So a body
that is cut off anywhere is known to be, and what it is said to lack is no more than what was cut off.
-/

namespace Testbed.Codec

variable {α β : Type} {b c : Bytes} {item : Step α} {out out' : Except Error (α × Bytes)}

/-- What becomes of an outcome when `c` arrives behind the bytes it was the outcome of. Once `c` is as long as
what was lacking, anything can. -/
inductive Extends (c : Bytes) : Except Error (α × Bytes) → Except Error (α × Bytes) → Prop
  | read (x : α) (rest : Bytes) : Extends c (.ok (x, rest)) (.ok (x, rest ++ c))
  | refused {e : Error} (he : ∀ n, e ≠ .unexpectedEnd n) : Extends c (.error e) (.error e)
  | short {n : Nat} (hn : c.length < n) : Extends c (.error (.unexpectedEnd n)) (.error (.unexpectedEnd (n - c.length)))
  | supplied {n : Nat} {out : Except Error (α × Bytes)} (hpos : 0 < n) (hn : n ≤ c.length) :
    Extends c (.error (.unexpectedEnd n)) out

namespace Extends

theorem bind {f : α × Bytes → Except Error (β × Bytes)} (h : Extends c out out')
    (hf : ∀ x rest, Extends c (f (x, rest)) (f (x, rest ++ c))) : Extends c (out >>= f) (out' >>= f) := by
  cases h with
  | read x rest => exact hf x rest
  | refused he => exact .refused he
  | short hn => exact .short hn
  | supplied hpos hn => exact .supplied hpos hn

/-- Where `n` bytes are lacking, and `n - c.length` afterwards if there still are any lacking. -/
theorem of_lacking {n : Nat} (hpos : 0 < n)
    (h : c.length < n → out = .error (.unexpectedEnd (n - c.length))) : Extends c (.error (.unexpectedEnd n)) out := by
  by_cases hn : c.length < n
  · rw [h hn]
    exact .short hn
  · exact .supplied hpos (Nat.le_of_not_lt hn)

theorem eq_ok {x : α} {rest : Bytes} (h : Extends c (.ok (x, rest)) out) : out = .ok (x, rest ++ c) := by
  cases h
  rfl

theorem eq_error {e : Error} (h : Extends c (.error e) out) (he : ∀ n, e ≠ .unexpectedEnd n) : out = .error e := by
  cases h with
  | refused => rfl
  | short => exact absurd rfl (he _)
  | supplied => exact absurd rfl (he _)

theorem lacking {n : Nat} (h : Extends c (.error (.unexpectedEnd n)) out) :
    0 < n ∧ (c.length < n → out = .error (.unexpectedEnd (n - c.length))) := by
  cases h with
  | refused he => exact absurd rfl (he n)
  | short hn => exact ⟨by omega, fun _ => rfl⟩
  | supplied hpos hn => exact ⟨hpos, fun hlt => absurd hlt (by omega)⟩

end Extends

/-- The reader goes on from what it has made of the bytes so far. -/
def Incremental (item : Step α) : Prop := ∀ b c, Extends c (item b) (item (b ++ c))

/-! ### Bytes and scalars -/

theorem take_eq (n : Nat) (bs : Bytes) : take n bs =
    if n ≤ bs.length then .ok (bs.take n, bs.drop n) else .error (.unexpectedEnd (n - bs.length)) := by
  simp only [take, List.length_take]
  by_cases h : n ≤ bs.length
  · rw [if_pos h, if_pos (by omega)]
  · rw [if_neg h, if_neg (by omega), Nat.min_eq_right (by omega)]

theorem incremental_take (n : Nat) : Incremental (take n) := by
  intro b c
  rw [take_eq, take_eq, List.length_append]
  by_cases h : n ≤ b.length
  · rw [if_pos h, if_pos (by omega), List.take_append_of_le_length h, List.drop_append_of_le_length h]
    exact .read _ _
  · rw [if_neg h]
    refine .of_lacking (by omega) fun hc => ?_
    rw [if_neg (by omega), Nat.sub_sub]

theorem incremental_byte : Incremental byte := by
  intro b c
  cases b with
  | nil =>
    refine .of_lacking Nat.one_pos fun hc => ?_
    rw [List.length_eq_zero_iff.1 (Nat.lt_one_iff.1 hc)]
    rfl
  | cons x b => exact .read x b

theorem incremental_readWord : Incremental readWord := by
  intro b c
  refine (incremental_take 4 b c).bind fun x rest => ?_
  match x with
  | [_, _, _, _] | [] | [_] | [_, _] | [_, _, _] | _ :: _ :: _ :: _ :: _ :: _ => exact .read _ _

theorem incremental_readBool : Incremental readBool := by
  intro b c
  refine (incremental_byte b c).bind fun x rest => ?_
  dsimp only
  split
  · exact .read _ _
  split
  · exact .read _ _
  · exact .refused (by simp)

theorem incremental_readInt : Incremental readInt := by
  intro b c
  exact (incremental_readWord b c).bind fun w rest => .read _ _

theorem incremental_readString : Incremental readString := by
  intro b c
  refine (incremental_readWord b c).bind fun n rest => ?_
  refine (incremental_take n.toNat rest c).bind fun raw rest => ?_
  dsimp only
  cases Text.ofUtf8? raw with
  | some s => exact .read _ _
  | none => exact .refused (by simp)

/-! ### Rows and values -/

theorem Incremental.readTimes (h : Incremental item) (n : Nat) : Incremental (readTimes item n) := by
  induction n with
  | zero => exact fun b c => .read _ _
  | succ n ih =>
    intro b c
    refine (h b c).bind fun x rest => ?_
    exact (ih rest c).bind fun xs rest => .read _ _

theorem Incremental.readPair {item : Step Value} (h : Incremental item) : Incremental (readPair item) := by
  intro b c
  refine (h b c).bind fun k rest => ?_
  exact (h rest c).bind fun v rest => .read _ _

theorem incremental_readValue (levels : Nat) : Incremental (readValue levels) := by
  induction levels with
  | zero => exact fun b c => .refused (by simp)
  | succ levels ih =>
    intro b c
    simp only [readValue]
    refine (incremental_byte b c).bind fun tag rest => ?_
    dsimp only
    split
    · exact .read _ _
    · exact ih rest c
    · exact incremental_readBool rest c
    · exact incremental_readInt rest c
    · exact incremental_readString rest c
    · refine (incremental_readWord rest c).bind fun n rest => ?_
      exact (ih.readTimes n.toNat rest c).bind fun items rest => .read _ _
    · refine (incremental_readWord rest c).bind fun n rest => ?_
      exact (ih.readPair.readTimes n.toNat rest c).bind fun pairs rest => .read _ _
    · exact .refused (by simp)

/-! ### Bodies -/

theorem extends_decodeNext (b c : Bytes) : Extends c (decodeNext b) (decodeNext (b ++ c)) :=
  incremental_readValue (maxDepth + 1) b c

/-- A body without its end lacks some of that end. -/
theorem lacking_of_cut {v : Value} (h : decodeNext (b ++ c) = .ok (v, [])) (hc : c ≠ []) :
    ∃ n ≤ c.length, decodeNext b = .error (.unexpectedEnd n) := by
  have hext := extends_decodeNext b c
  rw [h] at hext
  rcases hb : decodeNext b with e | ⟨w, rest⟩
  · rw [hb] at hext
    cases hext with
    | supplied hpos hn => exact ⟨_, hn, rfl⟩
  · have hread := (hb ▸ hext).eq_ok
    injection hread with hread
    injection hread with _ hrest
    exact absurd (List.append_eq_nil_iff.1 hrest.symm).2 hc

theorem decode_of_lacking {n : Nat} (h : decodeNext b = .error (.unexpectedEnd n)) :
    decode b = .error (.unexpectedEnd n) := by
  rw [decode, h]
  rfl

/-- When `c` arrives behind `b`, a value that was read is read again, a refusal stands, and as long as fewer bytes
came than were lacking the rest of them is lacking. So what is cut off before the end of a value, be it a whole
body or the next one of a stream, lacks bytes, and no more of them than were cut off. -/
theorem decodeNext_append (b c : Bytes) :
    (∀ v rest, decodeNext b = .ok (v, rest) → decodeNext (b ++ c) = .ok (v, rest ++ c)) ∧
    (∀ e, decodeNext b = .error e → (∀ n, e ≠ .unexpectedEnd n) → decodeNext (b ++ c) = .error e) ∧
    (∀ n, decodeNext b = .error (.unexpectedEnd n) →
      1 ≤ n ∧ (c.length < n → decodeNext (b ++ c) = .error (.unexpectedEnd (n - c.length)))) ∧
    (∀ v rest, decodeNext (b ++ c) = .ok (v, rest) → rest.length < c.length →
      ∃ n, 1 ≤ n ∧ n + rest.length ≤ c.length ∧ decodeNext b = .error (.unexpectedEnd n) ∧
        decode b = .error (.unexpectedEnd n)) := by
  have hext := extends_decodeNext b c
  refine ⟨fun v rest h => ?_, fun e h he => ?_, fun n h => ?_, fun v rest h hlen => ?_⟩
  · exact (h ▸ hext).eq_ok
  · exact (h ▸ hext).eq_error he
  · exact (h ▸ hext).lacking
  · -- What is read ends within `c`, so that a part of `c` completes it.
    obtain ⟨form, hform, hderives⟩ := reads_decodeNext.sound h
    obtain ⟨tail, rfl, rfl⟩ | ⟨more, rfl, rfl⟩ := List.append_eq_append_iff.1 hform
    · have hwhole : decodeNext (b ++ tail) = .ok (v, []) := reads_decodeNext.ok_nil_iff.2 hderives
      rw [List.length_append] at hlen
      have htail : tail ≠ [] := by
        rintro rfl
        rw [List.length_nil] at hlen
        omega
      obtain ⟨n, hn, hb⟩ := lacking_of_cut hwhole htail
      have hpos := (hb ▸ extends_decodeNext b []).lacking.1
      exact ⟨n, hpos, by rw [List.length_append]; omega, hb, decode_of_lacking hb⟩
    · rw [List.length_append] at hlen
      omega

theorem decodeNext_append_cut :
    let body : Bytes := [1, 5, 0, 0, 0, 2, 4, 0, 0, 0, 3, 110, 195, 169, 2, 1]
    encodeResult (.list [.string "né", .bool true]) = .ok body ∧
      decodeNext (body.take 8) = .error (.unexpectedEnd 3) ∧
      decodeNext (body.take 10) = .error (.unexpectedEnd 1) ∧
      decodeNext (body ++ [7] ++ [8]) = .ok (.list [.string "né", .bool true], [7, 8]) ∧
      decodeNext ([9] ++ body) = .error (.unknownTag 9) ∧
      ∃ n ≤ 3, decode (body.take 13) = .error (.unexpectedEnd n) := by
  intro body
  have hread (rest) : decodeNext (body ++ rest) = .ok (.list [.string "né", .bool true], rest) := by
    have hfits : (Value.list [.string "né", .bool true]).Fits := by
      refine .list (by decide) ?_
      simp only [List.forall_mem_cons]
      exact ⟨.string (by decide), .bool true, nofun⟩
    have hordered : (Value.list [.string "né", .bool true]).Ordered := ⟨trivial, trivial, trivial⟩
    exact (decodeNext_marked hordered hfits rest).trans (if_pos (by decide))
  have hshort : decodeNext (body.take 8) = .error (.unexpectedEnd 3) := by rfl
  have hlater := ((decodeNext_append (body.take 8) [0, 0]).2.2.1 3 hshort).2 (by decide)
  have hstream := (decodeNext_append (body ++ [7]) [8]).1 _ _ (hread [7])
  have htag : decodeNext [9] = .error (.unknownTag 9) := rfl
  obtain ⟨n, -, hn, -, hcut⟩ := (decodeNext_append (body.take 13) (body.drop 13)).2.2.2 _ [] (hread []) (by decide)
  exact ⟨rfl, hshort, hlater, hstream, (decodeNext_append [9] body).2.1 _ htag nofun, n, hn, hcut⟩

end Testbed.Codec
