import Testbed.Proofs.Codec.Canonical
import Testbed.Proofs.Value.Before

/-!
# The pairs of a map in any order

A map may be written with its pairs in any order and with a key more than once (`IsMapForm`). What is read depends on the
last pair of each key and on nothing else, since the keys of a map are arranged by a total order.
-/

namespace Testbed.Codec

open Value

variable {l : Nat} {ps qs m : List (Value × Value)} {b c : Bytes}

/-- The bytes are a form of a map, on a level, in which these pairs stand in this order. -/
def IsMapForm (l : Nat) (ps : List (Value × Value)) (b : Bytes) : Prop :=
  ∃ n body, b = 6 :: (n ++ body) ∧ Counts n ps.length ∧ Row (DerivesPair (l + 1)) ps body

theorem IsMapForm.derives (hl : l ≤ maxDepth) (h : IsMapForm l ps b) (hm : LastWins ps m) : Derives l (.map m) b := by
  obtain ⟨n, body, rfl, hn, hrow⟩ := h
  rw [hm.eq_ofList]
  exact derives_ofPairs hl hn hrow

/-- Values that are read on one level are written in one way only if they are equal. -/
theorem Derives.form_inj {v w : Value} (hv : Derives l v b) (hw : Derives l w c) : form v = form w ↔ v = w := by
  refine ⟨fun h => ?_, congrArg form⟩
  obtain ⟨d⟩ := hv
  obtain ⟨e⟩ := hw
  have hl := d.level_le
  have hreads : Reads (readValue (maxDepth + 1 - l)) (Derives l) := reads_readValue _ (by omega)
  exact (hreads.unique d.derives_form e.derives_form (congrArg (· ++ []) h)).1

/-- The comparison of values is the total order in which null is before the booleans, these before the integers, the
strings by their bytes, the lists and the maps. So the pairs of a map are read in any order: two forms of maps give the
same value, and the same encoding, if and only if the last pairs of each key are the same. -/
theorem total_order_and_pairs_in_any_order :
    ((∀ v w, order v w = .lt ↔ Before v w) ∧ (∀ v w, order v w = .eq ↔ v = w) ∧ (∀ v w, order v w = .gt ↔ Before w v) ∧
      (∀ v, ¬ Before v v) ∧ (∀ v w x, Before v w → Before w x → Before v x) ∧
        ∀ v w, Before v w ∨ v = w ∨ Before w v) ∧
    ∀ l ps qs b c, l ≤ maxDepth → IsMapForm l ps b → IsMapForm l qs c → ∃ m m', LastWins ps m ∧ LastWins qs m' ∧
      (∀ rest, readValue (maxDepth + 1 - l) (b ++ rest) = .ok (.map m, rest)) ∧
      (∀ rest, readValue (maxDepth + 1 - l) (c ++ rest) = .ok (.map m', rest)) ∧
      (Value.map m = .map m' ↔ ∀ p, IsLast p ps ↔ IsLast p qs) ∧
      ∃ e e', encode (.map m) = .ok e ∧ encode (.map m') = .ok e' ∧ (e = e' ↔ ∀ p, IsLast p ps ↔ IsLast p qs) := by
  refine ⟨⟨fun v w => order_eq_lt_iff, fun v w => order_eq_iff, fun v w => order_eq_gt_iff, Before.irrefl,
    fun v w x => Before.trans, Before.trichotomy⟩, fun l ps qs b c hl hb hc => ?_⟩
  have hreads : Reads (readValue (maxDepth + 1 - l)) (Derives l) := reads_readValue _ (by omega)
  have hm := lastWins_ofList ps
  have hm' := lastWins_ofList qs
  have hderives := hb.derives hl hm
  have hderives' := hc.derives hl hm'
  have hsame : Value.map (Assoc.ofList ps) = .map (Assoc.ofList qs) ↔ ∀ p, IsLast p ps ↔ IsLast p qs := by
    rw [map.injEq, hm.eq_iff hm']
  exact ⟨_, _, hm, hm', hreads.complete hderives, hreads.complete hderives', hsame, _, _, encode_of_fits hderives.some.fits,
    encode_of_fits hderives'.some.fits, (hderives.form_inj hderives').trans hsame⟩

/-- The pair that is written over comes first in the one form and is left out of the other, where the rest is the other
way round and a marker stands before a key. -/
theorem pairs_in_another_order :
    let ps : List (Value × Value) := [(.int 1, .bool true), (.null, .string "é"), (.int 1, .bool false)]
    let qs : List (Value × Value) := [(.int 1, .bool false), (.null, .string "é")]
    let b : Bytes := [6, 0, 0, 0, 3, 3, 0, 0, 0, 1, 2, 1, 0, 4, 0, 0, 0, 2, 0xc3, 0xa9, 3, 0, 0, 0, 1, 2, 0]
    let c : Bytes := [6, 0, 0, 0, 2, 3, 0, 0, 0, 1, 2, 0, 1, 0, 4, 0, 0, 0, 2, 0xc3, 0xa9]
    IsMapForm 0 ps b ∧ IsMapForm 0 qs c ∧ (∀ p, IsLast p ps ↔ IsLast p qs) ∧
      ∃ v, decode b = .ok v ∧ decode c = .ok v := by
  intro ps qs b c
  have hone : Derivation 1 (.int 1) [3, 0, 0, 0, 1] := .int (by decide) 1 _ rfl (by decide)
  have htrue : Derivation 1 (.bool true) [2, 1] := .bool (by decide) true
  have hfalse : Derivation 1 (.bool false) [2, 0] := .bool (by decide) false
  have hnull (l : Nat) (hl : l ≤ maxDepth) : Derivation l .null [0] := .null hl
  have htext : Derivation 1 (.string "é") [4, 0, 0, 0, 2, 0xc3, 0xa9] :=
    .string (by decide) "é" [0, 0, 0, 2] ⟨rfl, rfl⟩
  have hb : IsMapForm 0 ps b := by
    refine ⟨[0, 0, 0, 3], _, rfl, ⟨rfl, rfl⟩, [(_, [3, 0, 0, 0, 1, 2, 1]), (_, [0, 4, 0, 0, 0, 2, 0xc3, 0xa9]),
      (_, [3, 0, 0, 0, 1, 2, 0])], rfl, rfl, ?_⟩
    simp only [List.forall_mem_cons]
    exact ⟨⟨_, _, rfl, ⟨hone⟩, ⟨htrue⟩⟩, ⟨_, _, rfl, ⟨hnull 1 (by decide)⟩, ⟨htext⟩⟩, ⟨_, _, rfl, ⟨hone⟩, ⟨hfalse⟩⟩, nofun⟩
  have hc : IsMapForm 0 qs c := by
    refine ⟨[0, 0, 0, 2], _, rfl, ⟨rfl, rfl⟩, [(_, [3, 0, 0, 0, 1, 2, 0]), (_, [1, 0, 4, 0, 0, 0, 2, 0xc3, 0xa9])],
      rfl, rfl, ?_⟩
    simp only [List.forall_mem_cons]
    exact ⟨⟨_, _, rfl, ⟨hone⟩, ⟨hfalse⟩⟩, ⟨_, _, rfl, ⟨.marked (by decide) (hnull 2 (by decide))⟩, ⟨htext⟩⟩, nofun⟩
  obtain ⟨m, m', hm, hm', hread, hread', hsame, -⟩ :=
    total_order_and_pairs_in_any_order.2 0 ps qs b c (by decide) hb hc
  have hlast : ∀ p, IsLast p ps ↔ IsLast p qs := by
    rw [← hm.eq_iff hm', hm.eq_ofList, hm'.eq_ofList]
    decide
  rw [← hsame.2 hlast] at hread'
  have hb' := hread []
  have hc' := hread' []
  rw [List.append_nil] at hb' hc'
  exact ⟨hb, hc, hlast, .map m, decode_eq_ok.2 hb', decode_eq_ok.2 hc'⟩

end Testbed.Codec
