import Testbed.Proofs.Codec.Readers
import Testbed.Proofs.Value.Maps

/-!
# The grammar of the binary form

A `Derivation` shows how bytes are built up from the rules of the format, each part of a collection and
what a marker marks standing one level deeper. Reading succeeds on just what can be derived
(`reads_readValue`), so a body is accepted exactly if it is derived on level zero (`decode_ok_iff`).
-/

namespace Testbed.Codec

variable {l n : Nat} {v : Value} {b body rest : Bytes}

/-- How bytes come to stand for a value on a level. -/
inductive Derivation : (level : Nat) → Value → Bytes → Type
  | null {l : Nat} (hl : l ≤ maxDepth) : Derivation l .null [0]
  | bool {l : Nat} (hl : l ≤ maxDepth) (c : Bool) : Derivation l (.bool c) [2, if c then 1 else 0]
  | int {l : Nat} (hl : l ≤ maxDepth) (i : Int32) (w : Bytes) (hlen : w.length = 4) (hw : twosComplement w = i.toInt) :
    Derivation l (.int i) (3 :: w)
  | string {l : Nat} (hl : l ≤ maxDepth) (s : String) (n : Bytes) (hn : Counts n (Text.utf8 s).length) :
    Derivation l (.string s) (4 :: (n ++ Text.utf8 s))
  | list {l : Nat} (hl : l ≤ maxDepth) (n : Bytes) (parts : List (Value × Bytes)) (hn : Counts n parts.length)
    (items : ∀ p ∈ parts, Derivation (l + 1) p.1 p.2) :
    Derivation l (.list (parts.map Prod.fst)) (5 :: (n ++ (parts.map Prod.snd).flatten))
  /-- The pairs stand in any order, and the last one of an equal key counts. -/
  | map {l : Nat} (hl : l ≤ maxDepth) (n : Bytes) (parts : List ((Value × Value) × Bytes × Bytes))
    (hn : Counts n parts.length) (m : List (Value × Value)) (hm : Value.LastWins (parts.map Prod.fst) m)
    (keys : ∀ p ∈ parts, Derivation (l + 1) p.1.1 p.2.1) (values : ∀ p ∈ parts, Derivation (l + 1) p.1.2 p.2.2) :
    Derivation l (.map m) (6 :: (n ++ (parts.map fun p => p.2.1 ++ p.2.2).flatten))
  | marked {l : Nat} (hl : l ≤ maxDepth) {v : Value} {b : Bytes} (inner : Derivation (l + 1) v b) :
    Derivation l v (1 :: b)

/-- The bytes can be derived for the value on the level. -/
def Derives (l : Nat) (v : Value) (b : Bytes) : Prop := Nonempty (Derivation l v b)

namespace Derivation

theorem level_le (d : Derivation l v b) : l ≤ maxDepth := by
  cases d <;> assumption

/-- No marker is used, and the pairs of each map stand by strictly ascending key. -/
def Canonical {l : Nat} {v : Value} {b : Bytes} : Derivation l v b → Prop
  | list _ _ parts _ items => ∀ p, ∀ hp : p ∈ parts, (items p hp).Canonical
  | map _ _ parts _ _ _ keys values => Assoc.Ascending (parts.map Prod.fst) ∧
    ∀ p, ∀ hp : p ∈ parts, (keys p hp).Canonical ∧ (values p hp).Canonical
  | marked .. => False
  | null _ | bool .. | int .. | string .. => True

end Derivation

/-- How a pair of a map is written. -/
def DerivesPair (l : Nat) (p : Value × Value) (b : Bytes) : Prop :=
  ∃ b₁ b₂, b = b₁ ++ b₂ ∧ Derives l p.1 b₁ ∧ Derives l p.2 b₂

section
variable {vs : List Value} {ps : List (Value × Value)} {n : Bytes}

theorem derives_list (hl : l ≤ maxDepth) (hn : Counts n vs.length) (h : Row (Derives (l + 1)) vs body) :
    Derives l (.list vs) (5 :: (n ++ body)) := by
  obtain ⟨parts, rfl, rfl, hparts⟩ := h
  rw [List.length_map] at hn
  exact ⟨.list hl n parts hn fun p hp => (hparts p hp).some⟩

/-- Each pair of a row is divided somewhere. -/
theorem row_derivesPair_iff : Row (DerivesPair l) ps body ↔ ∃ parts : List ((Value × Value) × Bytes × Bytes),
    ps = parts.map Prod.fst ∧ body = (parts.map fun p => p.2.1 ++ p.2.2).flatten ∧
      ∀ p ∈ parts, Derives l p.1.1 p.2.1 ∧ Derives l p.1.2 p.2.2 := by
  constructor
  · rintro ⟨rows, rfl, rfl, h⟩
    induction rows with
    | nil => exact ⟨[], rfl, rfl, nofun⟩
    | cons row rows ih =>
      obtain ⟨⟨b₁, b₂, hb, hk, hv⟩, hrows⟩ := List.forall_mem_cons.1 h
      obtain ⟨parts, hps, hbody, hparts⟩ := ih hrows
      refine ⟨(row.1, b₁, b₂) :: parts, ?_, ?_, List.forall_mem_cons.2 ⟨⟨hk, hv⟩, hparts⟩⟩
      · simp only [List.map_cons, hps]
      · simp only [List.map_cons, List.flatten_cons, hb, hbody]
  · rintro ⟨parts, rfl, rfl, h⟩
    refine ⟨parts.map fun p => (p.1, p.2.1 ++ p.2.2), ?_, ?_, List.forall_mem_map.2 fun p hp => ?_⟩
    · simp
    · simp [Function.comp_def]
    · exact ⟨p.2.1, p.2.2, rfl, h p hp⟩

theorem derives_ofPairs (hl : l ≤ maxDepth) (hn : Counts n ps.length) (h : Row (DerivesPair (l + 1)) ps body) :
    Derives l (Value.ofPairs ps) (6 :: (n ++ body)) := by
  obtain ⟨parts, rfl, rfl, hparts⟩ := row_derivesPair_iff.1 h
  rw [List.length_map] at hn
  exact ⟨.map hl n parts hn _ (Value.lastWins_ofList _) (fun p hp => (hparts p hp).1.some)
    fun p hp => (hparts p hp).2.some⟩

end

/-! ### Reading -/

/-- Reading a value accepts what can be derived on its level. -/
theorem reads_readValue (levels : Nat) (h : l + levels = maxDepth + 1) : Reads (readValue levels) (Derives l) := by
  -- A derivation counts the levels up to the deepest, a reader counts down those that are left.
  induction levels generalizing l with
  | zero =>
    refine ⟨fun hr => ?_, fun ⟨d⟩ => ?_⟩
    · cases hr
    · have := d.level_le
      omega
  | succ levels ih =>
    have hl : l ≤ maxDepth := by omega
    have ih : Reads (readValue levels) (Derives (l + 1)) := ih (by omega)
    refine ⟨fun {bs v rest} hr => ?_, fun {v b} ⟨d⟩ rest => ?_⟩
    · -- The tag decides which rule was used.
      cases bs with
      | nil => cases hr
      | cons tag bs =>
        simp only [readValue, byte, bind, Except.bind] at hr
        split at hr
        · cases hr
          exact ⟨[0], rfl, ⟨.null hl⟩⟩
        · obtain ⟨b, rfl, ⟨inner⟩⟩ := ih.sound hr
          exact ⟨1 :: b, rfl, ⟨.marked hl inner⟩⟩
        · obtain ⟨_, rfl, c, rfl, rfl⟩ := reads_readBool.sound hr
          exact ⟨_, rfl, ⟨.bool hl c⟩⟩
        · obtain ⟨w, rfl, i, rfl, hlen, hw⟩ := reads_readInt.sound hr
          exact ⟨_, rfl, ⟨.int hl i w hlen hw⟩⟩
        · obtain ⟨_, rfl, s, n, rfl, rfl, hn⟩ := reads_readString.sound hr
          exact ⟨_, rfl, ⟨.string hl s n hn⟩⟩
        · obtain ⟨_, rfl, vs, n, body, rfl, rfl, hn, hrow⟩ := (ih.counted Value.list).sound hr
          exact ⟨_, rfl, derives_list hl hn hrow⟩
        · obtain ⟨_, rfl, ps, n, body, rfl, rfl, hn, hrow⟩ := (ih.readPair.counted Value.ofPairs).sound hr
          exact ⟨_, rfl, derives_ofPairs hl hn hrow⟩
        · cases hr
    · cases d with
      | null => rfl
      | bool _ c => exact reads_readBool.complete ⟨c, rfl, rfl⟩ rest
      | int _ i w hlen hw => exact reads_readInt.complete ⟨i, rfl, hlen, hw⟩ rest
      | string _ s n hn => exact reads_readString.complete ⟨s, n, rfl, rfl, hn⟩ rest
      | list _ n parts hn items =>
        refine (ih.counted Value.list).complete ⟨_, n, _, rfl, rfl, ?_, parts, rfl, rfl, fun p hp => ⟨items p hp⟩⟩ rest
        rwa [List.length_map]
      | map _ n parts hn m hm keys values =>
        have hrow : Row (DerivesPair (l + 1)) (parts.map Prod.fst) (parts.map fun p => p.2.1 ++ p.2.2).flatten :=
          row_derivesPair_iff.2 ⟨parts, rfl, rfl, fun p hp => ⟨⟨keys p hp⟩, ⟨values p hp⟩⟩⟩
        refine (ih.readPair.counted Value.ofPairs).complete ⟨_, n, _, ?_, rfl, ?_, hrow⟩ rest
        · rw [hm.eq_ofList, Value.ofPairs]
        · rwa [List.length_map]
      | marked _ inner => exact ih.complete ⟨inner⟩ rest

theorem reads_decodeNext : Reads decodeNext (Derives 0) := reads_readValue (maxDepth + 1) (Nat.zero_add _)

theorem decode_eq_ok : decode b = .ok v ↔ decodeNext b = .ok (v, []) := by
  rw [decode]
  rcases decodeNext b with e | ⟨w, rest⟩
  · simp [bind, Except.bind]
  · cases rest <;> simp [bind, Except.bind]

/-- A body is accepted as a value exactly if it is derived for it on level zero. -/
theorem decode_ok_iff_derivation (b : Bytes) (v : Value) : decode b = .ok v ↔ Nonempty (Derivation 0 v b) := by
  rw [decode_eq_ok]
  constructor
  · intro h
    obtain ⟨_, rfl, d⟩ := reads_decodeNext.sound h
    rwa [List.append_nil]
  · intro d
    have h := reads_decodeNext.complete d []
    rwa [List.append_nil] at h

end Testbed.Codec
