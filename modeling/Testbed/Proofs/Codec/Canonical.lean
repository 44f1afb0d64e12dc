import Testbed.Proofs.Codec.Grammar
import Testbed.Proofs.Codec.RoundTrip

/-!
# The canonical form

Of all the forms of a value the one that is written is the shortest, for it has no marker and each key of
a map once (`Derivation.length_form_le`); it is the form whose derivation is `Canonical`, and no other
form is (`Derivation.form_eq_iff`). That it can be read again follows from what any derivation says of
its value: maps are ordered, counts fit, and the deepest part is not below the deepest level.
-/

namespace Testbed.Codec

variable {α : Type} {l n : Nat} {v : Value} {b rest rest' : Bytes}

namespace Derivation

theorem ordered (d : Derivation l v b) : v.Ordered := by
  induction d with
  | null | bool | int | string => trivial
  | list _ _ _ _ _ ih => exact Value.ordered_list.2 (List.forall_mem_map.2 ih)
  | map _ _ _ _ _ hm _ _ ihk ihv =>
    refine Value.ordered_map.2 ⟨hm.ascending, hm.forall_mem (List.forall_mem_map.2 fun p hp => ?_)⟩
    exact ⟨ihk p hp, ihv p hp⟩
  | marked _ _ ih => exact ih

theorem fits (d : Derivation l v b) : v.Fits := by
  induction d with
  | null => exact .null
  | bool _ c => exact .bool c
  | int _ i => exact .int i
  | string _ _ _ hn => exact .string hn.lt
  | list _ _ parts hn _ ih =>
    refine .list ?_ (List.forall_mem_map.2 ih)
    rw [List.length_map]
    exact hn.lt
  | map _ _ parts hn _ hm _ _ ihk ihv =>
    -- The map has some of the pairs that were written, so it has no more of them than were counted.
    have hlen := hm.subperm.length_le
    rw [List.length_map] at hlen
    refine .map (Nat.lt_of_le_of_lt hlen hn.lt) ?_ ?_
    · exact hm.forall_mem (List.forall_mem_map.2 ihk)
    · exact hm.forall_mem (List.forall_mem_map.2 ihv)
  | marked _ _ ih => exact ih

theorem level_add_height_le (d : Derivation l v b) : l + v.height ≤ maxDepth := by
  induction d with
  | null hl | bool hl | int hl | string hl => exact hl
  | @list l hl _ parts _ _ ih =>
    have hparts : (Value.list (parts.map Prod.fst)).height ≤ maxDepth - l :=
      Value.height_list_le_iff.2 (List.forall_mem_map.2 fun p hp => by have := ih p hp; omega)
    omega
  | @map l hl _ parts _ m hm _ _ ihk ihv =>
    have hpairs : (Value.map m).height ≤ maxDepth - l := by
      refine Value.height_map_le_iff.2 (hm.forall_mem (List.forall_mem_map.2 fun p hp => ?_))
      have := ihk p hp
      have := ihv p hp
      omega
    omega
  | marked _ _ ih => omega

/-- Whatever form a value was read from, its canonical one is a form of it too. -/
theorem derives_form (d : Derivation l v b) : Derives l v (form v) := by
  have hl := d.level_le
  have hread := readValue_form d.ordered d.fits (maxDepth + 1 - l) []
  have := d.level_add_height_le
  rw [if_pos (by omega), List.append_nil] at hread
  obtain ⟨_, hb, hd⟩ := (reads_readValue (l := l) (maxDepth + 1 - l) (by omega)).sound hread
  rwa [hb, List.append_nil]

/-! ### Length -/

theorem length_form_le (d : Derivation l v b) : (form v).length ≤ b.length := by
  induction d with
  | null | bool => exact Nat.le_refl _
  | int _ _ w hlen => simp [form, length_word, hlen]
  | string _ s n hn => simp [form, length_word, hn.1]
  | list _ n parts hn _ ih =>
    have hparts : ((parts.map Prod.fst).flatMap form).length ≤ (parts.map Prod.snd).flatten.length := by
      simp only [List.length_flatMap, List.length_flatten, List.map_map]
      exact List.sum_le_sum ih
    simp only [form, formItems_eq_flatMap, List.length_cons, List.length_append, length_word, hn.1]
    omega
  | map _ n parts hn m hm _ _ ihk ihv =>
    have hpairs : (m.flatMap fun p => form p.1 ++ form p.2).length ≤
        (parts.map fun p => p.2.1 ++ p.2.2).flatten.length := by
      simp only [List.length_flatMap, List.length_flatten, List.length_append, List.map_map]
      -- First from the pairs that are kept to all that were written, then part by part.
      refine Nat.le_trans (hm.sum_map_le fun p => (form p.1).length + (form p.2).length) ?_
      rw [List.map_map]
      refine List.sum_le_sum fun p hp => ?_
      simp only [Function.comp_apply, List.length_append]
      exact Nat.add_le_add (ihk p hp) (ihv p hp)
    simp only [form, formPairs_eq_flatMap, List.length_cons, List.length_append, length_word, hn.1]
    omega
  | marked _ _ ih => exact Nat.le_succ_of_le ih

end Derivation

theorem nodes_le_length_form (v : Value) : v.nodes ≤ (form v).length := by
  induction v with
  | null | bool | int | string => simp [Value.nodes, form]
  | list xs ih =>
    have hitems : (xs.map Value.nodes).sum ≤ (xs.flatMap form).length := by
      rw [List.length_flatMap]
      exact List.sum_le_sum ih
    simp only [Value.nodes_list, form, formItems_eq_flatMap, List.length_cons, List.length_append]
    omega
  | map ps ih =>
    have hpairs : (ps.map fun p => p.1.nodes + p.2.nodes).sum ≤
        (ps.flatMap fun p => form p.1 ++ form p.2).length := by
      rw [List.length_flatMap]
      refine List.sum_le_sum fun p hp => ?_
      rw [List.length_append]
      exact Nat.add_le_add (ih p hp).1 (ih p hp).2
    simp only [Value.nodes_map, form, formPairs_eq_flatMap, List.length_cons, List.length_append]
    omega

/-! ### Which form is written -/

theorem eq_of_twosComplement_eq {a : Bytes} (ha : a.length = 4) (hb : b.length = 4)
    (h : twosComplement a = twosComplement b) : a = b := by
  have := bigEndian_lt ha
  have := bigEndian_lt hb
  refine eq_of_bigEndian_eq ha hb ?_
  rw [twosComplement, twosComplement] at h
  split at h <;> split at h <;> omega

theorem form_ne_marked (v : Value) (b : Bytes) : form v ≠ 1 :: b := by
  cases v <;> simp [form]

section
variable {item : Step Value} {m : List (Value × Value)} {parts : List ((Value × Value) × Bytes × Bytes)}

theorem flatMap_pairs_eq_iff (h : Reads item (Derives l))
    (hparts : ∀ p ∈ parts, Derives l p.1.1 p.2.1 ∧ Derives l p.1.2 p.2.2) :
    ((parts.map Prod.fst).flatMap fun p => form p.1 ++ form p.2) = (parts.map fun p => p.2.1 ++ p.2.2).flatten ↔
      ∀ p ∈ parts, form p.1.1 = p.2.1 ∧ form p.1.2 = p.2.2 := by
  have hcanonical (p) (hp : p ∈ parts) : Derives l p.1.1 (form p.1.1) ∧ Derives l p.1.2 (form p.1.2) :=
    ⟨(hparts p hp).1.some.derives_form, (hparts p hp).2.some.derives_form⟩
  have hjoined : ∀ p ∈ parts.map fun p => (p.1, p.2.1 ++ p.2.2), DerivesPair l p.1 p.2 :=
    List.forall_mem_map.2 fun p hp => ⟨_, _, rfl, (hparts p hp).1, (hparts p hp).2⟩
  have hrow := h.readPair.flatMap_eq_flatten_iff (fun p => form p.1 ++ form p.2) hjoined
    (List.forall_mem_map.2 fun p hp => ⟨_, _, rfl, (hcanonical p hp).1, (hcanonical p hp).2⟩)
  simp only [List.map_map, Function.comp_def, List.forall_mem_map] at hrow
  rw [hrow]
  exact forall₂_congr fun p hp => h.append_eq_append_iff (hcanonical p hp).1 (hparts p hp).1

/-- The map is what was written, in the order it was written. -/
theorem eq_of_flatMap_eq (h : Reads item (Derives l)) (hm : Value.LastWins (parts.map Prod.fst) m)
    (hparts : ∀ p ∈ parts, Derives l p.1.1 p.2.1 ∧ Derives l p.1.2 p.2.2) (hlen : m.length = parts.length)
    (he : (m.flatMap fun p => form p.1 ++ form p.2) = (parts.map fun p => p.2.1 ++ p.2.2).flatten) :
    m = parts.map Prod.fst := by
  have hrow : Row (DerivesPair l) m (m.flatMap fun p => form p.1 ++ form p.2) := by
    refine ⟨m.map fun p => (p, form p.1 ++ form p.2), ?_, ?_, List.forall_mem_map.2 ?_⟩
    · simp [Function.comp_def]
    · simp [List.flatMap_def, Function.comp_def]
    · refine hm.forall_mem (List.forall_mem_map.2 fun p hp => ⟨_, _, rfl, ?_⟩)
      exact ⟨(hparts p hp).1.some.derives_form, (hparts p hp).2.some.derives_form⟩
  have hwritten : Row (DerivesPair l) (parts.map Prod.fst) (parts.map fun p => p.2.1 ++ p.2.2).flatten :=
    row_derivesPair_iff.2 ⟨parts, rfl, rfl, hparts⟩
  have hall := h.readPair.readTimes parts.length
  exact (hall.unique ⟨hlen, hrow⟩ ⟨List.length_map _, hwritten⟩ (congrArg (· ++ []) he)).1

/-- The pairs of a map are written as they stand only if they stand by ascending key and each part is
written as it stands. -/
theorem form_map_eq_iff (h : Reads item (Derives l)) (hn : Counts b parts.length)
    (hm : Value.LastWins (parts.map Prod.fst) m)
    (hparts : ∀ p ∈ parts, Derives l p.1.1 p.2.1 ∧ Derives l p.1.2 p.2.2) :
    form (.map m) = 6 :: (b ++ (parts.map fun p => p.2.1 ++ p.2.2).flatten) ↔
      Assoc.Ascending (parts.map Prod.fst) ∧ ∀ p ∈ parts, form p.1.1 = p.2.1 ∧ form p.1.2 = p.2.2 := by
  rw [← flatMap_pairs_eq_iff h hparts, form, formPairs_eq_flatMap, List.cons.injEq, eq_self, true_and]
  constructor
  · intro he
    have hle := hm.subperm.length_le
    rw [List.length_map] at hle
    -- Equal counts: no pair was dropped, and the rows can be compared pair by pair.
    obtain ⟨hcount, hpairs⟩ := List.append_inj he ((length_word _).trans hn.1.symm)
    have hlen : m.length = parts.length := by
      rw [← hn.2, ← hcount, (counts_word (Nat.lt_of_le_of_lt hle hn.lt)).2]
    obtain rfl := eq_of_flatMap_eq h hm hparts hlen hpairs
    exact ⟨hm.ascending, hpairs⟩
  · rintro ⟨hasc, hpairs⟩
    rw [hm.eq_of_ascending hasc, hpairs, List.length_map, (counts_word hn.lt).unique hn]

end

namespace Derivation

/-- The form that is written is the one with a canonical derivation. -/
theorem form_eq_iff (d : Derivation l v b) : form v = b ↔ d.Canonical := by
  induction d with
  | null | bool => exact iff_of_true rfl trivial
  | int _ i w hlen hw =>
    refine iff_of_true ?_ trivial
    rw [form, eq_of_twosComplement_eq (length_word _) hlen (hw ▸ twosComplement_word i)]
  | string _ s n hn => exact iff_of_true (by rw [form, (counts_word hn.lt).unique hn]) trivial
  | @list l hl n parts hn items ih =>
    have hreads := reads_readValue (l := l + 1) (maxDepth - l) (by omega)
    have hparts := hreads.flatMap_eq_flatten_iff form (fun p hp => ⟨items p hp⟩)
      fun p hp => (items p hp).derives_form
    simp only [Canonical, ← ih, form, formItems_eq_flatMap, List.length_map, (counts_word hn.lt).unique hn,
      List.cons.injEq, true_and, List.append_cancel_left_eq, hparts]
  | @map l hl n parts hn m hm keys values ihk ihv =>
    have hreads := reads_readValue (l := l + 1) (maxDepth - l) (by omega)
    rw [form_map_eq_iff hreads hn hm fun p hp => ⟨⟨keys p hp⟩, ⟨values p hp⟩⟩]
    simp only [Canonical, ← ihk, ← ihv]
  | marked _ _ _ => exact iff_of_false (form_ne_marked _ _) id

end Derivation

/-- An accepted body is normalised by writing its value, to a body that is no longer and is the same one
exactly if the body has no marker and its maps stand by strictly ascending key. -/
theorem canonical_form_of_decode (b : Bytes) (v : Value) (h : decode b = .ok v) :
    ∃ c, encode v = .ok c ∧ decode c = .ok v ∧ c.length ≤ b.length ∧ v.nodes ≤ b.length ∧
      Nonempty (Derivation 0 v b) ∧ ∀ d : Derivation 0 v b, c = b ↔ d.Canonical := by
  obtain ⟨_, rfl, ⟨d⟩⟩ := reads_decodeNext.sound (decode_eq_ok.1 h)
  rw [List.append_nil]
  have hread := reads_decodeNext.complete d.derives_form []
  rw [List.append_nil] at hread
  refine ⟨form v, encode_of_fits d.fits, decode_eq_ok.2 hread, d.length_form_le, ?_, ⟨d⟩, fun d => d.form_eq_iff⟩
  exact Nat.le_trans (nodes_le_length_form v) d.length_form_le

/-- Null stands twice as a key, behind a marker. -/
theorem canonical_form_of_repeated_key :
    let b : Bytes := [1, 6, 0, 0, 0, 2, 0, 2, 0, 0, 2, 1]
    let v : Value := .map [(.null, .bool true)]
    decode b = .ok v ∧ encode v = .ok [6, 0, 0, 0, 1, 0, 2, 1] ∧ decode [6, 0, 0, 0, 1, 0, 2, 1] = .ok v ∧
      Nonempty (Derivation 0 v b) ∧ ∀ d : Derivation 0 v b, ¬ d.Canonical := by
  intro b v
  have h : decode b = .ok v := by rfl
  have hform : encode v = .ok [6, 0, 0, 0, 1, 0, 2, 1] := by rfl
  obtain ⟨c, hc, hread, -, -, hderived, hiff⟩ := canonical_form_of_decode b v h
  obtain rfl := Except.ok.inj (hform.symm.trans hc)
  exact ⟨h, hform, hread, hderived, fun d hd => absurd ((hiff d).2 hd) (by decide)⟩

end Testbed.Codec
