import Testbed.Proofs.Value.Order
import Testbed.Text.Utf8
import Mathlib

/-!
# Values and their parts

`Value.Ordered` and `Value.height` go through lists of items and of pairs; here they are told of the
parts one by one. `Value.Fits` bounds what a count has to hold, and `Value.nodes` says how many values a
value is made of.
-/

namespace Testbed.Value

variable {n : Nat} {xs : List Value} {ps : List (Value × Value)}

theorem orderedItems_iff : OrderedItems xs ↔ ∀ v ∈ xs, v.Ordered := by
  induction xs with
  | nil => simp [OrderedItems]
  | cons x xs ih => simp [OrderedItems, ih]

theorem orderedPairs_iff : OrderedPairs ps ↔ ∀ p ∈ ps, p.1.Ordered ∧ p.2.Ordered := by
  induction ps with
  | nil => simp [OrderedPairs]
  | cons p ps ih => simp [OrderedPairs, ih, and_assoc]

theorem ordered_list : (list xs).Ordered ↔ ∀ v ∈ xs, v.Ordered := by rw [Ordered, orderedItems_iff]

theorem ordered_map : (map ps).Ordered ↔ Assoc.Ascending ps ∧ ∀ p ∈ ps, p.1.Ordered ∧ p.2.Ordered := by
  rw [Ordered, orderedPairs_iff]

theorem ordered_ofPairs (h : ∀ p ∈ ps, p.1.Ordered ∧ p.2.Ordered) : (ofPairs ps).Ordered :=
  ordered_map.2 ⟨Assoc.ascending_ofList ps, fun p hp => h p (Assoc.mem_ofList hp)⟩

theorem mem_filterMap_string? {name : String} :
    name ∈ ps.filterMap (fun p => p.1.string?) ↔ ∃ v, (string name, v) ∈ ps := by
  have hkey (v : Value) : v.string? = some name ↔ v = string name := by
    cases v <;> simp [string?]
  simp [hkey]

theorem field?_ofDict (d : Properties) (name : String) :
    field? (d.entries.map fun p => (string p.1, p.2)) name = d.get? name := by
  rw [field?, Dict.get?]
  induction d.entries with
  | nil => rfl
  | cons p entries ih =>
    rw [List.map_cons, Assoc.get?_cons, Assoc.get?_cons, ih]
    rfl

theorem ofDict_inj {d e : Properties} (h : ofDict d = ofDict e) : d = e :=
  Dict.ext_get? fun name => by rw [← field?_ofDict, ← field?_ofDict, (map.inj h)]

theorem heightItems_le_iff : heightItems xs ≤ n ↔ ∀ v ∈ xs, v.height < n := by
  induction xs with
  | nil => simp [heightItems]
  | cons x xs ih => simp only [heightItems, Nat.max_le, ih, Nat.succ_le_iff, List.forall_mem_cons]

theorem heightPairs_le_iff : heightPairs ps ≤ n ↔ ∀ p ∈ ps, p.1.height < n ∧ p.2.height < n := by
  induction ps with
  | nil => simp [heightPairs]
  | cons p ps ih =>
    simp only [heightPairs, Nat.max_le, ih, List.forall_mem_cons]
    refine and_congr_left fun _ => ?_
    omega

theorem height_list_le_iff : (list xs).height ≤ n ↔ ∀ v ∈ xs, v.height < n := by rw [height, heightItems_le_iff]

theorem height_map_le_iff : (map ps).height ≤ n ↔ ∀ p ∈ ps, p.1.height < n ∧ p.2.height < n := by
  rw [height, heightPairs_le_iff]

/-- Each string, in bytes, and each collection is shorter than `2 ^ 32`. -/
inductive Fits : Value → Prop
  | null : Fits .null
  | bool (b : Bool) : Fits (.bool b)
  | int (i : Int32) : Fits (.int i)
  | string {s : String} (length : (Text.utf8 s).length < 2 ^ 32) : Fits (.string s)
  | list {xs : List Value} (length : xs.length < 2 ^ 32) (items : ∀ v ∈ xs, Fits v) : Fits (.list xs)
  | map {ps : List (Value × Value)} (length : ps.length < 2 ^ 32) (keys : ∀ p ∈ ps, Fits p.1)
    (values : ∀ p ∈ ps, Fits p.2) : Fits (.map ps)

mutual

/-- How many values a value is made of, itself included. -/
def nodes : Value → Nat
  | list items => nodesItems items + 1
  | map pairs => nodesPairs pairs + 1
  | _ => 1

def nodesItems : List Value → Nat
  | [] => 0
  | x :: xs => nodes x + nodesItems xs

def nodesPairs : List (Value × Value) → Nat
  | [] => 0
  | (k, v) :: ps => nodes k + nodes v + nodesPairs ps

end

theorem nodes_list : (list xs).nodes = (xs.map nodes).sum + 1 := by
  rw [nodes]
  induction xs with
  | nil => rfl
  | cons x xs ih => simp only [nodesItems, List.map_cons, List.sum_cons]; omega

theorem nodes_map : (map ps).nodes = (ps.map fun p => p.1.nodes + p.2.nodes).sum + 1 := by
  rw [nodes]
  induction ps with
  | nil => rfl
  | cons p ps ih => simp only [nodesPairs, List.map_cons, List.sum_cons]; omega

end Testbed.Value
