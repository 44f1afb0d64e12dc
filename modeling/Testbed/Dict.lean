import Testbed.Assoc

/-!
# Maps from text

`Dict α` holds one value per key in byte order of the keys. Property maps, configurations and entry
groups are all of this type.
-/

namespace Testbed

/-- A finite map from text, kept in ascending key order. -/
structure Dict (α : Type) where
  entries : List (String × α)
  ascending : Assoc.Ascending entries

namespace Dict

variable {α β : Type}

instance [DecidableEq α] : DecidableEq (Dict α) := fun a b =>
  decidable_of_iff (a.entries = b.entries) ⟨fun h => by cases a; cases b; simp_all, congrArg entries⟩

def empty : Dict α := ⟨[], List.Pairwise.nil⟩

instance : EmptyCollection (Dict α) := ⟨empty⟩

instance : Inhabited (Dict α) := ⟨empty⟩

def get? (d : Dict α) (key : String) : Option α := Assoc.get? key d.entries

def contains (d : Dict α) (key : String) : Bool := (d.get? key).isSome

def keys (d : Dict α) : List String := d.entries.map Prod.fst

def isEmpty (d : Dict α) : Bool := d.entries.isEmpty

def insert (d : Dict α) (key : String) (value : α) : Dict α :=
  ⟨Assoc.insert key value d.entries, d.ascending.insert key value⟩

/-- The last pair of an equal key wins. -/
def ofList (ps : List (String × α)) : Dict α := ⟨Assoc.ofList ps, Assoc.ascending_ofList ps⟩

def erase (d : Dict α) (key : String) : Dict α :=
  ⟨Assoc.erase key d.entries, d.ascending.filter _⟩

def map (f : α → β) (d : Dict α) : Dict β :=
  ⟨d.entries.map fun p => (p.1, f p.2), by
    simpa only [Assoc.Ascending, List.pairwise_map] using d.ascending⟩

def filter (keep : String → α → Bool) (d : Dict α) : Dict α :=
  ⟨d.entries.filter fun p => keep p.1 p.2, d.ascending.filter _⟩

/-- The entries of `base`, those of `top` put over them. -/
def layer (base top : Dict α) : Dict α := ofList (base.entries ++ top.entries)

theorem ext_entries {a b : Dict α} (h : a.entries = b.entries) : a = b := by
  cases a; cases b; simp_all

@[simp] theorem get?_empty (key : String) : (∅ : Dict α).get? key = none := rfl

theorem ext_get? {a b : Dict α} (h : ∀ key, a.get? key = b.get? key) : a = b :=
  ext_entries (a.ascending.ext b.ascending h)

theorem get?_eq_some_iff {d : Dict α} {key : String} {a : α} : d.get? key = some a ↔ (key, a) ∈ d.entries :=
  Assoc.get?_eq_some_iff d.ascending

theorem mem_keys {d : Dict α} {key : String} : key ∈ d.keys ↔ ∃ a, d.get? key = some a := by
  simp [keys, get?_eq_some_iff]

theorem get?_insert (d : Dict α) (key other : String) (value : α) :
    (d.insert other value).get? key = if key = other then some value else d.get? key :=
  Assoc.get?_insert key other value d.entries

theorem get?_erase (d : Dict α) (key other : String) :
    (d.erase other).get? key = if key = other then none else d.get? key :=
  Assoc.get?_erase key other d.entries

theorem get?_map (f : α → β) (d : Dict α) (key : String) :
    (d.map f).get? key = (d.get? key).map f := Assoc.get?_map f key d.entries

theorem get?_filter (d : Dict α) (keep : String → α → Bool) (key : String) :
    (d.filter keep).get? key = (d.get? key).filter (keep key) :=
  Assoc.get?_filter d.ascending keep key

/-- What is selected of the keys depends on the selected keys only. -/
theorem filterMap_keys_congr {a b : Dict α} {f : String → Option β}
    (h : ∀ key, (f key).isSome → a.get? key = b.get? key) : a.keys.filterMap f = b.keys.filterMap f := by
  have hkept (d : Dict α) : d.keys.filterMap f = (d.filter fun key _ => (f key).isSome).keys.filterMap f := by
    rw [keys, keys, filter, List.filterMap_map, List.filterMap_map, List.filterMap_filter]
    refine congrArg (List.filterMap · d.entries) (funext fun p => ?_)
    cases hf : f p.1 <;> simp [hf]
  have hsame : a.filter (fun key _ => (f key).isSome) = b.filter fun key _ => (f key).isSome := by
    refine ext_get? fun key => ?_
    rw [get?_filter, get?_filter]
    cases hf : (f key).isSome with
    | false => cases a.get? key <;> cases b.get? key <;> rfl
    | true => rw [h key hf]
  rw [hkept a, hsame, ← hkept b]

/-- The upper map wins. -/
theorem get?_layer (base top : Dict α) (key : String) :
    (base.layer top).get? key = (top.get? key).or (base.get? key) := by
  unfold layer ofList get?
  rw [Assoc.get?_ofList_append, Assoc.ofList_eq_self top.ascending,
    Assoc.ofList_eq_self base.ascending]

end Dict

end Testbed
