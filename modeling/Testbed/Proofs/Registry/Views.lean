import Testbed.Registry
import Mathlib.Data.List.Nodup

/-!
# What the operations of a registry do to what it holds

A registry is read through `find?`, `live` and `listed`. Each operation is described once by what it
does to these three: `note` appends a key to one list, `add` appends an entry, `Target.takeOut` filters
the entries and the lists. `Made` and `Got` say what bringing up a resource and a whole call can come
to; later proofs split on their cases and open no operation.
-/

namespace Testbed.Registry

variable {ρ σ α : Type} {reg : Registry ρ} {p q : String} {key k : Key} {r : ρ}

/-- The keys of the resources that answered `property`, in first-answer order. -/
def listed (reg : Registry ρ) (property : String) : List Key := (reg.answered.get? property).getD []

theorem findByProperty_eq (kind : Kind ρ σ α) (scope : Scope) (p : String) (reg : Registry ρ) :
    findByProperty kind scope p reg = ((reg.listed p).filter fun k => scope.includes k.scope).filterMap
      fun k => (reg.find? k).bind fun e => kind.unwrap? e.resource := rfl

/-! ### Look-ups -/

theorem find?_eq_some {e : Entry ρ} (h : reg.find? key = some e) : e ∈ reg.live ∧ e.key = key :=
  ⟨List.mem_of_find?_eq_some h, by simpa using List.find?_some h⟩

theorem find?_eq_none : reg.find? key = none ↔ ∀ e ∈ reg.live, e.key ≠ key := by
  simp [find?]

theorem find?_isSome : (reg.find? key).isSome ↔ ∃ e ∈ reg.live, e.key = key := by
  simp [find?]

/-- With one entry a key, every entry is the one found under its key. -/
theorem find?_of_mem (hk : (reg.live.map (·.key)).Nodup) {e : Entry ρ} (he : e ∈ reg.live) :
    reg.find? e.key = some e := by
  obtain ⟨e', he'⟩ := Option.isSome_iff_exists.1 (find?_isSome.2 ⟨e, he, rfl⟩)
  obtain ⟨hm, hkey⟩ := find?_eq_some he'
  rw [he', List.inj_on_of_nodup_map hk hm he hkey]

/-! ### Noting an answer -/

theorem note_eq_self (h : key ∈ reg.listed p) : reg.note p key = reg := if_pos h

theorem note_eq (h : key ∉ reg.listed p) :
    reg.note p key = { reg with answered := reg.answered.insert p (reg.listed p ++ [key]) } :=
  if_neg h

@[simp] theorem live_note : (reg.note p key).live = reg.live := by
  by_cases h : key ∈ reg.listed p
  · rw [note_eq_self h]
  · rw [note_eq h]

@[simp] theorem nextId_note : (reg.note p key).nextId = reg.nextId := by
  by_cases h : key ∈ reg.listed p
  · rw [note_eq_self h]
  · rw [note_eq h]

@[simp] theorem find?_note : (reg.note p key).find? k = reg.find? k := by
  rw [find?, live_note, find?]

theorem get?_note (h : key ∉ reg.listed p) : (reg.note p key).answered.get? q =
    if q = p then some (reg.listed p ++ [key]) else reg.answered.get? q := by
  rw [note_eq h]
  exact Dict.get?_insert ..

theorem listed_note : (reg.note p key).listed q =
    if q = p ∧ key ∉ reg.listed p then reg.listed p ++ [key] else reg.listed q := by
  by_cases h : key ∈ reg.listed p
  · rw [note_eq_self h, if_neg fun hq => hq.2 h]
  · rw [listed, get?_note h]
    by_cases hq : q = p
    · rw [if_pos hq, if_pos ⟨hq, h⟩]; rfl
    · rw [if_neg hq, if_neg fun hq' => hq hq'.1]; rfl

theorem mem_listed_note : k ∈ (reg.note p key).listed q ↔ k ∈ reg.listed q ∨ q = p ∧ k = key := by
  rw [listed_note]
  split
  · rename_i h; simp [h.1]
  · rename_i h
    refine ⟨.inl, ?_⟩
    rintro (hk | ⟨rfl, rfl⟩)
    · exact hk
    · exact Decidable.not_not.1 fun hk => h ⟨rfl, hk⟩

/-! ### Registering a resource -/

@[simp] theorem live_add : (reg.add p key r).live = reg.live ++ [⟨reg.nextId, key, r⟩] := by
  simp [add]

@[simp] theorem nextId_add : (reg.add p key r).nextId = reg.nextId + 1 := by
  simp [add]

@[simp] theorem listed_add : (reg.add p key r).listed q = (reg.note p key).listed q := rfl

theorem find?_add : (reg.add p key r).find? k =
    (reg.find? k).or (if k = key then some ⟨reg.nextId, key, r⟩ else none) := by
  rw [find?, live_add, List.find?_append, ← find?]
  by_cases h : key = k <;> simp [h, eq_comm]

theorem find?_add_self (h : reg.find? key = none) :
    (reg.add p key r).find? key = some ⟨reg.nextId, key, r⟩ := by
  rw [find?_add, h, if_pos rfl]; rfl

theorem find?_add_of_ne (h : k ≠ key) : (reg.add p key r).find? k = reg.find? k := by
  rw [find?_add, if_neg h, Option.or_none]

/-! ### Taking out -/

theorem get?_forget (answered : Dict (List Key)) (gone : Key → Bool) :
    (forget answered gone).get? p =
      ((answered.get? p).map fun keys => keys.filter fun k => !gone k).filter fun keys => !keys.isEmpty := by
  rw [forget, Dict.get?_filter, Dict.get?_map]

theorem detach_of_isEmpty {scope : Scope}
    (h : (reg.live.filter fun e => scope.includes e.key.scope) = []) : reg.detach scope = ([], reg) := by
  simp [detach, List.partition_eq_filter_filter, h]

theorem detach_of_ne_nil {scope : Scope}
    (h : (reg.live.filter fun e => scope.includes e.key.scope) ≠ []) :
    reg.detach scope = (reg.live.filter fun e => scope.includes e.key.scope,
      { reg with
        live := reg.live.filter fun e => !scope.includes e.key.scope
        answered := forget reg.answered fun k =>
          (reg.live.filter fun e => scope.includes e.key.scope).any fun e => e.key = k }) := by
  simp [detach, List.partition_eq_filter_filter, h, Function.comp_def]

namespace Target
variable (t : Target) (reg : Registry ρ)

@[simp] theorem takeOut_fst : (t.takeOut reg).1 = reg.live.filter fun e => t.covers e.key := by
  cases t with
  | within scope =>
    by_cases h : (reg.live.filter fun e => scope.includes e.key.scope) = []
    · simp only [takeOut, detach_of_isEmpty h, covers, h]
    · simp only [takeOut, detach_of_ne_nil h, covers]
  | everything => simp [takeOut, detachAll, covers]

@[simp] theorem live_takeOut :
    (t.takeOut reg).2.live = reg.live.filter fun e => !t.covers e.key := by
  cases t with
  | within scope =>
    by_cases h : (reg.live.filter fun e => scope.includes e.key.scope) = []
    · simp only [takeOut, detach_of_isEmpty h, covers]
      refine (List.filter_eq_self.2 fun e he => ?_).symm
      simpa using List.filter_eq_nil_iff.1 h e he
    · simp only [takeOut, detach_of_ne_nil h, covers]
  | everything => simp [takeOut, detachAll, covers]

@[simp] theorem nextId_takeOut : (t.takeOut reg).2.nextId = reg.nextId := by
  cases t with
  | within scope =>
    by_cases h : (reg.live.filter fun e => scope.includes e.key.scope) = []
    · simp only [takeOut, detach_of_isEmpty h]
    · simp only [takeOut, detach_of_ne_nil h]
  | everything => rfl

theorem find?_takeOut :
    (t.takeOut reg).2.find? k = if t.covers k then none else reg.find? k := by
  rw [find?, live_takeOut, List.find?_filter, find?]
  split
  · rename_i h
    refine List.find?_eq_none.2 fun e _ he => ?_
    obtain ⟨hc, hk⟩ := by simpa using he
    rw [hk, h] at hc; cases hc
  · rename_i h
    refine congrArg (List.find? · reg.live) (funext fun e => ?_)
    by_cases hk : e.key = k <;> simp [hk, h]

end Target

/-! ### What a call can come to -/

section
variable [Held ρ σ]

/-- What making and starting a resource can come to. -/
inductive Made (kind : Kind ρ σ α) (key : Key) (make : σ → Except Fault α × σ) (world : σ) :
    Except Error α × σ → Prop
  | notMade {cause w} (hm : make world = (.error cause, w)) :
    Made kind key make world (.error (.create key cause), w)
  | notStarted {a w cause a' w'} (hm : make world = (.ok a, w))
    (hs : kind.start a w = (.error cause, a', w')) :
    Made kind key make world (.error (.start key cause), (Held.close (kind.wrap a') w').2)
  | started {a w a' w'} (hm : make world = (.ok a, w)) (hs : kind.start a w = (.ok (), a', w')) :
    Made kind key make world (.ok a', w')

theorem bringUp_made (kind : Kind ρ σ α) (key : Key) (make : σ → Except Fault α × σ) (world : σ) :
    Made kind key make world (bringUp kind key make world) := by
  unfold bringUp
  split
  · rename_i hm; exact .notMade hm
  · rename_i hm
    split
    · rename_i hs; exact .notStarted hm hs
    · rename_i hs; exact .started hm hs

/-- What a call of `getOrCreate` can come to. -/
inductive Got (kind : Kind ρ σ α) (property : String) (key : Key) (make : σ → Except Fault α × σ)
    (reg : Registry ρ) (world : σ) : Except Error α × Registry ρ × σ → Prop
  | found {e a} (hf : reg.find? key = some e) (ha : kind.unwrap? e.resource = some a) :
    Got kind property key make reg world (.ok a, reg.note property key, world)
  | mismatch {e} (hf : reg.find? key = some e) (ha : kind.unwrap? e.resource = none) :
    Got kind property key make reg world
      (.error (.typeMismatch key kind.label), reg.note property key, world)
  | failed {e w} (hf : reg.find? key = none) (hb : bringUp kind key make world = (.error e, w)) :
    Got kind property key make reg world (.error e, reg, w)
  | created {a w} (hf : reg.find? key = none) (hb : bringUp kind key make world = (.ok a, w)) :
    Got kind property key make reg world (.ok a, reg.add property key (kind.wrap a), w)

theorem getOrCreate_got (kind : Kind ρ σ α) (property : String) (key : Key)
    (make : σ → Except Fault α × σ) (reg : Registry ρ) (world : σ) :
    Got kind property key make reg world (reg.getOrCreate kind property key make world) := by
  unfold getOrCreate lookUp
  cases hf : reg.find? key with
  | some e =>
    cases ha : kind.unwrap? e.resource with
    | some a => simpa only [ha] using Got.found hf ha
    | none => simpa only [ha] using Got.mismatch hf ha
  | none =>
    rcases hb : bringUp kind key make world with ⟨e | a, w⟩
    · simpa only [hb] using Got.failed hf hb
    · simpa only [hb] using Got.created hf hb

end

end Testbed.Registry
