import Testbed.Proofs.Registry.Searches

/-!
# Listings and searches as the history of a run gives them

What a registry shows is determined by the calls made so far. Call number `i` registers an entry that is
live after it and not before (`Registers`), and reaches an entry for `p` if it asks for `p` under the
entry's key and makes or finds it there (`Reaches`). Numbers of entries are never given out again, so an
entry is live in one stretch (`live_of_between`), and one made anew under an old key is another entry with a
history of its own.
-/

namespace Testbed.Registry

variable {ρ σ α : Type}

/-- The property and the key a call asks for. -/
def Call.request? : Call ρ σ → Option (String × Key)
  | getOrCreate _ p key _ => some (p, key)
  | closeScope _ | closeAll => none

/-- What a call tears down. -/
def Call.target? : Call ρ σ → Option Target
  | getOrCreate _ _ _ _ => none
  | closeScope scope => some (.within scope)
  | closeAll => some .everything

/-- Whether a call tears down what lives under `key`. -/
def Call.tearsDown (key : Key) (call : Call ρ σ) : Bool := call.target?.any (Target.covers key)

theorem Call.tearsDown_of_request? {call : Call ρ σ} {r : String × Key} (h : call.request? = some r)
    (key : Key) : call.tearsDown key = false := by
  cases call with
  | getOrCreate => rfl
  | closeScope | closeAll => cases h

section
variable [Held ρ σ]

/-- The state after the first `n` calls on an empty registry. -/
def stateAfter (calls : List (Call ρ σ)) (world : σ) (n : Nat) : Registry ρ × σ :=
  performAll (calls.take n) (empty, world)

/-- Call number `i` registers `e`. -/
def Registers (calls : List (Call ρ σ)) (world : σ) (i : Nat) (e : Entry ρ) : Prop :=
  e ∉ (stateAfter calls world i).1.live ∧ e ∈ (stateAfter calls world (i + 1)).1.live

/-- Call number `i` asks for `p` and makes or finds `e`, also if it wants another kind of resource. -/
def Reaches (calls : List (Call ρ σ)) (world : σ) (p : String) (i : Nat) (e : Entry ρ) : Prop :=
  (∃ call, calls[i]? = some call ∧ call.request? = some (p, e.key)) ∧
    (Registers calls world i e ∨ e ∈ (stateAfter calls world i).1.live)

/-- Call number `i` is the first to reach `e` for `p`. -/
def ReachesFirst (calls : List (Call ρ σ)) (world : σ) (p : String) (i : Nat) (e : Entry ρ) : Prop :=
  Reaches calls world p i e ∧ ∀ j < i, ¬ Reaches calls world p j e

variable {calls : List (Call ρ σ)} {world : σ} {p : String} {i j n m : Nat} {e f : Entry ρ}
  {call : Call ρ σ}

/-! ### One call -/

theorem perform_of_request? {key : Key} {s : Registry ρ × σ} (h : call.request? = some (p, key))
    (hc : s.1.Consistent) : Asked p key s.1 (call.perform s).1 := by
  cases call with
  | getOrCreate kind q k make =>
    cases h
    exact asked_of_getOrCreate hc kind p key make s.2
  | closeScope | closeAll => cases h

/-- A call that asks for nothing is a teardown. -/
theorem perform_of_request?_eq_none (h : call.request? = none) (s : Registry ρ × σ) :
    ∃ t, call.target? = some t ∧ (call.perform s).1 = (t.takeOut s.1).2 := by
  cases call with
  | getOrCreate => cases h
  | closeScope scope => exact ⟨.within scope, rfl, rfl⟩
  | closeAll => exact ⟨.everything, rfl, rfl⟩

/-- A live entry stays unless the call tears it down. -/
theorem mem_live_perform {s : Registry ρ × σ} (hc : s.1.Consistent) (he : e ∈ s.1.live) :
    e ∈ (call.perform s).1.live ↔ call.tearsDown e.key = false := by
  cases hr : call.request? with
  | some r =>
    obtain ⟨q, key⟩ := r
    have hstay : e ∈ (call.perform s).1.live := (perform_of_request? hr hc).live_subset he
    exact ⟨fun _ => Call.tearsDown_of_request? hr e.key, fun _ => hstay⟩
  | none =>
    obtain ⟨t, ht, hreg⟩ := perform_of_request?_eq_none hr s
    rw [hreg, Target.live_takeOut, List.mem_filter, Call.tearsDown, ht]
    simp [he]

/-! ### States of a run -/

theorem stateAfter_succ (h : calls[n]? = some call) :
    stateAfter calls world (n + 1) = call.perform (stateAfter calls world n) := by
  rw [stateAfter, List.take_add_one, h, Option.toList_some, performAll_append]
  rfl

theorem stateAfter_of_length_le (h : calls.length ≤ n) :
    stateAfter calls world n = performAll calls (empty, world) := by
  rw [stateAfter, List.take_of_length_le h]

/-- A state is the one before or what a call makes of it. -/
theorem stateAfter_succ_cases (calls : List (Call ρ σ)) (world : σ) (n : Nat) :
    stateAfter calls world (n + 1) = stateAfter calls world n ∨
      ∃ call, calls[n]? = some call ∧
        stateAfter calls world (n + 1) = call.perform (stateAfter calls world n) := by
  cases h : calls[n]? with
  | none =>
    have hlen : calls.length ≤ n := List.getElem?_eq_none_iff.1 h
    rw [stateAfter_of_length_le hlen, stateAfter_of_length_le (Nat.le_succ_of_le hlen)]
    exact .inl rfl
  | some call => exact .inr ⟨call, rfl, stateAfter_succ h⟩

theorem consistent_stateAfter (calls : List (Call ρ σ)) (world : σ) (n : Nat) :
    (stateAfter calls world n).1.Consistent := consistent_empty.performAll _

theorem change_stateAfter (calls : List (Call ρ σ)) (world : σ) (n : Nat) :
    Change (stateAfter calls world n).1 (stateAfter calls world (n + 1)).1 := by
  rcases stateAfter_succ_cases calls world n with h | ⟨call, -, h⟩
  · rw [h]; exact .same
  · rw [h]; exact call.change _

theorem nextId_mono (calls : List (Call ρ σ)) (world : σ) (h : n ≤ m) :
    (stateAfter calls world n).1.nextId ≤ (stateAfter calls world m).1.nextId := by
  induction h with
  | refl => exact Nat.le_refl _
  | step _ ih => exact Nat.le_trans ih (change_stateAfter calls world _).nextId_le

/-! ### The stretch in which an entry is live -/

/-- A number given out does not come back. -/
theorem not_mem_live_of_id_lt (he : e ∉ (stateAfter calls world n).1.live)
    (hid : e.id < (stateAfter calls world n).1.nextId) (h : n ≤ m) :
    e ∉ (stateAfter calls world m).1.live := by
  induction h with
  | refl => exact he
  | @step m h ih =>
    intro hm
    have hnew : e.id = (stateAfter calls world m).1.nextId := (change_stateAfter calls world m).id_eq hm ih
    have hle := nextId_mono calls world h
    omega

theorem live_of_between (hi : e ∈ (stateAfter calls world i).1.live)
    (hm : e ∈ (stateAfter calls world m).1.live) (hin : i ≤ n) (hnm : n ≤ m) :
    e ∈ (stateAfter calls world n).1.live := by
  by_contra hn
  have hid : e.id < (stateAfter calls world n).1.nextId :=
    Nat.lt_of_lt_of_le ((consistent_stateAfter calls world i).id_lt e hi) (nextId_mono calls world hin)
  exact not_mem_live_of_id_lt hn hid hnm hm

theorem Registers.id_eq (h : Registers calls world i e) : e.id = (stateAfter calls world i).1.nextId :=
  (change_stateAfter calls world i).id_eq h.2 h.1

/-- What is registered was made and started by the call, under a key where nothing was live. -/
theorem Registers.made (h : Registers calls world i e) :
    ∃ (α : Type) (kind : Kind ρ σ α) (q : String) (make : σ → Except Fault α × σ) (a : α) (w : σ),
      calls[i]? = some (.getOrCreate kind q e.key make) ∧
      (stateAfter calls world i).1.find? e.key = none ∧
      bringUp kind e.key make (stateAfter calls world i).2 = (.ok a, w) ∧ e.resource = kind.wrap a := by
  obtain ⟨hold, hnew⟩ := h
  rcases stateAfter_succ_cases calls world i with hs | ⟨call, hcall, hs⟩
  · rw [hs] at hnew; exact absurd hnew hold
  · rw [hs] at hnew
    cases call with
    | getOrCreate kind q key make =>
      rw [Call.perform] at hnew
      have hg := getOrCreate_got kind q key make (stateAfter calls world i).1 (stateAfter calls world i).2
      generalize (stateAfter calls world i).1.getOrCreate kind q key make (stateAfter calls world i).2 = r
        at hg hnew
      cases hg with
      | found | mismatch => rw [live_note] at hnew; exact absurd hnew hold
      | failed => exact absurd hnew hold
      | @created a w hf hb =>
        rw [live_add, List.mem_append, List.mem_singleton] at hnew
        obtain rfl := hnew.resolve_left hold
        exact ⟨_, kind, q, make, a, w, hcall, hf, hb, rfl⟩
    | closeScope scope =>
      rw [perform_closeScope, Target.perform, Target.live_takeOut] at hnew
      exact absurd (List.mem_of_mem_filter hnew) hold
    | closeAll => exact absurd hnew List.not_mem_nil

/-- It is not live before its registration. -/
theorem Registers.lt_of_mem (h : Registers calls world i e) (hn : e ∈ (stateAfter calls world n).1.live) :
    i < n := by
  by_contra hni
  exact h.1 (live_of_between hn h.2 (Nat.le_of_not_lt hni) (Nat.le_succ i))

theorem Registers.eq (h : Registers calls world i e) (h' : Registers calls world j e) : i = j := by
  have hij : i < j + 1 := h.lt_of_mem h'.2
  have hji : j < i + 1 := h'.lt_of_mem h.2
  omega

theorem Registers.lt_of_id_lt (h : Registers calls world i e) (h' : Registers calls world j f)
    (hid : e.id < f.id) : i < j := by
  by_contra hji
  have hle := nextId_mono calls world (Nat.le_of_not_lt hji)
  rw [← h.id_eq, ← h'.id_eq] at hle
  omega

theorem exists_registers (h : e ∈ (stateAfter calls world n).1.live) :
    ∃ i < n, Registers calls world i e := by
  induction n with
  | zero => exact absurd h List.not_mem_nil
  | succ n ih =>
    by_cases hn : e ∈ (stateAfter calls world n).1.live
    · obtain ⟨i, hi, hreg⟩ := ih hn
      exact ⟨i, Nat.lt_succ_of_lt hi, hreg⟩
    · exact ⟨n, Nat.lt_succ_self n, hn, h⟩

/-- It stays live while no call tears its key down. -/
theorem Registers.live_of_untouched (h : Registers calls world i e)
    (hkeep : ∀ j call, i < j → calls[j]? = some call → call.tearsDown e.key = false) (hin : i < n) :
    e ∈ (stateAfter calls world n).1.live := by
  induction n with
  | zero => exact absurd hin (Nat.not_lt_zero i)
  | succ n ih =>
    rcases Nat.lt_succ_iff_lt_or_eq.1 hin with hlt | rfl
    · rcases stateAfter_succ_cases calls world n with hs | ⟨call, hcall, hs⟩
      · rw [hs]; exact ih hlt
      · rw [hs]
        exact (mem_live_perform (consistent_stateAfter calls world n) (ih hlt)).2 (hkeep n call hlt hcall)
    · exact h.2

/-- Live is what was registered and not torn down since. -/
theorem mem_live_iff : e ∈ (performAll calls (empty, world)).1.live ↔
    ∃ i, Registers calls world i e ∧
      ∀ j call, i < j → calls[j]? = some call → call.tearsDown e.key = false := by
  have hend : stateAfter calls world calls.length = performAll calls (empty, world) :=
    stateAfter_of_length_le (Nat.le_refl _)
  constructor
  · intro he
    rw [← hend] at he
    obtain ⟨i, -, hreg⟩ := exists_registers he
    refine ⟨i, hreg, fun j call hij hcall => ?_⟩
    have hj : j < calls.length := (List.getElem?_eq_some_iff.1 hcall).1
    have hbefore : e ∈ (stateAfter calls world j).1.live :=
      live_of_between hreg.2 he hij (Nat.le_of_lt hj)
    have hafter : e ∈ (stateAfter calls world (j + 1)).1.live :=
      live_of_between hreg.2 he (Nat.le_succ_of_le hij) hj
    rw [stateAfter_succ hcall] at hafter
    exact (mem_live_perform (consistent_stateAfter calls world j) hbefore).1 hafter
  · rintro ⟨i, hreg, hkeep⟩
    have hi : i < calls.length := by
      by_contra hi
      have hlen := Nat.le_of_not_lt hi
      refine hreg.1 ?_
      rw [stateAfter_of_length_le hlen, ← stateAfter_of_length_le (Nat.le_succ_of_le hlen)]
      exact hreg.2
    rw [← hend]
    exact hreg.live_of_untouched hkeep hi

/-! ### The order of answers -/

theorem reaches_iff : Reaches calls world p i e ↔
    (∃ call, calls[i]? = some call ∧ call.request? = some (p, e.key)) ∧
      e ∈ (stateAfter calls world (i + 1)).1.live := by
  constructor
  · rintro ⟨⟨call, hcall, hr⟩, hreg | hold⟩
    · exact ⟨⟨call, hcall, hr⟩, hreg.2⟩
    · refine ⟨⟨call, hcall, hr⟩, ?_⟩
      rw [stateAfter_succ hcall]
      have hkeep := Call.tearsDown_of_request? hr e.key
      exact (mem_live_perform (consistent_stateAfter calls world i) hold).2 hkeep
  · rintro ⟨hcall, hnew⟩
    by_cases hold : e ∈ (stateAfter calls world i).1.live
    · exact ⟨hcall, .inr hold⟩
    · exact ⟨hcall, .inl ⟨hold, hnew⟩⟩

theorem Reaches.live (h : Reaches calls world p i e) : e ∈ (stateAfter calls world (i + 1)).1.live :=
  (reaches_iff.1 h).2

theorem exists_reachesFirst (h : Reaches calls world p i e) :
    ∃ j ≤ i, ReachesFirst calls world p j e := by
  induction i using Nat.strongRecOn with
  | _ i ih =>
    by_cases hj : ∃ j < i, Reaches calls world p j e
    · obtain ⟨j, hji, hj⟩ := hj
      obtain ⟨k, hk, hfirst⟩ := ih j hji hj
      exact ⟨k, Nat.le_trans hk (Nat.le_of_lt hji), hfirst⟩
    · exact ⟨i, Nat.le_refl i, h, fun j hji hr => hj ⟨j, hji, hr⟩⟩

/-- A call that reaches an entry comes not before its registration. -/
theorem Registers.le_of_reaches (h : Registers calls world i e) (hr : Reaches calls world p j e) : i ≤ j :=
  Nat.le_of_lt_succ (h.lt_of_mem hr.live)

theorem Reaches.lt_length (h : Reaches calls world p i e) : i < calls.length := by
  obtain ⟨⟨call, hcall, -⟩, -⟩ := h
  exact (List.getElem?_eq_some_iff.1 hcall).1

/-- What was reached before and is live now was live all along. -/
theorem Reaches.mem_live (h : Reaches calls world p i e) (hin : i < n)
    (he : e ∈ (stateAfter calls world (n + 1)).1.live) : e ∈ (stateAfter calls world n).1.live :=
  live_of_between h.live he hin (Nat.le_succ n)

/-- What answers `p` is what is live and was reached for `p`, in the order in which it first was. -/
structure Chronicled (calls : List (Call ρ σ)) (world : σ) (p : String) (n : Nat) : Prop where
  mem_iff : ∀ e, e ∈ (stateAfter calls world n).1.answerers p ↔
    e ∈ (stateAfter calls world n).1.live ∧ ∃ i < n, Reaches calls world p i e
  ordered : ((stateAfter calls world n).1.answerers p).Pairwise fun e f =>
    ∃ i j, i < j ∧ ReachesFirst calls world p i e ∧ ReachesFirst calls world p j f

namespace Chronicled

/-- A call that asks for nothing reaches nothing, and a teardown filters. -/
theorem takeOut (h : Chronicled calls world p n) {t : Target}
    (hnone : ∀ e, ¬ Reaches calls world p n e)
    (hreg : (stateAfter calls world (n + 1)).1 = (t.takeOut (stateAfter calls world n).1).2) :
    Chronicled calls world p (n + 1) := by
  have hans := answerers_takeOut (p := p) (consistent_stateAfter calls world n) t
  refine ⟨fun e => ?_, ?_⟩
  · rw [Nat.exists_lt_succ_right, hreg, hans, List.mem_filter, h.mem_iff, Target.live_takeOut,
      List.mem_filter]
    constructor
    · rintro ⟨⟨hm, hr⟩, hcov⟩
      exact ⟨⟨hm, hcov⟩, .inl hr⟩
    · rintro ⟨⟨hm, hcov⟩, hr | hr⟩
      · exact ⟨⟨hm, hr⟩, hcov⟩
      · exact absurd hr (hnone e)
  · rw [hreg, hans]
    exact h.ordered.filter _

/-- A call that asks for `q` under `key` puts what is then live there behind the answers to `q`. -/
theorem asked (h : Chronicled calls world p n) {q : String} {key : Key} (hcall : calls[n]? = some call)
    (hr : call.request? = some (q, key)) : Chronicled calls world p (n + 1) := by
  have hc := consistent_stateAfter calls world n
  have hc' := consistent_stateAfter calls world (n + 1)
  have ha : Asked q key (stateAfter calls world n).1 (stateAfter calls world (n + 1)).1 := by
    rw [stateAfter_succ hcall]; exact perform_of_request? hr hc
  -- what this call adds to the answers is under its key, and was not reached for `p` before
  have hnew {e : Entry ρ} (he : e ∈ if p = q ∧ key ∉ (stateAfter calls world n).1.listed q then
      ((stateAfter calls world (n + 1)).1.find? key).toList else []) :
      ReachesFirst calls world p n e := by
    split at he
    · rename_i hq
      obtain ⟨rfl, hlisted⟩ := hq
      obtain ⟨hm, rfl⟩ := find?_eq_some (Option.mem_toList.1 he)
      refine ⟨reaches_iff.2 ⟨⟨call, hcall, hr⟩, hm⟩, fun j hj hreach => hlisted ?_⟩
      exact ((mem_answerers hc).1 ((h.mem_iff e).2 ⟨hreach.mem_live hj hm, j, hj, hreach⟩)).2
    · exact absurd he List.not_mem_nil
  refine ⟨fun e => ?_, ?_⟩
  · rw [Nat.exists_lt_succ_right, ha.answerers, List.mem_append, h.mem_iff]
    constructor
    · rintro (⟨hm, hreach⟩ | he)
      · exact ⟨ha.live_subset hm, .inl hreach⟩
      · exact ⟨(hnew he).1.live, .inr (hnew he).1⟩
    · rintro ⟨hm, ⟨i, hi, hreach⟩ | hreach⟩
      · exact .inl ⟨hreach.mem_live hi hm, i, hi, hreach⟩
      · obtain ⟨⟨call', hcall', hr'⟩, -⟩ := hreach
        rw [hcall] at hcall'
        cases hcall'
        rw [hr] at hr'
        cases hr'
        by_cases hlisted : e.key ∈ (stateAfter calls world n).1.listed p
        · -- listed, so live before, and no other entry has its key
          obtain ⟨f, hf⟩ := hc.mem_listed_find? hlisted
          obtain ⟨hfm, hkey⟩ := find?_eq_some hf
          have hsame : some f = some e := by
            rw [← hc'.find?_of_mem (ha.live_subset hfm), ← hc'.find?_of_mem hm, hkey]
          cases hsame
          exact .inl ((h.mem_iff e).1 ((mem_answerers hc).2 ⟨hfm, hlisted⟩))
        · rw [if_pos ⟨rfl, hlisted⟩]
          exact .inr (Option.mem_toList.2 (hc'.find?_of_mem hm))
  · rw [ha.answerers]
    refine List.pairwise_append.2 ⟨h.ordered, ?_, fun e he f hf => ?_⟩
    · split
      · cases (stateAfter calls world (n + 1)).1.find? key with
        | none => exact .nil
        | some f => exact List.pairwise_singleton _ f
      · exact .nil
    · obtain ⟨-, i, hi, hreach⟩ := (h.mem_iff e).1 he
      obtain ⟨j, hj, hfirst⟩ := exists_reachesFirst hreach
      exact ⟨j, n, Nat.lt_of_le_of_lt hj hi, hfirst, hnew hf⟩

end Chronicled

theorem chronicled (calls : List (Call ρ σ)) (world : σ) (p : String) (n : Nat) :
    Chronicled calls world p n := by
  induction n with
  | zero => exact ⟨fun e => ⟨fun he => absurd he List.not_mem_nil, fun he => absurd he.1 List.not_mem_nil⟩, .nil⟩
  | succ n ih =>
    cases hcall : calls[n]? with
    | none =>
      have hnone (e : Entry ρ) : ¬ Reaches calls world p n e := by
        rintro ⟨⟨call, h, -⟩, -⟩
        rw [hcall] at h
        cases h
      have hsame : stateAfter calls world (n + 1) = stateAfter calls world n := by
        rcases stateAfter_succ_cases calls world n with h | ⟨call, h, -⟩
        · exact h
        · rw [hcall] at h; cases h
      refine ⟨fun e => ?_, ?_⟩
      · rw [hsame, ih.mem_iff, Nat.exists_lt_succ_right]
        simp only [hnone, or_false]
      · rw [hsame]; exact ih.ordered
    | some call =>
      cases hr : call.request? with
      | some r => exact ih.asked hcall hr
      | none =>
        obtain ⟨t, -, hreg⟩ := perform_of_request?_eq_none hr (stateAfter calls world n)
        rw [← stateAfter_succ hcall] at hreg
        refine ih.takeOut (fun e hreach => ?_) hreg
        obtain ⟨⟨call', h, hr'⟩, -⟩ := hreach
        rw [hcall] at h
        cases h
        rw [hr] at hr'
        cases hr'

/-! ### Listings and searches -/

def Entry.snapshot [Described ρ] (e : Entry ρ) : Snapshot := ⟨e.id, e.key, Described.info e.resource⟩

/-- After any calls on an empty registry: live is what some call registered and none tore down since; a
listing gives the live resources of the scope in the order in which they were registered; and a search
gives the live resources of the scope and kind that some call reached for the property, in the order in
which one first did. Every entry is registered once, and no call reaches it before. -/
theorem views_of_history [Described ρ] (calls : List (Call ρ σ)) (world : σ) :
    let reg := (performAll calls (empty, world)).1
    (∀ e, e ∈ reg.live ↔ ∃ i, Registers calls world i e ∧
      ∀ j call, i < j → calls[j]? = some call → call.tearsDown e.key = false) ∧
    (∀ scope, ∃ es : List (Entry ρ), reg.list scope = es.map Entry.snapshot ∧
      (∀ e, e ∈ es ↔ e ∈ reg.live ∧ scope.includes e.key.scope) ∧
      es.Pairwise fun e f => ∃ i j, i < j ∧ Registers calls world i e ∧ Registers calls world j f) ∧
    (∀ {τ α : Type} (kind : Kind ρ τ α) scope p, ∃ es : List (Entry ρ),
      findByProperty kind scope p reg = es.filterMap (fun e => kind.unwrap? e.resource) ∧
      (∀ e, e ∈ es ↔ e ∈ reg.live ∧ scope.includes e.key.scope ∧ (kind.unwrap? e.resource).isSome ∧
        ∃ i, Reaches calls world p i e) ∧
      es.Pairwise fun e f =>
        ∃ i j, i < j ∧ ReachesFirst calls world p i e ∧ ReachesFirst calls world p j f) ∧
    ∀ e i, Registers calls world i e →
      (∃ (α : Type) (kind : Kind ρ σ α) (q : String) (make : σ → Except Fault α × σ) (a : α) (w : σ),
        calls[i]? = some (.getOrCreate kind q e.key make) ∧
        (stateAfter calls world i).1.find? e.key = none ∧
        bringUp kind e.key make (stateAfter calls world i).2 = (.ok a, w) ∧ e.resource = kind.wrap a) ∧
      (∀ j, Registers calls world j e → j = i) ∧ ∀ p j, Reaches calls world p j e → i ≤ j := by
  intro reg
  have hend : stateAfter calls world calls.length = performAll calls (empty, world) :=
    stateAfter_of_length_le (Nat.le_refl _)
  have hc : reg.Consistent := consistent_empty.performAll calls
  refine ⟨fun e => mem_live_iff, fun scope => ?_, fun kind scope p => ?_, fun e i h => ?_⟩
  · refine ⟨reg.live.filter fun e => scope.includes e.key.scope, rfl, fun e => List.mem_filter, ?_⟩
    refine List.Pairwise.imp_of_mem (fun {e f} he hf hid => ?_) (hc.ids.filter _)
    obtain ⟨i, hi, -⟩ := mem_live_iff.1 (List.mem_of_mem_filter he)
    obtain ⟨j, hj, -⟩ := mem_live_iff.1 (List.mem_of_mem_filter hf)
    exact ⟨i, j, hi.lt_of_id_lt hj hid, hi, hj⟩
  · have hch := chronicled calls world p calls.length
    have hreg : (stateAfter calls world calls.length).1 = reg := congrArg Prod.fst hend
    refine ⟨found kind scope p reg, findByProperty_eq_found kind scope p reg, fun e => ?_, ?_⟩
    · have hmem := hch.mem_iff e
      rw [hreg, mem_answerers hc] at hmem
      rw [mem_found hc]
      constructor
      · rintro ⟨hm, hs, hu, hk⟩
        obtain ⟨-, i, -, hi⟩ := hmem.1 ⟨hm, hk⟩
        exact ⟨hm, hs, hu, i, hi⟩
      · rintro ⟨hm, hs, hu, i, hi⟩
        exact ⟨hm, hs, hu, (hmem.2 ⟨hm, i, hi.lt_length, hi⟩).2⟩
    · have hord := hch.ordered
      rw [hreg] at hord
      exact hord.filter _
  · exact ⟨h.made, fun j hj => hj.eq h, fun p j hj => h.le_of_reaches hj⟩

end

section
open Rehearsal

/-- A resource closed and made anew: it comes last, and no earlier call reached it. -/
theorem order_of_recreated :
    let a : Key := ⟨"o", "a", ⟨["x"]⟩, ∅⟩
    let b : Key := ⟨"o", "b", .root, ∅⟩
    let world : Stage Daemon := { runtime := {} }
    let calls : List (Call Player (Stage Daemon)) :=
      [.standIn "A" "p" a {}, .standIn "A" "p" b {}, .closeScope ⟨["x"]⟩, .standIn "A" "p" a {}]
    let reg := (performAll calls (empty, world)).1
    let kind : Kind Player (Stage Daemon) StandIn := Player.standIns "A"
    (reg.list .root).map (·.key) = [b, a] ∧
      (findByProperty kind .root "p" reg).map (·.serial) = [2, 3] ∧
      ∃ e, e.key = a ∧ Registers calls world 3 e ∧ ∀ j, Reaches calls world "p" j e → 3 ≤ j := by
  intro a b world calls reg kind
  have hbefore : (stateAfter calls world 3).1.live.map (·.id) = [2] := by decide +kernel
  have hafter : (stateAfter calls world (3 + 1)).1.live.map (fun e => (e.id, e.key)) = [(2, b), (3, a)] := by
    decide +kernel
  have hlast : (3, a) ∈ (stateAfter calls world (3 + 1)).1.live.map fun e => (e.id, e.key) := by
    rw [hafter]; exact .tail _ (.head _)
  obtain ⟨e, he, hpair⟩ := List.mem_map.1 hlast
  obtain ⟨hid, hkey⟩ := Prod.mk.inj hpair
  have hnew : e ∉ (stateAfter calls world 3).1.live := by
    intro hold
    have hmem : e.id ∈ [2] := by
      rw [← hbefore]; exact List.mem_map_of_mem hold
    rw [hid] at hmem
    exact absurd hmem (by decide)
  have hreg : Registers calls world 3 e := ⟨hnew, he⟩
  refine ⟨by decide +kernel, by decide +kernel, e, hkey, hreg, ?_⟩
  exact ((views_of_history calls world).2.2.2 e 3 hreg).2.2 "p"

end

end Testbed.Registry
