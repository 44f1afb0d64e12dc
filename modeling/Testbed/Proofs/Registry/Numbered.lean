import Testbed.Proofs.Registry.Runs

/-!
# Runs that tell resources apart

Resources are values, so two of them may be equal. To count what happens to each, a run is repeated in
a watched world: every resource made there gets the next number, and the world keeps a journal of the
starts and closes by number. Numbers change nothing else: a numbered run with its numbers erased is the
run itself (`erase_numberedRun`).
-/

namespace Testbed

variable {ρ σ α τ : Type}

namespace Registry

/-- A resource with the number of its making. -/
structure Numbered (α : Type) where
  number : Nat
  value : α

/-- A start or a close, with whether it succeeded. -/
inductive Mark where
  | started (number : Nat) (ok : Bool)
  | closed (number : Nat) (ok : Bool)
  deriving DecidableEq

def Mark.isStartOf (n : Nat) : Mark → Bool
  | started m _ => m = n
  | closed _ _ => false

def Mark.isCloseOf (n : Nat) : Mark → Bool
  | started _ _ => false
  | closed m _ => m = n

/-- A world that numbers the resources made in it. -/
structure Watched (σ : Type) where
  world : σ
  /-- The number of resources made, and the number of the next one. -/
  made : Nat := 0
  /-- What happened to them, oldest first. -/
  journal : List Mark := []

namespace Watched

def make (make : σ → Except Fault α × σ) (w : Watched σ) : Except Fault (Numbered α) × Watched σ :=
  match make w.world with
  | (.error cause, world) => (.error cause, { w with world })
  | (.ok a, world) => (.ok ⟨w.made, a⟩, { w with world, made := w.made + 1 })

def start (kind : Kind ρ σ α) (a : Numbered α) (w : Watched σ) :
    Except Fault Unit × Numbered α × Watched σ :=
  let (outcome, value, world) := kind.start a.value w.world
  (outcome, { a with value }, { w with world, journal := w.journal ++ [.started a.number outcome.isOk] })

instance [Held ρ σ] : Held (Numbered ρ) (Watched σ) where
  close r w :=
    let (outcome, world) := Held.close r.value w.world
    (outcome, { w with world, journal := w.journal ++ [.closed r.number outcome.isOk] })

def starts (w : Watched σ) (n : Nat) : Nat := w.journal.countP (Mark.isStartOf n)

def closes (w : Watched σ) (n : Nat) : Nat := w.journal.countP (Mark.isCloseOf n)

end Watched

end Registry

open Registry in
def Kind.numbered (kind : Kind ρ σ α) : Kind (Numbered ρ) (Watched σ) (Numbered α) where
  label := kind.label
  wrap a := ⟨a.number, kind.wrap a.value⟩
  unwrap? r := (kind.unwrap? r.value).map fun a => ⟨r.number, a⟩
  unwrap?_wrap a := by simp [kind.unwrap?_wrap]
  wrap_of_unwrap? h := by
    obtain ⟨a, ha, rfl⟩ := Option.map_eq_some_iff.1 h
    rw [kind.wrap_of_unwrap? ha]
  start := Watched.start kind

namespace Registry

def Call.numbered : Call ρ σ → Call (Numbered ρ) (Watched σ)
  | getOrCreate kind property key make => .getOrCreate kind.numbered property key (Watched.make make)
  | closeScope scope => .closeScope scope
  | closeAll => .closeAll

/-- The calls on an empty registry in a watched world. -/
def numberedRun [Held ρ σ] (calls : List (Call ρ σ)) (world : σ) : Registry (Numbered ρ) × Watched σ :=
  performAll (calls.map Call.numbered) (empty, { world })

/-! ### Erasing the numbers -/

def Entry.map (f : ρ → τ) (e : Entry ρ) : Entry τ := ⟨e.id, e.key, f e.resource⟩

/-- The registry with `f` applied to every resource. -/
def map (f : ρ → τ) (reg : Registry ρ) : Registry τ :=
  ⟨reg.live.map (Entry.map f), reg.answered, reg.nextId⟩

def erase (s : Registry (Numbered ρ) × Watched σ) : Registry ρ × σ := (s.1.map Numbered.value, s.2.world)

section
variable (f : ρ → τ) (reg : Registry ρ) (p : String) (key : Key)

theorem find?_map : (reg.map f).find? key = (reg.find? key).map (Entry.map f) :=
  List.find?_map ..

theorem map_note : (reg.note p key).map f = (reg.map f).note p key := by
  by_cases h : key ∈ reg.listed p
  · have hmap : key ∈ (reg.map f).listed p := h
    rw [note_eq_self h, note_eq_self hmap]
  · have hmap : key ∉ (reg.map f).listed p := h
    rw [note_eq h, note_eq hmap]; rfl

theorem map_add (r : ρ) : (reg.add p key r).map f = (reg.map f).add p key (f r) := by
  have hn := map_note f reg p key
  unfold add
  rw [← hn]
  simp [map, Entry.map]

theorem map_takeOut_fst (t : Target) :
    (t.takeOut reg).1.map (Entry.map f) = (t.takeOut (reg.map f)).1 := by
  rw [Target.takeOut_fst, Target.takeOut_fst, map, List.filter_map]
  rfl

theorem map_takeOut (t : Target) : (t.takeOut reg).2.map f = (t.takeOut (reg.map f)).2 := by
  cases t with
  | within scope =>
    have hf : ((reg.map f).live.filter fun e => scope.includes e.key.scope) =
        (reg.live.filter fun e => scope.includes e.key.scope).map (Entry.map f) := by
      rw [map, List.filter_map]; rfl
    by_cases h : (reg.live.filter fun e => scope.includes e.key.scope) = []
    · rw [Target.takeOut, Target.takeOut, detach_of_isEmpty h, detach_of_isEmpty (by rw [hf, h]; rfl)]
    · rw [Target.takeOut, Target.takeOut, detach_of_ne_nil h,
        detach_of_ne_nil (by rw [hf]; simpa using h), hf]
      simp [map, List.filter_map, List.any_map, Function.comp_def, Entry.map]
      rfl
  | everything => rfl

end

section
variable [Held ρ σ]

theorem world_closeEach (entries : List (Entry (Numbered ρ))) (w : Watched σ) :
    (closeEach entries w).world = closeEach (entries.map (Entry.map Numbered.value)) w.world := by
  induction entries generalizing w with
  | nil => rfl
  | cons e entries ih => exact ih _

theorem bringUp_numbered (kind : Kind ρ σ α) (key : Key) (make : σ → Except Fault α × σ) (w : Watched σ) :
    bringUp kind key make w.world =
      let (outcome, w) := bringUp kind.numbered key (Watched.make make) w
      (outcome.map Numbered.value, w.world) := by
  unfold bringUp Watched.make
  rcases make w.world with ⟨cause | a, world⟩
  · rfl
  · rcases hs : kind.start a world with ⟨cause | u, a', world'⟩ <;>
      simp only [Kind.numbered, Watched.start, hs] <;> rfl

theorem erase_perform (call : Call ρ σ) (s : Registry (Numbered ρ) × Watched σ) :
    erase (call.numbered.perform s) = call.perform (erase s) := by
  cases call with
  | getOrCreate kind p key make =>
    have hg := getOrCreate_got kind.numbered p key (Watched.make make) s.1 s.2
    have hb := bringUp_numbered kind key make s.2
    have hf := find?_map Numbered.value s.1 key
    simp only [Call.numbered, Call.perform]
    generalize s.1.getOrCreate kind.numbered p key (Watched.make make) s.2 = r at hg
    show _ = (Registry.getOrCreate kind p key make (s.1.map Numbered.value) s.2.world).2
    unfold getOrCreate lookUp
    rw [hf]
    cases hg with
    | found he ha =>
      obtain ⟨a, ha, -⟩ := Option.map_eq_some_iff.1 ha
      simp only [he, Option.map_some, erase, map_note]
    | mismatch he ha => simp only [he, Option.map_some, erase, map_note]
    | failed he hb' =>
      rw [hb'] at hb
      simp only [he, Option.map_none, hb]
      rfl
    | created he hb' =>
      rw [hb'] at hb
      simp only [he, Option.map_none, hb]
      rw [erase, map_add]
      rfl
  | closeScope scope =>
    show erase ((Target.within scope).perform s) = (Target.within scope).perform (erase s)
    simp only [Target.perform, erase, map_takeOut, world_closeEach, map_takeOut_fst]
  | closeAll =>
    show erase (Target.everything.perform s) = Target.everything.perform (erase s)
    simp only [Target.perform, erase, map_takeOut, world_closeEach, map_takeOut_fst]

theorem erase_numberedRun (calls : List (Call ρ σ)) (world : σ) :
    erase (numberedRun calls world) = performAll calls (empty, world) := by
  suffices ∀ s, erase (performAll (calls.map Call.numbered) s) = performAll calls (erase s) from this _
  induction calls with
  | nil => exact fun _ => rfl
  | cons call calls ih =>
    intro s
    rw [List.map_cons, performAll_cons, ih, erase_perform, performAll_cons]

end

end Registry

end Testbed
