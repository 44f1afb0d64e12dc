import Testbed.Proofs.Registry.Views
import Testbed.Rehearsal.Daemon
import Testbed.Rehearsal.Stage

/-!
# Runs of calls on a registry

A run performs calls one after another on a registry and the world its resources act on. Each call
names its own kind of resource, so one run mixes resources of any types. `Change` lists the four things
a call can leave behind: what was there, a noted answer, a new entry, or what a teardown keeps.
-/

namespace Testbed.Registry

variable {ρ σ : Type}

inductive Call (ρ σ : Type) : Type 1 where
  | getOrCreate {α : Type} (kind : Kind ρ σ α) (property : String) (key : Key)
    (make : σ → Except Fault α × σ)
  | closeScope (scope : Scope)
  | closeAll

section
variable [Held ρ σ]

/-- The registry and the world after a call. -/
def Call.perform : Call ρ σ → Registry ρ × σ → Registry ρ × σ
  | getOrCreate kind property key make, s => (s.1.getOrCreate kind property key make s.2).2
  | closeScope scope, s => (s.1.closeScope scope s.2).2
  | closeAll, s => (s.1.closeAll s.2).2

def performAll (calls : List (Call ρ σ)) (s : Registry ρ × σ) : Registry ρ × σ :=
  calls.foldl (fun s call => call.perform s) s

theorem performAll_cons (call : Call ρ σ) (calls : List (Call ρ σ)) (s : Registry ρ × σ) :
    performAll (call :: calls) s = performAll calls (call.perform s) := rfl

theorem performAll_append (calls more : List (Call ρ σ)) (s : Registry ρ × σ) :
    performAll (calls ++ more) s = performAll more (performAll calls s) := List.foldl_append

/-- What every call keeps, every run keeps. -/
theorem performAll_induction {P : Registry ρ × σ → Prop}
    (step : ∀ (call : Call ρ σ) s, P s → P (call.perform s)) (calls : List (Call ρ σ))
    {s : Registry ρ × σ} (h : P s) : P (performAll calls s) := by
  induction calls generalizing s with
  | nil => exact h
  | cons call calls ih => exact ih (step call s h)

/-! ### Teardowns -/

/-- Takes out what `target` names and closes it. -/
def Target.perform (target : Target) (s : Registry ρ × σ) : Registry ρ × σ :=
  ((target.takeOut s.1).2, closeEach (target.takeOut s.1).1 s.2)

theorem perform_closeScope (scope : Scope) (s : Registry ρ × σ) :
    (Call.closeScope scope).perform s = (Target.within scope).perform s := rfl

theorem perform_closeAll (s : Registry ρ × σ) :
    Call.closeAll.perform s = Target.everything.perform s := rfl

/-- What a call does to the registry. -/
inductive Change (reg : Registry ρ) : Registry ρ → Prop
  | same : Change reg reg
  | noted {p : String} {key : Key} (h : (reg.find? key).isSome) : Change reg (reg.note p key)
  | added {p : String} {key : Key} {r : ρ} (h : reg.find? key = none) : Change reg (reg.add p key r)
  | tookOut (t : Target) : Change reg (t.takeOut reg).2

theorem Change.nextId_le {reg reg' : Registry ρ} (h : Change reg reg') : reg.nextId ≤ reg'.nextId := by
  cases h with
  | same => exact Nat.le_refl _
  | noted => exact Nat.le_of_eq nextId_note.symm
  | added => rw [nextId_add]; exact Nat.le_succ _
  | tookOut t => exact Nat.le_of_eq (t.nextId_takeOut reg).symm

/-- What a call registers gets the next number. -/
theorem Change.id_eq {reg reg' : Registry ρ} (h : Change reg reg') {e : Entry ρ} (he : e ∈ reg'.live)
    (hnew : e ∉ reg.live) : e.id = reg.nextId := by
  cases h with
  | same => exact absurd he hnew
  | noted => rw [live_note] at he; exact absurd he hnew
  | added =>
    rw [live_add, List.mem_append, List.mem_singleton] at he
    rcases he with he | rfl
    · exact absurd he hnew
    · rfl
  | tookOut t =>
    rw [Target.live_takeOut] at he
    exact absurd (List.mem_of_mem_filter he) hnew

theorem Call.change (call : Call ρ σ) (s : Registry ρ × σ) : Change s.1 (call.perform s).1 := by
  cases call with
  | getOrCreate kind property key make =>
    have h := getOrCreate_got kind property key make s.1 s.2
    rw [perform]
    generalize s.1.getOrCreate kind property key make s.2 = r at h
    cases h with
    | found hf => exact .noted (by rw [hf]; rfl)
    | mismatch hf => exact .noted (by rw [hf]; rfl)
    | failed => exact .same
    | created hf => exact .added hf
  | closeScope scope => exact .tookOut (.within scope)
  | closeAll => exact .tookOut .everything

theorem nextId_le_performAll (calls : List (Call ρ σ)) (s : Registry ρ × σ) :
    s.1.nextId ≤ (performAll calls s).1.nextId :=
  performAll_induction (P := fun t => s.1.nextId ≤ t.1.nextId)
    (fun call t h => Nat.le_trans h (call.change t).nextId_le) calls (Nat.le_refl _)

end

/-- The call that gets a stand-in of the kind `label`, made as planned if there is none. -/
def Call.standIn {τ : Type} [Container.Runtime τ] (label property : String) (key : Key)
    (plan : Rehearsal.Plan) : Call Rehearsal.Player (Rehearsal.Stage τ) :=
  .getOrCreate (Rehearsal.Player.standIns label) property key (Rehearsal.makeStandIn plan)

end Testbed.Registry
