import Testbed.Proofs.Server.Admission
import Testbed.Proofs.Server.Expiry
import Testbed.Rehearsal.Daemon
import Testbed.Rehearsal.Stage

/-!
# Denied requests leave no trace

A run of a server is a sequence of requests with time between them. A request that is not admissible is answered
401 and leaves the server in the state it was in (`step_of_not_admissible`), so a run with such requests and the
run without them go through the same states, and the shutdown is called for at the same time (`run_without_denied`).
-/

namespace Testbed.Server

/-! ### Runs -/

inductive Event where
  | elapse (ms : Nat)
  | request (remote : Address) (r : Http.Request)

/-- Time goes by in any case; a request is let in or not. -/
def Event.Admissible (token : Option String) : Event → Prop
  | elapse _ => True
  | request remote r => Server.Admissible token remote r

instance (token : Option String) : DecidablePred (Event.Admissible token)
  | .elapse _ => .isTrue trivial
  | .request remote r => inferInstanceAs (Decidable (Server.Admissible token remote r))

/-- What an event comes to: the response to a request, and the state behind it, which holds the registry, the world
with the calls of providers in it, the time, the last access, and the time for which a stop is due. -/
structure Sight (ρ σ : Type) where
  event : Event
  response : Option Http.Response
  state : State ρ σ

section
variable {ρ σ : Type} [Held ρ σ] [Described ρ] (server : Server (Site ρ σ))

def step : Event → State ρ σ → Option Http.Response × State ρ σ
  | .elapse ms, s => (none, s.advance ms)
  | .request remote r, s =>
    let (response, s) := server.handle remote r s
    (some response, s)

def sights : List Event → State ρ σ → List (Sight ρ σ)
  | [], _ => []
  | e :: events, s => ⟨e, (server.step e s).1, (server.step e s).2⟩ :: sights events (server.step e s).2

def after (events : List Event) (s : State ρ σ) : State ρ σ :=
  events.foldl (fun s e => (server.step e s).2) s

/-- The times at which the server was last accessed, from the beginning of a run on. -/
def accesses (events : List Event) (s : State ρ σ) : List Nat :=
  s.lastAccess :: (server.sights events s).map fun x => x.state.lastAccess

/-- When the shutdown is called for: as a stop is due, or as the server has been left alone for too long. -/
def shutdownAt (events : List Event) (s : State ρ σ) : Option Nat :=
  (server.after events s).stopAt.merge min (Idle.shutdownTime server.idleTimeout (server.accesses events s))

end

variable {ρ σ : Type} [Held ρ σ] [Described ρ] {server : Server (Site ρ σ)} {e : Event}

theorem step_of_not_admissible (h : ¬e.Admissible server.token) (s : State ρ σ) :
    ∃ response, response.status = 401 ∧ server.step e s = (some response, s) := by
  cases e with
  | elapse ms => exact absurd trivial h
  | request remote r =>
    obtain ⟨response, hstatus, hhandle⟩ := handle_of_not_admissible (s := s) h
    refine ⟨response, hstatus, ?_⟩
    rw [step, hhandle]

/-- A run beside the run without its denied requests: what is let in makes a step in both, and what is denied
makes one in the first that leads nowhere. -/
theorem denied_induction (server : Server (Site ρ σ)) {motive : List Event → List Event → State ρ σ → Prop}
    (nil : ∀ s, motive [] [] s)
    (admitted : ∀ e events events' s, e.Admissible server.token → motive events events' (server.step e s).2 →
      motive (e :: events) (e :: events') s)
    (denied : ∀ e events events' s response, ¬e.Admissible server.token → response.status = 401 →
      server.step e s = (some response, s) → motive events events' s → motive (e :: events) events' s)
    (events : List Event) (s : State ρ σ) :
    motive events (events.filter (Event.Admissible server.token)) s := by
  induction events generalizing s with
  | nil => exact nil s
  | cons e events ih =>
    by_cases he : e.Admissible server.token
    · rw [List.filter_cons_of_pos (by simpa using he)]
      exact admitted e _ _ s he (ih _)
    · rw [List.filter_cons_of_neg (by simpa using he)]
      obtain ⟨response, hstatus, hstep⟩ := step_of_not_admissible he s
      exact denied e _ _ s response he hstatus hstep (ih s)

theorem status_of_denied (events : List Event) (s : State ρ σ) :
    ∀ x ∈ server.sights events s, ¬x.event.Admissible server.token → ∃ response, x.response = some response ∧
      response.status = 401 := by
  refine denied_induction server (motive := fun events _ s => ∀ x ∈ server.sights events s,
    ¬x.event.Admissible server.token → ∃ response, x.response = some response ∧ response.status = 401)
    (fun _ => nofun) (fun e events _ s he ih => ?_) (fun e events _ s response he hstatus hstep ih => ?_) events s
  · rw [sights, List.forall_mem_cons]
    exact ⟨fun hne => absurd he hne, ih⟩
  · rw [sights, List.forall_mem_cons, hstep]
    exact ⟨fun _ => ⟨response, rfl, hstatus⟩, ih⟩

theorem status_of_admitted (hshow : Showable server.token) (events : List Event) (s : State ρ σ) :
    ∀ x ∈ server.sights events s, x.event.Admissible server.token → ∀ response, x.response = some response →
      response.status ≠ 401 := by
  induction events generalizing s with
  | nil => nofun
  | cons e events ih =>
    rw [sights, List.forall_mem_cons]
    refine ⟨fun he response hresponse => ?_, ih _⟩
    cases e with
    | elapse ms => cases hresponse
    | request remote r =>
      obtain rfl : _ = response := Option.some.inj hresponse
      exact status_of_admissible he hshow s

theorem sights_filter (events : List Event) (s : State ρ σ) :
    (server.sights events s).filter (fun x => x.event.Admissible server.token) =
      server.sights (events.filter (Event.Admissible server.token)) s := by
  refine denied_induction server (motive := fun events events' s =>
    (server.sights events s).filter (fun x => x.event.Admissible server.token) = server.sights events' s)
    (fun _ => rfl) (fun e events events' s he ih => ?_) (fun e events events' s response he _ hstep ih => ?_) events s
  · rw [sights, sights, List.filter_cons_of_pos (by simpa using he), ih]
  · rw [sights, List.filter_cons_of_neg (by simpa using he), hstep, ih]

theorem after_filter (events : List Event) (s : State ρ σ) :
    server.after events s = server.after (events.filter (Event.Admissible server.token)) s := by
  refine denied_induction server (motive := fun events events' s =>
    server.after events s = server.after events' s) (fun _ => rfl) (fun e events events' s _ ih => ih)
    (fun e events events' s response _ _ hstep ih => ?_) events s
  rw [← ih, after, List.foldl_cons, hstep, after]

theorem accesses_cons (e : Event) (events : List Event) (s : State ρ σ) :
    server.accesses (e :: events) s = s.lastAccess :: server.accesses events (server.step e s).2 := rfl

theorem mem_accesses_filter (events : List Event) (s : State ρ σ) (t : Nat) :
    t ∈ server.accesses events s ↔ t ∈ server.accesses (events.filter (Event.Admissible server.token)) s := by
  refine denied_induction server (motive := fun events events' s =>
    t ∈ server.accesses events s ↔ t ∈ server.accesses events' s) (fun _ => Iff.rfl)
    (fun e events events' s _ ih => ?_) (fun e events events' s response _ _ hstep ih => ?_) events s
  · rw [accesses_cons, accesses_cons, List.mem_cons, List.mem_cons, ih]
  · -- The time of the last access is told once more.
    have hself : s.lastAccess ∈ server.accesses events s := List.mem_cons_self
    rw [accesses_cons, hstep, List.mem_cons, ← ih]
    exact ⟨fun h => h.elim (fun ht => ht ▸ hself) id, .inr⟩

/-- Each request that is not admissible is answered 401, and no other if the token can be shown. Without all of
them every other request is answered as before, from and into the same states; the server is left as before, and
shut down if and when it was. -/
theorem run_without_denied (server : Server (Site ρ σ)) (events : List Event) (s : State ρ σ) :
    let admitted := events.filter (Event.Admissible server.token)
    (∀ x ∈ server.sights events s, ¬x.event.Admissible server.token →
      ∃ response, x.response = some response ∧ response.status = 401) ∧
    (Showable server.token → ∀ x ∈ server.sights events s, x.event.Admissible server.token →
      ∀ response, x.response = some response → response.status ≠ 401) ∧
    (server.sights events s).filter (fun x => x.event.Admissible server.token) = server.sights admitted s ∧
    server.after events s = server.after admitted s ∧
    server.shutdownAt events s = server.shutdownAt admitted s := by
  intro admitted
  refine ⟨status_of_denied events s, fun hshow => status_of_admitted hshow events s, sights_filter events s, after_filter events s, ?_⟩
  rw [shutdownAt, shutdownAt, after_filter, Idle.shutdownTime_congr (mem_accesses_filter events s)]

section
open Rehearsal

def guarded : Server (Cast Daemon) where
  engine := ⟨[]⟩
  token := some "open"
  idleTimeout := some 60000

def withToken (token : String) : List Http.Header := [("access-token", Text.utf8 token)]

/-- A stop from elsewhere and one with a wrong token come to nothing; the one that is let in does. -/
def attempts : List Event :=
  [.request (.v4 10 0 0 7) ⟨.post, "/stop", withToken "open", []⟩, .elapse 1000,
    .request (.v4 127 0 0 1) ⟨.post, "/stop", withToken "Open", []⟩, .elapse 500,
    .request (.v6 0 0 0 0 0 0xffff 0x7f00 1) ⟨.post, "/stop", withToken "open", []⟩, .elapse 70000,
    .request (.v4 127 0 0 1) ⟨.head, "/nowhere", [], []⟩]

theorem run_of_attempts :
    let opened : State Player (Stage Daemon) := { site := { world := { runtime := {} } } }
    (guarded.sights attempts opened).map (fun x => x.response.map (·.status)) =
      [some 401, none, some 401, none, some 200, none, some 401] ∧
    (guarded.after attempts opened).lastAccess = 1500 ∧ guarded.shutdownAt attempts opened = some 1700 := by
  intro opened
  obtain ⟨-, -, -, hafter, hshutdown⟩ := run_without_denied guarded attempts opened
  refine ⟨by decide +kernel, ?_, ?_⟩
  · rw [hafter]
    decide +kernel
  · rw [hshutdown]
    decide +kernel

end

end Testbed.Server
