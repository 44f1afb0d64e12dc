import Testbed.Proofs.Client.Operations

/-!
# Texts that are asked about

A name or a scope that a client asks about stands in the path of its request. Each text that a segment carries
arrives as it was, whatever is in it: slashes, percent signs, question marks, characters beyond ASCII, and what looks
like an escape itself. So the answer is that of the engine or of the registry to the very text (`text_arrives`),
unless it is too long to be written (`long_requirement_is_lost`).
-/

namespace Testbed.Client

open Text.Percent (encode inSegment)

variable {ρ σ : Type} [Held ρ σ] [Described ρ] {c : Client} {server : Server (Site ρ σ)} {text : String}
  {s : Server.State ρ σ}

theorem leads_resourcesIn (h : Url.Carries text) :
    Leads ["testcontainers", text] .get (.resourcesIn (encode inSegment text)) :=
  Leads.of_parameter ["testcontainers"] h (by decide) (by decide)
    (if_neg (Url.encode_ne_empty h)) rfl nofun

theorem serve_resourcesIn (text : String) (s : Server.State ρ σ) :
    server.serve (.resourcesIn (encode inSegment text)) .get [] s = (.ok (Server.describe (.parse text) s), s) := by
  rw [Server.serve, Server.readScope, Server.readParameter_encode]
  rfl

theorem run_resourcesIn (h : c.Reaches server) (htext : Url.Carries text) :
    (c.resources (Transport.toServer server) (some text)).run s =
      (arrived (Server.describe (.parse text) s) (s.site.descriptors (.parse text)), s.access) := by
  have hcall : c.resources (Transport.toServer server) (some text) =
      c.exchange (Transport.toServer server) .get ["testcontainers", text] none >>= fun v => expect (descriptors v) := by
    rw [resources, Option.filter_some, if_pos (decide_eq_true htext.ne_empty)]
    rfl
  rw [hcall]
  exact (leads_resourcesIn htext).run_descriptors h (serve_resourcesIn text s.access)

/-- What a client asks of a text that a segment carries is asked of just that text: the server answers what the engine
requires for it, and the live resources within the scope it reads as, and only the time of the last access changes
there. The client is given these answers if they `Fit`, that is if no length in them is too much for a count; of any
other it is told its length. -/
theorem text_arrives (c : Client) (server : Server (Site ρ σ)) (h : c.Reaches server) (text : String)
    (htext : Url.Carries text) (s : Server.State ρ σ) :
    let ask path := server.handle (.v4 127 0 0 1) (c.request .get (c.base.extend path) none).received s
    let required := Value.ofStrings (server.engine.requiredProperties text)
    let live := (s.site.registry.list (Scope.parse text)).map Registry.Snapshot.descriptor
    let listed := Value.list (live.map Message.Descriptor.toValue)
    let askRequired := (c.requiredProperties (Transport.toServer server) text).run s
    let askLive := (c.resources (Transport.toServer server) (some text)).run s
    ask ["requirements", "expr", text] = (Server.respond (.ok required), s.access) ∧
    ask ["testcontainers", text] = (Server.respond (.ok listed), s.access) ∧
    (required.Fits → askRequired = (.ok (server.engine.requiredProperties text), s.access)) ∧
    (listed.Fits → askLive = (.ok live, s.access)) ∧
    (¬required.Fits → ∃ n, 2 ^ 32 ≤ n ∧ askRequired = (.error (.server 400 (Server.tooLongText n)), s.access)) ∧
    (¬listed.Fits → ∃ n, 2 ^ 32 ≤ n ∧ askLive = (.error (.server 400 (Server.tooLongText n)), s.access)) := by
  intro ask required live listed askRequired askLive
  have hrequired : askRequired = (arrived required _, s.access) := run_requiredProperties h htext s
  have hlive : askLive = (arrived listed live, s.access) := run_resourcesIn h htext
  refine ⟨?_, ?_, fun hf => ?_, fun hf => ?_, fun hf => ?_, fun hf => ?_⟩
  · have hasked := (leads_requirements htext).handle h none s
    rwa [Option.getD_none, serve_requirements] at hasked
  · have hasked := (leads_resourcesIn htext).handle h none s
    rwa [Option.getD_none, serve_resourcesIn] at hasked
  · rw [hrequired, arrived_of_fits hf]
  · rw [hlive, arrived_of_fits hf]
  · obtain ⟨n, hn, harrived⟩ := arrived_of_not_fits hf
    exact ⟨n, hn, by rw [hrequired, harrived]⟩
  · obtain ⟨n, hn, harrived⟩ := arrived_of_not_fits hf
    exact ⟨n, hn, by rw [hlive, harrived]⟩

section
open Rehearsal

/-- Requires of each name the name with a mark behind it. -/
def marking : Provider (Cast Daemon) where
  name := "marking"
  advertised _ _ := []
  requiredProperties name := [name ++ "!"]
  resolve _ _ _ s := (.ok none, s)

/-- Stores in a scope, below it and beside it. -/
def shelves (text : String) : Cast Daemon :=
  let store (scope : String) (s : Cast Daemon) :=
    (getStandIn "Store" "store.url" (.ofParams "stores" "store" (.parse scope) ∅) {} s).2
  store (text ++ ".c") (store "a" (store text { world := { runtime := {} } }))

theorem text_arrives_of_escapes :
    let text := "a/%2E\\.b?é#% +"
    let server : Server (Cast Daemon) := { engine := ⟨[marking]⟩, token := some "open" }
    let s : Server.State Player (Stage Daemon) := { site := shelves text }
    Operation.customer.Reaches server ∧ Url.Carries text ∧
      (Operation.customer.requiredProperties (Transport.toServer server) text).run s =
        (.ok ["a/%2E\\.b?é#% +!"], s.access) ∧
      (Operation.customer.resources (Transport.toServer server) (some text)).run s =
        (.ok [⟨"store", "fake:latest", "id-1", text⟩, ⟨"store", "fake:latest", "id-3", text ++ ".c"⟩], s.access) := by
  intro text server s
  have hreaches : Operation.customer.Reaches server := ⟨⟨rfl, rfl⟩, by decide, rfl⟩
  have htext : Url.Carries text := ⟨by decide, by decide, by decide, by decide⟩
  have hrequired : server.engine.requiredProperties text = ["a/%2E\\.b?é#% +!"] := by decide
  have hlive : (s.site.registry.list (Scope.parse text)).map Registry.Snapshot.descriptor =
      [⟨"store", "fake:latest", "id-1", text⟩, ⟨"store", "fake:latest", "id-3", text ++ ".c"⟩] := by
    decide +kernel
  obtain ⟨-, -, hnames, hresources, -, -⟩ := text_arrives Operation.customer server hreaches text htext s
  rw [hrequired] at hnames
  rw [hlive] at hresources
  refine ⟨hreaches, htext, hnames (Value.fits_ofStrings (by decide) (by decide)), hresources ?_⟩
  refine .list (by decide) ?_
  simp only [List.map_cons, List.map_nil, List.forall_mem_cons]
  refine ⟨Message.Descriptor.fits_toValue ?_ ?_ ?_ ?_, Message.Descriptor.fits_toValue ?_ ?_ ?_ ?_, nofun⟩
  all_goals decide

/-- Requires one and the same name of every name. -/
def demanding (required : String) : Provider (Cast Daemon) where
  name := "demanding"
  advertised _ _ := []
  requiredProperties _ := [required]
  resolve _ _ _ s := (.ok none, s)

theorem requiredProperties_demanding (required text : String) :
    (⟨[demanding required]⟩ : Engine (Cast Daemon)).requiredProperties text = [required] := rfl

theorem encode_names_of_letters {n : Nat} (h : 2 ^ 32 ≤ n) :
    Codec.encode (.ofStrings [Server.letters n]) = .error (.tooLong n) := by
  show (Codec.count 1 >>= fun _ => (Codec.encode (.string (Server.letters n)) >>= fun _ => _) >>= fun _ => _) = _
  rw [Server.encode_letters h]
  rfl

/-- The name that is required has `2 ^ 32` letters, and the client is told that it is too long. -/
theorem long_requirement_is_lost :
    let server : Server (Cast Daemon) := { engine := ⟨[demanding (Server.letters (2 ^ 32))]⟩, token := some "open" }
    let s : Server.State Player (Stage Daemon) := { site := Server.bareStage }
    Operation.customer.Reaches server ∧ Url.Carries "x" ∧
      server.engine.requiredProperties "x" = [Server.letters (2 ^ 32)] ∧
      (Operation.customer.requiredProperties (Transport.toServer server) "x").run s =
        (.error (.server 400 "malformed body: 4294967296 does not fit a u32 length prefix"), s.access) := by
  intro server s
  have hreaches : Operation.customer.Reaches server := ⟨⟨rfl, rfl⟩, by decide, rfl⟩
  have htext : Url.Carries "x" := ⟨by decide, by decide, by decide, by decide⟩
  have hrequired : server.engine.requiredProperties "x" = [Server.letters (2 ^ 32)] := requiredProperties_demanding ..
  refine ⟨hreaches, htext, hrequired, (run_requiredProperties hreaches htext s).trans ?_⟩
  rw [hrequired, arrived, encode_names_of_letters (Nat.le_refl _)]
  dsimp only
  rw [refusal_tooLong, Server.tooLongText_two_pow]

end

end Testbed.Client
