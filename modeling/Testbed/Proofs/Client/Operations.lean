import Testbed.Proofs.Client.Exchange
import Testbed.Proofs.Text.Lossy
import Testbed.Rehearsal.Daemon
import Testbed.Rehearsal.Stage

/-!
# Calling a server is as good as holding its engine and registry

What a client asks of a server it lets in comes to what the same operations come to at the server's own engine
and registry, one after the other, and leaves the site as they do (`run_calls_eq_perform`). Only errors look
different: the client is told the text of the error, with the status of a server that failed. And what is too long
to be written is lost on the way back, though not what was done for it (`long_answer_is_lost`).
-/

namespace Testbed.Client

/-- What is done through a client, or at the site itself. -/
inductive Operation where
  | resolve (r : Message.ResolveRequest)
  | list (r : Message.ListRequest)
  | resolvableProperties
  | requiredGroups
  | closeAll
  | resources

/-- What an operation comes to if it does not fail. -/
inductive Result where
  | value (x : Option String)
  | names (xs : List String)
  | closed (any : Bool)
  | resources (ds : List Message.Descriptor)
  deriving DecidableEq

/-- The value that carries a result. -/
def Result.toValue : Result → Value
  | value x => .ofOption x
  | names xs => .ofStrings xs
  | closed any => .bool any
  | resources ds => .list (ds.map Message.Descriptor.toValue)

namespace Operation

section
variable {σ : Type} (c : Client) (send : Transport σ)

/-- Has the operation done by the server at the other end of a transport. -/
def call : Operation → Call σ Result
  | resolve r => .value <$> c.resolve send r.name r.properties r.config
  | list r => .names <$> c.list send r.entries r.config
  | resolvableProperties => .names <$> c.resolvableProperties send
  | requiredGroups => .names <$> c.requiredGroups send
  | closeAll => .closed <$> c.closeAll send
  | resources => .resources <$> c.resources send none

end

variable {ρ σ : Type} [Held ρ σ] [Described ρ]

/-- Does the operation with an engine at a site. -/
def perform (e : Engine (Site ρ σ)) : Operation → StateM (Site ρ σ) (Except Resolution.Error Result)
  | resolve r => fun s =>
    let (outcome, s) := (e.resolve r.name r.properties r.config).run s
    (outcome.map .value, s)
  | list r => pure (.ok (.names (e.resolvableProperties r.entries r.config)))
  | resolvableProperties => pure (.ok (.names (e.resolvableProperties ∅ ∅)))
  | requiredGroups => pure (.ok (.names e.requiredGroups))
  | closeAll => fun s =>
    let (any, s) := s.closeAll
    (.ok (.closed any), s)
  | resources => fun s => (.ok (.resources (s.descriptors .root)), s)

/-- The request of the operation is read as it was made. -/
def Sendable : Operation → Prop
  | resolve r => (∀ v ∈ r.values, v.Ordered ∧ v.height ≤ 62) ∧ IsBody r.toValue
  | list r => (∀ v ∈ r.values, v.Ordered ∧ v.height ≤ 62) ∧ IsBody r.toValue
  | _ => True

end Operation

/-- What a client says of an operation that failed. -/
def told (e : Resolution.Error) : Error := .server 500 (Text.trim e.message)

/-- What a client is given of what an operation came to. -/
def answered : Except Resolution.Error Result → Except Error Result
  | .ok x => arrived x.toValue x
  | .error e => .error (told e)

variable {ρ σ : Type} [Held ρ σ] [Described ρ] {c : Client} {server : Server (Site ρ σ)} {s : Server.State ρ σ}

theorem refusal_resolution (e : Resolution.Error) : refusal (.resolution e) = told e := by
  rw [refusal, Text.ofUtf8Lossy_utf8]
  rfl

/-! ### Fixed routes -/

theorem leads_list : Leads ["list"] .get .list := .of_plain (by decide) (by decide) rfl rfl nofun

theorem leads_list_post : Leads ["list"] .post .list := .of_plain (by decide) (by decide) rfl rfl nofun

theorem leads_requiredGroups : Leads ["requirements", "entries"] .get .requiredGroups :=
  .of_plain (by decide) (by decide) rfl rfl nofun

theorem leads_closeAll : Leads ["close", "all"] .get .closeAll := .of_plain (by decide) (by decide) rfl rfl nofun

theorem leads_resources : Leads ["testcontainers"] .get .resources := .of_plain (by decide) (by decide) rfl rfl nofun

/-! ### Single calls -/

theorem readList_encode {r : Message.ListRequest} (hvalues : ∀ v ∈ r.values, v.Ordered ∧ v.height ≤ 62)
    {body : Bytes} (hencode : Codec.encode r.toValue = .ok body) (hbody : body.length ≤ Server.maxBody) :
    Server.readList body = .ok r := by
  have hv := Message.ListRequest.ordered_toValue fun v hv => (hvalues v hv).1
  have hheight := (Message.ListRequest.height_toValue_le_iff (by decide)).2 fun v hv => (hvalues v hv).2
  rw [Server.readList, readBody_encode hv hheight hencode hbody]
  show (Message.ListRequest.ofValue r.toValue).mapError Server.Failure.badRequest = .ok r
  rw [Message.ListRequest.ofValue_toValue]
  rfl

theorem run_list (h : c.Reaches server) {r : Message.ListRequest} (hr : (Operation.list r).Sendable) :
    (c.list (Transport.toServer server) r.entries r.config).run s =
      (arrived (.ofStrings (server.engine.resolvableProperties r.entries r.config))
        (server.engine.resolvableProperties r.entries r.config), s.access) := by
  obtain ⟨hvalues, body, hencode, hbody⟩ := hr
  have hserve : server.serve .list .post body s.access =
      (.ok (.ofStrings (server.engine.resolvableProperties r.entries r.config)), s.access) := by
    rw [Server.serve, if_pos rfl, readList_encode hvalues hencode hbody]
    rfl
  exact leads_list_post.run_names h (mapM_encode hencode) "list" hserve

theorem descriptors_map (ds : List Message.Descriptor) :
    descriptors (.list (ds.map Message.Descriptor.toValue)) = .ok ds := by
  rw [descriptors, List.mapM_map]
  exact List.mapM_pure.trans (congrArg pure (List.map_id' ds))

/-- A call that is answered with the live resources within a scope. -/
theorem Leads.run_descriptors {segments : List String} {route : Server.Route} {scope : Scope}
    (hl : Leads segments .get route) (h : c.Reaches server)
    (hserve : server.serve route .get [] s.access = (.ok (Server.describe scope s.access), s.access)) :
    (c.exchange (Transport.toServer server) .get segments none >>= fun v => expect (descriptors v)).run s =
      (arrived (Server.describe scope s) (s.site.descriptors scope), s.access) := by
  refine hl.run_ask h hserve ?_ ?_ (descriptors_map _)
  · exact Value.ordered_list.2 (List.forall_mem_map.2 fun d _ => d.ordered_toValue)
  · refine Value.height_list_le_iff.2 (List.forall_mem_map.2 fun d _ => ?_)
    exact Nat.lt_of_le_of_lt d.height_toValue_le (by decide)

theorem run_resources (h : c.Reaches server) : (c.resources (Transport.toServer server) none).run s =
    (arrived (Server.describe .root s) (s.site.descriptors .root), s.access) :=
  leads_resources.run_descriptors h rfl

theorem run_map {τ α β : Type} {x : Call τ α} {outcome : Except Error α} {t t' : τ} (f : α → β)
    (h : x.run t = (outcome, t')) : (f <$> x).run t = (outcome.map f, t') := by
  rw [ExceptT.run_map]
  show (Except.map f (x.run t).1, (x.run t).2) = _
  rw [h]

/-! ### Operations -/

theorem run_mapM_cons {τ α β : Type} (f : α → StateM τ β) (x : α) (xs : List α) (t : τ) :
    ((x :: xs).mapM f).run t =
      (((f x).run t).1 :: ((xs.mapM f).run ((f x).run t).2).1, ((xs.mapM f).run ((f x).run t).2).2) := by
  rw [List.mapM_cons]
  rfl

namespace Operation

/-- One operation through the client does what it does at the site, and counts as an access. -/
theorem run_call (h : c.Reaches server) {op : Operation} (hop : op.Sendable) :
    (op.call c (Transport.toServer server)).run s = (answered (op.perform server.engine s.site).1,
      { s.access with site := (op.perform server.engine s.site).2 }) := by
  cases op with
  | resolve r =>
    have hrun := run_resolve h (sendable_iff.2 hop) s
    have hanswered (outcome : Except Resolution.Error (Option String)) :
        (resolved outcome).map Result.value = answered (outcome.map Result.value) := by
      cases outcome with
      | ok a => exact arrived_map ..
      | error e => exact congrArg Except.error (refusal_resolution e)
    exact (run_map Result.value hrun).trans (Prod.ext (hanswered _) rfl)
  | list r => exact (run_map Result.names (run_list h hop)).trans (Prod.ext (arrived_map ..) rfl)
  | resolvableProperties =>
    exact (run_map Result.names (leads_list.run_names h mapM_encode_none "list" rfl)).trans (Prod.ext (arrived_map ..) rfl)
  | requiredGroups =>
    exact (run_map Result.names (leads_requiredGroups.run_names h mapM_encode_none "entries" rfl)).trans
      (Prod.ext (arrived_map ..) rfl)
  | closeAll =>
    have hclose : (c.closeAll (Transport.toServer server)).run s =
        (.ok s.site.closeAll.1, { s.access with site := s.site.closeAll.2 }) := leads_closeAll.run_flag h "close" rfl
    rw [call, run_map Result.closed hclose]
    exact Prod.ext (arrived_of_fits (.bool s.site.closeAll.1)).symm rfl
  | resources => exact (run_map Result.resources (run_resources h)).trans (Prod.ext (arrived_map ..) rfl)

/-- Operations in a row through the client come to what they come to at the site, where they are done in the
same order. Of the server's own state only the time of the last access is not left alone. A result arrives as it
is if it `Fits`, that is if no length in it is too much for a count; of any other the client is told its length. -/
theorem run_calls_eq_perform (c : Client) (server : Server (Site ρ σ)) (h : c.Reaches server) (ops : List Operation)
    (hops : ∀ op ∈ ops, op.Sendable) (s : Server.State ρ σ) :
    let through : StateM (Server.State ρ σ) _ := ops.mapM fun op => (op.call c (Transport.toServer server)).run
    let direct : StateM (Site ρ σ) _ := ops.mapM (perform server.engine)
    through.run s = ((direct.run s.site).1.map answered,
      { (if ops = [] then s else s.access) with site := (direct.run s.site).2 }) ∧
    ∀ x : Result, (x.toValue.Fits → answered (.ok x) = .ok x) ∧
      (¬x.toValue.Fits → ∃ n, 2 ^ 32 ≤ n ∧ answered (.ok x) = .error (.server 400 (Server.tooLongText n))) := by
  intro through direct
  refine ⟨?_, fun x => ⟨arrived_of_fits, arrived_of_not_fits⟩⟩
  induction ops generalizing s with
  | nil => rfl
  | cons op ops ih =>
    obtain ⟨hop, hops⟩ := List.forall_mem_cons.1 hops
    simp only [through, direct, run_mapM_cons] at ih ⊢
    have hrest := ih hops { s.access with site := (op.perform server.engine s.site).2 }
    have hrun : (op.call c (Transport.toServer server)).run.run s = _ := run_call (s := s) h hop
    -- Being asked again at the same time changes nothing more.
    have haccess (t : Server.State ρ σ) (ht : t.lastAccess = t.now) : (if ops = [] then t else t.access) = t := by
      split
      · rfl
      · exact congrArg (fun time => { t with lastAccess := time }) ht.symm
    rw [hrun, hrest, haccess _ rfl, if_neg (List.cons_ne_nil _ _)]
    rfl

section
open Rehearsal

/-- Answers the address of a store from a stand-in of its own, and is never ready for its backup. -/
def stores : Provider (Cast Daemon) where
  name := "stores"
  advertised entries _ := "store.url" :: "store.backup" :: (entries.get? "stores").getD []
  requiredGroups := ["stores"]
  resolve name _ _ s :=
    if name = "store.backup" then (.error (.unavailable "not yet\n"), s)
    else match getStandIn "Store" name (.ofParams "stores" "store" (.parse "a.b") ∅) {} s with
      | (.ok store, s) => (.ok (some ("store-" ++ Text.ofNat store.serial)), s)
      | (.error cause, s) => (.error (.resource cause), s)

def shop : Server (Cast Daemon) where
  engine := ⟨[stores]⟩
  token := some "open"

def customer : Client := ⟨{ scheme := "http", host := some "localhost", path := [""] }, some "open"⟩

def errands : List Operation :=
  [.list ⟨Dict.empty.insert "stores" ["x"], ∅⟩, .resolvableProperties, .requiredGroups,
    .resolve ⟨"store.url", Dict.empty.insert "depth" (.list [.int 3]), ∅⟩, .resources,
    .resolve ⟨"store.backup", ∅, ∅⟩, .closeAll, .closeAll]

/-- A store is started, listed and closed; asking for its backup is answered with the trimmed error. -/
theorem run_calls_of_errands :
    let opened : Server.State Player (Stage Daemon) := { site := { world := { runtime := {} } } }
    let through : StateM (Server.State Player (Stage Daemon)) _ :=
      errands.mapM fun op => (op.call customer (Transport.toServer shop)).run
    (through.run opened).1 =
        [.ok (.names ["store.url", "store.backup", "x"]), .ok (.names ["store.url", "store.backup"]),
          .ok (.names ["stores"]), .ok (.value (some "store-1")),
          .ok (.resources [⟨"store", "fake:latest", "id-1", "a.b"⟩]),
          .error (.server 500 "provider stores failed to resolve store.backup: not yet"),
          .ok (.closed true), .ok (.closed false)] ∧
      (through.run opened).2.site.world.ledger.closed = [1] := by
  intro opened through
  let direct : StateM (Cast Daemon) _ := errands.mapM (perform shop.engine)
  have hreaches : customer.Reaches shop := ⟨⟨rfl, rfl⟩, by decide, rfl⟩
  have hops : ∀ op ∈ errands, op.Sendable := by
    simp only [errands, List.forall_mem_cons]
    refine ⟨⟨nofun, _, rfl, by decide⟩, trivial, trivial, ⟨?_, _, rfl, by decide⟩, trivial, ⟨nofun, _, rfl, by decide⟩,
      trivial, trivial, nofun⟩
    exact List.forall_mem_singleton.2 ⟨⟨trivial, trivial⟩, by decide⟩
  have hdirect : (direct.run opened.site).1.map (Except.mapError told) =
        [.ok (.names ["store.url", "store.backup", "x"]), .ok (.names ["store.url", "store.backup"]),
          .ok (.names ["stores"]), .ok (.value (some "store-1")),
          .ok (.resources [⟨"store", "fake:latest", "id-1", "a.b"⟩]),
          .error (.server 500 "provider stores failed to resolve store.backup: not yet"),
          .ok (.closed true), .ok (.closed false)] ∧ (direct.run opened.site).2.world.ledger.closed = [1] := by
    decide +kernel
  have hfits : ∀ x, .ok x ∈ (direct.run opened.site).1 → x.toValue.Fits := by
    intro x hx
    have hmem : .ok x ∈ (direct.run opened.site).1.map (Except.mapError told) := List.mem_map.2 ⟨_, hx, rfl⟩
    simp only [hdirect.1, List.mem_cons, Except.ok.injEq, reduceCtorEq, List.not_mem_nil, or_false, false_or] at hmem
    rcases hmem with rfl | rfl | rfl | rfl | rfl | rfl | rfl
    · exact Value.fits_ofStrings (by decide) (by decide)
    · exact Value.fits_ofStrings (by decide) (by decide)
    · exact Value.fits_ofStrings (by decide) (by decide)
    · exact .string (by decide)
    · refine .list (by decide) (List.forall_mem_singleton.2 ?_)
      exact Message.Descriptor.fits_toValue (by decide) (by decide) (by decide) (by decide)
    · exact .bool true
    · exact .bool false
  obtain ⟨hrun, harrives⟩ := run_calls_eq_perform customer shop hreaches errands hops opened
  have hanswered : (direct.run opened.site).1.map answered = (direct.run opened.site).1.map (Except.mapError told) := by
    refine List.map_congr_left fun outcome houtcome => ?_
    cases outcome with
    | ok x => exact (harrives x).1 (hfits x houtcome)
    | error e => rfl
  have hthrough : through.run opened = ((direct.run opened.site).1.map answered,
      { opened.access with site := (direct.run opened.site).2 }) := hrun
  rw [hthrough, hanswered]
  exact hdirect

theorem answered_letters {n : Nat} (h : 2 ^ 32 ≤ n) :
    answered (.ok (.value (some (Server.letters n)))) = .error (.server 400 (Server.tooLongText n)) := by
  show arrived (.string (Server.letters n)) _ = _
  rw [arrived, Server.encode_letters h, ← refusal_tooLong]

/-- The name is resolved at the site to a text of `2 ^ 32` letters. Through the client the same is done, which is then
told that the text is too long. -/
theorem long_answer_is_lost :
    let server : Server (Cast Daemon) := { engine := ⟨[Server.hoarder (Server.letters (2 ^ 32))]⟩, token := some "open" }
    let opened : Server.State Player (Stage Daemon) := { site := Server.bareStage }
    let op : Operation := .resolve ⟨"hoard", ∅, ∅⟩
    customer.Reaches server ∧ op.Sendable ∧
      (op.perform server.engine opened.site).1 = .ok (.value (some (Server.letters (2 ^ 32)))) ∧
      ((op.call customer (Transport.toServer server)).run opened).1 =
        .error (.server 400 "malformed body: 4294967296 does not fit a u32 length prefix") := by
  intro server opened op
  have hreaches : customer.Reaches server := ⟨⟨rfl, rfl⟩, by decide, rfl⟩
  have hop : op.Sendable := ⟨nofun, _, rfl, by decide⟩
  have hperform : (op.perform server.engine opened.site).1 = .ok (.value (some (Server.letters (2 ^ 32)))) :=
    congrArg (Except.map Result.value) (Server.resolve_hoarder _).1
  have hcall := congrArg Prod.fst (run_call (s := opened) hreaches hop)
  refine ⟨hreaches, hop, hperform, hcall.trans ?_⟩
  rw [hperform, answered_letters (Nat.le_refl _), Server.tooLongText_two_pow]

end

end Operation

end Testbed.Client
