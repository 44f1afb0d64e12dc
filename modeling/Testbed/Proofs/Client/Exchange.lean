import Testbed.Proofs.Client.Paths
import Testbed.Proofs.Codec.RoundTrip
import Testbed.Proofs.Message.RoundTrip
import Testbed.Proofs.Server.Admission
import Testbed.Proofs.Text.Blank
import Testbed.Proofs.Text.Lossy

/-!
# What a call comes to

A client that `Reaches` a server has each of its requests carried out there by `Server.serve`
(`run_exchange`), and reads back what the server answers. Hence asking what a property requires and asking
for its value are the engine's own answers (`run_requiredProperties`, `run_resolve`).
-/

namespace Testbed.Client

open Text.Percent (encode inSegment)

variable {ρ σ : Type} [Held ρ σ] [Described ρ] {c : Client} {server : Server (Site ρ σ)} {v : Value}
  {segments : List String} {s : Server.State ρ σ}

/-- The token of a client as a server sees it. -/
def shownToken (c : Client) : Option String :=
  (c.token.map fun t => Http.trimValue (Text.utf8 t)).bind Http.headerText?

/-- The client stands at the root of the server, which lets its token in. -/
structure Reaches (c : Client) (server : Server (Site ρ σ)) : Prop where
  root : c.base.AtRoot
  sendable : ∀ t ∈ c.token, Http.isSendable (Text.utf8 t) = true
  accepted : Server.Access.check server.token (.v4 127 0 0 1) c.shownToken = .ok ()

/-! ### Tokens -/

theorem all_isSendable_iff (method : Http.Method) (url : Url) (body : Option Bytes) :
    ((c.request method url body).headers.all fun h => Http.isSendable h.2) = true ↔
      ∀ t ∈ c.token, Http.isSendable (Text.utf8 t) = true := by
  have htype : Http.isSendable (Text.utf8 Server.contentType) = true := by decide
  cases hc : c.token <;> cases body <;> simp [request, hc, htype]

theorem header?_request (method : Http.Method) (url : Url) (body : Option Bytes) :
    Http.header? Server.tokenHeader (c.request method url body).received.headers =
      c.token.map fun t => Http.trimValue (Text.utf8 t) := by
  have haccept : Http.sameName "accept" Server.tokenHeader = false := by decide
  have htoken : Http.sameName Server.tokenHeader Server.tokenHeader = true := by decide
  have htype : Http.sameName "content-type" Server.tokenHeader = false := by decide
  cases hc : c.token <;> cases body <;>
    simp [Http.header?, request, Http.Request.received, hc, haccept, htoken, htype]

theorem presented_request (method : Http.Method) (url : Url) (body : Option Bytes) :
    Server.Access.presented (c.request method url body).received = c.shownToken := by
  rw [Server.Access.presented, header?_request, shownToken]

/-! ### Requests -/

theorem mapM_encode_none : (none : Option Value).mapM Codec.encode = .ok none := rfl

theorem mapM_encode {body : Bytes} (h : Codec.encode v = .ok body) : (some v).mapM Codec.encode = .ok (some body) := by
  rw [Option.mapM_some, h]
  rfl

/-- The path of the segments is that of a route which takes the method. -/
structure Leads (segments : List String) (method : Http.Method) (route : Server.Route) : Prop where
  carried : ∀ t ∈ segments, Url.Carries t
  arrives : Server.Route.ofSegments? (segments.map (encode inSegment)) = some route
  allows : route.allows method = true
  ne_head : method ≠ .head

namespace Leads
variable {route : Server.Route} {method : Http.Method}

theorem ne_nil (h : Leads segments method route) : segments ≠ [] := by
  rintro rfl
  cases h.arrives

theorem map_encode_of_plain (h : ∀ t ∈ segments, ((Text.utf8 t).all fun b => b < 128 && !inSegment b) = true) :
    segments.map (encode inSegment) = segments :=
  (List.map_congr_left fun t ht => Text.Percent.encode_eq_self (h t ht)).trans (List.map_id _)

theorem of_plain (hcarried : ∀ t ∈ segments, Url.Carries t)
    (hplain : ∀ t ∈ segments, ((Text.utf8 t).all fun b => b < 128 && !inSegment b) = true)
    (harrives : Server.Route.ofSegments? segments = some route) (hallows : route.allows method = true)
    (hhead : method ≠ .head) : Leads segments method route :=
  ⟨hcarried, (map_encode_of_plain hplain).symm ▸ harrives, hallows, hhead⟩

/-- A text behind plain segments, which arrives in its written form. -/
theorem of_parameter (segments : List String) {text : String} (htext : Url.Carries text)
    (hcarried : ∀ t ∈ segments, Url.Carries t)
    (hplain : ∀ t ∈ segments, ((Text.utf8 t).all fun b => b < 128 && !inSegment b) = true)
    (harrives : Server.Route.ofSegments? (segments ++ [encode inSegment text]) = some route)
    (hallows : route.allows method = true) (hhead : method ≠ .head) : Leads (segments ++ [text]) method route where
  carried := by
    rw [List.forall_mem_append]
    exact ⟨hcarried, List.forall_mem_singleton.2 htext⟩
  arrives := by rwa [List.map_append, map_encode_of_plain hplain, List.map_singleton]
  allows := hallows
  ne_head := hhead

/-- A request that is let in is served by the route that its segments name. -/
theorem handle (hl : Leads segments method route) (h : c.Reaches server) (body : Option Bytes) (s : Server.State ρ σ) :
    server.handle (.v4 127 0 0 1) (c.request method (c.base.extend segments) body).received s =
      (Server.respond (server.serve route method (body.getD []) s.access).1,
        (server.serve route method (body.getD []) s.access).2) := by
  have hpath := route_request h.root hl.ne_nil hl.carried method body
  have hmethod : (c.request method (c.base.extend segments) body).received.method = method := rfl
  have hbody : (c.request method (c.base.extend segments) body).received.body = body.getD [] := rfl
  -- A request for headers only would be served as one for the whole, and answered without its body.
  have hwants : Server.wantsHead (c.request method (c.base.extend segments) body).received = false := by
    rw [Server.wantsHead, hmethod, decide_eq_false hl.ne_head, Bool.false_and]
  rw [Server.handle, Server.receive, presented_request, h.accepted, Server.answer, hpath, hl.arrives, hwants]
  simp only [hmethod, hbody, hl.allows, Bool.not_true, Bool.false_eq_true, if_false]

theorem run_exchange (hl : Leads segments method route) (h : c.Reaches server) {body : Option Value}
    {bytes : Option Bytes} (hbody : body.mapM Codec.encode = .ok bytes) (s : Server.State ρ σ) :
    (c.exchange (Transport.toServer server) method segments body).run s =
      (readResponse (Server.respond (server.serve route method (bytes.getD []) s.access).1),
        (server.serve route method (bytes.getD []) s.access).2) := by
  simp only [exchange, ExceptT.run, ExceptT.mk, hbody, (all_isSendable_iff ..).2 h.sendable, if_true,
    Transport.toServer, hl.handle h]

end Leads

theorem leads_resolve : Leads ["resolve"] .post .resolve := .of_plain (by decide) (by decide) rfl rfl nofun

theorem leads_requirements {key : String} (h : Url.Carries key) :
    Leads ["requirements", "expr", key] .get (.requirements (encode inSegment key)) :=
  Leads.of_parameter ["requirements", "expr"] h (by decide) (by decide)
    (if_neg (Url.encode_ne_empty h)) rfl nofun

/-! ### Requests that are not carried out -/

/-- A client that its token keeps from the server gets an error, and nothing changes there. -/
theorem run_exchange_of_not_reaches (hroot : c.base.AtRoot) (h : ¬c.Reaches server) (method : Http.Method)
    (path : List String) {body : Option Value} {bytes : Option Bytes} (hbody : body.mapM Codec.encode = .ok bytes)
    (s : Server.State ρ σ) :
    ∃ e, (e = .transport (c.base.extend path).text ∨ ∃ message, e = .server 401 message) ∧
      (c.exchange (Transport.toServer server) method path body).run s = (.error e, s) := by
  by_cases hsend : ∀ t ∈ c.token, Http.isSendable (Text.utf8 t) = true
  · have hdenied : Server.Access.check server.token (.v4 127 0 0 1) c.shownToken ≠ .ok () :=
      fun hok => h ⟨hroot, hsend, hok⟩
    rw [← presented_request method (c.base.extend path) bytes] at hdenied
    obtain ⟨response, hstatus, hhandle⟩ := Server.handle_of_not_ok (s := s) hdenied
    refine ⟨.server 401 (Text.trim (Text.ofUtf8Lossy response.body)), .inr ⟨_, rfl⟩, ?_⟩
    simp only [exchange, ExceptT.run, ExceptT.mk, hbody, (all_isSendable_iff ..).2 hsend, if_true, Transport.toServer,
      hhandle, readResponse, hstatus]
    rfl
  · refine ⟨_, .inl rfl, ?_⟩
    simp only [exchange, ExceptT.run, ExceptT.mk, hbody, all_isSendable_iff, if_neg hsend]

/-- A path that is none of the server's is not found there. -/
theorem run_exchange_of_no_route (h : c.Reaches server) {method : Http.Method} {path : List String}
    {body : Option Value} {bytes : Option Bytes} (hbody : body.mapM Codec.encode = .ok bytes)
    (hroute : Server.Route.ofPath? (c.request method (c.base.extend path) bytes).received.path = none)
    (s : Server.State ρ σ) :
    (c.exchange (Transport.toServer server) method path body).run s = (.error (.server 404 ""), s.access) := by
  have hwants : Server.wantsHead (c.request method (c.base.extend path) bytes).received = false := by
    rw [Server.wantsHead, hroute]
    exact Bool.and_false _
  have hread : readResponse ⟨404, none, []⟩ = .error (.server 404 "") := by
    show Except.error (Error.server 404 (Text.trim (Text.ofUtf8Lossy (Text.utf8 "")))) = _
    rw [Text.ofUtf8Lossy_utf8]
    rfl
  simp only [exchange, ExceptT.run, ExceptT.mk, hbody, (all_isSendable_iff ..).2 h.sendable, if_true,
    Transport.toServer, Server.handle, Server.receive, presented_request, h.accepted, Server.answer, hroute, hwants, Bool.false_eq_true,
    if_false, hread]

/-! ### Answers -/

/-- What a client says of a request that the server failed. -/
def refusal (e : Server.Failure) : Error := .server e.status (Text.trim (Text.ofUtf8Lossy (Text.utf8 e.message)))

theorem readResponse_error (e : Server.Failure) : readResponse (Server.respond (.error e)) = .error (refusal e) := by
  cases e <;> rfl

/-- What a client is given of what `v` carries: nothing, where the server cannot write `v`. -/
def arrived {α : Type} (v : Value) (a : α) : Except Error α :=
  match Codec.encode v with
  | .ok _ => .ok a
  | .error cause => .error (refusal (.malformed cause))

theorem arrived_of_fits {α : Type} {a : α} (hf : v.Fits) : arrived v a = .ok a := by
  rw [arrived, Codec.encode_of_fits hf]

/-- The text of the error has nothing to trim. -/
theorem refusal_tooLong (n : Nat) : refusal (.malformed (.tooLong n)) = .server 400 (Server.tooLongText n) := by
  have htrimmed : Text.IsTrimmed (Server.tooLongText n).toList := by
    have hstart : "malformed body: ".toList = 'm' :: "alformed body: ".toList := rfl
    have hfinish : " does not fit a u32 length prefix".toList = " does not fit a u32 length prefi".toList ++ ['x'] := rfl
    rw [Server.tooLongText, String.toList_append, String.toList_append, hstart, hfinish, ← List.append_assoc]
    exact Text.isTrimmed_of_ends rfl rfl
  rw [refusal, Text.ofUtf8Lossy_utf8, Server.message_tooLong, Text.trim_eq_self htrimmed]
  rfl

theorem arrived_of_not_fits {α : Type} {a : α} (hf : ¬v.Fits) :
    ∃ n, 2 ^ 32 ≤ n ∧ arrived v a = .error (.server 400 (Server.tooLongText n)) := by
  obtain ⟨n, hn, hencode⟩ := Codec.encode_of_not_fits hf
  exact ⟨n, hn, by rw [arrived, hencode, ← refusal_tooLong]⟩

theorem arrived_map {α β : Type} (f : α → β) (a : α) : (arrived v a).map f = arrived v (f a) := by
  unfold arrived
  cases Codec.encode v <;> rfl

theorem readResponse_ok (hv : v.Ordered) (hheight : v.height ≤ 63) :
    readResponse (Server.respond (.ok v)) = arrived v v := by
  rw [arrived]
  cases hencode : Codec.encode v with
  | ok b =>
    have hf := Codec.fits_of_encode hencode
    have hread := Codec.decode_of_decodeNext (Codec.decodeNext_marked hv hf)
    rw [if_pos hheight] at hread
    rw [Server.respond_of_fits hf, readResponse, if_pos rfl, hread]
    rfl
  | error cause => rw [Server.respond_of_encode_error hencode, readResponse_error]

/-! ### Calls -/

section
variable {τ α β : Type} {e : Error} {t t' : τ}

theorem run_bind_ok {x : Call τ α} {a : α} {f : α → Call τ β} (h : x.run t = (.ok a, t')) :
    (x >>= f).run t = (f a).run t' := by
  show ExceptT.bindCont f (x.run t).1 (x.run t).2 = _
  rw [h]
  rfl

theorem run_bind_error {x : Call τ α} {f : α → Call τ β} (h : x.run t = (.error e, t')) :
    (x >>= f).run t = (.error e, t') := by
  show ExceptT.bindCont f (x.run t).1 (x.run t).2 = _
  rw [h]
  rfl

end

namespace Leads
variable {route : Server.Route} {method : Http.Method} {t : Server.State ρ σ} {α : Type}

/-- A call that the server carries out comes to what its answer is read as. -/
theorem run_call (hl : Leads segments method route) (h : c.Reaches server) {body : Option Value} {bytes : Option Bytes}
    (hbody : body.mapM Codec.encode = .ok bytes) {read : Value → Message.Read α} {a : α}
    (hserve : server.serve route method (bytes.getD []) s.access = (.ok v, t))
    (hv : v.Ordered) (hheight : v.height ≤ 63) (hread : read v = .ok a) :
    (c.exchange (Transport.toServer server) method segments body >>= fun v => expect (read v)).run s =
      (arrived v a, t) := by
  have hexchange := hl.run_exchange h hbody s
  rw [hserve, readResponse_ok hv hheight] at hexchange
  unfold arrived at hexchange ⊢
  cases hencode : Codec.encode v with
  | ok b =>
    rw [hencode] at hexchange
    rw [run_bind_ok hexchange, hread]
    rfl
  | error cause =>
    rw [hencode] at hexchange
    exact run_bind_error hexchange

/-- A call without a body. -/
theorem run_ask (hl : Leads segments method route) (h : c.Reaches server) {read : Value → Message.Read α} {a : α}
    (hserve : server.serve route method [] s.access = (.ok v, t)) (hv : v.Ordered) (hheight : v.height ≤ 63)
    (hread : read v = .ok a) :
    (c.exchange (Transport.toServer server) method segments none >>= fun v => expect (read v)).run s =
      (arrived v a, t) :=
  hl.run_call h mapM_encode_none hserve hv hheight hread

theorem run_call_error (hl : Leads segments method route) (h : c.Reaches server) {body : Option Value}
    {bytes : Option Bytes} (hbody : body.mapM Codec.encode = .ok bytes) {f : Value → Call _ α} {e : Server.Failure}
    (hserve : server.serve route method (bytes.getD []) s.access = (.error e, t)) :
    (c.exchange (Transport.toServer server) method segments body >>= f).run s = (.error (refusal e), t) := by
  have hexchange := hl.run_exchange h hbody s
  rw [hserve, readResponse_error] at hexchange
  exact run_bind_error hexchange

/-- A call that is answered with a flag, which is never too long. -/
theorem run_flag (hl : Leads segments method route) (h : c.Reaches server) {flag : Bool} (field : String)
    (hserve : server.serve route method [] s.access = (.ok (.bool flag), t)) :
    (c.exchange (Transport.toServer server) method segments none >>= fun v => expect (Message.boolean field v)).run s =
      (.ok flag, t) := by
  have hread : Message.boolean field (.bool flag) = .ok flag := rfl
  rw [hl.run_ask h hserve trivial (Nat.zero_le 63) hread, arrived_of_fits (.bool flag)]

/-- A call that is answered with names. -/
theorem run_names (hl : Leads segments method route) (h : c.Reaches server) {body : Option Value}
    {bytes : Option Bytes} (hbody : body.mapM Codec.encode = .ok bytes) {xs : List String} (field : String)
    (hserve : server.serve route method (bytes.getD []) s.access = (.ok (.ofStrings xs), t)) :
    (c.exchange (Transport.toServer server) method segments body >>= fun v =>
      expect (Message.stringList field v)).run s = (arrived (.ofStrings xs) xs, t) :=
  hl.run_call h hbody hserve (Value.ordered_ofStrings xs) (Nat.le_trans (Value.height_ofStrings_le xs) (by decide))
    (Message.stringList_ofStrings field xs)

end Leads

theorem serve_requirements (text : String) (s : Server.State ρ σ) :
    server.serve (.requirements (encode inSegment text)) .get [] s =
      (.ok (.ofStrings (server.engine.requiredProperties text)), s) := by
  rw [Server.serve, Server.readParameter_encode]
  rfl

theorem run_requiredProperties {key : String} (h : c.Reaches server) (hkey : Url.Carries key)
    (s : Server.State ρ σ) :
    (c.requiredProperties (Transport.toServer server) key).run s =
      (arrived (.ofStrings (server.engine.requiredProperties key)) (server.engine.requiredProperties key), s.access) :=
  (leads_requirements hkey).run_names h mapM_encode_none "requirements" (serve_requirements key s.access)

/-- The value can be written, as a body that is short enough to be read. -/
def IsBody (v : Value) : Prop := ∃ body, Codec.encode v = .ok body ∧ body.length ≤ Server.maxBody

/-- The request is read as it was made: its body is no longer than what is read, and its values, which stand
two levels below the body, are arranged and none of them reaches below the deepest level. -/
structure Sendable (r : Message.ResolveRequest) : Prop where
  properties : ∀ p ∈ r.properties.entries, p.2.Ordered ∧ p.2.height ≤ 62
  config : ∀ p ∈ r.config.entries, p.2.Ordered ∧ p.2.height ≤ 62
  length : IsBody r.toValue

theorem sendable_iff {r : Message.ResolveRequest} : Sendable r ↔
    (∀ v ∈ r.values, v.Ordered ∧ v.height ≤ 62) ∧ IsBody r.toValue := by
  rw [Message.ResolveRequest.values, List.forall_mem_map, List.forall_mem_append]
  exact ⟨fun h => ⟨⟨h.properties, h.config⟩, h.length⟩, fun h => ⟨h.1.1, h.1.2, h.2⟩⟩

/-- A body is read as the value it was written from if it is no longer than what is read. -/
theorem readBody_encode (hv : v.Ordered) (hheight : v.height ≤ 64) {body : Bytes} (hencode : Codec.encode v = .ok body)
    (hbody : body.length ≤ Server.maxBody) : Server.readBody body = .ok v := by
  obtain ⟨hfits, rfl⟩ := Codec.encode_eq_ok_iff.1 hencode
  have hdecode := Codec.decode_of_decodeNext (Codec.decodeNext_form hv hfits)
  rw [if_pos hheight] at hdecode
  have hne : (Codec.form v).isEmpty = false := by cases v <;> rfl
  rw [Server.readBody, if_neg (Nat.not_lt.2 hbody), hne, hdecode]
  rfl

theorem readResolve_encode {r : Message.ResolveRequest} (hvalues : ∀ v ∈ r.values, v.Ordered ∧ v.height ≤ 62)
    {body : Bytes} (hencode : Codec.encode r.toValue = .ok body) (hbody : body.length ≤ Server.maxBody) :
    Server.readResolve body = .ok r := by
  have hv := Message.ResolveRequest.ordered_toValue fun v hv => (hvalues v hv).1
  have hheight := Message.ResolveRequest.height_toValue_le_iff.2 fun v hv => (hvalues v hv).2
  rw [Server.readResolve, readBody_encode hv hheight hencode hbody]
  show (Message.ResolveRequest.ofValue r.toValue).mapError Server.Failure.badRequest = .ok r
  rw [Message.ResolveRequest.ofValue_toValue]
  rfl

/-- What a client is given of what the engine comes to for a name. -/
def resolved : Except Resolution.Error (Option String) → Except Error (Option String)
  | .ok a => arrived (.ofOption a) a
  | .error e => .error (refusal (.resolution e))

theorem resolved_of_fits {outcome : Except Resolution.Error (Option String)}
    (hfits : ∀ a, outcome = .ok a → (Value.ofOption a).Fits) :
    resolved outcome = outcome.mapError fun e => refusal (.resolution e) := by
  cases outcome with
  | ok a => exact arrived_of_fits (hfits a rfl)
  | error e => rfl

theorem run_resolve {name : String} {properties config : Properties} (h : c.Reaches server)
    (hr : Sendable ⟨name, properties, config⟩) (s : Server.State ρ σ) :
    (c.resolve (Transport.toServer server) name properties config).run s =
      (resolved ((server.engine.resolve name properties config).run s.site).1,
        { s.access with site := ((server.engine.resolve name properties config).run s.site).2 }) := by
  obtain ⟨hvalues, body, hencode, hbody⟩ := sendable_iff.1 hr
  -- Being asked counts as an access, which does not concern the engine.
  have hsite : s.access.site = s.site := rfl
  have hserve : server.serve .resolve .post body s.access =
      ((((server.engine.resolve name properties config).run s.site).1.mapError .resolution).map .ofOption,
        { s.access with site := ((server.engine.resolve name properties config).run s.site).2 }) := by
    rw [Server.serve, readResolve_encode hvalues hencode hbody, hsite]
    rfl
  rcases hrun : (server.engine.resolve name properties config).run s.site with ⟨e | a, site⟩
  · rw [hrun] at hserve
    exact leads_resolve.run_call_error h (mapM_encode hencode) hserve
  · rw [hrun] at hserve
    exact leads_resolve.run_call h (mapM_encode hencode) hserve (Value.ordered_ofOption a)
      (by rw [Value.height_ofOption]; decide) (Message.optionalString_ofOption "resolve" a)

end Testbed.Client
