import Testbed.Codec
import Testbed.Message
import Testbed.Resolution
import Testbed.Server.Access
import Testbed.Server.Idle
import Testbed.Server.Route
import Testbed.Site

/-!
# The server

A server answers requests over an engine and a registry. A request passes the access check, counts
as an access, and is then routed. Every body is one wire value, every answer stands behind a result
marker, and every failure is a status with a line of text.

A stop is answered at once and takes effect after `stopDelay`.
-/

namespace Testbed

namespace Server

/-- The content type of wire values. -/
def contentType : String := "application/x-test-resources+binary"

/-- Milliseconds between the answer to a stop and the shutdown. -/
def stopDelay : Nat := 200

/-- The size of the largest body that is read. -/
def maxBody : Nat := 2097152

/-- Why a request that was admitted and routed fails. -/
inductive Failure where
  | malformed (cause : Codec.Error)
  | badRequest (cause : Message.Error)
  | bodyTooLarge
  /-- The decoded parameter is not text. -/
  | badParameter (name : String)
  | resolution (cause : Resolution.Error)

def Failure.message : Failure → String
  | malformed cause => "malformed body: " ++ cause.message
  | badRequest cause => "bad request: " ++ cause.message
  | bodyTooLarge =>
    "cannot read body: Failed to buffer the request body: length limit exceeded"
  | badParameter name => "Invalid URL: Invalid UTF-8 in `" ++ name ++ "`"
  | resolution cause => cause.message

def Failure.status : Failure → Nat
  | resolution _ => 500
  | _ => 400

end Server

/-- What a server is set up with; `σ` is the state its providers act on. -/
structure Server (σ : Type) where
  engine : Engine σ
  token : Option String := none
  idleTimeout : Option Nat := none

namespace Server

/-- What a server keeps between requests. -/
structure State (ρ σ : Type) where
  site : Site ρ σ
  now : Nat := 0
  lastAccess : Nat := 0
  /-- When a stop takes effect. -/
  stopAt : Option Nat := none

namespace State

variable {ρ σ : Type}

def advance (ms : Nat) (s : State ρ σ) : State ρ σ := { s with now := s.now + ms }

/-- Whether the shutdown has been called for. -/
def isStopped (s : State ρ σ) : Bool :=
  match s.stopAt with
  | none => false
  | some t => t ≤ s.now

def access (s : State ρ σ) : State ρ σ := { s with lastAccess := s.now }

/-- Calls for a shutdown, unless an earlier one is due. -/
def stop (s : State ρ σ) : State ρ σ :=
  let due := s.now + stopDelay
  { s with stopAt := some (match s.stopAt with | none => due | some t => min t due) }

end State

variable {ρ σ : Type} [Held ρ σ] [Described ρ]

/-- The idle clock of a server in a state. -/
def idle (server : Server (Site ρ σ)) (s : State ρ σ) : Idle := ⟨server.idleTimeout, s.lastAccess⟩

/-- The value of a body; an empty one is null. -/
def readBody (body : Bytes) : Except Failure Value :=
  if maxBody < body.length then .error .bodyTooLarge
  else if body.isEmpty then .ok .null
  else (Codec.decode body).mapError .malformed

def readResolve (body : Bytes) : Except Failure Message.ResolveRequest := do
  let v ← readBody body
  (Message.ResolveRequest.ofValue v).mapError .badRequest

/-- Null asks for the list without entries and configuration. -/
def readList (body : Bytes) : Except Failure Message.ListRequest := do
  match ← readBody body with
  | .null => .ok {}
  | v => (Message.ListRequest.ofValue v).mapError .badRequest

/-- The text of a path parameter. -/
def readParameter (name segment : String) : Except Failure String :=
  match Text.Percent.decodeText? segment with
  | some text => .ok text
  | none => .error (.badParameter name)

def readScope (segment : String) : Except Failure Scope :=
  (readParameter "scope" segment).map Scope.parse

/-- The live resources within a scope as wire values. -/
def describe (scope : Scope) (s : State ρ σ) : Value :=
  .list ((s.site.descriptors scope).map Message.Descriptor.toValue)

/-- Carries out a routed request. -/
def serve (server : Server (Site ρ σ)) (route : Route) (method : Http.Method) (body : Bytes)
    (s : State ρ σ) : Except Failure Value × State ρ σ :=
  match route with
  | .list =>
    let request := if method = .post then readList body else .ok {}
    (request.map fun r => .ofStrings (server.engine.resolvableProperties r.entries r.config), s)
  | .requiredGroups => (.ok (.ofStrings server.engine.requiredGroups), s)
  | .requirements segment =>
    ((readParameter "expression" segment).map fun e =>
      .ofStrings (server.engine.requiredProperties e), s)
  | .resolve =>
    match readResolve body with
    | .error e => (.error e, s)
    | .ok r =>
      let (outcome, site) := (server.engine.resolve r.name r.properties r.config).run s.site
      ((outcome.mapError .resolution).map .ofOption, { s with site })
  | .closeAll =>
    let (closed, site) := s.site.closeAll
    (.ok (.bool closed), { s with site })
  | .close segment =>
    match readScope segment with
    | .error e => (.error e, s)
    | .ok scope =>
      let (closed, site) := s.site.closeScope scope
      (.ok (.bool closed), { s with site })
  | .resources => (.ok (describe .root s), s)
  | .resourcesIn segment => ((readScope segment).map fun scope => describe scope s, s)
  | .stop => (.ok (.bool true), s.stop)

/-- The response with an outcome; one that cannot be written is answered as a malformed body is. -/
def respond (outcome : Except Failure Value) : Http.Response :=
  match outcome.bind fun v => (Codec.encodeResult v).mapError .malformed with
  | .ok body => ⟨200, some contentType, body⟩
  | .error e => .ofText e.status e.message

/-- Answers an admitted request. -/
def answer (server : Server (Site ρ σ)) (r : Http.Request) (s : State ρ σ) :
    Http.Response × State ρ σ :=
  match Route.ofPath? r.path with
  | none => (⟨404, none, []⟩, s)
  | some route =>
    if !route.allows r.method then (⟨405, none, []⟩, s)
    else
      let (outcome, s) := server.serve route r.method r.body s
      (respond outcome, s)

/-- Answers a request that came from `remote`, with the body that a full answer has. -/
def receive (server : Server (Site ρ σ)) (remote : Address) (r : Http.Request) (s : State ρ σ) :
    Http.Response × State ρ σ :=
  match Access.check server.token remote (Access.presented r) with
  | .error denied => (.ofText 401 denied.message, s)
  | .ok () => server.answer r s.access

/-- Whether a request asks for the head of a response only, and of a route that takes it. -/
def wantsHead (r : Http.Request) : Bool :=
  r.method = .head && ((Route.ofPath? r.path).map fun route => route.allows .head).getD false

/-- Answers a request that came from `remote`. -/
def handle (server : Server (Site ρ σ)) (remote : Address) (r : Http.Request) (s : State ρ σ) :
    Http.Response × State ρ σ :=
  let (response, s) := server.receive remote r s
  (if wantsHead r then response.headOnly else response, s)

end Server

end Testbed
