import Testbed.Client.Error
import Testbed.Http
import Testbed.Server
import Testbed.Text.Blank

/-!
# The client

A client calls one server. Each call is one request with the client's token, and its answer is read
back as the value the call is about. A call fails if what it asks cannot be written, if no response comes
back, if the server answers another status than 200, or if what it answers cannot be read.
-/

namespace Testbed

structure Client where
  base : Url
  token : Option String := none
  deriving DecidableEq, Repr

namespace Client

/-- How requests travel to a location and responses back, `σ` being what they pass through and reach.
No response means that none came back. -/
abbrev Transport (σ : Type) := Url → Http.Request → σ → Option Http.Response × σ

/-- What a client does: it may fail, and acts on what its transport passes through. -/
abbrev Call (σ α : Type) := ExceptT Error (StateM σ) α

/-- The server at `uri`. -/
def ofUri (uri : String) (token : Option String) : Except Error Client :=
  match Url.parse uri with
  | .ok base => .ok ⟨base, token⟩
  | .error cause => .error (.usage (.badUri uri cause))

/-- The server that settings record. -/
def ofSettings (s : Settings) : Except Error Client := ofUri s.uri s.accessToken

section

variable {σ α : Type} (c : Client) (send : Transport σ)

/-- The request for a call; one with a body says what it is. -/
def request (method : Http.Method) (url : Url) (body : Option Bytes) : Http.Request where
  method
  target := url.target
  headers :=
    [("accept", Text.utf8 Server.contentType)] ++
    (c.token.map fun t => (Server.tokenHeader, Text.utf8 t)).toList ++
    (body.map fun _ => ("content-type", Text.utf8 Server.contentType)).toList
  body := body.getD []

/-- The value a response carries. -/
def readResponse (r : Http.Response) : Except Error Value :=
  if r.status = 200 then (Codec.decode r.body).mapError .codec
  else .error (.server r.status (Text.trim (Text.ofUtf8Lossy r.body)))

/-- Makes one request; a body that cannot be written and a token that no header can carry are never sent. -/
def exchange (method : Http.Method) (path : List String) (body : Option Value) : Call σ Value :=
  ExceptT.mk fun s =>
    match body.mapM Codec.encode with
    | .error cause => (.error (.codec cause), s)
    | .ok bytes =>
      let url := c.base.extend path
      let r := c.request method url bytes
      let answer := if r.headers.all fun h => Http.isSendable h.2 then send url r s else (none, s)
      match answer with
      | (none, s) => (.error (.transport url.text), s)
      | (some response, s) => (readResponse response, s)

/-- Takes what was read from an answer. -/
def expect (outcome : Message.Read α) : Call σ α :=
  ExceptT.mk fun s => (outcome.mapError .shape, s)

/-! ### Calls -/

def resolvableProperties : Call σ (List String) := do
  expect (Message.stringList "list" (← c.exchange send .get ["list"] none))

/-- The names that can be resolved with these entries and this configuration. -/
def list (entries : EntryGroups) (config : Properties) : Call σ (List String) := do
  let body := Message.ListRequest.toValue ⟨entries, config⟩
  expect (Message.stringList "list" (← c.exchange send .post ["list"] (some body)))

def requiredGroups : Call σ (List String) := do
  expect (Message.stringList "entries" (← c.exchange send .get ["requirements", "entries"] none))

def requiredProperties (expression : String) : Call σ (List String) := do
  expect (Message.stringList "requirements"
    (← c.exchange send .get ["requirements", "expr", expression] none))

def resolve (name : String) (properties config : Properties) : Call σ (Option String) := do
  let body := Message.ResolveRequest.toValue ⟨name, properties, config⟩
  expect (Message.optionalString "resolve" (← c.exchange send .post ["resolve"] (some body)))

def closeAll : Call σ Bool := do
  expect (Message.boolean "close" (← c.exchange send .get ["close", "all"] none))

/-- The path segment behind which everything is closed, and so no scope's. -/
def closeAllSegment : String := "all"

/-- Closes a scope that its name leads to; the empty one and `all` it does not lead to. -/
def closeScope (scope : String) : Call σ Bool := do
  if scope = "" ∨ scope = closeAllSegment then
    throw (.usage (.unclosable scope))
  expect (Message.boolean "close" (← c.exchange send .get ["close", scope] none))

/-- The descriptors in an answer. -/
def descriptors : Value → Message.Read (List Message.Descriptor)
  | .null => .ok []
  | .list items => items.mapM Message.Descriptor.ofValue
  | v => Message.unexpected "resources" "list" v

/-- The live resources, those within `scope` if it is given and not empty. -/
def resources (scope : Option String) : Call σ (List Message.Descriptor) := do
  let path := "testcontainers" :: (scope.filter (· ≠ "")).toList
  expect (descriptors (← c.exchange send .get path none))

def stop : Call σ Bool := do
  expect (Message.boolean "stop" (← c.exchange send .post ["stop"] none))

end

/-! ### Transports -/

namespace Transport

variable {ρ σ : Type}

/-- Nothing gets through. -/
def unreachable : Transport σ := fun _ _ s => (none, s)

/-- Everything reaches one server of the same machine. -/
def toServer [Held ρ σ] [Described ρ] (server : Server (Site ρ σ)) :
    Transport (Server.State ρ σ) := fun _ request s =>
  let (response, s) := server.handle (.v4 127 0 0 1) request.received s
  (some response, s)

end Transport

end Client

end Testbed
