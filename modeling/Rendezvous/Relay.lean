import Rendezvous.Database.Rules
import Rendezvous.Message.Request
import Rendezvous.Message.Response

/-!
# The relay

One relay holds the records and knows which connection speaks for which peer. A connection is
pending until a login gives it an identity; then it is online under that identity, and a logout
makes it pending again. A peer is online on one connection at most: a second login is refused, or
takes the identity over if it is forced.

The relay only decides. What it wants to send it yields as pushes, each for the queue of one
connection.
-/

namespace Rendezvous

/-- Names a transport connection for its whole lifetime. -/
abbrev ConnectionId := Nat

/-- Names the queue of responses of one opened connection. -/
abbrev QueueId := Nat

/-- How the relay reaches a connection. -/
structure Link where
  connection : ConnectionId
  queue : QueueId
deriving DecidableEq, Repr

/-- A response on its way into a queue. -/
structure Push where
  link : Link
  response : Response
deriving DecidableEq

structure Relay where
  db : Database := {}
  /-- Whether the records changed since they were last written. -/
  dirty : Bool := false
  /-- The connections without an identity. -/
  pending : Table ConnectionId Link := .empty
  /-- The connection that speaks for each peer. -/
  online : Table String Link := .empty
  /-- The peer that each connection speaks for. -/
  identities : Table ConnectionId String := .empty
deriving DecidableEq

/-- What a request leads to: the relay after it, what goes to other connections, and what the
requester gets. -/
structure Outcome where
  relay : Relay
  pushes : List Push := []
  result : Except RelayError Response

namespace Relay

/-! ## Connections -/

instance : Inhabited Relay := ⟨{}⟩

/-- Whether a peer is online. -/
def isOnline (r : Relay) (peer : String) : Bool := r.online.contains peer

/-- How an open connection is reached. -/
def link? (r : Relay) (c : ConnectionId) : Option Link :=
  match r.pending.get? c with
  | some link => some link
  | none => (r.identities.get? c).bind r.online.get?

/-- The queues that the relay may still push to. -/
def queues (r : Relay) : List QueueId :=
  r.pending.values.map (·.queue) ++ r.online.values.map (·.queue)

/-- Adds a connection, without an identity. -/
def opened (r : Relay) (c : ConnectionId) (q : QueueId) : Relay :=
  { r with pending := r.pending.insert c ⟨c, q⟩ }

/-- Forgets a connection, and its peer goes offline. -/
def closed (r : Relay) (c : ConnectionId) : Relay :=
  if r.pending.contains c then { r with pending := r.pending.erase c }
  else
    match r.identities.get? c with
    | some peer =>
      { r with online := r.online.erase peer, identities := r.identities.erase c }
    | none => r

/-- Takes the identity from a connection. -/
def demote (r : Relay) (c : ConnectionId) : Relay :=
  match r.identities.get? c with
  | none => r
  | some peer =>
    { r with
      pending :=
        match r.online.get? peer with
        | some link => r.pending.insert c link
        | none => r.pending
      online := r.online.erase peer
      identities := r.identities.erase c }

/-- Gives a pending connection an identity. -/
def promote (r : Relay) (c : ConnectionId) (link : Link) (peer : String) : Relay :=
  { r with
    pending := r.pending.erase c
    online := r.online.insert peer link
    identities := r.identities.insert c peer }

/-! ## Outcomes -/

/-- Nothing changes and the requester learns why. -/
def refuse (r : Relay) (e : RelayError) : Outcome := { relay := r, result := .error e }

/-- Nothing is pushed, and the requester gets the answer. -/
def answer (r : Relay) (reply : Response) : Outcome := { relay := r, result := .ok reply }

/-- The requester learns that the request succeeded. -/
def accept (r : Relay) : Outcome := r.answer {}

/-- Takes over changed records. -/
def commit (r : Relay) (db : Except RelayError Database) : Outcome :=
  match db with
  | .ok db => { r with db := db, dirty := true }.accept
  | .error e => r.refuse e

/-! ## Identities -/

/-- Registers a peer; the connection need not be logged in. -/
def register (r : Relay) (q : Request) : Outcome :=
  r.commit (r.db.register q.fromId (q.pwdDigest.getD "") (q.salt.getD ""))

/-- Moves an identity to a connection, which leaves its own one first. The connection that held
the identity becomes pending and is told. -/
def takeOver (r : Relay) (c : ConnectionId) (peer : String) : Outcome :=
  let previous := (r.online.get? peer).map (·.connection)
  let freed := r.demote c
  let freed := previous.elim freed freed.demote
  let notices :=
    ((previous.bind freed.pending.get?).map fun link => ⟨link, Response.ofEvent .logout⟩).toList
  match freed.pending.get? c with
  | some link => { relay := freed.promote c link peer, pushes := notices, result := .ok {} }
  | none => { relay := freed, pushes := notices, result := .error (.peerNotLogin peer) }

/-- Logs a connection in. Nothing changes until success is certain. -/
def login (r : Relay) (c : ConnectionId) (q : Request) : Outcome :=
  let peer := q.fromId
  match r.db.authenticate peer (q.pwdDigest.getD "") with
  | .error e => r.refuse e
  | .ok () =>
    if r.identities.get? c = some peer then r.accept
    else if r.isOnline peer && !q.force then r.refuse (.peerAlreadyOnline peer)
    else if !r.identities.contains c && !r.pending.contains c then r.refuse (.peerNotLogin peer)
    else r.takeOver c peer

/-! ## Sessions -/

/-- A text that the request must carry. -/
def required (value : Option String) (what : String) : Except RelayError String :=
  match value.filter (!·.isEmpty) with
  | some v => .ok v
  | none => .error (.invalidParameters ("missing " ++ what))

/-- What a request hands on to the other end, apart from names. -/
def payload (a : Action) (q : Request) : Except RelayError (Table String String) :=
  match a with
  | .iceCandidate => do
    let candidate ← required q.iceCandidate "ice candidate"
    return .ofList [(Response.candidateKey, candidate)]
  | .iceAuth => do
    let ufrag ← required q.iceUfrag "ice ufrag"
    let pwd ← required q.icePwd "ice pwd"
    return .ofList [(Response.ufragKey, ufrag), (Response.pwdKey, pwd)]
  | _ => .ok .empty

/-- The event that a request becomes at the other end of the session. -/
def forward (r : Relay) (caller : String) (a : Action) (q : Request) : Except RelayError Push := do
  let name ← q.requireServiceName
  let content ← payload a q
  let target ← r.db.forwardTarget caller name q.toId
  match r.online.get? target with
  | some link =>
    return ⟨link, { Response.ofEvent a with
      resultMap := content, fromId := some caller, serviceName := some name }⟩
  | none => throw (.peerNotLogin target)

/-- Hands a request on to the other end of the session. -/
def relayed (r : Relay) (caller : String) (a : Action) (q : Request) : Outcome :=
  match r.forward caller a q with
  | .ok push => { relay := r, pushes := [push], result := .ok {} }
  | .error e => r.refuse e

/-- Asks the owner of a service to open or close a session; only members may. -/
def session (r : Relay) (caller : String) (a : Action) (q : Request) : Outcome :=
  match q.requireServiceName.bind fun name => r.db.checkAccess caller name q.servicePwd with
  | .ok () => r.relayed caller a q
  | .error e => r.refuse e

/-! ## Services -/

/-- The reply that lists all services. -/
def servicesReply (r : Relay) : Response :=
  let (names, owners) := r.db.listServices
  { resultList := names, resultMap := owners }

/-- The reply that lists the services of a peer. -/
def ownServicesReply (r : Relay) (caller : String) : Response :=
  let found := r.db.servicesOf caller
  { resultList := found.map fun e => e.1 ++ " (" ++ e.2.name ++ ")"
    resultMap := .ofList (found.map fun e => (e.1, e.2.name)) }

/-- What is known of a service, and whether it is active now. -/
def serviceInfo (r : Relay) (name : String) : Except RelayError ServiceInfo :=
  r.db.serviceInfo name ((r.db.service? name).any fun s => r.isOnline s.owner)

end Relay

end Rendezvous
