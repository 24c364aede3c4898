import Rendezvous.Database.Snapshot
import Rendezvous.Relay

/-!
# What the relay reacts to

Connections open and close and send requests. A request on an open connection is answered by
exactly one reply under its sequence; whatever it makes the relay push to another connection goes
out before the reply.
-/

namespace Rendezvous

inductive Event where
  | opened (id : ConnectionId) (queue : QueueId)
  | closed (id : ConnectionId)
  /-- A request, and the time at which it arrives, in milliseconds since the epoch. -/
  | request (id : ConnectionId) (time : UInt64) (request : Request)
  /-- Nothing more will come. -/
  | shutdown
deriving DecidableEq, Repr

namespace Relay

/-- The reply that shows a service. -/
def showReply (i : ServiceInfo) : Response :=
  { resultList := [(Utf8.decode? i.document.compact).getD ""], resultMap := i.toTable }

/-- Shows a service to a peer that is online. -/
def showService (r : Relay) (q : Request) : Outcome :=
  match q.requireServiceName.bind r.serviceInfo with
  | .ok i => r.answer (showReply i)
  | .error e => r.refuse e

/-- Changes the records of the named service. -/
def change (r : Relay) (q : Request) (f : String → Except RelayError Database) : Outcome :=
  r.commit (q.requireServiceName.bind f)

/-- What a logged-in peer asks for. Requests about identities do not come here. -/
def serve (r : Relay) (caller : String) (time : UInt64) (a : Action) (q : Request) : Outcome :=
  match a with
  | .register | .login | .logout => r.accept
  | .services => r.answer r.servicesReply
  | .myServices => r.answer (r.ownServicesReply caller)
  | .showService => r.showService q
  | .createService =>
    r.commit (r.db.create time caller (q.serviceName.getD "") q.servicePwd
      (q.serviceSalt.getD "") (q.serviceDesc.getD ""))
  | .removeService =>
    r.change q fun name => (r.db.remove caller name q.servicePwd).map (·.2)
  | .enableService => r.change q fun name => r.db.setEnabled caller name q.servicePwd true
  | .disableService => r.change q fun name => r.db.setEnabled caller name q.servicePwd false
  | .joinService => r.change q fun name => r.db.join caller name q.servicePwd
  | .leaveService => r.change q fun name => r.db.leave caller name q.servicePwdDigest
  | .connectService => r.session caller .iceOpen q
  | .disconnectService => r.session caller .iceClose q
  | .iceOpen | .iceClose | .iceOpenAck | .iceCloseAck | .iceAuth | .iceCandidate =>
    r.relayed caller a q

/-- What a request leads to. Who sends it is told by the connection alone; the id in the request
only says who wants to register or log in. -/
def dispatch (r : Relay) (c : ConnectionId) (time : UInt64) (q : Request) : Outcome :=
  match q.action? with
  | .error e => r.refuse e
  | .ok .register => r.register q
  | .ok .login => r.login c q
  | .ok .logout => (r.demote c).accept
  | .ok a =>
    match r.identities.get? c with
    | some caller => r.serve caller time a q
    | none => r.refuse (.peerNotLogin q.fromId)

/-- The reply to a request. -/
def reply (q : Request) (result : Except RelayError Response) : Response :=
  match result with
  | .ok content => { content with sequence := q.sequence }
  | .error e => { sequence := q.sequence, error := e.message }

/-- Serves a request: what it pushes, and then the reply if the connection is open. -/
def handleRequest (r : Relay) (c : ConnectionId) (time : UInt64) (q : Request) :
    Relay × List Push :=
  let o := r.dispatch c time q
  (o.relay, o.pushes ++ ((o.relay.link? c).map fun link => ⟨link, reply q o.result⟩).toList)

/-- Reacts to an event. -/
def handle (r : Relay) (e : Event) : Relay × List Push :=
  match e with
  | .opened c q => (r.opened c q, [])
  | .closed c => (r.closed c, [])
  | .request c time q => r.handleRequest c time q
  | .shutdown => (r, [])

end Relay

end Rendezvous
