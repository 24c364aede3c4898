import Rendezvous.Client.Error
import Rendezvous.Correlator
import Rendezvous.Outbox

/-!
# A client of the relay

A client keeps one connection and dials again when it is lost. Each call registers its request,
puts it into a queue of limited length and waits for the reply; a call that finds the queue full
waits for room first. What arrives is a reply, which goes to the call that waits for it, or a
pushed event, which goes into a queue of its own.

Every step here runs without interruption; what happens between two steps of a call is up to the
steps of the others.
-/

namespace Rendezvous

inductive NetworkStatus where
  | unknown
  | connecting
  | connected
  | disconnected
deriving DecidableEq, Repr

def NetworkStatus.name : NetworkStatus → String
  | unknown => "unknown"
  | connecting => "connecting"
  | connected => "connected"
  | disconnected => "disconnected"

/-- How many requests wait to be written at most. -/
def requestCapacity : Nat := 32

/-- How many pushed events wait to be handled at most. -/
def eventCapacity : Nat := 64

/-- A call that waits for its reply. -/
structure Call where
  /-- What its request was registered under. -/
  token : String
  waiter : WaiterId
deriving DecidableEq, Repr

structure Client where
  status : NetworkStatus := .unknown
  /-- The peer that the client is logged in as. -/
  session : Option String := none
  correlator : Correlator := {}
  /-- The requests that wait to be written, oldest first. -/
  outbound : List Request := []
  /-- The calls that wait for room in that queue, oldest first, each with its request. -/
  blocked : List (Call × Request) := []
  events : Outbox := { capacity := eventCapacity }
  /-- Whether somebody has taken the receiving end of the events. -/
  eventsTaken : Bool := false
deriving DecidableEq

namespace Client

instance : Inhabited Client := ⟨{}⟩

/-! ## Calls -/

/-- Takes the receiving end of the pushed events; only the first to ask gets it. -/
def takeEvents (c : Client) : Client × Bool := ({ c with eventsTaken := true }, !c.eventsTaken)

/-- Puts a request into the queue, or its call behind those that wait for room. -/
def enqueue (c : Client) (call : Call) (q : Request) : Client :=
  if c.blocked.isEmpty && c.outbound.length < requestCapacity then
    { c with outbound := c.outbound ++ [q] }
  else { c with blocked := c.blocked ++ [(call, q)] }

/-- A request as it is sent: under its token, and from the peer that is logged in if it does not
say from whom. -/
def address (c : Client) (q : Request) (token : String) : Request :=
  { q with sequence := token, fromId := if q.fromId.isEmpty then c.session.getD "" else q.fromId }

/-- A call begins, and goes on without interruption until it waits for room in the queue or for its
reply. Its token is the first of some drawn ones that is not in use; if all are, the call gets
nowhere. -/
def begin (c : Client) (now : Nat) (tokens : List String) (q : Request) :
    Except ClientError (Client × Call) :=
  if c.status ≠ .connected then .error .notConnected
  else
    match q.action? with
    | .error e => .error (.refused e)
    | .ok a =>
      match c.correlator.register now a tokens with
      | none => .error .requestTimeout
      | some (correlator, token, w) =>
        .ok ({ c with correlator := correlator }.enqueue ⟨token, w⟩ (c.address q token), ⟨token, w⟩)

/-- Room in the queue is given to the calls that wait for it first come, first served: the one that
waits longest gets some. -/
def unblock (c : Client) : Client :=
  match c.blocked with
  | [] => c
  | (_, q) :: rest =>
    if c.outbound.length < requestCapacity then
      { c with outbound := c.outbound ++ [q], blocked := rest }
    else c

def isBlocked (c : Client) (call : Call) : Bool := c.blocked.any (·.1 == call)

/-- Forgets the request of a call, which waits no longer. -/
def giveUp (c : Client) (call : Call) : Client :=
  { c with
    correlator := (c.correlator.abandon call.token).dropWaiter call.waiter
    blocked := c.blocked.filter (·.1 != call) }

/-- A call goes on: it has its outcome once its request is in the queue and its reply has come or
will not come any more. -/
def finish (c : Client) (call : Call) : Client × Option (Except ClientError Response) :=
  if c.isBlocked call then (c, none)
  else
    match c.correlator.waiter? call.waiter with
    | some (.delivered reply) =>
      ({ c with correlator := c.correlator.dropWaiter call.waiter },
       some (if reply.isOk then .ok reply else .error (.remote reply.error)))
    | some .closed => (c.giveUp call, some (.error .connectionClosed))
    | _ => (c, none)

/-- The time of a call is up. -/
def timeOut (c : Client) (call : Call) : Client × ClientError := (c.giveUp call, .requestTimeout)

/-- The login that the client asked for succeeded. -/
def loggedIn (c : Client) (peer : String) : Client := { c with session := some peer }

/-- The logout that the client asked for succeeded. -/
def loggedOut (c : Client) : Client := { c with session := none }

/-! ## The connection -/

/-- Begins to dial. -/
def dial (c : Client) : Except ClientError Client :=
  if c.status = .connected then .error .alreadyConnected else .ok { c with status := .connecting }

/-- Nobody answers. -/
def dialFailed (c : Client) : Client := { c with status := .disconnected }

/-- The relay answers; requests from before are forgotten. -/
def dialed (c : Client) : Client := { c with outbound := [], status := .connected }

/-- The connection is gone; whoever waits for a reply learns it. -/
def lost (c : Client) : Client :=
  { c with correlator := c.correlator.cancelAll.1, session := none, status := .disconnected }

/-- The client ends the connection. -/
def disconnect (c : Client) : Client := c.lost

/-- Writes the oldest request, as a frame; one that is too long for a frame is given up. -/
def writeRequest (c : Client) : Client × Option (Request × Bytes) :=
  match c.outbound with
  | [] => (c, none)
  | q :: rest =>
    let c := { c with outbound := rest }
    match q.encode with
    | .ok body => (c, some (q, body))
    | .error _ => ({ c with correlator := c.correlator.abandon q.sequence }, none)

/-- Takes in a response: a reply goes to its caller, an event into its queue. A pushed logout
means that the peer is logged in elsewhere. -/
def dispatch (c : Client) (r : Response) : Client :=
  if r.isEvent then
    { c with
      session := if r.eventAction? = some .logout then none else c.session
      events := c.events.push r }
  else { c with correlator := (c.correlator.resolve r).1 }

/-- Takes in the body of a frame; one that holds no response is passed over. -/
def receive (c : Client) (body : Bytes) : Client :=
  match Response.decode body with
  | .ok r => c.dispatch r
  | .error _ => c

end Client

end Rendezvous
