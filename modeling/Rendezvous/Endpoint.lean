import Rendezvous.Endpoint.SessionKey
import Rendezvous.Message.Response

/-!
# Sessions of a peer

An endpoint keeps one agent for each session with another peer. Events that the relay pushes open
and close sessions and bring the credentials and candidates of the other end; what an agent
reports is signalled to the other end. The owner of a service is controlled, the member that asked
for the session controls it.

The agents themselves are outside. A step yields the calls it makes of them, and is told whether
an agent can be created; whether an agent likes what it is given has no effect.
-/

namespace Rendezvous

/-- The part that an end takes in a session. -/
inductive Role where
  | controlling
  | controlled
deriving DecidableEq, Repr

/-- Names one created agent. -/
abbrev AgentId := Nat

structure Session where
  agent : AgentId
  role : Role
deriving DecidableEq, Repr

/-- What an agent reports. -/
inductive AgentEvent where
  | authReady (ufrag pwd : String)
  | candidateGathered (candidate : String)
deriving DecidableEq, Repr

/-- Through which an agent reports; it knows the agent's session by its key only. One is handed out
for each agent that is to be created, also if there is none in the end. -/
structure EventSink where
  key : SessionKey
  agent : Option AgentId
deriving DecidableEq, Repr

/-- What an endpoint does with agents. -/
inductive AgentCall where
  /-- Creates an agent; there is none if that fails. -/
  | create (key : SessionKey) (role : Role) (agent : Option AgentId)
  | credentials (key : SessionKey) (agent : AgentId) (ufrag pwd : String)
  | candidate (key : SessionKey) (agent : AgentId) (candidate : String)
  | close (key : SessionKey) (agent : AgentId)
deriving DecidableEq, Repr

/-- What an endpoint wants to tell the other end of a session. -/
inductive Signal where
  | forward (action : Action) (key : SessionKey)
  | auth (key : SessionKey) (ufrag pwd : String)
  | candidate (key : SessionKey) (candidate : String)
deriving DecidableEq, Repr

structure Endpoint where
  sessions : Table SessionKey Session := .empty
  /-- How many agents were created so far. -/
  created : Nat := 0
  /-- The reports not yet handled, oldest first. -/
  reports : List (SessionKey × AgentEvent) := []
deriving DecidableEq

namespace Endpoint

/-! ## Sessions -/

instance : Inhabited Endpoint := ⟨{}⟩

def session? (e : Endpoint) (key : SessionKey) : Option Session := e.sessions.get? key

def hasSession (e : Endpoint) (key : SessionKey) : Bool := e.sessions.contains key

/-- Closes the session of a key, if there is one. -/
def closeSession (e : Endpoint) (key : SessionKey) : Endpoint × List AgentCall :=
  match e.session? key with
  | some s => ({ e with sessions := e.sessions.erase key }, [.close key s.agent])
  | none => (e, [])

/-- Opens a session; one of the same key is closed first, and stays closed if no agent can be
created. -/
def openSession (e : Endpoint) (creates : Bool) (key : SessionKey) (role : Role) :
    Endpoint × List AgentCall :=
  let (e, calls) := e.closeSession key
  if creates then
    let agent := e.created
    ({ e with sessions := e.sessions.insert key ⟨agent, role⟩, created := agent + 1 },
     calls ++ [.create key role (some agent)])
  else (e, calls ++ [.create key role none])

/-- Closes every session. -/
def closeAll (e : Endpoint) : Endpoint × List AgentCall :=
  ({ e with sessions := .empty }, e.sessions.entries.map fun s => .close s.1 s.2.agent)

/-! ## Events from the relay -/

/-- Passes something on to the agent of a key, if there is one. -/
def tellAgent (e : Endpoint) (key : SessionKey) (call : AgentId → AgentCall) : List AgentCall :=
  match e.session? key with
  | some s => [call s.agent]
  | none => []

/-- Reacts to an event about the session of a key: the calls to agents and the signal for the
other end. -/
def handleFor (e : Endpoint) (creates : Bool) (key : SessionKey) (a : Action) (event : Response) :
    Endpoint × List AgentCall × List Signal :=
  match a with
  | .iceOpen =>
    let (e, calls) := e.openSession creates key .controlled
    (e, calls, [.forward (if creates then .iceOpenAck else .iceClose) key])
  | .iceOpenAck =>
    let (e, calls) := e.openSession creates key .controlling
    (e, calls, [])
  | .iceClose =>
    let (e, calls) := e.closeSession key
    (e, calls, [.forward .iceCloseAck key])
  | .iceCloseAck =>
    let (e, calls) := e.closeSession key
    (e, calls, [])
  | .iceAuth =>
    match event.get? Response.ufragKey, event.get? Response.pwdKey with
    | some ufrag, some pwd =>
      (e, e.tellAgent key fun agent => .credentials key agent ufrag pwd, [])
    | _, _ => (e, [], [])
  | .iceCandidate =>
    match event.get? Response.candidateKey with
    | some candidate => (e, e.tellAgent key fun agent => .candidate key agent candidate, [])
    | none => (e, [], [])
  | _ => (e, [], [])

/-- Reacts to a pushed event. A logout ends every session; other events count only if they say
which service they are about and which peer they come from. An event makes one call at most whose
answer is read, for an agent, and `creates` is that answer. -/
def handle (e : Endpoint) (creates : Bool) (event : Response) :
    Endpoint × List AgentCall × List Signal :=
  match event.eventAction? with
  | none => (e, [], [])
  | some .logout =>
    let (e, calls) := e.closeAll
    (e, calls, [])
  | some a =>
    match event.fromId, event.serviceName with
    | some peer, some service => e.handleFor creates ⟨service, peer⟩ a event
    | _, _ => (e, [], [])

/-! ## Reports from agents -/

/-- The signal that a report becomes; a report for a key without a session becomes none. -/
def signal? (e : Endpoint) (key : SessionKey) (report : AgentEvent) : Option Signal :=
  if e.hasSession key then
    match report with
    | .authReady ufrag pwd => some (.auth key ufrag pwd)
    | .candidateGathered candidate => some (.candidate key candidate)
  else none

/-- An agent reports something. -/
def report (e : Endpoint) (sink : EventSink) (r : AgentEvent) : Endpoint :=
  { e with reports := e.reports ++ [(sink.key, r)] }

/-- Handles the oldest report. -/
def handleReport (e : Endpoint) : Endpoint × Option Signal :=
  match e.reports with
  | [] => (e, none)
  | (key, r) :: rest =>
    let e := { e with reports := rest }
    (e, e.signal? key r)

/-! ## Lemmas -/

theorem session?_closeSession (e : Endpoint) (key k : SessionKey) :
    (e.closeSession key).1.session? k = if k = key then none else e.session? k := by
  unfold closeSession
  split
  · exact Table.get?_erase ..
  · next h => by_cases hk : k = key <;> simp [hk, h]

theorem session?_closeAll (e : Endpoint) (k : SessionKey) : e.closeAll.1.session? k = none := rfl

end Endpoint

end Rendezvous
