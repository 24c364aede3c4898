import Rendezvous.Stun.Packet

/-!
# Keepalive of a direct path

Two peers that have found a direct path confirm it with binding requests. While it is checking, a
keepalive sends a request, sleeps and sends the next one; the sleep grows to half the silence once
the peer has been silent for five seconds, and after fifteen seconds of silence the peer is given
up. A response to one of the last 32 requests makes the path ready.

A retry loop is a task of its own, so there could be several of them: each is woken by itself, and
a flag tells whether one is running.

The clock counts whole milliseconds and is an argument of every step, as is the transaction id of
a request; steps yield the packet to send, if any. Whether sending it succeeds has no effect.
-/

namespace Rendezvous.Stun

/-! ## Times -/

/-- The first interval between requests, and the floor that it returns to. -/
def initialInterval : Nat := 500

/-- Silence after which the interval grows. -/
def backoffAfter : Nat := 5000

/-- Silence after which the peer is given up. -/
def abandonAfter : Nat := 15000

/-- How many requests are remembered for matching responses. -/
def sentHistory : Nat := 32

/-- Milliseconds in microseconds. Half a silence need not be a whole number of milliseconds. -/
def micros (ms : Nat) : Nat := 1000 * ms

/-- Whole milliseconds that last as long as some microseconds, at least. -/
def roundUp (us : Nat) : Nat := (us + 999) / 1000

/-! ## States -/

inductive KeepaliveState where
  | idle
  | checking
  | ready
  | abandoned
deriving DecidableEq, Repr

/-- Whether no further change is possible. -/
def KeepaliveState.isTerminal : KeepaliveState → Bool
  | ready | abandoned => true
  | _ => false

/-- A task that sends requests. It stays until it next wakes, even if the path became ready
meanwhile. -/
structure RetryLoop where
  /-- When it wakes. -/
  due : Nat
  /-- The interval, in microseconds. -/
  interval : Nat
  /-- Whether it has yet to send its first request. -/
  fresh : Bool
deriving DecidableEq, Repr

/-- A packet that is handed to the sink. -/
inductive Outgoing where
  | request (id : TransactionId)
  | response (id : TransactionId)
deriving DecidableEq

structure Keepalive where
  localId : String
  remoteId : String
  /-- Whether requests of the peer are answered. -/
  localReady : Bool := false
  /-- Whether a retry loop was started and has not ended. -/
  retrying : Bool := false
  /-- When something was last received, or checking was last started. -/
  lastHeard : Nat := 0
  /-- The ids of the latest requests, oldest first. -/
  sent : List TransactionId := []
  /-- How many requests were sent altogether. -/
  issued : Nat := 0
  state : KeepaliveState := .idle
  /-- The retry loops that are alive, the one started first at the front. -/
  loops : List RetryLoop := []
deriving DecidableEq

namespace Keepalive

/-- The keepalive of a path that is found at an instant. -/
def new (localId remoteId : String) (now : Nat) : Keepalive :=
  { localId := localId, remoteId := remoteId, lastHeard := now }

/-! ## What the peer sends -/

def setLocalReady (k : Keepalive) (ready : Bool) : Keepalive := { k with localReady := ready }

/-- Silence counts from now. -/
def hear (k : Keepalive) (now : Nat) : Keepalive := { k with lastHeard := now }

/-- Starts a retry loop unless there is one already or nothing is left to check. -/
def check (k : Keepalive) (now : Nat) : Keepalive :=
  if k.retrying || k.state.isTerminal then k
  else
    { k with
      retrying := true
      state := .checking
      loops := k.loops ++ [⟨now, micros initialInterval, true⟩] }

/-- Begins checking. -/
def start (k : Keepalive) (now : Nat) : Keepalive := (k.hear now).check now

/-- The user name that the peer's requests must carry. -/
def expectedUsername (k : Keepalive) : String := k.localId ++ ":" ++ k.remoteId

/-- The user name in requests to the peer. -/
def ownUsername (k : Keepalive) : String := k.remoteId ++ ":" ++ k.localId

/-- Whether a request is meant for this end: the right user name, with a single colon. -/
def accepts (k : Keepalive) (name : Option String) : Bool :=
  match name with
  | some name => name.toList.count ':' == 1 && name == k.expectedUsername
  | none => false

/-- A request of the peer: answered if this end is ready, and a reason to check the path too. -/
def receiveRequest (k : Keepalive) (now : Nat) (p : BindingPacket) : Keepalive × Option Outgoing :=
  if k.accepts p.username && k.localReady then (k.check now, some (.response p.transactionId))
  else (k, none)

/-- A response of the peer: the path is ready if it answers a remembered request. -/
def receiveResponse (k : Keepalive) (p : BindingPacket) : Keepalive :=
  if k.sent.contains p.transactionId && !k.state.isTerminal then { k with state := .ready } else k

/-- A datagram arrives: the keepalive after it, the response to send if any, and whether the
datagram was STUN. -/
def receive (codec : BindingCodec) (k : Keepalive) (now : Nat) (datagram : Bytes) :
    Keepalive × Option Outgoing × Bool :=
  let k := k.hear now
  if isStun datagram then
    match codec.parse datagram with
    | .error _ => (k, none, true)
    | .ok p =>
      match p.kind with
      | .request =>
        let (k, answer) := k.receiveRequest now p
        (k, answer, true)
      | .response => (k.receiveResponse p, none, true)
  else (k, none, false)

/-! ## Retry loops -/

/-- The interval after a silence. -/
def nextInterval (interval silence : Nat) : Nat :=
  if backoffAfter < silence then micros silence / 2
  else if silence < initialInterval then micros initialInterval
  else interval

/-- Remembers a request. -/
def remember (sent : List TransactionId) (id : TransactionId) : List TransactionId :=
  (if sent.length = sentHistory then sent.tail else sent) ++ [id]

/-- How long a loop sleeps: an interval, but not past the end of a silence that is too long. -/
def pause (interval silence : Nat) : Nat :=
  roundUp (min interval (micros (abandonAfter - silence)))

/-- A loop sends a request under a fresh id and goes to sleep. -/
def sendAndSleep (k : Keepalive) (loop now interval : Nat) (id : TransactionId) : Keepalive :=
  { k with
    sent := remember k.sent id
    issued := k.issued + 1
    loops := k.loops.set loop ⟨now + pause interval (now - k.lastHeard), interval, false⟩ }

/-- A loop ends, and clears the flag. -/
def endLoop (k : Keepalive) (loop : Nat) : Keepalive :=
  { k with retrying := false, loops := k.loops.eraseIdx loop }

/-- A loop wakes: the keepalive after it, and the request that it sends, if any, under `id`. -/
def wake (k : Keepalive) (loop now : Nat) (id : TransactionId) : Keepalive × Option Outgoing :=
  match k.loops[loop]? with
  | none => (k, none)
  | some r =>
    let silence := now - k.lastHeard
    if k.state ≠ .checking then (k.endLoop loop, none)
    else if r.fresh then (k.sendAndSleep loop now r.interval id, some (.request id))
    else if abandonAfter ≤ silence then ({ k with state := .abandoned }.endLoop loop, none)
    else (k.sendAndSleep loop now (nextInterval r.interval silence) id, some (.request id))

/-! ## Steps -/

/-- What may happen to a keepalive. -/
inductive Input where
  | start
  | setLocalReady (ready : Bool)
  | receive (datagram : Bytes)
  /-- A loop wakes; should it send a request, `id` is drawn for it. -/
  | wake (loop : Nat) (id : TransactionId)
deriving DecidableEq

/-- A step that is not interrupted: the keepalive after it, and the packet that is handed to the
sink, if any. -/
def step (codec : BindingCodec) (k : Keepalive) (now : Nat) (i : Input) :
    Keepalive × Option Outgoing :=
  match i with
  | .start => (k.start now, none)
  | .setLocalReady ready => (k.setLocalReady ready, none)
  | .receive datagram =>
    let (k, answer, _) := k.receive codec now datagram
    (k, answer)
  | .wake loop id => k.wake loop now id

/-- The bytes of a packet that is sent. -/
def datagram (codec : BindingCodec) (k : Keepalive) (p : Outgoing) : Bytes :=
  match p with
  | .request id => codec.buildRequest id k.ownUsername
  | .response id => codec.buildResponse id

/-! ## Lemmas -/

@[simp] theorem state_hear (k : Keepalive) (now : Nat) : (k.hear now).state = k.state := rfl

@[simp] theorem retrying_hear (k : Keepalive) (now : Nat) :
    (k.hear now).retrying = k.retrying := rfl

@[simp] theorem loops_hear (k : Keepalive) (now : Nat) : (k.hear now).loops = k.loops := rfl

@[simp] theorem lastHeard_hear (k : Keepalive) (now : Nat) : (k.hear now).lastHeard = now := rfl

theorem accepts_iff (k : Keepalive) (name : Option String) :
    k.accepts name = true ↔
      name = some k.expectedUsername ∧ k.expectedUsername.toList.count ':' = 1 := by
  unfold accepts
  cases name with
  | none => simp
  | some name =>
    simp only [Bool.and_eq_true, beq_iff_eq, Option.some.injEq]
    constructor
    · rintro ⟨one, rfl⟩
      exact ⟨rfl, one⟩
    · rintro ⟨rfl, one⟩
      exact ⟨one, rfl⟩

end Keepalive

end Rendezvous.Stun
