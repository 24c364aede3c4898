import Rendezvous.Stun.Keepalive

/-!
# A keepalive on its clock

Runs a keepalive and keeps a log of what happened, of what it sent and of the states it went
through. Whatever is due at an instant has happened before the next step is taken.
-/

namespace Rendezvous.Stun

open Keepalive (Input)

/-- A packet that was sent. -/
inductive Sent where
  /-- A request, counted from zero. -/
  | request (number : Nat)
  | response (id : TransactionId)
deriving DecidableEq

/-- Something that happened. -/
structure Occurrence where
  time : Nat
  input : Input
  sent : Option Sent
  /-- The state after it. -/
  state : KeepaliveState
deriving DecidableEq

structure Clocked where
  keepalive : Keepalive
  now : Nat := 0
  /-- What happened so far, latest first. -/
  log : List Occurrence := []
deriving DecidableEq

namespace Clocked

/-- The keepalive of a path that is found at an instant. -/
def new (localId remoteId : String) (now : Nat) : Clocked :=
  { keepalive := .new localId remoteId now, now := now }

/-- A packet as it is logged. -/
def logged (c : Clocked) (p : Outgoing) : Sent :=
  match p with
  | .request _ => .request c.keepalive.issued
  | .response id => .response id

/-- Takes a step now. -/
def act (codec : BindingCodec) (c : Clocked) (i : Input) : Clocked :=
  let (k, sent) := c.keepalive.step codec c.now i
  { c with keepalive := k, log := ⟨c.now, i, sent.map c.logged, k.state⟩ :: c.log }

/-- Runs at most `fuel` wake-ups that are due by `limit`; `source` gives the id of each request.
There is one retry loop at most. -/
def runUpTo (codec : BindingCodec) (source : Nat → TransactionId) (limit : Nat) :
    Nat → Clocked → Clocked
  | 0, c => c
  | fuel + 1, c =>
    match c.keepalive.loops with
    | [] => c
    | r :: _ =>
      if r.due ≤ limit then
        runUpTo codec source limit fuel
          ({ c with now := r.due }.act codec (.wake 0 (source c.keepalive.issued)))
      else c

/-- Lets time pass. Each wake-up but the first lies at least a millisecond after the one before
it, or is the last. -/
def pass (codec : BindingCodec) (c : Clocked) (source : Nat → TransactionId) (ms : Nat) : Clocked :=
  let limit := c.now + ms
  { runUpTo codec source limit (limit + 3) c with now := limit }

/-! ## With packets of RFC 5389 -/

def advance (c : Clocked) (source : Nat → TransactionId) (ms : Nat) : Clocked :=
  c.pass .standard source ms

/-- Begins checking. -/
def start (c : Clocked) (source : Nat → TransactionId) : Clocked :=
  (c.act .standard .start).advance source 0

def setLocalReady (c : Clocked) (ready : Bool) : Clocked :=
  c.act .standard (.setLocalReady ready)

/-- A datagram arrives; tells whether it was STUN. -/
def receive (c : Clocked) (source : Nat → TransactionId) (datagram : Bytes) : Clocked × Bool :=
  ((c.act .standard (.receive datagram)).advance source 0, isStun datagram)

end Clocked

end Rendezvous.Stun
