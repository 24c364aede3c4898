import Rendezvous.Message.Response
import Rendezvous.Action

/-!
# Replies find their callers

A client may have several requests in flight on one connection. Each is sent under a token of its
own, and whoever called waits for the response that carries this token:

    a token is never given out while it is pending                   (not_mem_of_register)
    a token whose reply has come is no longer pending                (not_mem_resolve)
    an abandoned token is no longer pending                          (not_mem_abandon)
    no token is pending after a cancellation                         (pending_cancelAll)
-/

namespace Rendezvous

/-- Names one caller that waits or has waited. -/
abbrev WaiterId := Nat

/-- What a caller finds where it waits for its reply. -/
inductive Waiter where
  | waiting
  | delivered (reply : Response)
  /-- Nothing will come any more. -/
  | closed
  /-- The caller went away. -/
  | dropped
deriving DecidableEq

/-- Nothing will come where nothing came. -/
def Waiter.close : Waiter → Waiter
  | waiting => closed
  | w => w

/-- A request whose reply has not come yet. -/
structure PendingRequest where
  action : Action
  waiter : WaiterId
  /-- The clock of the client when the request was registered, in milliseconds. -/
  registeredAt : Nat
deriving DecidableEq

structure Correlator where
  pending : Table String PendingRequest := .empty
  /-- Every caller that ever waited. -/
  waiters : Table WaiterId Waiter := .empty
deriving DecidableEq

namespace Correlator

/-! ## Algorithm -/

instance : Inhabited Correlator := ⟨{}⟩

/-- Requests that are older are forgotten when the next one is registered. -/
def staleAfter : Nat := 5000

/-- How many requests are pending. -/
def size (c : Correlator) : Nat := c.pending.size

def isEmpty (c : Correlator) : Bool := c.pending.isEmpty

def waiter? (c : Correlator) (w : WaiterId) : Option Waiter := c.waiters.get? w

/-- Closes the waiters of some requests. -/
def close (c : Correlator) (requests : List PendingRequest) : Correlator :=
  { c with waiters := requests.foldl (fun ws p => ws.modify p.waiter Waiter.close) c.waiters }

/-- Forgets the requests that are too old at a time. -/
def sweep (c : Correlator) (now : Nat) : Correlator :=
  let isStale (p : PendingRequest) : Bool := staleAfter ≤ now - p.registeredAt
  { c with pending :=
      ⟨c.pending.entries.filter fun e => !isStale e.2, c.pending.sorted.filter _⟩ }.close
    (c.pending.values.filter isStale)

/-- Registers a request under the first of some drawn tokens that is not pending, with a waiter
for its reply; nothing if all are pending. -/
def register (c : Correlator) (now : Nat) (a : Action) (tokens : List String) :
    Option (Correlator × String × WaiterId) :=
  let c := c.sweep now
  (tokens.find? fun t => !c.pending.contains t).map fun token =>
    let w := c.waiters.size
    ({ pending := c.pending.insert token { action := a, waiter := w, registeredAt := now }
       waiters := c.waiters.insert w .waiting }, token, w)

/-- Hands a reply to the caller that waits for it; tells whether there was one. The token is
forgotten in any case. -/
def resolve (c : Correlator) (reply : Response) : Correlator × Bool :=
  match c.pending.get? reply.sequence with
  | none => (c, false)
  | some p =>
    let c := { c with pending := c.pending.erase reply.sequence }
    if c.waiter? p.waiter = some .waiting then
      ({ c with waiters := c.waiters.insert p.waiter (.delivered reply) }, true)
    else (c, false)

/-- Forgets a request that its caller gave up. -/
def abandon (c : Correlator) (token : String) : Correlator :=
  { c with pending := c.pending.erase token }.close (c.pending.get? token).toList

/-- Forgets every request, and tells how many there were. -/
def cancelAll (c : Correlator) : Correlator × Nat :=
  ({ c with pending := .empty }.close c.pending.values, c.size)

/-- A caller goes away without its reply. -/
def dropWaiter (c : Correlator) (w : WaiterId) : Correlator :=
  { c with waiters := c.waiters.modify w fun _ => .dropped }

/-- What a caller finds when it looks. A reply can be taken once. -/
def take (c : Correlator) (w : WaiterId) : Correlator × Option Waiter :=
  let found := c.waiter? w
  match found with
  | some (.delivered _) => ({ c with waiters := c.waiters.insert w .closed }, found)
  | _ => (c, found)

/-! ## Lemmas -/

theorem pending_close (c : Correlator) (requests : List PendingRequest) :
    (c.close requests).pending = c.pending := rfl

/-- A token that is given out was not pending. -/
theorem not_mem_of_register {c d : Correlator} {now : Nat} {a : Action} {tokens : List String}
    {token : String} {w : WaiterId} (h : c.register now a tokens = some (d, token, w)) :
    (c.sweep now).pending.get? token = none := by
  unfold register at h
  obtain ⟨t, ht, e⟩ := Option.map_eq_some_iff.1 h
  have hp := List.find?_some ht
  have ht' : t = token := by
    have := congrArg (fun x => x.2.1) e
    exact this
  subst ht'
  simpa [Table.contains] using hp

theorem not_mem_resolve (c : Correlator) (reply : Response) :
    (c.resolve reply).1.pending.get? reply.sequence = none := by
  unfold resolve
  split
  · assumption
  · dsimp only
    split <;> simp [Table.get?_erase]

theorem not_mem_abandon (c : Correlator) (token : String) :
    (c.abandon token).pending.get? token = none := by
  simp [abandon, pending_close, Table.get?_erase]

theorem pending_cancelAll (c : Correlator) : c.cancelAll.1.pending = .empty := rfl

end Correlator

end Rendezvous
