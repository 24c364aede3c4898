import Rendezvous.Message.Response

/-!
# Queues of responses

Each connection has a queue of limited length between the relay and its writer. The relay never
waits: what does not fit is dropped, and so is everything once nobody takes from the queue.
-/

namespace Rendezvous

structure Outbox where
  capacity : Nat
  /-- The responses not yet taken, oldest first. -/
  waiting : List Response := []
  /-- Whether somebody may still take from the queue. -/
  receiving : Bool := true
deriving DecidableEq

namespace Outbox

/-- Appends a response if there is room. -/
def push (o : Outbox) (r : Response) : Outbox :=
  if o.receiving && o.waiting.length < o.capacity then { o with waiting := o.waiting ++ [r] } else o

/-- Takes everything. -/
def drain (o : Outbox) : Outbox := { o with waiting := [] }

/-- Nobody takes from the queue any more. -/
def abandon (o : Outbox) : Outbox := { o with waiting := [], receiving := false }

/-! ## Lemmas -/

theorem waiting_push (o : Outbox) (r : Response) :
    (o.push r).waiting =
      o.waiting ++ if o.receiving && o.waiting.length < o.capacity then [r] else [] := by
  unfold push
  split <;> simp

end Outbox

end Rendezvous
