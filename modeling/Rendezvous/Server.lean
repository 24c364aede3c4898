import Rendezvous.Outbox
import Rendezvous.Relay.Event
import Rendezvous.Storage.SnapshotStore

/-!
# A relay at work

The relay with the queues that its pushes go into and the file that its records are kept in. A
server without a store forgets its records when it ends.
-/

namespace Rendezvous

structure Server where
  relay : Relay := {}
  store : Option SnapshotStore := none
  files : Files := {}
  /-- The queue of every connection that was ever opened. -/
  outboxes : Table QueueId Outbox := .empty
deriving DecidableEq

namespace Server

instance : Inhabited Server := ⟨{}⟩

/-- A server for the records in its store. -/
def load (store : SnapshotStore) (files : Files) : Except StoreError Server := do
  let db ← store.load files
  return { relay := { db := db }, store := some store, files := files }

def outbox? (s : Server) (q : QueueId) : Option Outbox := s.outboxes.get? q

/-- Puts a push into its queue. -/
def deliver (s : Server) (p : Push) : Server :=
  { s with outboxes := s.outboxes.modify p.link.queue (·.push p.response) }

/-- Reacts to an event without writing anything. -/
def handle (s : Server) (e : Event) : Server :=
  let (relay, pushes) := s.relay.handle e
  pushes.foldl deliver { s with relay := relay }

/-- Adds a queue for a connection that is accepted. -/
def addQueue (s : Server) (capacity : Nat) : Server × QueueId :=
  ({ s with outboxes := s.outboxes.insert s.outboxes.size { capacity := capacity } },
   s.outboxes.size)

/-- Opens a connection with a queue of its own. -/
def openConnection (s : Server) (c : ConnectionId) (capacity : Nat) : Server × QueueId :=
  let (added, q) := s.addQueue capacity
  (added.handle (.opened c q), q)

/-- Takes everything out of a queue. -/
def drain (s : Server) (q : QueueId) : Server × List Response :=
  ({ s with outboxes := s.outboxes.modify q (·.drain) },
   ((s.outbox? q).map (·.waiting)).getD [])

/-- Nobody takes from a queue any more. -/
def abandon (s : Server) (q : QueueId) : Server :=
  { s with outboxes := s.outboxes.modify q (·.abandon) }

/-- Writes the records if they changed. If that fails, they still count as changed. -/
def flush (s : Server) : Server :=
  if s.relay.dirty then
    match s.store with
    | none => { s with relay := { s.relay with dirty := false } }
    | some store =>
      match store.save s.files s.relay.db with
      | (files, .ok ()) => { s with files := files, relay := { s.relay with dirty := false } }
      | (files, .error _) => { s with files := files }
  else s

/-- Reacts to an event and then writes the records. -/
def react (s : Server) (e : Event) : Server := (s.handle e).flush

end Server

end Rendezvous
