import Rendezvous.Host
import Rendezvous.Proofs.Persistence

/-!
# A host drives its server as the loop does

Whatever arrives on the connections of a host and however its clock moves, its server goes from one
wait for an event to the next (`Server.Waits`). So a host too keeps its records in the file:

    Host.Run s₀ h → ∃ last, Server.Waits s₀ h.server last              (Host.Run.waits)
-/

namespace Rendezvous

open Server (Waits)

variable {s₀ s : Server} {h : Host}

/-- The server of a loop that waits for an event, whatever became of the last attempt to write. -/
def Server.Waiting (s₀ s : Server) : Prop := ∃ last, Waits s₀ s last

namespace Server.Waiting

theorem react (w : Waiting s₀ s) (e : Event) : Waiting s₀ (s.react e) := by
  obtain ⟨last, w⟩ := w
  have reacted := w.event e Files.disk
  rw [flushOn_disk] at reacted
  exact ⟨_, reacted⟩

theorem flush (w : Waiting s₀ s) : Waiting s₀ s.flush := by
  obtain ⟨last, w⟩ := w
  have written := w.tick Files.disk
  rw [flushOn_disk] at written
  exact ⟨_, written⟩

/-- Queues are of no importance to the records. -/
theorem queues (w : Waiting s₀ s) (outboxes : Table QueueId Outbox) :
    Waiting s₀ { s with outboxes := outboxes } := by
  obtain ⟨last, w⟩ := w
  exact ⟨last, w.aside ⟨rfl, rfl, fun _ _ => rfl⟩⟩

theorem reacts {α : Type} (f : α → Event) (xs : List α) (w : Waiting s₀ s) :
    Waiting s₀ (xs.foldl (fun s x => s.react (f x)) s) := by
  induction xs generalizing s with
  | nil => exact w
  | cons x xs ih => exact ih (w.react (f x))

end Server.Waiting

namespace Host

open Server (Waiting)

theorem waiting_accept (w : Waiting s₀ h.server) : Waiting s₀ h.accept.1.server :=
  (w.queues _).react (.opened _ _)

theorem waiting_putBack (w : Waiting s₀ h.server) (c : Connection) :
    Waiting s₀ (h.putBack c).server := by
  unfold putBack
  dsimp only
  split
  · exact (w.queues _).react (.closed c.id)
  · exact w

theorem waiting_readFrames (w : Waiting s₀ h.server) (c : Connection) :
    Waiting s₀ (h.readFrames c).1.server := by
  unfold readFrames
  split
  · exact w
  · exact waiting_putBack (w.reacts (fun q => .request _ h.timeOfDay q) _) _

theorem waiting_writeQueue (w : Waiting s₀ h.server) (c : Connection) :
    Waiting s₀ (h.writeQueue c).1.server := by
  unfold writeQueue
  split
  · exact w
  · have drained : Waiting s₀ (h.server.drain c.queue).1 := w.queues _
    exact waiting_putBack (h := { h with server := (h.server.drain c.queue).1 }) drained _

theorem waiting_forEach {f : Host → Connection → Host × Sights}
    (each : ∀ h c, Waiting s₀ h.server → Waiting s₀ (f h c).1.server)
    (w : Waiting s₀ h.server) : Waiting s₀ (h.forEach f).1.server := by
  unfold forEach
  generalize h.connections.keys = ids, ([] : Sights) = sights
  induction ids generalizing h sights with
  | nil => exact w
  | cons id ids ih =>
    dsimp only [List.foldl_cons]
    split
    · next c _ => exact ih (each h c w) _
    · exact ih w sights

theorem waiting_turn (w : Waiting s₀ h.server) : Waiting s₀ h.turn.1.server := by
  have read := waiting_forEach (fun h c w => waiting_readFrames w c) w
  exact waiting_forEach (fun h c w => waiting_writeQueue w c) read

theorem waiting_turns (n : Nat) (w : Waiting s₀ h.server) : Waiting s₀ (h.turns n).1.server := by
  induction n generalizing h with
  | zero => exact w
  | succ n ih =>
    rw [turns]
    split
    · exact ih (waiting_turn w)
    · exact w

theorem waiting_advance (w : Waiting s₀ h.server) (ms : Nat) :
    Waiting s₀ (h.advance ms).server := by
  unfold advance
  dsimp only
  split
  · exact w.flush
  · exact w

/-- What becomes of a host that begins with a server. -/
inductive Run (s₀ : Server) : Host → Prop
  | start {h : Host} (begins : h.server = s₀) : Run s₀ h
  | accept {h : Host} (run : Run s₀ h) : Run s₀ h.accept.1
  | receive {h : Host} (run : Run s₀ h) (c : Connection) (bytes : Bytes) :
      Run s₀ (h.receive c bytes)
  | receiveEnd {h : Host} (run : Run s₀ h) (c : Connection) : Run s₀ (h.receiveEnd c)
  | settle {h : Host} (run : Run s₀ h) : Run s₀ h.settle.1
  | advance {h : Host} (run : Run s₀ h) (ms : Nat) : Run s₀ (h.advance ms)
  | shutdown {h : Host} (run : Run s₀ h) : Run s₀ h.shutdown

/-- Between its moves, the server of a host waits as it does in the loop. -/
theorem Run.waits (run : Run s₀ h) : ∃ last, Waits s₀ h.server last := by
  induction run with
  | start begins =>
    rw [begins]
    exact ⟨_, .start⟩
  | accept _ ih => exact waiting_accept ih
  | receive _ _ _ ih => exact ih
  | receiveEnd _ _ ih => exact ih
  | settle _ ih => exact waiting_turns _ ih
  | advance _ ms ih => exact waiting_advance ih ms
  | shutdown _ ih => exact Server.Waiting.react ih .shutdown

end Host

end Rendezvous
