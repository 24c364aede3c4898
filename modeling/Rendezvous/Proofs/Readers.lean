import Rendezvous.Proofs.Queues

/-!
# Slow and dead readers

Whoever reads slowly from a connection, or not at all, loses responses of that connection and
nothing else. What a server decides is told by what it is given, without its queues
(`Traffic.outline_run`); so two servers that are given the same decide the same, however long their
queues are and whatever is taken from them.

Every response that is pushed is taken, waits or is lost, those that are not lost stay in order, and
one is lost only where its own queue was full or left:

    x.Sound → x.step? m = some y → y.Sound                              (Sound.step)
    start.run? ms = some x → x.received q ++ x.waiting q <+ x.offered q (readers_do_not_interfere)
-/

namespace Rendezvous

/-- A response is lost exactly if the queue is left or full. -/
theorem Outbox.push_eq_self_iff {o : Outbox} {r : Response} :
    o.push r = o ↔ o.receiving = false ∨ o.capacity ≤ o.waiting.length := by
  unfold push
  split
  · next room =>
    simp only [Bool.and_eq_true, decide_eq_true_eq] at room
    refine iff_of_false (fun same => ?_) ?_
    · have := congrArg (·.waiting.length) same
      simp at this
    · simp [room]
  · next full =>
    rw [Bool.and_eq_true, decide_eq_true_eq, Decidable.not_and_iff_not_or_not,
      Bool.not_eq_true, Nat.not_lt] at full
    exact iff_of_true rfl full

/-- A response that is not lost waits behind the others. -/
theorem Outbox.push_of_ne {o : Outbox} {r : Response} (kept : o.push r ≠ o) :
    o.push r = { o with waiting := o.waiting ++ [r] } := by
  unfold push at kept ⊢
  split
  · rfl
  · next full =>
    rw [if_neg full] at kept
    exact absurd rfl kept

/-! ## Ways to the connections -/

namespace Relay

variable {r : Relay} {c : ConnectionId} {time : UInt64} {q : Request} {l : Link} {peer : String}

/-- The relay knows the way to some connection. -/
def HasLink (r : Relay) (l : Link) : Prop :=
  (∃ c, r.pending.get? c = some l) ∨ ∃ p, r.online.get? p = some l

theorem hasLink_of_demote (h : (r.demote c).HasLink l) : r.HasLink l := by
  unfold demote at h
  split at h
  · exact h
  · next peer _ =>
    rcases h with ⟨d, h⟩ | ⟨p, h⟩
    · dsimp only at h
      split at h
      · next link online =>
        rw [Table.get?_insert] at h
        split at h
        · cases h
          exact .inr ⟨peer, online⟩
        · exact .inl ⟨d, h⟩
      · exact .inl ⟨d, h⟩
    · rw [Table.get?_erase] at h
      split at h
      · cases h
      · exact .inr ⟨p, h⟩

theorem hasLink_of_vacated (h : (r.vacated c peer).HasLink l) : r.HasLink l := by
  unfold vacated at h
  cases online : r.online.get? peer with
  | none =>
    rw [online] at h
    exact hasLink_of_demote h
  | some link =>
    rw [online] at h
    exact hasLink_of_demote (hasLink_of_demote h)

theorem hasLink_of_takeOver (h : (r.takeOver c peer).relay.HasLink l) : r.HasLink l := by
  suffices (r.vacated c peer).HasLink l from hasLink_of_vacated this
  unfold takeOver at h
  dsimp only at h
  split at h
  · next link pending =>
    rcases h with ⟨d, h⟩ | ⟨p, h⟩
    · have h : ((r.vacated c peer).pending.erase c).get? d = some l := h
      rw [Table.get?_erase] at h
      split at h
      · cases h
      · exact .inl ⟨d, h⟩
    · have h : ((r.vacated c peer).online.insert peer link).get? p = some l := h
      rw [Table.get?_insert] at h
      split at h
      · cases h
        exact .inl ⟨c, pending⟩
      · exact .inr ⟨p, h⟩
  · exact h

theorem Leads.hasLink {o : Outcome} (leads : r.Leads c time q o) (h : o.relay.HasLink l) :
    r.HasLink l := by
  cases leads with
  | tookOver => exact hasLink_of_takeOver h
  | loggedOut => exact hasLink_of_demote h
  | refused => exact h
  | registered => exact h
  | stayed => exact h
  | edited => exact h
  | answered => exact h
  | relayed => exact h

/-- An event makes no new way but to the connection that it opens. -/
theorem hasLink_of_handle {e : Event} (h : (r.handle e).1.HasLink l) :
    r.HasLink l ∨ e = .opened l.connection l.queue := by
  cases e with
  | opened c k =>
    rcases h with ⟨d, h⟩ | h
    · have h : (r.pending.insert c ⟨c, k⟩).get? d = some l := h
      rw [Table.get?_insert] at h
      split at h
      · cases h
        exact .inr rfl
      · exact .inl (.inl ⟨d, h⟩)
    · exact .inl (.inr h)
  | closed c =>
    left
    have h : (r.closed c).HasLink l := h
    unfold closed at h
    split at h
    · rcases h with ⟨d, h⟩ | h
      · rw [Table.get?_erase] at h
        split at h
        · cases h
        · exact .inl ⟨d, h⟩
      · exact .inr h
    · split at h
      · rcases h with h | ⟨p, h⟩
        · exact .inl h
        · rw [Table.get?_erase] at h
          split at h
          · cases h
          · exact .inr ⟨p, h⟩
      · exact h
  | request c time q => exact .inl ((leads_dispatch r c time q).hasLink h)
  | shutdown => exact .inl h

theorem hasLink_of_link? (h : r.link? c = some l) : r.HasLink l := by
  unfold link? at h
  split at h
  · next link pending =>
    cases h
    exact .inl ⟨c, pending⟩
  · obtain ⟨p, -, online⟩ := Option.bind_eq_some_iff.1 h
    exact .inr ⟨p, online⟩

/-- What is pushed goes to connections that the relay knew before. -/
theorem hasLink_of_mem_pushes {e : Event} {p : Push} (pushed : p ∈ (r.handle e).2) :
    r.HasLink p.link := by
  cases e with
  | request c time q =>
    have leads := leads_dispatch r c time q
    rcases List.mem_append.1 pushed with pushed | pushed
    · generalize r.dispatch c time q = o at leads pushed
      cases leads with
      | tookOver =>
        rw [pushes_takeOver] at pushed
        unfold notices at pushed
        rw [Option.mem_toList] at pushed
        obtain ⟨link, found, rfl⟩ := Option.map_eq_some_iff.1 pushed
        obtain ⟨d, -, pending⟩ := Option.bind_eq_some_iff.1 found
        exact hasLink_of_vacated (.inl ⟨d, pending⟩)
      | relayed _ _ _ _ forwarded =>
        cases List.mem_singleton.1 pushed
        obtain ⟨_, _, target, link, -, -, -, online, rfl⟩ := forward_eq_ok_iff.1 forwarded
        exact .inr ⟨target, online⟩
      | refused => cases pushed
      | registered => cases pushed
      | stayed => cases pushed
      | loggedOut => cases pushed
      | edited => cases pushed
      | answered => cases pushed
    · rw [Option.mem_toList] at pushed
      obtain ⟨link, found, rfl⟩ := Option.map_eq_some_iff.1 pushed
      exact leads.hasLink (hasLink_of_link? found)
  | opened => cases pushed
  | closed => cases pushed
  | shutdown => cases pushed

end Relay

/-! ## A server and what becomes of its responses -/

/-- What a server is given. -/
inductive Traffic.Input where
  | event (e : Event)
  /-- It is time to write the records. -/
  | flush (d : Disk)

/-- A response that was lost, and how its queue was found then. -/
structure Loss where
  queue : QueueId
  response : Response
  found : Outbox
deriving DecidableEq

/-- A server, and a record of its connections and of their responses. -/
structure Traffic where
  server : Server := {}
  /-- The connections that were opened, each with its queue. -/
  opened : List Link := []
  /-- What the relay pushed, oldest first. -/
  pushed : List Push := []
  /-- What was taken out of the queues, oldest first. -/
  taken : List (QueueId × Response) := []
  lost : List Loss := []
deriving DecidableEq

namespace Traffic

inductive Move where
  /-- The server reacts. If a connection is opened, its queue gets the capacity. -/
  | input (i : Input) (capacity : Nat)
  /-- The oldest response is taken out of a queue. -/
  | take (q : QueueId)
  /-- A queue is left, with whatever waits in it. -/
  | leave (q : QueueId)

/-- What a move gives to the server. What readers do is nothing to it. -/
def Move.input? : Move → Option Input
  | .input i _ => some i
  | _ => none

/-- Puts a push into its queue, or loses it there. -/
def deliver (x : Traffic) (p : Push) : Traffic :=
  { x with
    server := x.server.deliver p
    pushed := x.pushed ++ [p]
    lost := x.lost ++
      ((x.server.outbox? p.link.queue).filter fun o => o.push p.response = o).toList.map
        fun o => ⟨p.link.queue, p.response, o⟩ }

/-- Reacts to an event, push by push. -/
def react (x : Traffic) (e : Event) : Traffic :=
  (x.server.relay.handle e).2.foldl deliver
    { x with server := { x.server with relay := (x.server.relay.handle e).1 } }

/-- Makes a move if it can be made. Queues are numbered as they are opened. -/
def step? (x : Traffic) : Move → Option Traffic
  | .input (.event (.opened c k)) capacity =>
    if k = x.server.outboxes.size then
      some { x with
        server := (x.server.openConnection c capacity).1
        opened := x.opened ++ [⟨c, k⟩] }
    else none
  | .input (.event e) _ => some (x.react e)
  | .input (.flush d) _ => some { x with server := (x.server.flushOn d).1 }
  | .take q =>
    (x.server.takeOldest q).map fun found =>
      { x with server := found.2, taken := x.taken ++ [(q, found.1)] }
  | .leave q =>
    some { x with
      server := x.server.abandon q
      lost := x.lost ++ (x.server.outbox? q).toList.flatMap fun o =>
        o.waiting.map fun r => ⟨q, r, o.abandon⟩ }

/-- Makes moves one after the other. -/
def run? (x : Traffic) (ms : List Move) : Option Traffic := ms.foldlM step? x

/-- A server that has just started. -/
def start (db : Database) (store : Option SnapshotStore) (files : Files) : Traffic :=
  { server := { relay := .idle db, store := store, files := files } }

variable {x y : Traffic} {m : Move} {ms : List Move} {i : Input} {q k : QueueId} {c : ConnectionId}
  {p : Push} {e : Event} {capacity : Nat}

/-! ## What a server decides -/

/-- A server without its queues. -/
structure Outline where
  server : Server
  opened : List Link
  pushed : List Push

/-- What can be told of a server by someone who does not see its queues. -/
def outline (x : Traffic) : Outline :=
  ⟨{ x.server with outboxes := .empty }, x.opened, x.pushed⟩

/-- The connection that an event opens. -/
def openedBy : Event → Option Link
  | .opened c k => some ⟨c, k⟩
  | _ => none

/-- What a server does with what it is given. No queue has a say in it. -/
def Outline.step? (o : Outline) : Input → Option Outline
  | .event e =>
    if (openedBy e).all (·.queue = o.opened.length) then
      some { o with
        server := { o.server with relay := (o.server.relay.handle e).1 }
        opened := o.opened ++ (openedBy e).toList
        pushed := o.pushed ++ (o.server.relay.handle e).2 }
    else none
  | .flush d => some { o with server := (o.server.flushOn d).1 }

def Outline.run? (o : Outline) (is : List Input) : Option Outline := is.foldlM step? o

theorem outline_deliver (x : Traffic) (p : Push) :
    (x.deliver p).outline = { x.outline with pushed := x.pushed ++ [p] } := rfl

theorem outline_delivers (ps : List Push) (x : Traffic) :
    (ps.foldl deliver x).outline = { x.outline with pushed := x.pushed ++ ps } := by
  induction ps generalizing x with
  | nil => simp [outline]
  | cons p ps ih =>
    rw [List.foldl_cons, ih, outline_deliver]
    simp [deliver]

theorem outline_react (x : Traffic) (e : Event) :
    (x.react e).outline =
      { x.outline with
        server := { x.outline.server with relay := (x.server.relay.handle e).1 }
        pushed := x.pushed ++ (x.server.relay.handle e).2 } :=
  outline_delivers ..

/-- Writing the records has nothing to do with the queues. -/
theorem flushOn_outboxes (d : Disk) (s : Server) (outboxes : Table QueueId Outbox) :
    (({ s with outboxes := outboxes } : Server).flushOn d).1 =
      { (s.flushOn d).1 with outboxes := outboxes } := by
  unfold Server.flushOn
  split
  · cases s.store with
    | none => rfl
    | some store =>
      dsimp only
      split <;> rfl
  · rfl

theorem flushOn_kept (d : Disk) (s : Server) :
    (s.flushOn d).1.outboxes = s.outboxes ∧
      ∀ l, (s.flushOn d).1.relay.HasLink l ↔ s.relay.HasLink l := by
  unfold Server.flushOn
  split
  · cases s.store with
    | none => exact ⟨rfl, fun _ => Iff.rfl⟩
    | some store =>
      dsimp only
      split
      · exact ⟨rfl, fun _ => Iff.rfl⟩
      · exact ⟨rfl, fun _ => Iff.rfl⟩
  · exact ⟨rfl, fun _ => Iff.rfl⟩

/-- What is decided at a step is what is decided without queues, and readers decide nothing. -/
theorem outline_step (size : x.opened.length = x.server.outboxes.size)
    (made : x.step? m = some y) :
    (∀ i, m.input? = some i → x.outline.step? i = some y.outline) ∧
      (m.input? = none → y.outline = x.outline) := by
  cases m with
  | input i capacity =>
    refine ⟨fun j same => ?_, fun aside => (by cases aside)⟩
    cases same
    cases i with
    | flush d =>
      cases made
      show some { x.outline with server := (x.outline.server.flushOn d).1 } = _
      rw [show x.outline.server = { x.server with outboxes := .empty } from rfl, flushOn_outboxes]
      rfl
    | event e =>
      cases e with
      | opened c k =>
        rw [step?] at made
        split at made
        · next next =>
          cases made
          simp [Outline.step?, openedBy, outline, next, size, Server.openConnection,
            Server.addQueue, Server.handle, Relay.handle]
        · cases made
      | closed | request | shutdown =>
        cases made
        rw [outline_react]
        simp [Outline.step?, openedBy, outline]
  | take q =>
    refine ⟨fun _ given => (by cases given), fun _ => ?_⟩
    obtain ⟨⟨r, rest⟩, taken, rfl⟩ := Option.map_eq_some_iff.1 made
    obtain ⟨-, rfl⟩ := Server.of_takeOldest taken
    rfl
  | leave q =>
    refine ⟨fun _ given => (by cases given), fun _ => ?_⟩
    cases made
    rfl

/-! ## What becomes of the responses -/

/-- All that was pushed to a queue, oldest first. -/
def offered (x : Traffic) (q : QueueId) : List Response :=
  (x.pushed.filter (·.link.queue = q)).map (·.response)

/-- All that was taken out of a queue, oldest first. -/
def received (x : Traffic) (q : QueueId) : List Response :=
  (x.taken.filter (·.1 = q)).map (·.2)

/-- What waits in a queue. -/
def waiting (x : Traffic) (q : QueueId) : List Response :=
  ((x.server.outbox? q).map (·.waiting)).getD []

/-- All that was lost at a queue. -/
def missed (x : Traffic) (q : QueueId) : List Response :=
  (x.lost.filter (·.queue = q)).map (·.response)

/-- What was pushed to a queue was taken, waits or was lost. The order of the rest is kept, and
nothing is lost as long as the queue has a reader and room for all of it. -/
structure Balanced (x : Traffic) (q : QueueId) : Prop where
  ordered : (x.received q ++ x.waiting q).Sublist (x.offered q)
  complete : (x.offered q).Perm (x.received q ++ x.waiting q ++ x.missed q)
  tight : ∀ o, x.server.outbox? q = some o → x.missed q ≠ [] →
    o.receiving = false ∨ o.capacity < (x.offered q).length

/-- The queues are those of the connections that were opened, the relay pushes to no others, and
their accounts balance. -/
structure Sound (x : Traffic) : Prop where
  numbered : x.server.outboxes.Numbered
  queues : x.server.outboxes.keys = x.opened.map (·.queue)
  ways : ∀ l, x.server.relay.HasLink l → l ∈ x.opened
  addressed : ∀ p ∈ x.pushed, p.link ∈ x.opened
  balanced : ∀ q, x.Balanced q
  blamed : ∀ l ∈ x.lost, l.found.receiving = false ∨ l.found.capacity ≤ l.found.waiting.length

/-! ### The accounts of one queue -/

theorem Balanced.congr (h : x.Balanced q) (offered : y.offered q = x.offered q)
    (received : y.received q = x.received q) (missed : y.missed q = x.missed q)
    (outbox : y.server.outbox? q = x.server.outbox? q) : y.Balanced q := by
  have waiting : y.waiting q = x.waiting q := by
    unfold Traffic.waiting
    rw [outbox]
  constructor
  · rw [offered, received, waiting]
    exact h.ordered
  · rw [offered, received, waiting, missed]
    exact h.complete
  · rw [offered, missed, outbox]
    exact h.tight

theorem waiting_of_outbox {o : Outbox} (found : x.server.outbox? q = some o) :
    x.waiting q = o.waiting := by
  unfold waiting
  rw [found]
  rfl

theorem Balanced.of_empty (offered : x.offered q = []) (received : x.received q = [])
    (missed : x.missed q = []) (waiting : x.waiting q = []) : x.Balanced q := by
  constructor
  · rw [received, waiting]
    exact List.nil_sublist _
  · rw [offered, received, waiting, missed]
    exact .nil
  · exact fun _ _ some => absurd missed some

theorem offered_deliver (x : Traffic) (p : Push) (q : QueueId) :
    (x.deliver p).offered q =
      x.offered q ++ if p.link.queue = q then [p.response] else [] := by
  unfold offered deliver
  rw [List.filter_append, List.map_append]
  split <;> simp [*]

theorem missed_deliver {o : Outbox} (found : x.server.outbox? p.link.queue = some o)
    (q : QueueId) :
    (x.deliver p).missed q =
      x.missed q ++ if p.link.queue = q ∧ o.push p.response = o then [p.response] else [] := by
  unfold missed deliver
  rw [List.filter_append, List.map_append, found]
  by_cases same : p.link.queue = q <;> by_cases lost : o.push p.response = o <;>
    simp [same, lost, Option.filter]

theorem outbox?_deliver (x : Traffic) (p : Push) (q : QueueId) :
    (x.deliver p).server.outbox? q =
      if q = p.link.queue then (x.server.outbox? q).map (·.push p.response)
      else x.server.outbox? q :=
  Table.get?_modify ..

/-- A response for which there is no place is lost. -/
theorem Balanced.deliver_lost {o : Outbox} (h : x.Balanced p.link.queue)
    (found : x.server.outbox? p.link.queue = some o) (lost : o.push p.response = o) :
    (x.deliver p).Balanced p.link.queue := by
  have offered := x.offered_deliver p p.link.queue
  have missed := missed_deliver found p.link.queue
  have outbox := x.outbox?_deliver p p.link.queue
  rw [if_pos rfl] at offered
  rw [if_pos ⟨rfl, lost⟩] at missed
  rw [if_pos rfl, found, Option.map_some, lost] at outbox
  obtain ⟨ordered, complete, -⟩ := h
  rw [waiting_of_outbox found] at ordered complete
  have waiting := waiting_of_outbox outbox
  constructor
  · rw [offered, waiting]
    exact ordered.trans (List.sublist_append_left ..)
  · rw [offered, waiting, missed, ← List.append_assoc]
    exact complete.append_right _
  · intro o' found' _
    rw [outbox] at found'
    cases found'
    rw [offered]
    refine (Outbox.push_eq_self_iff.1 lost).imp_right fun full => ?_
    have few := ordered.length_le
    simp only [List.length_append, List.length_singleton] at few ⊢
    omega

/-- A response for which there is a place comes to what waits. -/
theorem Balanced.deliver_kept {o : Outbox} (h : x.Balanced p.link.queue)
    (found : x.server.outbox? p.link.queue = some o) (kept : o.push p.response ≠ o) :
    (x.deliver p).Balanced p.link.queue := by
  have offered := x.offered_deliver p p.link.queue
  have missed := missed_deliver found p.link.queue
  have outbox := x.outbox?_deliver p p.link.queue
  rw [if_pos rfl] at offered
  rw [if_neg fun h => kept h.2, List.append_nil] at missed
  rw [if_pos rfl, found, Option.map_some, Outbox.push_of_ne kept] at outbox
  obtain ⟨ordered, complete, tight⟩ := h
  rw [waiting_of_outbox found] at ordered complete
  have waiting := waiting_of_outbox outbox
  constructor
  · rw [offered, waiting, ← List.append_assoc]
    exact ordered.append_right _
  · rw [offered, waiting, missed]
    refine (complete.append_right _).trans ?_
    show List.Perm _ (x.received p.link.queue ++ (o.waiting ++ [p.response]) ++ _)
    rw [← List.append_assoc, List.append_assoc, List.append_assoc (_ ++ _) [_]]
    exact List.perm_append_comm.append_left _
  · intro o' found' some
    rw [outbox] at found'
    cases found'
    rw [missed] at some
    rw [offered]
    refine (tight o found some).imp_right fun short => ?_
    simp only [List.length_append]
    omega

theorem Balanced.deliver (h : x.Balanced q) {o : Outbox}
    (found : x.server.outbox? p.link.queue = some o) : (x.deliver p).Balanced q := by
  by_cases same : p.link.queue = q
  · subst same
    by_cases lost : o.push p.response = o
    · exact h.deliver_lost found lost
    · exact h.deliver_kept found lost
  · refine h.congr ?_ rfl ?_ ?_
    · rw [offered_deliver, if_neg same, List.append_nil]
    · rw [missed_deliver found, if_neg fun h => same h.1, List.append_nil]
    · rw [outbox?_deliver, if_neg (Ne.symm same)]

/-- A response that is taken was the next one. -/
theorem Balanced.take (h : x.Balanced q) {r : Response} {rest : List Response} {o : Outbox}
    (found : x.server.outbox? k = some o) (next : o.waiting = r :: rest) :
    ({ x with
      server := { x.server with
        outboxes := x.server.outboxes.modify k fun o => { o with waiting := o.waiting.tail } }
      taken := x.taken ++ [(k, r)] } : Traffic).Balanced q := by
  generalize taken : ({ x with server := _, taken := _ } : Traffic) = y
  have outbox : y.server.outbox? q = if q = k then (x.server.outbox? q).map fun o =>
      { o with waiting := o.waiting.tail } else x.server.outbox? q := by
    subst taken
    exact Table.get?_modify ..
  have received : y.received q = x.received q ++ if k = q then [r] else [] := by
    subst taken
    unfold Traffic.received
    rw [List.filter_append, List.map_append]
    split <;> simp [*]
  have offered : y.offered q = x.offered q := by
    subst taken
    rfl
  have missed : y.missed q = x.missed q := by
    subst taken
    rfl
  by_cases same : k = q
  · subst same
    rw [if_pos rfl, found, Option.map_some] at outbox
    rw [if_pos rfl] at received
    have all : y.received k ++ y.waiting k = x.received k ++ x.waiting k := by
      rw [waiting_of_outbox found, waiting_of_outbox outbox, received, next]
      simp
    constructor
    · rw [all, offered]
      exact h.ordered
    · rw [all, offered, missed]
      exact h.complete
    · intro o' found'
      rw [outbox] at found'
      cases found'
      rw [missed, offered]
      exact h.tight o found
  · refine h.congr offered ?_ missed ?_
    · rw [received, if_neg same, List.append_nil]
    · rw [outbox, if_neg (Ne.symm same)]

/-- What waits in a queue that is left is lost. -/
theorem Balanced.leave (h : x.Balanced q) (k : QueueId) :
    ({ x with
      server := x.server.abandon k
      lost := x.lost ++ (x.server.outbox? k).toList.flatMap fun o =>
        o.waiting.map fun r => ⟨k, r, o.abandon⟩ } : Traffic).Balanced q := by
  generalize left : ({ x with server := _, lost := _ } : Traffic) = y
  have outbox : y.server.outbox? q = if q = k then (x.server.outbox? q).map Outbox.abandon
      else x.server.outbox? q := by
    subst left
    exact Table.get?_modify ..
  have missed : y.missed q = x.missed q ++ if k = q then x.waiting q else [] := by
    subst left
    unfold Traffic.missed Traffic.waiting
    rw [List.filter_append, List.map_append]
    congr 1
    split
    · next same =>
      subst same
      cases x.server.outbox? k <;> simp [List.filter_map, Function.comp_def]
    · next other => simp [other, List.filter_flatMap, List.filter_map, Function.comp_def]
  have offered : y.offered q = x.offered q := by
    subst left
    rfl
  have received : y.received q = x.received q := by
    subst left
    rfl
  by_cases same : k = q
  · subst same
    rw [if_pos rfl] at outbox missed
    have empty : y.waiting k = [] := by
      unfold Traffic.waiting
      rw [outbox]
      cases x.server.outbox? k <;> rfl
    constructor
    · rw [received, empty, offered, List.append_nil]
      exact (List.sublist_append_left ..).trans h.ordered
    · rw [received, empty, offered, missed, List.append_nil]
      refine h.complete.trans ?_
      rw [List.append_assoc]
      exact List.perm_append_comm.append_left _
    · intro o found _
      rw [outbox] at found
      obtain ⟨o', -, rfl⟩ := Option.map_eq_some_iff.1 found
      exact .inl rfl
  · refine h.congr offered received ?_ ?_
    · rw [missed, if_neg same, List.append_nil]
    · rw [outbox, if_neg (Ne.symm same)]

/-! ### All accounts -/

namespace Sound

theorem start {db : Database} {store : Option SnapshotStore} {files : Files} :
    (start db store files).Sound where
  numbered := .empty
  queues := rfl
  ways l h := by rcases h with ⟨_, h⟩ | ⟨_, h⟩ <;> cases h
  addressed _ h := nomatch h
  balanced _ := .of_empty rfl rfl rfl rfl
  blamed _ h := nomatch h

theorem size (h : x.Sound) : x.opened.length = x.server.outboxes.size := by
  have lengths := congrArg List.length h.queues
  simpa [Table.keys, Table.size] using lengths.symm

/-- Every connection that was opened has a queue. -/
theorem exists_outbox (h : x.Sound) {l : Link} (known : l ∈ x.opened) :
    ∃ o, x.server.outbox? l.queue = some o := by
  have key : l.queue ∈ x.server.outboxes.keys := h.queues ▸ List.mem_map_of_mem known
  exact Table.mem_keys_iff.1 key

/-- No two connections have one queue. -/
theorem eq_of_queue (h : x.Sound) {l l' : Link} (known : l ∈ x.opened) (known' : l' ∈ x.opened)
    (same : l.queue = l'.queue) : l = l' :=
  List.inj_on_of_nodup_map (h.queues ▸ x.server.outboxes.nodup_keys) known known' same

theorem deliver (h : x.Sound) (known : p.link ∈ x.opened) : (x.deliver p).Sound := by
  obtain ⟨o, found⟩ := h.exists_outbox known
  constructor
  · exact h.numbered.modify _ _
  · exact (Table.keys_modify ..).trans h.queues
  · exact h.ways
  · intro p' hp
    rcases List.mem_append.1 hp with hp | hp
    · exact h.addressed p' hp
    · cases List.mem_singleton.1 hp
      exact known
  · exact fun q => (h.balanced q).deliver found
  · intro l hl
    rcases List.mem_append.1 hl with hl | hl
    · exact h.blamed l hl
    · obtain ⟨o, ho, rfl⟩ := List.mem_map.1 hl
      obtain ⟨-, lost⟩ := Option.filter_eq_some_iff.1 (Option.mem_toList.1 ho)
      exact Outbox.push_eq_self_iff.1 (of_decide_eq_true lost)

theorem delivers (h : x.Sound) {ps : List Push} (known : ∀ p ∈ ps, p.link ∈ x.opened) :
    (ps.foldl Traffic.deliver x).Sound := by
  induction ps generalizing x with
  | nil => exact h
  | cons p ps ih =>
    exact ih (h.deliver (known p (List.mem_cons_self ..)))
      fun p' hp => known p' (List.mem_cons_of_mem _ hp)

/-- What is told of the connections and queues may change with the relay as long as it learns no
new way. -/
theorem relay (h : x.Sound) {server : Server} (outboxes : server.outboxes = x.server.outboxes)
    (ways : ∀ l, server.relay.HasLink l → l ∈ x.opened) :
    ({ x with server := server } : Traffic).Sound where
  numbered := outboxes ▸ h.numbered
  queues := outboxes ▸ h.queues
  ways := ways
  addressed := h.addressed
  balanced q := (h.balanced q).congr rfl rfl rfl (congrArg (·.get? q) outboxes)
  blamed := h.blamed

theorem react (h : x.Sound) (quiet : e.opening? = none) : (x.react e).Sound := by
  have known : ∀ l, (x.server.relay.handle e).1.HasLink l → l ∈ x.opened := by
    intro l hl
    rcases Relay.hasLink_of_handle hl with hl | rfl
    · exact h.ways l hl
    · cases quiet
  have decided : ({ x with
      server := { x.server with relay := (x.server.relay.handle e).1 } } : Traffic).Sound :=
    h.relay rfl known
  exact decided.delivers fun p pushed => h.ways _ (Relay.hasLink_of_mem_pushes pushed)

/-- A new queue is empty, and nothing was ever pushed to it. -/
theorem openConnection (h : x.Sound) (c : ConnectionId) (capacity : Nat) :
    ({ x with
      server := (x.server.openConnection c capacity).1
      opened := x.opened ++ [⟨c, x.server.outboxes.size⟩] } : Traffic).Sound := by
  have new : ∀ l ∈ x.opened, l.queue ≠ x.server.outboxes.size := by
    intro l known same
    obtain ⟨o, found⟩ := h.exists_outbox known
    exact Nat.ne_of_lt (h.numbered _ _ found) same
  have free : x.server.outbox? x.server.outboxes.size = none := by
    cases found : x.server.outbox? x.server.outboxes.size with
    | none => rfl
    | some o => exact absurd (h.numbered _ _ found) (Nat.lt_irrefl _)
  have nothing : x.offered x.server.outboxes.size = [] := by
    unfold offered
    rw [List.map_eq_nil_iff, List.filter_eq_nil_iff]
    intro p hp same
    exact new _ (h.addressed p hp) (of_decide_eq_true same)
  constructor
  · exact h.numbered.insert_size _
  · refine (h.numbered.keys_insert_size _).trans ?_
    rw [h.queues, List.map_append]
    rfl
  · rintro ⟨d, k⟩ hl
    rcases Relay.hasLink_of_handle (e := .opened c x.server.outboxes.size) hl with hl | same
    · exact List.mem_append_left _ (h.ways _ hl)
    · obtain ⟨rfl, rfl⟩ := Event.opened.inj same
      exact List.mem_append_right _ (List.mem_singleton.2 rfl)
  · exact fun p hp => List.mem_append_left _ (h.addressed p hp)
  · intro q
    have outbox := x.server.outboxes.get?_insert x.server.outboxes.size q { capacity := capacity }
    by_cases same : q = x.server.outboxes.size
    · subst same
      obtain ⟨-, complete, -⟩ := h.balanced x.server.outboxes.size
      rw [nothing, List.nil_perm, List.append_eq_nil_iff, List.append_eq_nil_iff] at complete
      obtain ⟨⟨received, -⟩, missed⟩ := complete
      rw [if_pos rfl] at outbox
      refine .of_empty nothing received missed ?_
      exact waiting_of_outbox (o := { capacity := capacity }) outbox
    · rw [if_neg same] at outbox
      exact (h.balanced q).congr rfl rfl rfl outbox
  · exact h.blamed

theorem flush (h : x.Sound) (d : Disk) :
    ({ x with server := (x.server.flushOn d).1 } : Traffic).Sound := by
  obtain ⟨outboxes, links⟩ := flushOn_kept d x.server
  exact h.relay outboxes fun l hl => h.ways l ((links l).1 hl)

theorem step (h : x.Sound) (made : x.step? m = some y) : y.Sound := by
  cases m with
  | input i capacity =>
    cases i with
    | flush d =>
      cases made
      exact h.flush d
    | event e =>
      cases e with
      | opened c k =>
        rw [step?] at made
        split at made
        · next numbered =>
          cases made
          subst numbered
          exact h.openConnection c capacity
        · cases made
      | closed | request | shutdown =>
        cases made
        exact h.react rfl
  | take q =>
    obtain ⟨⟨r, server⟩, taken, rfl⟩ := Option.map_eq_some_iff.1 made
    obtain ⟨⟨o, rest, found, next⟩, rfl⟩ := Server.of_takeOldest taken
    exact { h with
      numbered := h.numbered.modify _ _
      queues := (Table.keys_modify ..).trans h.queues
      balanced := fun k => (h.balanced k).take found next }
  | leave q =>
    cases made
    refine { h with
      numbered := h.numbered.modify _ _
      queues := (Table.keys_modify ..).trans h.queues
      balanced := fun k => (h.balanced k).leave q
      blamed := fun l hl => ?_ }
    rcases List.mem_append.1 hl with hl | hl
    · exact h.blamed l hl
    · obtain ⟨o, -, hl⟩ := List.mem_flatMap.1 hl
      obtain ⟨r, -, rfl⟩ := List.mem_map.1 hl
      exact .inl rfl

theorem run (h : x.Sound) (run : x.run? ms = some y) : y.Sound := by
  induction ms generalizing x with
  | nil =>
    cases run
    exact h
  | cons m ms ih =>
    obtain ⟨z, first, rest⟩ := Option.bind_eq_some_iff.1 run
    exact ih (h.step first) rest

end Sound

/-- What is decided in a run is what is decided without queues. -/
theorem outline_run (h : x.Sound) (run : x.run? ms = some y) :
    x.outline.run? (ms.filterMap Move.input?) = some y.outline := by
  induction ms generalizing x with
  | nil =>
    cases run
    rfl
  | cons m ms ih =>
    obtain ⟨z, first, rest⟩ := Option.bind_eq_some_iff.1 run
    obtain ⟨decided, aside⟩ := outline_step h.size first
    have later := ih (h.step first) rest
    cases given : m.input? with
    | some i =>
      rw [List.filterMap_cons_some given]
      exact Option.bind_eq_some_iff.2 ⟨_, decided i given, later⟩
    | none =>
      rw [List.filterMap_cons_none given, ← aside given]
      exact later

/-- The responses of a queue with a reader and room for all of them are all there, in order. -/
theorem Balanced.lossless (h : x.Balanced q) {o : Outbox} (found : x.server.outbox? q = some o)
    (reading : o.receiving = true) (room : (x.offered q).length ≤ o.capacity) :
    x.received q ++ x.waiting q = x.offered q := by
  have none : x.missed q = [] := by
    refine Decidable.byContradiction fun some => ?_
    rcases h.tight o found some with left | full
    · rw [reading] at left
      cases left
    · exact Nat.lt_irrefl _ (Nat.lt_of_lt_of_le full room)
  refine h.ordered.eq_of_length ?_
  have length := h.complete.length_eq
  rw [none, List.append_nil] at length
  exact length.symm

end Traffic

open Traffic in
/-- Two servers start alike and are given the same, but their queues may differ in length and in
when, or whether, anything is taken from them or they are left. Then they decide the same and push
the same. What anyone receives on a connection is in order among what was pushed to it, which is
what a reader of a long enough queue receives; whatever was lost there was lost at that very
connection's queue, and only when that was full or left. -/
theorem readers_do_not_interfere {db : Database} {store : Option SnapshotStore} {files : Files}
    {ms ms' : List Traffic.Move} {x y : Traffic} (run : (start db store files).run? ms = some x)
    (run' : (start db store files).run? ms' = some y)
    (same : ms.filterMap Move.input? = ms'.filterMap Move.input?) :
    x.server.relay = y.server.relay ∧ x.server.files = y.server.files ∧ x.opened = y.opened ∧
    x.pushed = y.pushed ∧ (∀ p ∈ x.pushed, p.link ∈ x.opened) ∧
    (∀ l ∈ x.opened, ∀ l' ∈ x.opened, l.queue = l'.queue → l = l') ∧
    ∀ l ∈ x.opened, ∃ o o', x.server.outbox? l.queue = some o ∧
      y.server.outbox? l.queue = some o' ∧ x.offered l.queue = y.offered l.queue ∧
      (x.received l.queue ++ o.waiting).Sublist (x.offered l.queue) ∧
      (x.offered l.queue).Perm (x.received l.queue ++ o.waiting ++ x.missed l.queue) ∧
      (∀ loss ∈ x.lost, loss.queue = l.queue →
        loss.found.receiving = false ∨ loss.found.capacity ≤ loss.found.waiting.length) ∧
      (o'.receiving = true → (x.offered l.queue).length ≤ o'.capacity →
        y.received l.queue ++ o'.waiting = x.offered l.queue) := by
  have sound : x.Sound := Sound.start.run run
  have sound' : y.Sound := Sound.start.run run'
  have outlines : x.outline = y.outline := by
    have decided := outline_run .start run
    rw [same, outline_run .start run'] at decided
    exact (Option.some.inj decided).symm
  have server := congrArg (·.server) outlines
  have opened : x.opened = y.opened := congrArg (·.opened) outlines
  have pushed : x.pushed = y.pushed := congrArg (·.pushed) outlines
  refine ⟨congrArg (·.relay) server, congrArg (·.files) server, opened, pushed, sound.addressed,
    fun l hl l' hl' => sound.eq_of_queue hl hl', fun l hl => ?_⟩
  obtain ⟨o, found⟩ := sound.exists_outbox hl
  obtain ⟨o', found'⟩ := sound'.exists_outbox (opened ▸ hl)
  have offered : x.offered l.queue = y.offered l.queue := by
    unfold Traffic.offered
    rw [pushed]
  obtain ⟨ordered, complete, -⟩ := sound.balanced l.queue
  rw [waiting_of_outbox found] at ordered complete
  refine ⟨o, o', found, found', offered, ordered, complete,
    fun loss hl _ => sound.blamed loss hl, fun reading room => ?_⟩
  rw [offered] at room ⊢
  rw [← waiting_of_outbox found']
  exact (sound'.balanced l.queue).lossless found' reading room

/-- Bob and Carol log in, and Carol asks Bob for a session. -/
def sampleInputs (capacity : Nat) : List Traffic.Move :=
  let events : List Event :=
    [.opened 1 0, .opened 2 1, .request 1 0 (sampleLogin "bob1234567" false),
     .request 2 0 (sampleLogin "carol12345" false),
     .request 2 0 (sampleServiceRequest .connectService none)]
  events.map fun e => .input (.event e) capacity

/-- Bob, who can be sent one response at a time, reads nothing and then goes away. -/
theorem readers_do_not_interfere_sampleInputs : ∃ x y,
    (Traffic.start sampleDatabase none {}).run? (sampleInputs 1 ++ [.leave 0]) = some x ∧
    (Traffic.start sampleDatabase none {}).run? (sampleInputs 2 ++ [.take 0, .take 0]) = some y ∧
    x.server.relay = y.server.relay ∧ ⟨1, 0⟩ ∈ x.opened ∧ x.received 0 = [] ∧
    (x.missed 0).length = 2 ∧ (x.offered 0).Perm (x.missed 0) ∧ y.received 0 = x.offered 0 := by
  have slow : ((Traffic.start sampleDatabase none {}).run? (sampleInputs 1 ++ [.leave 0])).map
      (fun x => (x.opened, x.received 0, x.waiting 0, (x.missed 0).length)) =
      some ([⟨1, 0⟩, ⟨2, 1⟩], [], [], 2) := by decide +kernel
  have prompt : ((Traffic.start sampleDatabase none {}).run?
      (sampleInputs 2 ++ [.take 0, .take 0])).map
      (fun y => (y.server.outbox? 0, (y.offered 0).length)) =
      some (some { capacity := 2 }, 2) := by decide +kernel
  obtain ⟨x, run, at_x⟩ := Option.map_eq_some_iff.1 slow
  obtain ⟨y, run', at_y⟩ := Option.map_eq_some_iff.1 prompt
  simp only [Prod.mk.injEq] at at_x at_y
  obtain ⟨opened, received, waiting, missed⟩ := at_x
  obtain ⟨outbox, length⟩ := at_y
  have bob : (⟨1, 0⟩ : Link) ∈ x.opened := opened ▸ List.mem_cons_self ..
  obtain ⟨relay, -, -, -, -, -, queues⟩ := readers_do_not_interfere run run' rfl
  obtain ⟨o, o', found, found', offered, -, complete, -, lossless⟩ := queues _ bob
  rw [outbox] at found'
  cases found'
  rw [offered, length] at lossless
  have all := lossless rfl (Nat.le_refl 2)
  rw [← Traffic.waiting_of_outbox found, received, waiting] at complete
  exact ⟨x, y, run, run', relay, bob, received, missed, complete,
    by simpa [offered] using all⟩

end Rendezvous
