import Rendezvous.Proofs.Reconnections
import Rendezvous.Proofs.Roles
import Rendezvous.Proofs.Transit

/-!
# Nothing overtakes

The requests of a client are written in the order of its calls, and those on one connection are
handled in the order in which they were written. What the relay pushes to a connection is taken in
by the client in the order in which it was pushed. Messages may be lost at several places, but what
comes through is in order:

    (x.handledOn c).Sublist (x.calls.map (·.2))                                (handled_in_order)
-/

namespace Rendezvous

/-! ## From a call to the relay -/

namespace ClientRequests

variable {k k' : ClientRequests}

/-- The requests that were written, and those that will be unless they are given up. -/
def line (k : ClientRequests) : List Request :=
  k.written.map (·.2) ++ (k.outbound ++ k.blocked.map (·.2))

theorem Steps.line_sublist (s : k.Steps k') (h : k.line.Sublist (k.calls.map (·.2))) :
    k'.line.Sublist (k'.calls.map (·.2)) := by
  unfold line at h ⊢
  cases s with
  | stay | lose => exact h
  | queue call q nobody =>
    simp only [nobody, List.map_nil, List.append_nil] at h ⊢
    simp only [List.map_append, ← List.append_assoc]
    exact h.append_right [q]
  | block call q =>
    simp only [List.map_append, ← List.append_assoc] at h ⊢
    exact h.append_right [q]
  | unblock first =>
    simpa only [first, List.map_cons, List.append_assoc, List.singleton_append] using h
  | finish =>
    refine List.Sublist.trans ?_ h
    exact ((List.filter_sublist.map _).append_left _).append_left _
  | dial =>
    refine List.Sublist.trans ?_ h
    exact (List.sublist_append_right ..).append_left _
  | write current oldest =>
    simpa only [oldest, List.map_append, List.map_cons, List.map_nil, List.append_assoc,
      List.cons_append, List.nil_append] using h
  | drop oldest =>
    rw [oldest] at h
    refine List.Sublist.trans ?_ h
    exact (List.sublist_cons_self ..).append_left _

end ClientRequests

namespace Exchange

variable {mine : ConnectionId → Bool} {x y : Exchange} {m : Move} {c : ConnectionId}

/-- What a connection does leaves the client and the records of the exchange alone. -/
theorem frame_act (x : Exchange) (time : UInt64) (did : Connection × Effect) :
    (x.act time did).client = x.client ∧ (x.act time did).written = x.written ∧
      (x.act time did).handled = x.handled := by
  obtain ⟨conn, effect⟩ := did
  cases effect <;> exact ⟨rfl, rfl, rfl⟩

/-- The requests on a connection that were handled, oldest first. -/
def handledOn (x : Exchange) (c : ConnectionId) : List Request :=
  ((x.handled.filterMap (·.event.request?)).filter (·.1 = c)).map (·.2)

/-- The requests on a connection, from the first that was handled to the last that was written. -/
def conveyed (x : Exchange) (c : ConnectionId) : List (ConnectionId × Request) :=
  (x.handled.filterMap (·.event.request?) ++
    (x.mailbox.filterMap Event.request? ++ x.up.filterMap requestIn?)).filter (·.1 = c)

theorem filter_requestIn?_of_ne {channel : Channel} (others : ∀ e ∈ channel, e.1 ≠ c) :
    (channel.filterMap requestIn?).filter (·.1 = c) = [] := by
  rw [List.filter_eq_nil_iff]
  intro a ha
  obtain ⟨e, he, read⟩ := List.mem_filterMap.1 ha
  simpa [fst_of_requestIn? read] using others e he

theorem conveyed_act (x : Exchange) (time : UInt64) (did : Connection × Effect)
    (elsewhere : ∀ q, did.2 = .submit q → did.1.id ≠ c) :
    (x.act time did).conveyed c = x.conveyed c := by
  obtain ⟨conn, effect⟩ := did
  unfold conveyed act
  cases effect with
  | wait | write => rfl
  | finish => simp [Event.request?]
  | submit q => simp [Event.request?, elsewhere q rfl]

/-- A frame that is taken off the way to the server: the request in it is handed on. -/
theorem Posted.conveyed_takeFrame (h : x.Posted mine) (isMine : mine c = true) {d : ConnectionId}
    {time : UInt64} {wording : String} {conn : Connection} {frame : Bytes} {left : Channel}
    (isOpen : x.connection? d = some conn) (taken : x.up.take? d = some (frame, left)) :
    (({ x with up := left } : Exchange).act time
      ((conn.receive frame).takeFrame wording)).conveyed c = x.conveyed c := by
  have found := (Option.filter_eq_some_iff.1 isOpen).1
  have named := h.named d conn found
  obtain ⟨before, after, up, rfl, others⟩ := Channel.eq_of_take? taken
  by_cases same : d = c
  · subst same
    obtain ⟨q, hq⟩ := h.frames _ (Channel.mem_of_take? taken) isMine
    rw [hq.takeFrame (h.idle d conn isMine found)]
    unfold conveyed Exchange.act
    simp [up, filter_requestIn?_of_ne others, hq.requestIn? d, Event.request?, named]
  · have id : ((conn.receive frame).takeFrame wording).1.id = d :=
      ((conn.receive frame).takeFrame_fst wording).1.trans named
    rw [conveyed_act _ _ _ fun q _ => id ▸ same]
    have skipped : ([(d, frame)].filterMap requestIn?).filter (·.1 = c) = [] :=
      filter_requestIn?_of_ne fun e he => List.mem_singleton.1 he ▸ same
    unfold conveyed
    rw [up, ← List.singleton_append]
    simp only [List.filterMap_append, List.filter_append, skipped, List.nil_append]

/-- What is written to a connection is handled in the order in which it was written. -/
theorem Steps.conveyed_eq (s : x.Steps mine m y) (posted : x.Posted mine) (isMine : mine c = true)
    (h : x.conveyed c = x.written.filter (·.1 = c)) :
    y.conveyed c = y.written.filter (·.1 = c) := by
  cases s with
  | @write d q _ _ _ _ _ encoded framed =>
    have written : IsRequestFrame q _ := ⟨_, encoded, framed⟩
    unfold conveyed at h ⊢
    simp only [List.filter_append, List.filterMap_append, List.filterMap_cons,
      written.requestIn? d, List.filterMap_nil] at h ⊢
    rw [← h]
    simp only [List.append_assoc]
  | @others d frame notMine =>
    have other : d ≠ c := fun same => by simp [same, isMine] at notMine
    refine Eq.trans ?_ h
    unfold conveyed
    simp only [List.filter_append, List.filterMap_append]
    have none : ([(d, frame)].filterMap requestIn?).filter (·.1 = c) = [] :=
      filter_requestIn?_of_ne fun e he => List.mem_singleton.1 he ▸ other
    rw [none, List.append_nil]
  | accept =>
    refine Eq.trans ?_ h
    unfold conveyed
    simp [Event.request?]
  | takeFrame isOpen taken =>
    rw [posted.conveyed_takeFrame isMine isOpen taken, (frame_act ..).2.1]
    exact h
  | @takeResponse _ conn r _ _ taken =>
    obtain ⟨-, rfl⟩ := Server.of_takeOldest taken
    rw [conveyed_act _ _ _ fun q submits => absurd submits ((conn.writeResponse_fst r).2.2.2 q),
      (frame_act ..).2.1]
    exact h
  | close =>
    rw [conveyed_act _ _ _ (by rintro _ ⟨⟩), (frame_act ..).2.1]
    exact h
  | @react e rest first =>
    refine Eq.trans ?_ h
    unfold conveyed
    rw [first]
    cases read : e.request? <;> simp [read]
  | _ => exact h

/-- What becomes of the requests of a client, up to the relay. -/
structure Ordered (c : ConnectionId) (x : Exchange) : Prop where
  line : x.clientRequests.line.Sublist (x.calls.map (·.2))
  conveyed : x.conveyed c = x.written.filter (·.1 = c)

namespace Ordered

theorem start {db : Database} {store : Option SnapshotStore} {files : Files} :
    (Exchange.start db store files).Ordered c :=
  ⟨List.Sublist.refl _, rfl⟩

theorem becomes (h : x.Ordered c) (posted : x.Posted mine) (isMine : mine c = true)
    (b : x.Becomes mine y) : y.Ordered c := by
  cases b with
  | steps s => exact ⟨s.clientRequests.line_sublist h.line, s.conveyed_eq posted isMine h.conveyed⟩
  | takeEvent | lose | stay => exact ⟨h.line, h.conveyed⟩

/-- Requests on one connection are handled in the order of the calls that made them. -/
theorem handledOn_sublist_calls (h : x.Ordered c) :
    (x.handledOn c).Sublist (x.calls.map (·.2)) := by
  have written : (x.handledOn c).Sublist ((x.written.filter (·.1 = c)).map (·.2)) := by
    rw [← h.conveyed]
    exact ((List.sublist_append_left ..).filter _).map _
  exact ((written.trans (List.filter_sublist.map _)).trans (List.sublist_append_left ..)).trans
    h.line

end Ordered

/-- In every run, the relay handles what comes on one connection in the order of the calls. -/
theorem handled_in_order {db : Database} {store : Option SnapshotStore} {files : Files}
    {ms : List Move} (run : (Exchange.start db store files).run? mine ms = some x)
    (isMine : mine c = true) : (x.handledOn c).Sublist (x.calls.map (·.2)) := by
  have h : x.Posted mine ∧ x.Ordered c :=
    induction (P := fun x => x.Posted mine ∧ x.Ordered c) ⟨.start, .start⟩
      (fun _ _ _ h s => ⟨h.1.step s, h.2.becomes h.1 isMine (.steps s)⟩) run
  exact h.2.handledOn_sublist_calls

end Exchange

/-! ## From the relay to an endpoint -/

namespace Server

/-- What waits in a queue. -/
def waitingIn (s : Server) (k : QueueId) : List Response := ((s.outbox? k).map (·.waiting)).getD []

theorem waitingIn_deliver (s : Server) (p : Push) (k : QueueId) :
    ((s.deliver p).waitingIn k).Sublist
      (s.waitingIn k ++ if p.link.queue = k then [p.response] else []) := by
  unfold waitingIn deliver outbox?
  dsimp only
  rw [Table.get?_modify]
  by_cases same : k = p.link.queue
  · subst same
    simp only [if_pos]
    cases s.outboxes.get? p.link.queue with
    | none => exact List.nil_sublist _
    | some o =>
      simp only [Option.map_some, Option.getD_some, Outbox.waiting_push]
      refine List.Sublist.append_left ?_ _
      split
      · exact List.Sublist.refl _
      · exact List.nil_sublist _
  · rw [if_neg same, if_neg (Ne.symm same), List.append_nil]

theorem waitingIn_delivers (s : Server) (pushes : List Push) (k : QueueId) :
    ((pushes.foldl deliver s).waitingIn k).Sublist
      (s.waitingIn k ++ (pushes.filter (·.link.queue = k)).map (·.response)) := by
  induction pushes generalizing s with
  | nil => simp
  | cons p pushes ih =>
    refine (ih (s.deliver p)).trans ?_
    refine ((s.waitingIn_deliver p k).append_right _).trans ?_
    rw [List.append_assoc, List.filter_cons]
    by_cases here : p.link.queue = k <;> simp [here]

end Server

namespace Exchange

variable {mine : ConnectionId → Bool} {x y : Exchange} {m : Move} {c : ConnectionId}

/-- The responses on a connection that the client has not taken, oldest first, and before them the
events that wait to be handled. -/
def incoming (x : Exchange) (c : ConnectionId) : List Response :=
  x.client.events.waiting ++ x.transit c

theorem queued_of_queue? {k : QueueId} (here : x.queue? c = some k) :
    x.queued c = x.server.waitingIn k := by
  unfold queued
  rw [here]
  rfl

/-- What the relay has for the queue of a connection when it reacts to an event. -/
def delivered (x : Exchange) (c : ConnectionId) (e : Event) : List Response :=
  ((x.server.relay.handle e).2.filter fun p => x.queue? c = some p.link.queue).map (·.response)

theorem transit_react_sublist {e : Event} (connections : y.connections = x.connections)
    (down : y.down = x.down) (server : y.server = x.server.react e) :
    (y.transit c).Sublist (x.transit c ++ x.delivered c e) := by
  have queue : y.queue? c = x.queue? c := by
    unfold queue?
    rw [connections]
  have outboxes : (x.server.react e).outboxes = (x.server.handle e).outboxes :=
    Server.outboxes_flush _
  unfold transit delivered
  rw [down, List.append_assoc]
  refine List.Sublist.append_left ?_ _
  cases hk : x.queue? c with
  | none =>
    unfold queued
    rw [queue, hk]
    exact List.nil_sublist _
  | some k =>
    have all := Server.waitingIn_delivers { x.server with relay := (x.server.relay.handle e).1 }
      (x.server.relay.handle e).2 k
    rw [queued_of_queue? hk, queued_of_queue? (queue.trans hk), server]
    simp only [Option.some.injEq, eq_comm (a := k)]
    unfold Server.waitingIn Server.outbox?
    rw [outboxes]
    exact all

/-- A connection that ends loses what waits in its queue. -/
theorem Routed.transit_finish_sublist (h : x.Routed mine) (time : UInt64) (conn : Connection)
    (known : x.queue? conn.id = some conn.queue) :
    ((x.act time (conn, .finish)).transit c).Sublist (x.transit c) := by
  by_cases same : conn.id = c
  · subst same
    unfold transit
    refine List.Sublist.append_left ?_ _
    have here : (x.act time (conn, .finish)).queue? conn.id = some conn.queue :=
      (congrFun (queue?_insert known) conn.id).trans known
    have gone : (x.act time (conn, .finish)).queued conn.id = [] := by
      rw [queued_of_queue? here]
      unfold Server.waitingIn Server.outbox? Exchange.act Server.abandon
      dsimp only
      rw [Table.get?_modify, if_pos rfl]
      cases x.server.outboxes.get? conn.queue <;> rfl
    rw [gone]
    exact List.nil_sublist _
  · rw [h.transit_act time (conn, .finish) known same]

/-- A connection takes a response off its queue: it writes it, or ends. -/
theorem Routed.transit_takeResponse_sublist (h : x.Routed mine) (posted : x.Posted mine)
    {d : ConnectionId} {conn : Connection} {r : Response} {server : Server}
    (isOpen : x.connection? d = some conn)
    (taken : x.server.takeOldest conn.queue = some (r, server)) :
    (({ x with server := server } : Exchange).act 0 (conn.writeResponse r)).transit c |>.Sublist
      (x.transit c) := by
  have known := posted.queue?_of_connection? isOpen
  by_cases same : conn.id = c
  · unfold Connection.writeResponse
    split
    · next framed =>
      obtain ⟨body, encoded, framed⟩ := bind_eq_ok_iff.1 framed
      rw [transit_write known taken ⟨body, encoded, framed⟩ same]
    · have before := queued_takeOldest known taken
      obtain ⟨-, rfl⟩ := Server.of_takeOldest taken
      have kept := h.queues conn.queue (f := fun o => { o with waiting := o.waiting.tail })
        fun _ _ hr => List.mem_of_mem_tail hr
      refine (kept.transit_finish_sublist 0 conn.finish.1 known).trans ?_
      unfold transit
      rw [← same, before]
      exact (List.sublist_cons_self ..).append_left _
  · rw [h.transit_taken_of_ne posted isOpen taken same]

/-- The client takes in the oldest response on its connection: an event waits to be handled if
there is room. -/
theorem Routed.incoming_receive (h : x.Routed mine) (isMine : mine c = true)
    {frame body rest : Bytes} {left : Channel} (taken : x.down.take? c = some (frame, left))
    (read : Frame.read frame = (.ok body, rest)) :
    (({ x with client := x.client.receive body, down := left } : Exchange).incoming c).Sublist
      (x.incoming c) := by
  obtain ⟨r, -, received, transit, -⟩ := h.transit_receive isMine taken read
  unfold incoming
  rw [received, transit]
  unfold Client.dispatch
  split
  · show List.Sublist ((x.client.events.push r).waiting ++ _) _
    rw [Outbox.waiting_push, List.append_assoc]
    refine List.Sublist.append_left ?_ _
    split
    · exact List.Sublist.refl _
    · exact List.sublist_cons_self ..
  · exact (List.sublist_cons_self ..).append_left _

theorem Steps.handled_eq (s : x.Steps mine m y) (reacts : m ≠ .react) : y.handled = x.handled := by
  cases s with
  | takeFrame | takeResponse | close => exact (frame_act ..).2.2
  | react => exact absurd rfl reacts
  | _ => rfl

/-- Whatever happens but a reaction of the relay, nothing is added to what comes in. -/
theorem Steps.incoming_sublist (s : x.Steps mine m y) (posted : x.Posted mine)
    (routed : x.Routed mine) (isMine : mine c = true) (only : ∀ d, mine d = true → d = c)
    (reacts : m ≠ .react) : (y.incoming c).Sublist (x.incoming c) := by
  cases s with
  | begin began =>
    unfold incoming
    rw [Client.events_begin began]
    exact List.Sublist.refl _
  | unblock =>
    unfold incoming
    rw [x.client.events_unblock]
    exact List.Sublist.refl _
  | @finish call _ _ _ finished =>
    have f := x.client.finishes call
    rw [finished] at f
    cases f <;> exact List.Sublist.refl _
  | receive isMine' taken read =>
    cases only _ isMine'
    exact routed.incoming_receive isMine taken read
  | accept new =>
    unfold incoming
    rw [routed.transit_accept new]
  | takeFrame isOpen taken =>
    unfold incoming
    rw [routed.transit_takeFrame posted isMine isOpen taken, (frame_act ..).1]
  | takeResponse isOpen taken =>
    unfold incoming
    rw [(frame_act ..).1]
    exact (routed.transit_takeResponse_sublist posted isOpen taken).append_left _
  | @close _ conn isOpen =>
    unfold incoming
    rw [(frame_act ..).1]
    have known := posted.queue?_of_connection? isOpen
    exact (routed.transit_finish_sublist 0 conn.finish.1 known).append_left _
  | react => exact absurd rfl reacts
  | _ => exact List.Sublist.refl _

/-- What comes in keeps its order, and only what the relay pushes is added, behind everything. -/
theorem Becomes.incoming_sublist (b : x.Becomes mine y) (posted : x.Posted mine)
    (routed : x.Routed mine) (isMine : mine c = true) (only : ∀ d, mine d = true → d = c) :
    y.handled = x.handled ∧ (y.incoming c).Sublist (x.incoming c) ∨
      ∃ e rest, x.mailbox = e :: rest ∧ y.handled = x.handled ++ [⟨x.server.relay, e⟩] ∧
        (y.incoming c).Sublist (x.incoming c ++ x.delivered c e) := by
  cases b with
  | @steps m _ s =>
    by_cases reacts : m = .react
    · subst reacts
      cases s with
      | @react e rest first =>
        refine .inr ⟨e, rest, first, rfl, ?_⟩
        unfold incoming
        rw [List.append_assoc]
        refine List.Sublist.append_left ?_ _
        exact transit_react_sublist rfl rfl rfl
    · exact .inl ⟨s.handled_eq reacts, s.incoming_sublist posted routed isMine only reacts⟩
  | takeEvent oldest =>
    refine .inl ⟨rfl, ?_⟩
    unfold incoming
    rw [oldest]
    exact (List.sublist_cons_self ..).append_right _
  | lose less =>
    refine .inl ⟨rfl, ?_⟩
    unfold incoming transit
    exact (((less.filterMap _).append_right _).append_left _)
  | stay => exact .inl ⟨rfl, List.Sublist.refl _⟩

end Exchange

end Rendezvous
