import Rendezvous.Proofs.Meeting
import Rendezvous.Proofs.Reports

/-!
# The two ends of a session play different parts

Each end fixes its role by itself: an end that is asked for a session is controlled, an end whose
request is agreed to controls it. While one peer owns a service throughout, its end of a session
with another one is always controlled and the other end always controlling (`roles_differ`), however
often the two open and close it and whatever anybody else sends.

An end opens a session when it is told what it never says itself (`Role.openedBy`): an owner does
not ask for sessions and a member does not agree to any. The invariant follows this through
everything on the way from one to the other: the signals of the endpoints (`Cast.Tells`), the calls
(`Cast.Asks`), and what waits for a client or travels to it (`Exchange.Confined`). In between stands
the relay, which says on whose behalf it forwards a request, and to whom it may.
-/

namespace Rendezvous

/-! ## What an event leads to -/

/-- The event that opens a session in which an end plays a part. -/
def Role.openedBy : Role → Action
  | controlled => .iceOpen
  | controlling => .iceOpenAck

namespace Endpoint

variable {e : Endpoint} {creates : Bool} {event : Response} {key k : SessionKey} {s : Session}

theorem session?_handleReport (e : Endpoint) (k : SessionKey) :
    e.handleReport.1.session? k = e.session? k := by
  unfold handleReport
  split <;> rfl

/-- What an agent reports is not about sessions that open or close. -/
theorem handleReport_ne_forward (e : Endpoint) {a : Action} :
    e.handleReport.2 ≠ some (.forward a key) := by
  unfold handleReport signal?
  split
  · nofun
  · dsimp only
    split
    · split <;> nofun
    · nofun

theorem session_of_closeSession (h : (e.closeSession key).1.session? k = some s) :
    e.session? k = some s := by
  rw [session?_closeSession] at h
  split at h
  · cases h
  · exact h

theorem session_of_openSession {role : Role}
    (h : (e.openSession creates key role).1.session? k = some s) :
    e.session? k = some s ∨ k = key ∧ s.role = role := by
  unfold openSession at h
  cases creates with
  | true =>
    have h : ((e.closeSession key).1.sessions.insert key ⟨_, role⟩).get? k = some s := h
    rw [Table.get?_insert] at h
    split at h
    · next same =>
      cases h
      exact .inr ⟨same, rfl⟩
    · exact .inl (session_of_closeSession h)
  | false => exact .inl (session_of_closeSession h)

/-- A session was there before, or the event opens it. -/
theorem session_of_handle (h : (e.handle creates event).1.session? k = some s) :
    e.session? k = some s ∨
      event.eventAction? = some s.role.openedBy ∧ event.sessionKey? = some k := by
  have done := e.handles creates event
  generalize e.handle creates event = after at done h
  cases done with
  | logout =>
    rw [session?_closeAll] at h
    cases h
  | iceOpen action about | iceOpenAck action about =>
    rcases session_of_openSession h with old | ⟨rfl, role⟩
    · exact .inl old
    · exact .inr ⟨role ▸ action, about⟩
  | iceClose | iceCloseAck => exact .inl (session_of_closeSession h)
  | credentials | candidate | ignored => exact .inl h

/-- An endpoint signals that a session is open only if the other end asked for it, and never asks
for one. -/
theorem signal_of_handle {role : Role}
    (h : .forward role.openedBy key ∈ (e.handle creates event).2.2) :
    role = .controlling ∧ event.eventAction? = some .iceOpen ∧ event.sessionKey? = some key := by
  have done := e.handles creates event
  generalize e.handle creates event = after at done h
  cases done with
  | iceOpen action about =>
    cases creates <;> cases role <;> cases List.mem_singleton.1 h
    exact ⟨rfl, action, about⟩
  | iceClose => cases role <;> cases List.mem_singleton.1 h
  | _ => cases h

end Endpoint

/-! ## What reaches a client -/

theorem Client.events_begin {c c' : Client} {now : Nat} {tokens : List String} {q : Request}
    {call : Call} (began : c.begin now tokens q = .ok (c', call)) : c'.events = c.events := by
  obtain ⟨k, a, -, -, rfl⟩ := of_begin began
  unfold enqueue
  split <;> rfl

theorem Client.events_unblock (c : Client) : c.unblock.events = c.events := by
  unfold unblock
  split
  · rfl
  · split <;> rfl

namespace Exchange

variable {mine : ConnectionId → Bool} {May : Response → Prop} {x y : Exchange} {m : Move}

/-- Everything on its way to a client is such that it may be. -/
structure Confined (mine : ConnectionId → Bool) (May : Response → Prop) (x : Exchange) :
    Prop where
  queued : x.server.Holds x.queue? fun c r => mine c = true → May r
  sent : ∀ e ∈ x.down, mine e.1 = true → ∃ r, IsResponseFrame r e.2 ∧ May r
  arrived : ∀ r ∈ x.client.events.waiting, May r

/-- What the relay pushes to a client next may reach it. -/
def Pushes (mine : ConnectionId → Bool) (May : Response → Prop) (x : Exchange) : Prop :=
  ∀ e rest, x.mailbox = e :: rest → ∀ p ∈ (x.server.relay.handle e).2,
    ∀ c, x.queue? c = some p.link.queue → mine c = true → May p.response

namespace Confined

theorem start {db : Database} {store : Option SnapshotStore} {files : Files} :
    (Exchange.start db store files).Confined mine May where
  queued _ _ _ h := by cases h
  sent _ h := by cases h
  arrived _ h := by cases h

/-- The client may change as long as no event appears. -/
theorem client (h : x.Confined mine May) (client : Client) (returns : List Return)
    (events : client.events = x.client.events) :
    ({ x with client := client, returns := returns } : Exchange).Confined mine May :=
  { h with
    arrived := fun r hr => by
      rw [events] at hr
      exact h.arrived r hr }

/-- A queue may lose what waits in it. -/
theorem queues (h : x.Confined mine May) (q : QueueId) {f : Outbox → Outbox}
    (less : ∀ o, ∀ r ∈ (f o).waiting, r ∈ o.waiting) :
    ({ x with server := { x.server with
        outboxes := x.server.outboxes.modify q f } } : Exchange).Confined mine May :=
  { h with queued := h.queued.modify q fun _ o _ before r hr => before r (less o r hr) }

/-- A connection acts: it keeps its queue, and what it writes to the client may reach it. -/
theorem act (h : x.Confined mine May) (time : UInt64) {did : Connection × Effect}
    (known : x.queue? did.1.id = some did.1.queue)
    (writes : ∀ frame, did.2 = .write frame → mine did.1.id = true →
      ∃ r, IsResponseFrame r frame ∧ May r) : (x.act time did).Confined mine May := by
  obtain ⟨c, effect⟩ := did
  have put : ({ x with connections := x.connections.insert c.id c } : Exchange).Confined mine
      May :=
    { h with
      queued := by
        rw [queue?_insert known]
        exact h.queued }
  cases effect with
  | wait => exact put
  | submit => exact { put with }
  | finish =>
    have gone := put.queues c.queue (f := Outbox.abandon) fun _ _ hr => by cases hr
    exact ⟨gone.queued, gone.sent, gone.arrived⟩
  | write frame =>
    refine { put with sent := ?_ }
    intro e he isMine
    rcases List.mem_append.1 he with he | he
    · exact put.sent e he isMine
    · cases List.mem_singleton.1 he
      exact writes frame rfl isMine

theorem takeFrame (h : x.Confined mine May) (posted : x.Posted mine) {c : ConnectionId}
    {time : UInt64} {wording : String} {conn : Connection} {frame : Bytes} {left : Channel}
    (isOpen : x.connection? c = some conn) (taken : x.up.take? c = some (frame, left)) :
    (({ x with up := left } : Exchange).act time
      ((conn.receive frame).takeFrame wording)).Confined mine May := by
  have known : x.queue? conn.id = some conn.queue := posted.queue?_of_connection? isOpen
  obtain ⟨id, queue⟩ := (conn.receive frame).takeFrame_fst wording
  have kept : ({ x with up := left } : Exchange).Confined mine May := { h with }
  refine kept.act time ?_ fun reply writes isMine => ?_
  · rw [id, queue]
    exact known
  · rw [id] at isMine
    exact absurd writes (posted.takeFrame_ne_write isOpen taken isMine)

theorem takeResponse (h : x.Confined mine May) (posted : x.Posted mine) {c : ConnectionId}
    {conn : Connection} {r : Response} {server : Server} (isOpen : x.connection? c = some conn)
    (taken : x.server.takeOldest conn.queue = some (r, server)) :
    (({ x with server := server } : Exchange).act 0 (conn.writeResponse r)).Confined mine May := by
  have known := posted.queue?_of_connection? isOpen
  obtain ⟨⟨o, rest, ho, waiting⟩, rfl⟩ := Server.of_takeOldest taken
  have kept := h.queues conn.queue (f := fun o => { o with waiting := o.waiting.tail })
    fun _ _ hr => List.mem_of_mem_tail hr
  obtain ⟨id, queue, -, -⟩ := conn.writeResponse_fst r
  refine kept.act 0 ?_ fun frame writes isMine =>
    ⟨r, Connection.isResponseFrame_of_write writes, ?_⟩
  · rw [id, queue]
    exact known
  · rw [id] at isMine
    refine h.queued conn.id conn.queue o known ho r ?_ isMine
    rw [waiting]
    exact List.mem_cons_self ..

/-- The client takes in a response: if it is an event, it waits to be handled. -/
theorem receive (h : x.Confined mine May) {c : ConnectionId} {frame body rest : Bytes}
    {left : Channel} (isMine : mine c = true) (taken : x.down.take? c = some (frame, left))
    (read : Frame.read frame = (.ok body, rest)) :
    ({ x with client := x.client.receive body, down := left } : Exchange).Confined mine May := by
  obtain ⟨r, framed, may⟩ := h.sent _ (Channel.mem_of_take? taken) isMine
  rw [framed.receive read]
  refine ⟨h.queued, fun e he => h.sent e (Channel.subset_of_take? taken he), fun r' hr => ?_⟩
  have hr : r' ∈ (x.client.dispatch r).events.waiting := hr
  unfold Client.dispatch at hr
  split at hr
  · rw [Outbox.waiting_push] at hr
    rcases List.mem_append.1 hr with old | new
    · exact h.arrived r' old
    · split at new
      · cases List.mem_singleton.1 new
        exact may
      · cases new
  · exact h.arrived r' hr

/-- Each step keeps it so, if what the relay pushes when it reacts may reach the client. -/
theorem step (h : x.Confined mine May) (posted : x.Posted mine) (routed : x.Routed mine)
    (pushes : ∀ e, ⟨x.server.relay, e⟩ ∈ y.handled → x.Pushes mine May)
    (s : x.Steps mine m y) : y.Confined mine May := by
  cases s with
  | begin began =>
    have begun := h.client _ x.returns (Client.events_begin began)
    exact { begun with }
  | unblock => exact h.client _ _ x.client.events_unblock
  | @finish call _ _ _ finished =>
    have f := x.client.finishes call
    rw [finished] at f
    cases f with
    | replied => exact h.client _ _ rfl
    | cancelled => exact h.client _ _ rfl
  | timeOut | noteLogin | noteLogout | dial | dialFailed | drop => exact h.client _ _ rfl
  | dialed | write | lose => exact ⟨h.queued, h.sent, h.arrived⟩
  | stay => exact h
  | receive isMine taken read => exact h.receive isMine taken read
  | others => exact { h with }
  | accept => exact { h with queued := holds_accept routed.known h.queued }
  | takeFrame isOpen taken => exact h.takeFrame posted isOpen taken
  | takeResponse isOpen taken => exact h.takeResponse posted isOpen taken
  | @close c conn isOpen =>
    have known : x.queue? conn.id = some conn.queue := posted.queue?_of_connection? isOpen
    exact h.act 0 known nofun
  | @react e rest first =>
    have now : ⟨x.server.relay, e⟩ ∈ x.handled ++ [Moment.mk x.server.relay e] :=
      List.mem_append_right _ (List.mem_singleton.2 rfl)
    exact { h with queued := h.queued.react (pushes e now e rest first) }

theorem becomes (h : x.Confined mine May) (posted : x.Posted mine) (routed : x.Routed mine)
    (pushes : ∀ e, ⟨x.server.relay, e⟩ ∈ y.handled → x.Pushes mine May) (b : x.Becomes mine y) :
    y.Confined mine May := by
  cases b with
  | steps s => exact h.step posted routed pushes s
  | takeEvent oldest =>
    refine { h with arrived := fun r hr => h.arrived r ?_ }
    rw [oldest]
    exact List.mem_cons_of_mem _ hr
  | lose less => exact { h with sent := fun e he => h.sent e (less.subset he) }
  | stay => exact h

end Confined

end Exchange

/-! ## Where an event comes from -/

theorem Response.event_of_eventAction? {r : Response} {a : Action}
    (action : r.eventAction? = some a) : r.event = a.name := by
  unfold eventAction? at action
  split at action
  · exact (Action.name_of_ofName? action).symm
  · cases action

theorem Request.action_of_action? {q : Request} {a : Action} (asked : q.action? = .ok a) :
    q.action = a.name := by
  unfold action? at asked
  split at asked
  · next found =>
    cases asked
    exact (Action.name_of_ofName? found).symm
  · cases asked

/-- An event other than a logout comes from a request of the peer that it names, and goes to whom
the records say. -/
theorem Relay.origin_of_event {r : Relay} {e : Event} {push : Push} {b : Action}
    {key : SessionKey} (pushed : push ∈ (r.handle e).2)
    (action : push.response.eventAction? = some b) (notLogout : b ≠ .logout)
    (about : push.response.sessionKey? = some key) :
    ∃ c time q a target, e = .request c time q ∧ r.identities.get? c = some key.peer ∧
      q.action? = .ok a ∧ a.relayedAs? = some b ∧ q.serviceName = some key.service ∧
      (a.isRelayed = false → r.db.checkAccess key.peer key.service q.servicePwd = .ok ()) ∧
      r.db.forwardTarget key.peer key.service q.toId = .ok target ∧
      r.online.get? target = some push.link := by
  have named := Response.event_of_eventAction? action
  have event : push.response.event ≠ "" := named ▸ b.name_ne_empty
  obtain ⟨c, time, q, rfl, hpush, -⟩ := mem_pushes_of_event pushed event
  have notLogout : push.response.event ≠ Action.logout.name := fun same =>
    notLogout (Action.name_injective (named.symm.trans same))
  obtain ⟨-, caller, a, b', who, asked, under, access, hf⟩ :=
    (leads_dispatch r c time q).relayed_of_event hpush notLogout
  obtain ⟨name, content, target, link, called, -, ht, hl, rfl⟩ := forward_eq_ok_iff.1 hf
  cases (Option.some.inj about : SessionKey.mk name caller = key)
  cases Action.name_injective (named : b'.name = b.name)
  refine ⟨c, time, q, a, target, rfl, who, asked, under,
    (Request.requireServiceName_eq_ok_iff.1 called).1, fun session => ?_, ht, hl⟩
  obtain ⟨name', called', checked⟩ := access session
  cases called.symm.trans called'
  exact checked

/-- A push reaches the connections of the peer that it goes to only. -/
theorem Exchange.Routed.identity_of_queue {mine : ConnectionId → Bool} {x : Exchange}
    (h : x.Routed mine) {target : String} {link : Link} {c : ConnectionId}
    (online : x.server.relay.online.get? target = some link)
    (hc : x.queue? c = some link.queue) : x.server.relay.identities.get? c = some target := by
  obtain ⟨isOpen, -⟩ := h.coherent.isOpen_of_online online
  have opened := h.opened _ _ (List.mem_append_left _ (mem_of_stillOpen isOpen))
  exact (h.coherent.identity_iff_of_online online).2 (h.distinct _ _ _ hc opened)

/-! ## The two ends -/

/-- The role of an end in its session with the other one. -/
def Part.role : Part → Role
  | owner => .controlled
  | member => .controlling

theorem Part.eq_or_eq_other (p : Part) (r : Role) : r = p.role ∨ r = p.other.role := by
  cases p <;> cases r <;> decide

namespace Cast

variable {k : Cast} {p : Part} {r : Relay} {key : SessionKey}

/-- The service is the owner's, and the two are logged in as themselves, with no client but their
own. -/
structure Fits (k : Cast) (r : Relay) : Prop where
  owned : ∀ s, r.db.service? k.service = some s → s.owner = k.id .owner
  speaks : ∀ c peer, r.identities.get? c = some peer → ∀ p, k.whose c = some p ↔ peer = k.id p

instance (k : Cast) (r : Relay) : Decidable (k.Fits r) :=
  decidable_of_iff ((∀ s ∈ r.db.service? k.service, s.owner = k.id .owner) ∧
      ∀ e ∈ r.identities.entries, ∀ p ∈ [Part.owner, .member],
        (k.whose e.1 = some p ↔ e.2 = k.id p))
    ⟨fun ⟨owned, speaks⟩ => ⟨owned, fun c peer known p =>
        speaks (c, peer) (Table.get?_eq_some_iff.1 known) p (by cases p <;> decide)⟩,
      fun h => ⟨h.owned, fun e known p _ => h.speaks e.1 e.2 (Table.get?_eq_some_iff.2 known) p⟩⟩

/-- The sessions that count at an end: at the owner's that with the member, and at the member's all
of the service, since whoever asks it for a session there, it is the owner that it agrees to. -/
def counts (k : Cast) : Part → SessionKey → Prop
  | .owner, key => key = ⟨k.service, k.id .member⟩
  | .member, key => key.service = k.service

/-- An end never asks for what would open its own end of a session. -/
def Asks (k : Cast) (p : Part) (q : Request) : Prop :=
  q.action = p.role.openedBy.name → q.serviceName ≠ some k.service

/-- Nor does its endpoint signal that. -/
def Tells (k : Cast) (p : Part) (signal : Signal) : Prop :=
  ∀ key, signal = .forward p.role.openedBy key → key.service ≠ k.service

/-- What may reach an end: nothing that opens one of these sessions in the other end's role. -/
def May (k : Cast) (p : Part) (r : Response) : Prop :=
  r.eventAction? = some p.other.role.openedBy → ∀ key, r.sessionKey? = some key → ¬ k.counts p key

theorem counts_other (k : Cast) (p : Part) : k.counts p ⟨k.service, k.id p.other⟩ := by
  cases p <;> rfl

theorem service_of_counts (h : k.counts p key) : key.service = k.service := by
  cases p with
  | owner => rw [h]
  | member => exact h

theorem asks_address {c : Client} {q : Request} {token : String} (h : k.Asks p q) :
    k.Asks p (c.address q token) := h

theorem asks_of_permits {now : Nat} {tokens : List String} {q : Request}
    (permitted : k.permits (.begin now tokens q) = true) : k.Asks p q := by
  intro asked called
  simp only [permits, asked, called, Action.ofName?_name] at permitted
  cases p <;> simp [Part.role, Role.openedBy, Action.isRelayed] at permitted

theorem asks_of_tells {signal : Signal} {q : Request} (tells : k.Tells p signal)
    (carried : Request.ofSignal signal = .ok q) : k.Asks p q := by
  intro asked called
  cases signal with
  | forward a key =>
    rw [Request.ofSignal, Request.forward] at carried
    split at carried
    · cases carried
      cases Action.name_injective (asked : a.name = _)
      exact tells key rfl (Option.some.inj called)
    · cases carried
  | auth =>
    cases carried
    have asked : Action.iceAuth.name = p.role.openedBy.name := asked
    have same := Action.name_injective asked
    cases p <;> cases same
  | candidate =>
    cases carried
    have asked : Action.iceCandidate.name = p.role.openedBy.name := asked
    have same := Action.name_injective asked
    cases p <;> cases same

/-- Only the other end's own request could open one of these sessions in the other end's role. A
member's `connectService` reaches the owner only. -/
theorem Fits.origin (fits : k.Fits r) {target : String} {a : Action} {q : Request}
    (here : target = k.id p) (counts : k.counts p key)
    (under : a.relayedAs? = some p.other.role.openedBy)
    (access : a.isRelayed = false → r.db.checkAccess key.peer key.service q.servicePwd = .ok ())
    (forwarded : r.db.forwardTarget key.peer key.service q.toId = .ok target) :
    key.peer = k.id p.other ∧ a = p.other.role.openedBy := by
  obtain ⟨s, found, rule⟩ := Database.forwardTarget_eq_ok_iff.1 forwarded
  have owned : s.owner = k.id .owner := fits.owned s (service_of_counts counts ▸ found)
  cases p with
  | owner =>
    cases counts
    refine ⟨rfl, ?_⟩
    cases a <;> cases under
    rfl
  | member =>
    rcases rule with ⟨caller, -⟩ | ⟨-, -, toOwner⟩
    · refine ⟨caller.symm.trans owned, ?_⟩
      cases a <;> cases under
      · obtain ⟨s', found', notOwner, -⟩ := Database.checkAccess_eq_ok_iff.1 (access rfl)
        cases found.symm.trans found'
        exact absurd caller notOwner
      · rfl
    · exact absurd (owned.symm.trans (toOwner.symm.trans here)) k.differ

/-- What an end has done so far keeps the roles apart. -/
structure Steady (k : Cast) (p : Part) (s : Seat) : Prop where
  asks : ∀ e ∈ s.calls, k.Asks p e.2
  tells : ∀ signal ∈ s.signals, k.Tells p signal
  roles : ∀ key session, k.counts p key → s.endpoint.session? key = some session →
    session.role = p.role

namespace Steady

variable {s t : Seat} {c : Chore} {event : Response}

/-- What an endpoint makes of an event that may reach it. -/
theorem handle (h : k.Steady p s) (may : k.May p event) (creates : Bool) :
    (∀ signal ∈ (s.endpoint.handle creates event).2.2, k.Tells p signal) ∧
      ∀ key session, k.counts p key →
        (s.endpoint.handle creates event).1.session? key = some session →
        session.role = p.role := by
  constructor
  · rintro _ told key rfl same
    -- only a member signals this, having been asked for a session
    obtain ⟨role, action, about⟩ := Endpoint.signal_of_handle told
    cases p with
    | owner => cases role
    | member => exact may action key about same
  · intro key session counts found
    rcases Endpoint.session_of_handle found with old | ⟨action, about⟩
    · exact h.roles key session counts old
    · rcases p.eq_or_eq_other session.role with role | role
      · exact role
      · rw [role] at action
        exact absurd counts (may action key about)

theorem step (h : k.Steady p s) (arrived : ∀ r ∈ s.client.events.waiting, k.May p r)
    (made : s.Steps c t) : k.Steady p t := by
  cases made with
  | @handleEvent creates event rest _ oldest =>
    have may : k.May p event := arrived event (oldest ▸ List.mem_cons_self ..)
    obtain ⟨tells, roles⟩ := h.handle may creates
    exact ⟨h.asks, tells, roles⟩
  | report => exact { h with }
  | handleReport =>
    refine ⟨h.asks, fun signal told key same => ?_, fun key session counts found => ?_⟩
    · rw [same] at told
      exact absurd (Option.mem_toList.1 told) s.endpoint.handleReport_ne_forward
    · refine h.roles key session counts ?_
      rwa [s.endpoint.session?_handleReport] at found
  | @tell _ _ signal rest q _ call _ oldest carried =>
    have tells : ∀ signal' ∈ signal :: rest, k.Tells p signal' := oldest ▸ h.tells
    refine ⟨fun e he => ?_, fun signal' later => ?_, h.roles⟩
    · rcases List.mem_append.1 he with old | new
      · exact h.asks e old
      · cases List.mem_singleton.1 new
        exact asks_address (asks_of_tells (tells signal (List.mem_cons_self ..)) carried)
    · exact tells signal' (List.mem_cons_of_mem _ later)
  | drop _ oldest =>
    refine { h with tells := fun signal later => h.tells signal ?_ }
    rw [oldest]
    exact List.mem_cons_of_mem _ later

end Steady

end Cast

namespace Meeting

variable {k : Cast} {w v : Meeting} {m : Move} {p : Part}

/-- What each of the two does and is told keeps their roles apart. -/
structure Apart (k : Cast) (w : Meeting) : Prop where
  posted : ∀ p, (w.view p).Posted (k.mine p)
  routed : ∀ p, (w.view p).Routed (k.mine p)
  confined : ∀ p, (w.view p).Confined (k.mine p) (k.May p)
  steady : ∀ p, k.Steady p (w.seats p)

namespace Apart

theorem start {db : Database} {store : Option SnapshotStore} {files : Files} :
    (Meeting.start db store files).Apart k where
  posted _ := Exchange.Posted.start
  routed _ := Exchange.Routed.start
  confined _ := Exchange.Confined.start
  steady _ := ⟨fun _ h => (nomatch h), fun _ h => (nomatch h), fun _ _ _ h => (nomatch h)⟩

/-- As long as the records and the logins fit, the relay pushes nothing that brings an end into the
role of the other one: the request would have to be the other end's, which makes no such calls. -/
theorem pushes (h : w.Apart k) (fits : k.Fits w.server.relay) (p : Part) :
    (w.view p).Pushes (k.mine p) (k.May p) := by
  intro e rest first push pushed c hc isMine action key about counts
  have notLogout : p.other.role.openedBy ≠ .logout := by cases p <;> decide
  obtain ⟨d, time, q, a, target, rfl, who, asked, under, called, access, forwarded, online⟩ :=
    Relay.origin_of_event pushed action notLogout about
  have speaks := fits.speaks c target ((h.routed p).identity_of_queue online hc)
  obtain ⟨peer, rfl⟩ := fits.origin ((speaks p).1 (of_decide_eq_true isMine)) counts under access
    forwarded
  have isOther : k.mine p.other d = true :=
    decide_eq_true ((fits.speaks d _ who p.other).2 peer)
  have first : w.mailbox = .request d time q :: rest := first
  have mail : .request d time q ∈ w.mailbox := by
    rw [first]
    exact List.mem_cons_self ..
  obtain ⟨call, began⟩ := (h.posted p.other).mem_calls_of_mailbox mail isOther
  refine (h.steady p.other).asks _ began (Request.action_of_action? asked) ?_
  rw [called, k.service_of_counts counts]

/-- A step of one end's exchange adds the calls of its application only. -/
theorem steady_put (h : w.Apart k) {m : Rendezvous.Move} {y : Exchange}
    (permitted : k.permits m = true) (s : (w.view p).Steps (k.mine p) m y) (q : Part) :
    k.Steady q ((w.put p y).seats q) := by
  by_cases same : q = p
  · subst same
    have was := h.steady q
    have seat : (w.put q y).seats q = _ := seats_sit_self w q _
    rw [seat]
    refine { was with asks := ?_ }
    rcases s.calls_eq with calls | ⟨now, tokens, asked, call, rfl, calls⟩
    · rw [calls]
      exact was.asks
    · rw [calls]
      intro e he
      rcases List.mem_append.1 he with old | new
      · exact was.asks e old
      · cases List.mem_singleton.1 new
        exact Cast.asks_address (Cast.asks_of_permits permitted)
  · have seat : (w.put p y).seats q = _ := seats_sit_of_ne same _
    rw [seat]
    exact h.steady q

theorem steady_step (h : w.Apart k) (s : w.Steps k m v) (q : Part) : k.Steady q (v.seats q) := by
  cases s with
  | exchange permitted s => exact h.steady_put permitted s q
  | @chore p c t s =>
    by_cases same : q = p
    · cases same
      rw [seats_sit_self]
      exact (h.steady q).step (h.confined q).arrived s
    · rw [seats_sit_of_ne same]
      exact h.steady q

theorem step (h : w.Apart k) (s : w.Steps k m v)
    (throughout : ∀ moment ∈ v.handled, k.Fits moment.before) : v.Apart k where
  posted p := (h.posted p).becomes (s.becomes h.posted p)
  routed p := (h.routed p).becomes (h.posted p) (s.becomes h.posted p)
  confined p := (h.confined p).becomes (h.posted p) (h.routed p)
    (fun _ now => h.pushes (throughout _ now) p) (s.becomes h.posted p)
  steady := h.steady_step s

theorem run {db : Database} {store : Option SnapshotStore} {files : Files} {ms : List Move}
    (run : (Meeting.start db store files).run? k ms = some w)
    (throughout : ∀ moment ∈ w.handled, k.Fits moment.before) : w.Apart k := by
  refine induction (P := fun w => (∀ moment ∈ w.handled, k.Fits moment.before) → w.Apart k)
    (fun _ => start) (fun w m v before s throughout => ?_) run throughout
  exact (before fun moment old => throughout moment (s.handled_prefix.subset old)).step s
    throughout

end Apart

/-- While one peer owns the service and either of the two is logged in as itself and by its own
client only, the owner's session with the other one is always controlled and the other one's with
the owner always controlling: whatever their applications, their agents and everybody else do in
between, the two ends of a session never have the same role. -/
theorem roles_differ {db : Database} {store : Option SnapshotStore} {files : Files}
    {ms : List Move} (run : (Meeting.start db store files).run? k ms = some w)
    (throughout : ∀ moment ∈ w.handled, k.Fits moment.before) :
    let session? (p : Part) := (w.seats p).endpoint.session? ⟨k.service, k.id p.other⟩
    (∀ s, session? .owner = some s → s.role = .controlled) ∧
      (∀ s, session? .member = some s → s.role = .controlling) ∧
      ∀ s s', session? .owner = some s → session? .member = some s' → s.role ≠ s'.role := by
  intro session?
  have roles (p : Part) (s : Session) (found : session? p = some s) : s.role = p.role :=
    ((Apart.run run throughout).steady p).roles _ s (k.counts_other p) found
  refine ⟨roles .owner, roles .member, fun s s' found found' same => ?_⟩
  rw [roles .owner s found, roles .member s' found'] at same
  cases same

/-- Carol meets Bob, whose service she has joined. -/
def sampleCast : Cast where
  service := "ssh-box"
  id
    | .owner => "bob1234567"
    | .member => "carol12345"
  differ := by decide
  whose
    | 1 => some .owner
    | 2 => some .member
    | _ => none

/-- Both log in. Carol asks for a session, and Bob's endpoint agrees. -/
def sampleMoves : List Move :=
  let login (p : Part) (c : ConnectionId) (token : String) : List Move :=
    ([.dial, .dialed c, .accept c 64, .react,
      .begin 0 [token] (sampleLogin (sampleCast.id p) false), .write, .takeFrame c 0 "", .react,
      .takeResponse c, .receive c] : List Rendezvous.Move).map (.exchange p)
  let connect : Request :=
    { Request.ofAction .connectService with
      serviceName := some "ssh-box", servicePwdDigest := some sampleDigest }
  login .owner 1 "t1" ++ login .member 2 "t2" ++
    [.exchange .member (.begin 0 ["t3"] connect), .exchange .member .write,
     .exchange .member (.takeFrame 2 0 ""), .exchange .member .react,
     .exchange .owner (.takeResponse 1), .exchange .owner (.receive 1),
     .chore .owner (.handleEvent true), .chore .owner (.tell 0 ["t4"]),
     .exchange .owner .write, .exchange .owner (.takeFrame 1 0 ""), .exchange .owner .react,
     .exchange .member (.takeResponse 2), .exchange .member (.takeResponse 2),
     .exchange .member (.receive 2), .exchange .member (.receive 2),
     .chore .member (.handleEvent true)]

theorem roles_differ_sampleMoves : ∃ w s s',
    (Meeting.start sampleDatabase none {}).run? sampleCast sampleMoves = some w ∧
      (∀ moment ∈ w.handled, sampleCast.Fits moment.before) ∧
      (w.seats .owner).endpoint.session? ⟨"ssh-box", "carol12345"⟩ = some s ∧
      (w.seats .member).endpoint.session? ⟨"ssh-box", "bob1234567"⟩ = some s' ∧
      s.role = .controlled ∧ s'.role = .controlling ∧ s.role ≠ s'.role := by
  have evaluated : ((Meeting.start sampleDatabase none {}).run? sampleCast sampleMoves).map
      (fun w => ((w.seats .owner).endpoint.session? ⟨"ssh-box", "carol12345"⟩,
        (w.seats .member).endpoint.session? ⟨"ssh-box", "bob1234567"⟩,
        decide (∀ moment ∈ w.handled, sampleCast.Fits moment.before))) =
      some (some ⟨0, .controlled⟩, some ⟨0, .controlling⟩, true) := by
    decide +kernel
  obtain ⟨w, run, found⟩ := Option.map_eq_some_iff.1 evaluated
  obtain ⟨atOwner, found⟩ := Prod.mk.inj found
  obtain ⟨atMember, fits⟩ := Prod.mk.inj found
  have throughout := of_decide_eq_true fits
  obtain ⟨controlled, controlling, differ⟩ := roles_differ run throughout
  exact ⟨w, _, _, run, throughout, atOwner, atMember, controlled _ atOwner,
    controlling _ atMember, differ _ _ atOwner atMember⟩

end Meeting

end Rendezvous
