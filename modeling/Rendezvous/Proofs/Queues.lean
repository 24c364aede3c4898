import Rendezvous.Proofs.Persistence
import Rendezvous.Proofs.Replies
import Rendezvous.Proofs.Requests

/-!
# Replies stay on their connections

Each connection has a queue of its own, and the relay finds the queue of the connection that a
request came on. So what waits in a queue, or is on its way to the client, is an event or the reply
to a request that was handled on the same connection:

    x.Posted mine → x.Routed mine → x.Steps mine m y → y.Routed mine     (Routed.step)
-/

namespace Rendezvous

open Relay (IsTold)

theorem mem_of_stillOpen {es : List Event} {c : ConnectionId} {k : QueueId}
    (h : StillOpen es c k) : .opened c k ∈ es := by
  obtain ⟨before, later, rfl, -⟩ := h
  exact List.mem_append_right _ (List.mem_cons_self ..)

/-! ## Queues -/

namespace Server

variable {s : Server} {queue? : ConnectionId → Option QueueId}
  {May : ConnectionId → Response → Prop}

/-- What waits in the queues of connections. -/
def Holds (s : Server) (queue? : ConnectionId → Option QueueId)
    (May : ConnectionId → Response → Prop) : Prop :=
  ∀ c k o, queue? c = some k → s.outbox? k = some o → ∀ r ∈ o.waiting, May c r

theorem Holds.mono {May' : ConnectionId → Response → Prop} (h : s.Holds queue? May)
    (more : ∀ c r, May c r → May' c r) : s.Holds queue? May' :=
  fun c k o hk ho r hr => more c r (h c k o hk ho r hr)

theorem Holds.modify (h : s.Holds queue? May) (q : QueueId) {f : Outbox → Outbox}
    (may : ∀ c o, queue? c = some q → (∀ r ∈ o.waiting, May c r) →
      ∀ r ∈ (f o).waiting, May c r) :
    ({ s with outboxes := s.outboxes.modify q f } : Server).Holds queue? May := by
  intro c k o hk ho
  unfold outbox? at ho
  rw [Table.get?_modify] at ho
  split at ho
  · next same =>
    obtain ⟨o, before, rfl⟩ := Option.map_eq_some_iff.1 ho
    exact may c o (same ▸ hk) (h c k o hk before)
  · exact h c k o hk ho

theorem Holds.deliver (h : s.Holds queue? May) {p : Push}
    (may : ∀ c, queue? c = some p.link.queue → May c p.response) :
    (s.deliver p).Holds queue? May := by
  refine h.modify p.link.queue fun c o hc before r hr => ?_
  rw [Outbox.waiting_push] at hr
  rcases List.mem_append.1 hr with hr | hr
  · exact before r hr
  · split at hr
    · cases List.mem_singleton.1 hr
      exact may c hc
    · cases hr

theorem Holds.delivers {pushes : List Push} (h : s.Holds queue? May)
    (may : ∀ p ∈ pushes, ∀ c, queue? c = some p.link.queue → May c p.response) :
    (pushes.foldl Server.deliver s).Holds queue? May := by
  induction pushes generalizing s with
  | nil => exact h
  | cons p pushes ih =>
    exact ih (h.deliver (may p (List.mem_cons_self ..)))
      fun q hq => may q (List.mem_cons_of_mem _ hq)

/-- No delivery adds a queue. -/
theorem numbered_delivers (h : s.outboxes.Numbered) (pushes : List Push) :
    (pushes.foldl Server.deliver s).outboxes.Numbered ∧
      (pushes.foldl Server.deliver s).outboxes.size = s.outboxes.size := by
  induction pushes generalizing s with
  | nil => exact ⟨h, rfl⟩
  | cons p pushes ih =>
    obtain ⟨numbered, size⟩ := ih (s := s.deliver p) (h.modify _ _)
    exact ⟨numbered, size.trans (Table.size_modify ..)⟩

theorem outboxes_flush (s : Server) : s.flush.outboxes = s.outboxes := by
  unfold flush
  split
  · split
    · rfl
    · split
      · rfl
      · rfl
  · rfl

/-- What the relay pushes comes to what waits already; writing the records touches no queue. -/
theorem Holds.react (h : s.Holds queue? May) {e : Event}
    (may : ∀ p ∈ (s.relay.handle e).2, ∀ c, queue? c = some p.link.queue → May c p.response) :
    (s.react e).Holds queue? May := by
  have delivered : (s.handle e).Holds queue? May :=
    Holds.delivers (s := { s with relay := (s.relay.handle e).1 }) h may
  intro c k o hk ho
  unfold Server.react outbox? at ho
  rw [outboxes_flush] at ho
  exact delivered c k o hk ho

theorem coherent_flush {isOpen : ConnectionId → QueueId → Prop} (h : s.relay.Coherent isOpen) :
    s.flush.relay.Coherent isOpen := by
  have clean : ({ s.relay with dirty := false } : Relay).Coherent isOpen :=
    h.records fun _ known => known
  unfold flush
  split
  · split
    · exact clean
    · split
      · exact clean
      · exact h
  · exact h

/-- Writing the records changes nobody's identity. -/
theorem identities_react (s : Server) (e : Event) :
    (s.react e).relay.identities = (s.relay.handle e).1.identities := by
  have flushed : ∀ s : Server, s.flush.relay.identities = s.relay.identities := by
    intro s
    unfold flush
    split
    · split
      · rfl
      · split <;> rfl
    · rfl
  unfold react
  rw [flushed, (s.handle_eq e).1]

/-- A response that is taken was the oldest in the queue. -/
theorem of_takeOldest {q : QueueId} {r : Response} {s' : Server}
    (taken : s.takeOldest q = some (r, s')) :
    (∃ o rest, s.outbox? q = some o ∧ o.waiting = r :: rest) ∧
      s' = { s with
        outboxes := s.outboxes.modify q fun o => { o with waiting := o.waiting.tail } } := by
  obtain ⟨r, found, e⟩ := Option.map_eq_some_iff.1 taken
  cases e
  obtain ⟨o, ho, head⟩ := Option.bind_eq_some_iff.1 found
  obtain ⟨rest, waiting⟩ := List.head?_eq_some_iff.1 head
  exact ⟨⟨o, rest, ho, waiting⟩, rfl⟩

end Server

/-! ## Routes -/

/-- A frame that holds a response as the server writes it. -/
def IsResponseFrame (r : Response) (frame : Bytes) : Prop :=
  ∃ body, r.encode = .ok body ∧ Frame.write body = .ok frame

/-- The client finds the response in the frame. -/
theorem IsResponseFrame.receive {r : Response} {frame body rest : Bytes}
    (h : IsResponseFrame r frame) (read : Frame.read frame = (.ok body, rest)) (c : Client) :
    c.receive body = c.dispatch r := by
  obtain ⟨body', encoded, framed⟩ := h
  have fits := Response.isCodec.fits_of_encode ⟨body', encoded⟩
  rw [← (Response.isCodec.encode_eq_ok_iff.1 encoded).2] at fits
  have front := Frame.front_of_write fits framed
  unfold Frame.read at read
  rw [front] at read
  cases read
  exact c.receive_of_encode encoded

/-- What a connection writes of a response is the response. -/
theorem Connection.isResponseFrame_of_write {c : Connection} {r : Response} {frame : Bytes}
    (writes : (c.writeResponse r).2 = .write frame) : IsResponseFrame r frame := by
  unfold writeResponse at writes
  split at writes
  · next framed =>
    cases writes
    obtain ⟨body, encoded, framed⟩ := bind_eq_ok_iff.1 framed
    exact ⟨body, encoded, framed⟩
  · cases writes

namespace Exchange

variable {mine : ConnectionId → Bool} {x y : Exchange} {m : Move}

/-- What the relay has reacted to. -/
def events (x : Exchange) : List Event := x.handled.map (·.event)

/-- The queue of a connection. -/
def queue? (x : Exchange) (c : ConnectionId) : Option QueueId :=
  (x.connections.get? c).map (·.queue)

/-- A connection may change while it keeps its queue. -/
theorem queue?_insert {c : Connection} (known : x.queue? c.id = some c.queue) :
    ({ x with connections := x.connections.insert c.id c } : Exchange).queue? = x.queue? := by
  funext d
  unfold queue?
  rw [Table.get?_insert]
  split
  · next e =>
    rw [e]
    exact known.symm
  · rfl

theorem Posted.queue?_of_connection? (h : x.Posted mine) {d : ConnectionId} {conn : Connection}
    (isOpen : x.connection? d = some conn) : x.queue? conn.id = some conn.queue := by
  have found := (Option.filter_eq_some_iff.1 isOpen).1
  unfold queue?
  rw [h.named d conn found, found]
  rfl

/-- The client sends requests, and these are handed on: nothing is written on its connections when
a frame is taken off its way. -/
theorem Posted.takeFrame_ne_write (h : x.Posted mine) {c : ConnectionId} {conn : Connection}
    {frame reply : Bytes} {left : Channel} {wording : String} (isOpen : x.connection? c = some conn)
    (taken : x.up.take? c = some (frame, left)) (isMine : mine conn.id = true) :
    ((conn.receive frame).takeFrame wording).2 ≠ .write reply := by
  have known := (Option.filter_eq_some_iff.1 isOpen).1
  have isMine : mine c = true := h.named c conn known ▸ isMine
  obtain ⟨q, hq⟩ := h.frames _ (Channel.mem_of_take? taken) isMine
  rw [hq.takeFrame (h.idle c conn isMine known)]
  exact fun writes => nomatch writes

/-- The queues after a connection with a new one is accepted. -/
theorem queue?_accept (x : Exchange) (c d : ConnectionId) :
    ({ x with
      connections := x.connections.insert c { id := c, queue := x.server.outboxes.size } } :
        Exchange).queue? d = if d = c then some x.server.outboxes.size else x.queue? d := by
  unfold queue?
  rw [Table.get?_insert]
  split
  · rfl
  · rfl

/-- Nothing waits in the queue of a new connection. -/
theorem holds_accept {May : ConnectionId → Response → Prop} {c : ConnectionId} {capacity : Nat}
    (known : ∀ d k, x.queue? d = some k → k < x.server.outboxes.size)
    (h : x.server.Holds x.queue? May) :
    (x.server.addQueue capacity).1.Holds ({ x with
      connections := x.connections.insert c { id := c, queue := x.server.outboxes.size } } :
        Exchange).queue? May := by
  intro d k o hd ho
  rw [queue?_accept] at hd
  unfold Server.outbox? Server.addQueue at ho
  dsimp only at ho
  rw [Table.get?_insert] at ho
  split at hd
  · cases hd
    rw [if_pos rfl] at ho
    cases ho
    intro r hr
    cases hr
  · rw [if_neg (Nat.ne_of_lt (known d k hd))] at ho
    exact h d k o hd ho

/-- The reply to a request that was handled on a connection. -/
def IsReply (x : Exchange) (c : ConnectionId) (r : Response) : Prop :=
  ∃ before time q, ⟨before, .request c time q⟩ ∈ x.handled ∧
    r = Relay.reply q (before.dispatch c time q).result

/-- What a connection may carry. -/
def Carries (x : Exchange) (c : ConnectionId) (r : Response) : Prop := IsTold r ∨ x.IsReply c r

/-- What is queued and sent to the client is on the connection where it belongs. -/
structure Routed (mine : ConnectionId → Bool) (x : Exchange) : Prop where
  fresh : Fresh (x.events ++ x.mailbox)
  coherent : x.server.relay.Coherent (StillOpen x.events)
  numbered : x.server.outboxes.Numbered
  opened : ∀ c k, .opened c k ∈ x.events ++ x.mailbox → x.queue? c = some k
  known : ∀ c k, x.queue? c = some k → k < x.server.outboxes.size
  distinct : ∀ c c' k, x.queue? c = some k → x.queue? c' = some k → c = c'
  queued : x.server.Holds x.queue? x.Carries
  sent : ∀ e ∈ x.down, mine e.1 = true → ∃ r, IsResponseFrame r e.2 ∧ x.Carries e.1 r

namespace Routed

theorem start {db : Database} {store : Option SnapshotStore} {files : Files} :
    (Exchange.start db store files).Routed mine where
  fresh := fresh_nil
  coherent := fresh_nil.coherent db
  numbered := .empty
  opened _ _ h := by cases h
  known _ _ h := by cases h
  distinct _ _ _ h := by cases h
  queued _ _ _ h := by cases h
  sent _ h := by cases h

/-- Mail that opens no connection. -/
theorem mail (h : x.Routed mine) {e : Event} (quiet : e.opening? = none) :
    ({ x with mailbox := x.mailbox ++ [e] } : Exchange).Routed mine :=
  { h with
    fresh := by
      have fresh := h.fresh
      unfold Fresh at fresh ⊢
      show (List.filterMap _ (x.events ++ (x.mailbox ++ [e]))).Nodup
      rw [← List.append_assoc, List.filterMap_append]
      simpa [quiet] using fresh
    opened := by
      intro c k hc
      refine h.opened c k ?_
      have hc : Event.opened c k ∈ x.events ++ (x.mailbox ++ [e]) := hc
      rw [← List.append_assoc] at hc
      rcases List.mem_append.1 hc with hc | hc
      · exact hc
      · rw [← List.mem_singleton.1 hc] at quiet
        cases quiet }

/-- A queue may lose what waits in it. -/
theorem queues (h : x.Routed mine) (q : QueueId) {f : Outbox → Outbox}
    (less : ∀ o, ∀ r ∈ (f o).waiting, r ∈ o.waiting) :
    ({ x with server := { x.server with
        outboxes := x.server.outboxes.modify q f } } : Exchange).Routed mine :=
  { h with
    numbered := h.numbered.modify _ _
    known := by
      intro c k hk
      show k < (x.server.outboxes.modify q f).size
      rw [Table.size_modify]
      exact h.known c k hk
    queued := h.queued.modify q fun c o _ before r hr => before r (less o r hr) }

/-- A connection acts: it keeps its queue, and what it writes to the client is the client's. -/
theorem act (h : x.Routed mine) (time : UInt64) {did : Connection × Effect}
    (known : x.queue? did.1.id = some did.1.queue)
    (writes : ∀ frame, did.2 = .write frame → mine did.1.id = true →
      ∃ r, IsResponseFrame r frame ∧ x.Carries did.1.id r) : (x.act time did).Routed mine := by
  obtain ⟨c, effect⟩ := did
  have same := queue?_insert known
  have put : ({ x with connections := x.connections.insert c.id c } : Exchange).Routed mine :=
    { h with
      opened := by
        rw [same]
        exact h.opened
      known := by
        rw [same]
        exact h.known
      distinct := by
        rw [same]
        exact h.distinct
      queued := by
        rw [same]
        exact h.queued }
  cases effect with
  | wait => exact put
  | submit q => exact put.mail (e := .request c.id time q) rfl
  | finish =>
    exact (put.queues c.queue (f := Outbox.abandon) fun _ _ hr => by cases hr).mail
      (e := .closed c.id) rfl
  | write frame =>
    exact { put with
      sent := by
        intro e he isMine
        rcases List.mem_append.1 he with he | he
        · exact put.sent e he isMine
        · cases List.mem_singleton.1 he
          exact writes frame rfl isMine }

/-- What the relay pushes is an event, or the reply on the connection of its request. -/
theorem carries_of_pushed (h : x.Routed mine) {e : Event} {handled : List Moment}
    (now : ⟨x.server.relay, e⟩ ∈ handled) {p : Push} (pushed : p ∈ (x.server.relay.handle e).2)
    {c : ConnectionId} (hc : x.queue? c = some p.link.queue) :
    ({ x with handled := handled } : Exchange).Carries c p.response := by
  cases e with
  | request d time q =>
    have l := Relay.leads_dispatch x.server.relay d time q
    rcases List.mem_append.1 pushed with hp | hp
    · exact .inl (l.told.2 p hp)
    · right
      rw [Option.mem_toList] at hp
      obtain ⟨link, hl, rfl⟩ := Option.map_eq_some_iff.1 hp
      obtain ⟨-, isOpen⟩ := (h.coherent.leads l).link?_eq_some_iff.1 hl
      have hd := h.opened d link.queue (List.mem_append_left _ (mem_of_stillOpen isOpen))
      cases h.distinct c d link.queue hc hd
      exact ⟨_, time, q, now, rfl⟩
  | opened => cases pushed
  | closed => cases pushed
  | shutdown => cases pushed

theorem react (h : x.Routed mine) {e : Event} {rest : List Event}
    (first : x.mailbox = e :: rest) :
    ({ x with
      mailbox := rest
      server := x.server.react e
      handled := x.handled ++ [⟨x.server.relay, e⟩] } : Exchange).Routed mine := by
  have all : (x.handled ++ [Moment.mk x.server.relay e]).map (·.event) ++ rest =
      x.events ++ x.mailbox := by
    rw [first, List.map_append, List.append_assoc]
    rfl
  have more : ∀ c r, x.Carries c r →
      ({ x with handled := x.handled ++ [⟨x.server.relay, e⟩] } : Exchange).Carries c r := by
    rintro c r (told | ⟨before, time, q, hm, hr⟩)
    · exact .inl told
    · exact .inr ⟨before, time, q, List.mem_append_left _ hm, hr⟩
  have now : (⟨x.server.relay, e⟩ : Moment) ∈ x.handled ++ [⟨x.server.relay, e⟩] :=
    List.mem_append_right _ (List.mem_singleton.2 rfl)
  obtain ⟨numbered, size⟩ := Server.numbered_delivers
    (s := { x.server with relay := (x.server.relay.handle e).1 }) h.numbered
    (x.server.relay.handle e).2
  have outboxes : (x.server.react e).outboxes = (x.server.handle e).outboxes :=
    Server.outboxes_flush _
  constructor
  case fresh =>
    show Fresh ((x.handled ++ [Moment.mk x.server.relay e]).map (·.event) ++ rest)
    rw [all]
    exact h.fresh
  case coherent =>
    have fresh := h.fresh
    rw [← all] at fresh
    show (x.server.react e).relay.Coherent (StillOpen ((x.handled ++
      [Moment.mk x.server.relay e]).map (·.event)))
    rw [List.map_append]
    apply Server.coherent_flush
    rw [(x.server.handle_eq e).1]
    refine h.coherent.handle ?_
    have opened := fresh.of_append
    rwa [List.map_append] at opened
  case numbered =>
    show (x.server.react e).outboxes.Numbered
    rw [outboxes]
    exact numbered
  case opened =>
    intro c k hc
    have hc : Event.opened c k ∈
      (x.handled ++ [Moment.mk x.server.relay e]).map (·.event) ++ rest := hc
    rw [all] at hc
    exact h.opened c k hc
  case known =>
    intro c k hk
    show k < (x.server.react e).outboxes.size
    rw [outboxes]
    exact Nat.lt_of_lt_of_eq (h.known c k hk) size.symm
  case distinct => exact h.distinct
  case queued =>
    exact (h.queued.mono more).react fun p hp c hc => h.carries_of_pushed now hp hc
  case sent =>
    intro e he isMine
    obtain ⟨r, framed, carries⟩ := h.sent e he isMine
    exact ⟨r, framed, more _ _ carries⟩

theorem accept (h : x.Routed mine) {c : ConnectionId} {capacity : Nat}
    (new : x.connections.contains c = false) :
    ({ x with
      server := (x.server.addQueue capacity).1
      connections := x.connections.insert c { id := c, queue := x.server.outboxes.size }
      mailbox := x.mailbox ++ [.opened c x.server.outboxes.size] } : Exchange).Routed mine := by
  have unknown : x.queue? c = none := by
    unfold Table.contains at new
    unfold queue?
    rw [Option.isSome_eq_false_iff, Option.isNone_iff_eq_none] at new
    rw [new]
    rfl
  have notOpened : ∀ k, Event.opened c k ∉ x.events ++ x.mailbox := by
    intro k hk
    have := h.opened c k hk
    rw [unknown] at this
    cases this
  have queue := x.queue?_accept c
  have size : (x.server.addQueue capacity).1.outboxes.size = x.server.outboxes.size + 1 :=
    h.numbered.size_insert _
  constructor
  case fresh =>
    have fresh := h.fresh
    unfold Fresh at fresh ⊢
    show (List.filterMap _ (x.events ++ (x.mailbox ++ [Event.opened c _]))).Nodup
    rw [← List.append_assoc, List.filterMap_append]
    refine List.nodup_append.2 ⟨fresh, List.nodup_singleton _, ?_⟩
    intro d hd d' hd' same
    cases List.mem_singleton.1 hd'
    obtain ⟨e, he, opening⟩ := List.mem_filterMap.1 hd
    cases e with
    | opened d k =>
      cases opening
      rw [same] at he
      exact notOpened k he
    | closed => cases opening
    | request => cases opening
    | shutdown => cases opening
  case coherent => exact h.coherent
  case numbered => exact h.numbered.insert_size _
  case opened =>
    intro d k hd
    have hd : Event.opened d k ∈ x.events ++ (x.mailbox ++ [Event.opened c _]) := hd
    rw [← List.append_assoc] at hd
    refine (queue d).trans ?_
    rcases List.mem_append.1 hd with hd | hd
    · have other : d ≠ c := fun e => notOpened k (e ▸ hd)
      rw [if_neg other]
      exact h.opened d k hd
    · cases List.mem_singleton.1 hd
      exact if_pos rfl
  case known =>
    intro d k hd
    have hd := (queue d).symm.trans hd
    show k < (x.server.addQueue capacity).1.outboxes.size
    rw [size]
    split at hd
    · cases hd
      exact Nat.lt_succ_self _
    · exact Nat.lt_succ_of_lt (h.known d k hd)
  case distinct =>
    intro d d' k hd hd'
    have hd := (queue d).symm.trans hd
    have hd' := (queue d').symm.trans hd'
    split at hd <;> split at hd'
    · next e e' => rw [e, e']
    · cases hd
      exact absurd (h.known d' _ hd') (Nat.lt_irrefl _)
    · cases hd'
      exact absurd (h.known d _ hd) (Nat.lt_irrefl _)
    · exact h.distinct d d' k hd hd'
  case queued => exact holds_accept h.known h.queued
  case sent => exact h.sent

/-- A connection takes a frame off its way. -/
theorem takeFrame (h : x.Routed mine) (posted : x.Posted mine) {c : ConnectionId} {time : UInt64}
    {wording : String} {conn : Connection} {frame : Bytes} {left : Channel}
    (isOpen : x.connection? c = some conn) (taken : x.up.take? c = some (frame, left)) :
    (({ x with up := left } : Exchange).act time
      ((conn.receive frame).takeFrame wording)).Routed mine := by
  obtain ⟨id, queue⟩ := (conn.receive frame).takeFrame_fst wording
  have kept : ({ x with up := left } : Exchange).Routed mine := { h with }
  have known : x.queue? conn.id = some conn.queue := posted.queue?_of_connection? isOpen
  refine kept.act time ?_ fun reply writes isMine => ?_
  · rw [id, queue]
    exact known
  · rw [id] at isMine
    exact absurd writes (posted.takeFrame_ne_write isOpen taken isMine)

/-- A connection takes a response out of its own queue and writes it. -/
theorem takeResponse (h : x.Routed mine) (posted : x.Posted mine) {c : ConnectionId}
    {conn : Connection} {r : Response} {server : Server} (isOpen : x.connection? c = some conn)
    (taken : x.server.takeOldest conn.queue = some (r, server)) :
    (({ x with server := server } : Exchange).act 0 (conn.writeResponse r)).Routed mine := by
  have known := posted.queue?_of_connection? isOpen
  obtain ⟨⟨o, rest, ho, waiting⟩, rfl⟩ := Server.of_takeOldest taken
  have kept := h.queues conn.queue (f := fun o => { o with waiting := o.waiting.tail })
    fun _ _ hr => List.mem_of_mem_tail hr
  obtain ⟨id, queue, -, -⟩ := conn.writeResponse_fst r
  refine kept.act 0 ?_ fun frame writes _ => ⟨r, Connection.isResponseFrame_of_write writes, ?_⟩
  · rw [id, queue]
    exact known
  · rw [id]
    refine h.queued conn.id conn.queue o known ho r ?_
    rw [waiting]
    exact List.mem_cons_self ..

/-- Each step keeps what is queued and sent where it belongs. -/
theorem step (h : x.Routed mine) (posted : x.Posted mine) (s : x.Steps mine m y) :
    y.Routed mine := by
  cases s with
  | begin => exact { h with }
  | unblock => exact { h with }
  | finish => exact { h with }
  | timeOut => exact { h with }
  | noteLogin => exact { h with }
  | noteLogout => exact { h with }
  | dial => exact { h with }
  | dialFailed => exact { h with }
  | dialed => exact { h with }
  | write => exact { h with }
  | drop => exact { h with }
  | stay => exact h
  | lose => exact { h with }
  | others => exact { h with }
  | accept new => exact h.accept new
  | react first => exact h.react first
  | @receive c frame _ _ left isMine taken =>
    exact { h with sent := fun e he => h.sent e (Channel.subset_of_take? taken he) }
  | takeFrame isOpen taken => exact h.takeFrame posted isOpen taken
  | takeResponse isOpen taken => exact h.takeResponse posted isOpen taken
  | @close c conn isOpen =>
    have known : x.queue? conn.id = some conn.queue := posted.queue?_of_connection? isOpen
    exact h.act 0 known nofun

end Routed

end Exchange

end Rendezvous
