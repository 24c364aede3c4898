import Rendezvous.Proofs.Calls
import Rendezvous.Proofs.Identities

/-!
# What is on its way on a connection

Between a client and the relay, one connection carries requests in one direction and responses in
the other. Requests that are not handled yet lie at the client, in frames or in the mailbox
(`Unhandled`); a step hands them on and adds none, but for a call that begins. Responses lie in the
queue of the connection and in frames. Taken together and in order (`transit`), they change by what
the client takes in and what the relay pushes, as long as the connection stays and its queue has
room (`keeps`).
-/

namespace Rendezvous

open Relay (IsTold)

/-! ## Responses -/

/-- The response in a frame on a connection. -/
def responseOn? (c : ConnectionId) (e : ConnectionId × Bytes) : Option Response :=
  if e.1 = c then
    match (Frame.read e.2).1 with
    | .ok body => (Response.decode body).toOption
    | .error _ => none
  else none

theorem responseOn?_of_ne {c : ConnectionId} {e : ConnectionId × Bytes} (other : e.1 ≠ c) :
    responseOn? c e = none := if_neg other

theorem IsResponseFrame.responseOn? {r : Response} {frame : Bytes} (h : IsResponseFrame r frame)
    (c : ConnectionId) : responseOn? c (c, frame) = some r := by
  obtain ⟨body, encoded, framed⟩ := h
  have fits := Response.isCodec.fits_of_encode ⟨body, encoded⟩
  obtain ⟨-, rfl⟩ := Response.isCodec.encode_eq_ok_iff.1 encoded
  have front := Frame.front_of_write fits framed
  unfold Rendezvous.responseOn? Frame.read
  simp only [front, if_pos, Response.decode_compact]
  rfl

namespace Exchange

variable {mine : ConnectionId → Bool} {x y : Exchange} {m : Move} {c : ConnectionId}

/-- The responses that wait in the queue of a connection. -/
def queued (x : Exchange) (c : ConnectionId) : List Response :=
  (((x.queue? c).bind x.server.outbox?).map (·.waiting)).getD []

/-- The responses to a client that it has not taken in, oldest first. -/
def transit (x : Exchange) (c : ConnectionId) : List Response :=
  x.down.filterMap (responseOn? c) ++ x.queued c

/-- The server's end of the connection stays, and no response is dropped for want of room. -/
def keeps (c : ConnectionId) (x y : Exchange) (m : Move) : Bool :=
  !y.mailbox.contains (.closed c) &&
    match m, x.mailbox with
    | .react, e :: _ => y.queued c = x.queued c ++ x.server.relay.pushedTo e c
    | _, _ => true

theorem not_mem_of_keeps (kept : keeps c x y m = true) : .closed c ∉ y.mailbox := by
  simpa using (Bool.and_eq_true_iff.1 kept).1

theorem Routed.carries_of_mem_transit (h : x.Routed mine) (isMine : mine c = true) {r : Response}
    (hr : r ∈ x.transit c) : x.Carries c r := by
  rcases List.mem_append.1 hr with hr | hr
  · obtain ⟨⟨d, frame⟩, he, found⟩ := List.mem_filterMap.1 hr
    by_cases same : d = c
    · subst same
      obtain ⟨r', framed, carries⟩ := h.sent _ he isMine
      rw [framed.responseOn?] at found
      cases found
      exact carries
    · rw [responseOn?_of_ne same] at found
      cases found
  · unfold Exchange.queued at hr
    cases hk : x.queue? c with
    | none =>
      rw [hk] at hr
      cases hr
    | some k =>
      rw [hk] at hr
      cases ho : x.server.outbox? k with
      | none => simp [ho] at hr
      | some o =>
        simp only [Option.bind_some, ho, Option.map_some, Option.getD_some] at hr
        exact h.queued c k o hk ho r hr

/-! ### Steps that are not about the connection -/

/-- The queue of another connection may change. -/
theorem queued_modify (q : QueueId) (f : Outbox → Outbox) (other : x.queue? c ≠ some q) :
    ({ x with server := { x.server with
        outboxes := x.server.outboxes.modify q f } } : Exchange).queued c = x.queued c := by
  unfold queued
  show (((x.queue? c).bind _).map _).getD _ = _
  cases hk : x.queue? c with
  | none => rfl
  | some k =>
    rw [hk] at other
    unfold Server.outbox?
    simp only [Option.bind_some, Table.get?_modify]
    rw [if_neg fun same => other (congrArg some same)]

theorem queued_insert {conn : Connection} (known : x.queue? conn.id = some conn.queue) :
    ({ x with connections := x.connections.insert conn.id conn } : Exchange).queued c =
      x.queued c := by
  unfold queued
  rw [queue?_insert known]

/-- What another connection does is of no matter. -/
theorem Routed.transit_act (h : x.Routed mine) (time : UInt64) (did : Connection × Effect)
    (known : x.queue? did.1.id = some did.1.queue) (other : did.1.id ≠ c) :
    (x.act time did).transit c = x.transit c := by
  obtain ⟨conn, effect⟩ := did
  have put := queued_insert (c := c) known
  cases effect with
  | wait =>
    unfold transit
    exact congrArg _ put
  | submit =>
    unfold transit
    exact congrArg _ put
  | write frame =>
    unfold transit
    have none : responseOn? c (conn.id, frame) = none := responseOn?_of_ne other
    show (x.down ++ [(conn.id, frame)]).filterMap _ ++ _ = _
    rw [List.filterMap_append, List.filterMap_cons, none]
    simp only [List.filterMap_nil, List.append_nil]
    exact congrArg _ put
  | finish =>
    have elsewhere : x.queue? c ≠ some conn.queue := fun same =>
      other (h.distinct _ _ _ known same)
    unfold transit
    refine congrArg _ (Eq.trans ?_ put)
    refine queued_modify (x := { x with connections := x.connections.insert conn.id conn })
      conn.queue Outbox.abandon ?_
    rw [queue?_insert known]
    exact elsewhere

theorem Routed.transit_accept (h : x.Routed mine) {d : ConnectionId} {capacity : Nat}
    (new : x.connections.contains d = false) :
    ({ x with
      server := (x.server.addQueue capacity).1
      connections := x.connections.insert d { id := d, queue := x.server.outboxes.size }
      mailbox := x.mailbox ++ [.opened d x.server.outboxes.size] } : Exchange).transit c =
      x.transit c := by
  unfold transit
  refine congrArg _ ?_
  unfold Exchange.queued queue? Server.addQueue Server.outbox?
  dsimp only
  rw [Table.get?_insert]
  split
  · next same =>
    have unknown : x.connections.get? c = none := by
      rw [same]
      simpa [Table.contains] using new
    simp [unknown, Table.get?_insert]
  · cases hk : x.connections.get? c with
    | none => rfl
    | some conn =>
      have known : conn.queue < x.server.outboxes.size := by
        refine h.known c conn.queue ?_
        unfold queue?
        rw [hk]
        rfl
      simp [Table.get?_insert, Nat.ne_of_lt known]

/-! ### Steps of the connection -/

theorem queued_takeOldest {k : QueueId} {r : Response} {server : Server}
    (here : x.queue? c = some k) (taken : x.server.takeOldest k = some (r, server)) :
    x.queued c = r :: ({ x with server := server } : Exchange).queued c := by
  obtain ⟨⟨o, rest, ho, waiting⟩, rfl⟩ := Server.of_takeOldest taken
  have after : (x.server.outboxes.modify k fun o => { o with waiting := o.waiting.tail }).get? k =
      some { o with waiting := rest } := by
    have ho : x.server.outboxes.get? k = some o := ho
    rw [Table.get?_modify, if_pos rfl, ho]
    simp [waiting]
  unfold queued
  show _ = r :: (((x.queue? c).bind _).map _).getD []
  rw [here, Option.bind_some, Option.bind_some, ho]
  unfold Server.outbox?
  rw [after]
  exact waiting

/-- Another connection takes a response off its queue. -/
theorem Routed.transit_taken_of_ne (h : x.Routed mine) (posted : x.Posted mine)
    {d : ConnectionId} {conn : Connection} {r : Response} {server : Server}
    (isOpen : x.connection? d = some conn)
    (taken : x.server.takeOldest conn.queue = some (r, server)) (other : conn.id ≠ c) :
    ({ x with server := server }.act 0 (conn.writeResponse r)).transit c = x.transit c := by
  have known := posted.queue?_of_connection? isOpen
  obtain ⟨-, rfl⟩ := Server.of_takeOldest taken
  have kept := h.queues conn.queue (f := fun o => { o with waiting := o.waiting.tail })
    fun _ _ hr => List.mem_of_mem_tail hr
  obtain ⟨id, queue, -, -⟩ := conn.writeResponse_fst r
  have elsewhere : x.queue? c ≠ some conn.queue := fun here =>
    other (h.distinct _ _ _ known here)
  refine (kept.transit_act 0 _ ?_ ?_).trans ?_
  · rw [id, queue]
    exact known
  · rw [id]
    exact other
  · unfold transit
    exact congrArg _ (queued_modify _ _ elsewhere)

/-- The connection takes a response off its queue and writes it. -/
theorem transit_write {conn : Connection} {r : Response} {server : Server} {frame : Bytes}
    (known : x.queue? conn.id = some conn.queue)
    (taken : x.server.takeOldest conn.queue = some (r, server))
    (written : IsResponseFrame r frame) (same : conn.id = c) :
    ({ x with server := server }.act 0 (conn, .write frame)).transit c = x.transit c := by
  have before := queued_takeOldest (same ▸ known) taken
  have after := queued_insert (x := { x with server := server }) (c := c) known
  unfold transit
  rw [before]
  show (x.down ++ [(conn.id, frame)]).filterMap _ ++ _ = _
  refine (congrArg _ after).trans ?_
  rw [List.filterMap_append, same, List.filterMap_cons, written.responseOn? c]
  simp

/-- The connection takes a response off its queue and writes it, unless it ends. -/
theorem Routed.transit_takeResponse (h : x.Routed mine) (posted : x.Posted mine)
    {d : ConnectionId} {conn : Connection} {r : Response} {server : Server}
    (isOpen : x.connection? d = some conn)
    (taken : x.server.takeOldest conn.queue = some (r, server))
    (stays : .closed c ∉ ({ x with server := server }.act 0 (conn.writeResponse r)).mailbox) :
    ({ x with server := server }.act 0 (conn.writeResponse r)).transit c = x.transit c := by
  by_cases same : conn.id = c
  · unfold Connection.writeResponse at stays ⊢
    split at stays
    · next framed =>
      obtain ⟨body, encoded, framed⟩ := bind_eq_ok_iff.1 framed
      exact transit_write (posted.queue?_of_connection? isOpen) taken ⟨body, encoded, framed⟩ same
    · refine absurd ?_ stays
      show _ ∈ x.mailbox ++ [Event.closed conn.id]
      rw [same]
      exact List.mem_append_right _ (List.mem_singleton.2 rfl)
  · exact h.transit_taken_of_ne posted isOpen taken same

/-- The connection takes a frame. Those of the client hold requests, which it hands on. -/
theorem Routed.transit_takeFrame (h : x.Routed mine) (posted : x.Posted mine)
    (isMine : mine c = true) {d : ConnectionId} {time : UInt64} {wording : String}
    {conn : Connection} {frame : Bytes} {left : Channel} (isOpen : x.connection? d = some conn)
    (taken : x.up.take? d = some (frame, left)) :
    ({ x with up := left }.act time ((conn.receive frame).takeFrame wording)).transit c =
      x.transit c := by
  have known := posted.queue?_of_connection? isOpen
  have found := (Option.filter_eq_some_iff.1 isOpen).1
  have named := posted.named d conn found
  by_cases same : d = c
  · subst same
    obtain ⟨q, hq⟩ := posted.frames _ (Channel.mem_of_take? taken) isMine
    rw [hq.takeFrame (posted.idle d conn isMine found)]
    unfold transit
    exact congrArg _ (queued_insert (x := { x with up := left }) known)
  · obtain ⟨id, queue⟩ := (conn.receive frame).takeFrame_fst wording
    have kept : ({ x with up := left } : Exchange).Routed mine := { h with }
    refine kept.transit_act time _ ?_ ?_
    · rw [id, queue]
      exact known
    · rw [id]
      exact named ▸ same

/-- The client takes in the response that is longest on its way. -/
theorem Routed.transit_receive (h : x.Routed mine) (isMine : mine c = true)
    {frame body rest : Bytes} {left : Channel} (taken : x.down.take? c = some (frame, left))
    (read : Frame.read frame = (.ok body, rest)) :
    ∃ r, x.Carries c r ∧ x.client.receive body = x.client.dispatch r ∧
      x.transit c = r :: ({ x with
        client := x.client.dispatch r, down := left } : Exchange).transit c ∧
      (x.down.filterMap (responseOn? c)).head? = some r := by
  obtain ⟨r, framed, carries⟩ := h.sent _ (Channel.mem_of_take? taken) isMine
  obtain ⟨before, after, down, rfl, others⟩ := Channel.eq_of_take? taken
  have skipped : before.filterMap (responseOn? c) = [] := by
    rw [List.filterMap_eq_nil_iff]
    exact fun e he => responseOn?_of_ne (others e he)
  have first : x.down.filterMap (responseOn? c) = r :: after.filterMap (responseOn? c) := by
    rw [down, List.filterMap_append, skipped, List.filterMap_cons, framed.responseOn? c]
    rfl
  refine ⟨r, carries, framed.receive read x.client, ?_, ?_⟩
  · unfold transit
    show x.down.filterMap _ ++ _ = r :: ((before ++ after).filterMap _ ++ _)
    rw [first, List.filterMap_append, skipped]
    rfl
  · rw [first]
    rfl

/-- Other steps leave what is on its way, if the connection stays. -/
theorem Steps.transit_eq (s : x.Steps mine m y) (posted : x.Posted mine) (routed : x.Routed mine)
    (isMine : mine c = true) (kept : keeps c x y m = true) (takesIn : ∀ d, m ≠ .receive d)
    (reacts : m ≠ .react) : y.transit c = x.transit c := by
  have stays : .closed c ∉ y.mailbox := not_mem_of_keeps kept
  cases s with
  | accept new => exact routed.transit_accept new
  | takeFrame isOpen taken => exact routed.transit_takeFrame posted isMine isOpen taken
  | takeResponse isOpen taken => exact routed.transit_takeResponse posted isOpen taken stays
  | @close d conn isOpen =>
    have known := posted.queue?_of_connection? isOpen
    refine routed.transit_act 0 conn.finish known ?_
    rintro rfl
    exact stays (List.mem_append_right _ (List.mem_singleton.2 rfl))
  | react => exact absurd rfl reacts
  | @receive d => exact absurd rfl (takesIn d)
  | _ => rfl

/-- What the relay pushes is added. -/
theorem transit_react {e : Event} {rest : List Event} (first : x.mailbox = e :: rest)
    (down : y.down = x.down) (kept : keeps c x y .react = true) :
    y.transit c = x.transit c ++ x.server.relay.pushedTo e c := by
  have queued := (Bool.and_eq_true_iff.1 kept).2
  rw [first] at queued
  have queued : y.queued c = x.queued c ++ x.server.relay.pushedTo e c := of_decide_eq_true queued
  unfold transit
  rw [queued, down, ← List.append_assoc]

/-- Only what the relay reacts to changes it. -/
theorem Steps.relay_eq (s : x.Steps mine m y) (reacts : m ≠ .react) :
    y.server.relay = x.server.relay := by
  have act : ∀ (x : Exchange) (time : UInt64) (did : Connection × Effect),
      (x.act time did).server.relay = x.server.relay := by
    rintro x time ⟨conn, effect⟩
    cases effect <;> rfl
  cases s with
  | takeFrame => exact act ..
  | takeResponse _ taken =>
    obtain ⟨-, rfl⟩ := Server.of_takeOldest taken
    exact act ..
  | close => exact act ..
  | react => exact absurd rfl reacts
  | _ => rfl

/-! ## Requests -/

/-- A request that is on its way to be handled on a connection. -/
def Unhandled (x : Exchange) (c : ConnectionId) (q : Request) : Prop :=
  q ∈ x.client.unsent ∨ (c, q) ∈ x.up.filterMap requestIn? ∨
    (c, q) ∈ x.mailbox.filterMap Event.request?

variable {q : Request}

/-- Less may lie at the client. -/
theorem Unhandled.of_client {client : Client} (h : y.Unhandled c q) (took : y.client = client)
    (less : client.unsent.count q ≤ x.client.unsent.count q) (up : y.up = x.up)
    (mailbox : y.mailbox = x.mailbox) : x.Unhandled c q := by
  unfold Unhandled at h
  rw [took, up, mailbox] at h
  refine h.imp_left fun hq => ?_
  exact List.count_pos_iff.1 (Nat.lt_of_lt_of_le (List.count_pos_iff.2 hq) less)

theorem unhandled_act {time : UInt64} {did : Connection × Effect}
    (h : (x.act time did).Unhandled c q) :
    x.Unhandled c q ∨ did.1.id = c ∧ did.2 = .submit q := by
  obtain ⟨conn, effect⟩ := did
  cases effect with
  | wait => exact .inl h
  | write => exact .inl h
  | finish =>
    left
    refine h.imp_right (Or.imp_right fun hm => ?_)
    have hm : (c, q) ∈ (x.mailbox ++ [Event.closed conn.id]).filterMap Event.request? := hm
    simpa [Event.request?] using hm
  | submit p =>
    rcases h with h | h | h
    · exact .inl (.inl h)
    · exact .inl (.inr (.inl h))
    · have h : (c, q) ∈ (x.mailbox ++ [Event.request conn.id time p]).filterMap Event.request? := h
      rw [List.filterMap_append] at h
      rcases List.mem_append.1 h with h | h
      · exact .inl (.inr (.inr h))
      · cases List.mem_singleton.1 h
        exact .inr ⟨rfl, rfl⟩

/-- What a call puts into the queue, or behind it. -/
theorem unhandled_begin {now : Nat} {tokens : List String} {p : Request} {client : Client}
    {call : Call} (began : x.client.begin now tokens p = .ok (client, call))
    (h : ({ x with client := client } : Exchange).Unhandled c q) :
    x.Unhandled c q ∨ q = x.client.address p call.token := by
  obtain ⟨k, _, -, -, rfl⟩ := Client.of_begin began
  rcases h with h | h
  · have added := Client.count_unsent_enqueue { x.client with correlator := k } call
      (x.client.address p call.token) q
    have there := List.count_pos_iff.2 h
    by_cases same : q = x.client.address p call.token
    · exact .inr same
    · rw [List.count_eq_zero_of_not_mem (mt List.mem_singleton.1 same)] at added
      left
      left
      refine List.count_pos_iff.1 (Nat.lt_of_lt_of_eq there ?_)
      exact added
  · exact .inl (.inr h)

theorem Posted.unhandled_takeFrame (h : x.Posted mine) (isMine : mine c = true)
    {d : ConnectionId} {time : UInt64} {wording : String} {conn : Connection} {frame : Bytes}
    {left : Channel} (isOpen : x.connection? d = some conn)
    (taken : x.up.take? d = some (frame, left))
    (hq : ({ x with up := left }.act time ((conn.receive frame).takeFrame wording)).Unhandled c q) :
    x.Unhandled c q := by
  have found := (Option.filter_eq_some_iff.1 isOpen).1
  have named := h.named d conn found
  rcases unhandled_act hq with before | ⟨id, submitted⟩
  · refine before.imp_right (Or.imp_left fun hq => ?_)
    exact (List.filterMap_subset _ (Channel.subset_of_take? taken)) hq
  · rw [((conn.receive frame).takeFrame_fst wording).1] at id
    have same : d = c := named.symm.trans id
    subst same
    obtain ⟨p, hp⟩ := h.frames _ (Channel.mem_of_take? taken) isMine
    rw [hp.takeFrame (h.idle d conn isMine found)] at submitted
    cases submitted
    exact .inr (.inl (List.mem_filterMap.2 ⟨_, Channel.mem_of_take? taken, hp.requestIn? d⟩))

/-- A request that is written was unsent before. -/
theorem unhandled_write {d : ConnectionId} {p : Request} {rest : List Request}
    {body frame : Bytes} (oldest : x.client.outbound = p :: rest) (encoded : p.encode = .ok body)
    (framed : Frame.write body = .ok frame)
    (h : ({ x with
      client := { x.client with outbound := rest }
      up := x.up ++ [(d, frame)]
      written := x.written ++ [(d, p)] } : Exchange).Unhandled c q) : x.Unhandled c q := by
  have written : IsRequestFrame p frame := ⟨body, encoded, framed⟩
  have first : p ∈ x.client.unsent := by
    refine List.mem_append_right _ ?_
    rw [oldest]
    exact List.mem_cons_self ..
  rcases h with h | h | h
  · left
    rcases List.mem_append.1 h with h | h
    · exact List.mem_append_left _ h
    · refine List.mem_append_right _ ?_
      rw [oldest]
      exact List.mem_cons_of_mem _ h
  · have h : (c, q) ∈ (x.up ++ [(d, frame)]).filterMap requestIn? := h
    rw [List.filterMap_append, List.filterMap_cons, written.requestIn? d] at h
    rcases List.mem_append.1 h with h | h
    · exact .inr (.inl h)
    · cases List.mem_singleton.1 h
      exact .inl first
  · exact .inr (.inr h)

/-- A step hands a request on; only a call that begins adds one. -/
theorem Steps.unhandled (s : x.Steps mine m y) (posted : x.Posted mine) (isMine : mine c = true)
    (begins : ∀ now tokens p, m ≠ .begin now tokens p) (h : y.Unhandled c q) :
    x.Unhandled c q := by
  cases s with
  | begin => exact absurd rfl (begins _ _ _)
  | unblock => exact h.of_client rfl (Nat.le_of_eq Client.count_unsent_unblock) rfl rfl
  | @finish call _ _ _ finished =>
    have f := x.client.finishes call
    rw [finished] at f
    cases f with
    | replied => exact h
    | cancelled => exact h.of_client rfl Client.count_unsent_giveUp rfl rfl
  | timeOut => exact h.of_client rfl Client.count_unsent_giveUp rfl rfl
  | dialed => exact h.of_client rfl Client.count_unsent_dialed rfl rfl
  | receive =>
    exact h.of_client rfl (Nat.le_of_eq (congrArg (List.count q) (Client.unsent_receive ..))) rfl rfl
  | write _ oldest encoded framed => exact unhandled_write oldest encoded framed h
  | @drop p rest oldest =>
    refine h.of_client rfl ?_ rfl rfl
    unfold Client.unsent
    rw [oldest]
    simp only [List.count_append, List.count_cons]
    omega
  | @others d frame notMine =>
    refine h.imp_right (Or.imp_left fun h => ?_)
    obtain ⟨e, he, found⟩ := List.mem_filterMap.1 h
    rcases List.mem_append.1 he with he | he
    · exact List.mem_filterMap.2 ⟨e, he, found⟩
    · cases List.mem_singleton.1 he
      have same : c = d := fst_of_requestIn? found
      rw [← same, isMine] at notMine
      cases notMine
  | @accept d =>
    refine h.imp_right (Or.imp_right fun h => ?_)
    have h : (c, q) ∈ (x.mailbox ++ [Event.opened d x.server.outboxes.size]).filterMap
      Event.request? := h
    simpa [Event.request?] using h
  | takeFrame isOpen taken => exact posted.unhandled_takeFrame isMine isOpen taken h
  | @takeResponse _ conn r =>
    rcases unhandled_act h with before | ⟨-, submitted⟩
    · exact before
    · exact absurd submitted ((conn.writeResponse_fst r).2.2.2 q)
  | close =>
    rcases unhandled_act h with before | ⟨-, submitted⟩
    · exact before
    · cases submitted
  | react first =>
    refine h.imp_right (Or.imp_right fun h => ?_)
    rw [first]
    exact (List.filterMap_subset _ (List.subset_cons_self ..)) h
  | _ => exact h

/-! ## Handled and unhandled requests -/

namespace Posted

/-- A request is at one place. -/
theorem count_le_one (h : x.Posted mine) (distinct : (x.calls.map (·.1.token)).Nodup)
    (isMine : mine c = true) (q : Request) :
    x.client.unsent.count q + x.underWay.count (c, q) ≤ 1 := by
  have once := List.nodup_iff_count_le_one.1 (h.nodup_requests distinct) q
  have unsent := h.unsent q
  have underWay := h.underWay (c, q) isMine
  have written : x.written.count (c, q) ≤ (x.written.map (·.2)).count q :=
    List.count_le_count_map (f := Prod.snd) (x := (c, q))
  rw [List.count_append] at unsent
  omega

theorem not_handled (h : x.Posted mine) (distinct : (x.calls.map (·.1.token)).Nodup)
    (isMine : mine c = true) (hq : x.Unhandled c q) :
    (c, q) ∉ x.handled.filterMap (·.event.request?) := by
  intro handled
  have one := h.count_le_one distinct isMine q
  have handled := List.count_pos_iff.2 handled
  unfold Exchange.underWay at one
  simp only [List.count_append] at one
  rcases hq with hq | hq | hq
  all_goals
    have hq := List.count_pos_iff.2 hq
    omega

/-- The oldest request of the client is nowhere else. -/
theorem not_unhandled_of_drop (h : x.Posted mine) (distinct : (x.calls.map (·.1.token)).Nodup)
    (isMine : mine c = true) {rest : List Request} (oldest : x.client.outbound = q :: rest)
    {k : Correlator} : ¬ ({ x with
      client := { x.client with outbound := rest, correlator := k } } : Exchange).Unhandled c q := by
  intro hq
  have one := h.count_le_one distinct isMine q
  unfold Exchange.underWay Client.unsent at one
  rw [oldest] at one
  simp only [List.count_append, List.count_cons_self] at one
  unfold Unhandled Client.unsent at hq
  dsimp only at hq
  rcases hq with hq | hq | hq
  · rcases List.mem_append.1 hq with hq | hq
    all_goals
      have hq := List.count_pos_iff.2 hq
      omega
  all_goals
    have hq := List.count_pos_iff.2 hq
    omega

theorem mem_calls_of_unhandled (h : x.Posted mine) (isMine : mine c = true)
    (hq : x.Unhandled c q) : ∃ call, (call, q) ∈ x.calls ∧ q.sequence = call.token := by
  have called : ∃ call, (call, q) ∈ x.calls := by
    rcases hq with hq | hq
    · have known := h.unsent q
      have there := List.count_pos_iff.2 hq
      rw [List.count_append] at known
      obtain ⟨e, he, rfl⟩ := List.mem_map.1 (List.count_pos_iff.1 (Nat.lt_of_lt_of_le there
        (Nat.le_trans (Nat.le_add_right _ _) known)))
      exact ⟨e.1, he⟩
    · have there : (c, q) ∈ x.underWay := List.mem_append_left _ (List.mem_append.2 hq)
      exact h.mem_calls_of_written (h.mem_written_of_underWay there isMine)
  obtain ⟨call, called⟩ := called
  exact ⟨call, called, h.sequence _ called⟩

/-- A reply on its way to the client answers a request of it. -/
theorem call_of_reply (h : x.Posted mine) (isMine : mine c = true) {r : Response}
    (reply : x.IsReply c r) :
    ∃ call q, (call, q) ∈ x.calls ∧ q.sequence = call.token ∧ r.sequence = call.token ∧
      (c, q) ∈ x.handled.filterMap (·.event.request?) := by
  obtain ⟨before, time, q, handled, rfl⟩ := reply
  obtain ⟨call, called⟩ := h.mem_calls_of_written (h.mem_written_of_handled handled isMine)
  have sequence := h.sequence _ called
  exact ⟨call, q, called, sequence, (Relay.sequence_reply ..).trans sequence,
    List.mem_filterMap.2 ⟨_, handled, rfl⟩⟩

/-- Who is answered has called. -/
theorem call_of_mem_sequences (h : x.Posted mine) (routed : x.Routed mine) (isMine : mine c = true)
    {token : String} (ht : token ∈ Response.sequences (x.transit c)) :
    ∃ call q, (call, q) ∈ x.calls ∧ call.token = token ∧
      (c, q) ∈ x.handled.filterMap (·.event.request?) := by
  obtain ⟨r, hr, isReply, rfl⟩ := Response.mem_sequences.1 ht
  rcases routed.carries_of_mem_transit isMine hr with told | reply
  · simp [Response.isEvent, told.event_ne_empty] at isReply
  · obtain ⟨call, q, called, -, sequence, handled⟩ := h.call_of_reply isMine reply
    exact ⟨call, q, called, sequence.symm, handled⟩

end Posted

/-- Two calls with one token are one, and so are their requests. -/
theorem eq_of_token {call call' : Call} {q q' : Request}
    (distinct : (x.calls.map (·.1.token)).Nodup) (hc : (call, q) ∈ x.calls)
    (hc' : (call', q') ∈ x.calls) (same : call.token = call'.token) : call = call' ∧ q = q' :=
  Prod.mk.inj (List.inj_on_of_nodup_map distinct hc hc' same)

end Exchange

end Rendezvous
