import Mathlib.Data.List.Nodup
import Mathlib.Data.List.Perm.Subperm
import Rendezvous.Proofs.Exchange
import Rendezvous.Proofs.Streams

/-!
# Requests are handled once

A request of the client is at one place at a time: it waits at its call or in the client's queue,
is on its way in a frame, waits in the mailbox, or has been handled. Each step moves it on or loses
it, so that it is handled once at most, and on the connection that it was written to:

    x.Posted mine → x.Steps mine m y → y.Posted mine                     (Posted.step)
    x.Posted mine → distinct tokens → (x.ownHandled mine).Nodup        (Posted.nodup_ownHandled)
-/

namespace Rendezvous

/-! ## Requests in frames -/

/-- The request of an event, with the connection that it came on. -/
def Event.request? : Event → Option (ConnectionId × Request)
  | .request c _ q => some (c, q)
  | _ => none

/-- The request in a frame, with the connection that it is on. -/
def requestIn? (e : ConnectionId × Bytes) : Option (ConnectionId × Request) :=
  match (Frame.read e.2).1 with
  | .ok body => (Request.decode body).toOption.map (e.1, ·)
  | .error _ => none

theorem fst_of_requestIn? {e : ConnectionId × Bytes} {a : ConnectionId × Request}
    (h : requestIn? e = some a) : a.1 = e.1 := by
  unfold requestIn? at h
  split at h
  · obtain ⟨_, -, rfl⟩ := Option.map_eq_some_iff.1 h
    rfl
  · cases h

/-- A frame that holds a request as the client writes it. -/
def IsRequestFrame (q : Request) (frame : Bytes) : Prop :=
  ∃ body, q.encode = .ok body ∧ Frame.write body = .ok frame

theorem IsRequestFrame.front {q : Request} {frame : Bytes} (h : IsRequestFrame q frame) :
    ∃ body, Frame.front frame = .whole body [] ∧ Request.decode body = .ok q := by
  obtain ⟨body, encoded, framed⟩ := h
  have fits := Request.isCodec.fits_of_encode ⟨body, encoded⟩
  obtain ⟨-, rfl⟩ := Request.isCodec.encode_eq_ok_iff.1 encoded
  exact ⟨_, Frame.front_of_write fits framed, Request.decode_compact q⟩

theorem IsRequestFrame.requestIn? {q : Request} {frame : Bytes} (h : IsRequestFrame q frame)
    (c : ConnectionId) : requestIn? (c, frame) = some (c, q) := by
  obtain ⟨body, front, decoded⟩ := h.front
  unfold Rendezvous.requestIn? Frame.read
  simp only [front, decoded]
  rfl

/-- The server's end of a connection hands such a frame on. -/
theorem IsRequestFrame.takeFrame {q : Request} {frame : Bytes} (h : IsRequestFrame q frame)
    {conn : Connection} (idle : conn.input = []) (wording : String) :
    (conn.receive frame).takeFrame wording = (conn, .submit q) := by
  obtain ⟨body, front, decoded⟩ := h.front
  unfold Connection.takeFrame Connection.receive
  simp only [idle, List.nil_append, front, decoded]
  rw [← idle]

/-! ## Requests that are not written yet -/

namespace Client

/-- The requests that wait at their calls or in the queue. -/
def unsent (c : Client) : List Request := c.blocked.map (·.2) ++ c.outbound

variable {c : Client} {call : Call} {p : Request}

theorem count_unsent_enqueue (c : Client) (call : Call) (q p : Request) :
    (c.enqueue call q).unsent.count p = c.unsent.count p + [q].count p := by
  unfold enqueue unsent
  split
  · simp only [List.count_append]
    omega
  · simp only [List.map_append, List.map_cons, List.map_nil, List.count_append]
    omega

theorem count_unsent_unblock : c.unblock.unsent.count p = c.unsent.count p := by
  unfold unblock unsent
  split
  · rfl
  · next q rest waiting =>
    split
    · simp only [waiting, List.map_cons, List.count_append, List.count_cons, List.count_nil]
      omega
    · rw [waiting]

theorem count_unsent_giveUp : (c.giveUp call).unsent.count p ≤ c.unsent.count p := by
  unfold giveUp unsent
  simp only [List.count_append]
  exact Nat.add_le_add_right ((List.filter_sublist.map _).count_le _) _

theorem count_unsent_dialed : c.dialed.unsent.count p ≤ c.unsent.count p := by
  unfold dialed unsent
  simp only [List.count_append, List.count_nil]
  omega

theorem unsent_receive (c : Client) (body : Bytes) : (c.receive body).unsent = c.unsent := by
  unfold receive
  split
  · unfold dispatch
    split
    · rfl
    · rfl
  · rfl

end Client

namespace Connection

/-- What a connection writes does not change what it reads. -/
theorem writeResponse_fst (c : Connection) (r : Response) :
    (c.writeResponse r).1.id = c.id ∧ (c.writeResponse r).1.queue = c.queue ∧
      (c.writeResponse r).1.input = c.input ∧ ∀ q, (c.writeResponse r).2 ≠ .submit q := by
  unfold writeResponse finish
  split
  · exact ⟨rfl, rfl, rfl, fun _ e => Effect.noConfusion e⟩
  · exact ⟨rfl, rfl, rfl, fun _ e => Effect.noConfusion e⟩

theorem takeFrame_fst (c : Connection) (wording : String) :
    (c.takeFrame wording).1.id = c.id ∧ (c.takeFrame wording).1.queue = c.queue := by
  unfold takeFrame
  split
  · split
    · exact ⟨rfl, rfl⟩
    · exact ⟨rfl, rfl⟩
  · exact ⟨rfl, rfl⟩
  · dsimp only
    split
    · exact ⟨rfl, rfl⟩
    · obtain ⟨id, queue, -, -⟩ := writeResponse_fst { c with input := _ } _
      exact ⟨id, queue⟩

end Connection

/-! ## Requests on their way -/

namespace Exchange

variable {mine : ConnectionId → Bool} {x y : Exchange} {m : Move}

/-- The requests from the client's connections to the relay, as far as they got. -/
def underWay (x : Exchange) : List (ConnectionId × Request) :=
  x.up.filterMap requestIn? ++ x.mailbox.filterMap Event.request? ++
    x.handled.filterMap (·.event.request?)

/-- The requests that were handled on the client's connections. -/
def ownHandled (mine : ConnectionId → Bool) (x : Exchange) : List (ConnectionId × Request) :=
  (x.handled.filterMap (·.event.request?)).filter (mine ·.1)

/-- Each request is at one place at most, and under way only where it was written to. -/
structure Posted (mine : ConnectionId → Bool) (x : Exchange) : Prop where
  current : ∀ c, x.current = some c → mine c = true
  sequence : ∀ e ∈ x.calls, e.2.sequence = e.1.token
  unsent : ∀ q, (x.client.unsent ++ x.written.map (·.2)).count q ≤ (x.calls.map (·.2)).count q
  frames : ∀ e ∈ x.up, mine e.1 = true → ∃ q, IsRequestFrame q e.2
  named : ∀ c conn, x.connections.get? c = some conn → conn.id = c
  idle : ∀ c conn, mine c = true → x.connections.get? c = some conn → conn.input = []
  underWay : ∀ a, mine a.1 = true → x.underWay.count a ≤ x.written.count a

namespace Posted

theorem start {db : Database} {store : Option SnapshotStore} {files : Files} :
    (Exchange.start db store files).Posted mine where
  current _ h := by cases h
  sequence _ h := by cases h
  unsent _ := Nat.le_refl 0
  frames _ h := by cases h
  named _ _ h := by cases h
  idle _ _ _ h := by cases h
  underWay _ _ := Nat.le_refl 0

/-- The client may change as long as no request appears. -/
theorem client (h : x.Posted mine) (client : Client) (returns : List Return)
    (unsent : ∀ q, client.unsent.count q ≤ x.client.unsent.count q) :
    ({ x with client := client, returns := returns } : Exchange).Posted mine :=
  { h with
    unsent := fun q => by
      have before := h.unsent q
      have now := unsent q
      rw [List.count_append] at before ⊢
      exact Nat.le_trans (Nat.add_le_add_right now _) before }

theorem count_underWay_take {c : ConnectionId} {frame : Bytes} {left : Channel}
    (taken : x.up.take? c = some (frame, left)) (a : ConnectionId × Request) :
    x.underWay.count a =
      ({ x with up := left } : Exchange).underWay.count a +
        (requestIn? (c, frame)).toList.count a := by
  obtain ⟨before, after, up, rfl, -⟩ := Channel.eq_of_take? taken
  unfold Exchange.underWay
  simp only [up, List.filterMap_append, List.count_append, List.filterMap_cons]
  cases requestIn? (c, frame) with
  | none =>
    simp only [Option.toList_none, List.count_nil]
    omega
  | some b =>
    simp only [Option.toList_some, List.count_cons, List.count_nil]
    omega

theorem count_underWay_up (x : Exchange) (e : ConnectionId × Bytes)
    (a : ConnectionId × Request) :
    ({ x with up := x.up ++ [e] } : Exchange).underWay.count a =
      x.underWay.count a + (requestIn? e).toList.count a := by
  unfold Exchange.underWay
  simp only [List.filterMap_append, List.count_append, List.filterMap_cons, List.filterMap_nil]
  cases requestIn? e with
  | none =>
    simp only [Option.toList_none, List.count_nil]
    omega
  | some b =>
    simp only [Option.toList_some]
    omega

theorem count_underWay_mail (x : Exchange) (e : Event) (a : ConnectionId × Request) :
    ({ x with mailbox := x.mailbox ++ [e] } : Exchange).underWay.count a =
      x.underWay.count a + e.request?.toList.count a := by
  unfold Exchange.underWay
  simp only [List.filterMap_append, List.count_append, List.filterMap_cons, List.filterMap_nil]
  cases e.request? with
  | none =>
    simp only [Option.toList_none, List.count_nil]
    omega
  | some b =>
    simp only [Option.toList_some]
    omega

/-- A frame is taken off its way. -/
theorem taken (h : x.Posted mine) {c : ConnectionId} {frame : Bytes} {left : Channel}
    (taken : x.up.take? c = some (frame, left)) :
    ({ x with up := left } : Exchange).Posted mine where
  current := h.current
  sequence := h.sequence
  unsent := h.unsent
  frames e he := h.frames e (Channel.subset_of_take? taken he)
  named := h.named
  idle := h.idle
  underWay a isMine := by
    have before := h.underWay a isMine
    rw [count_underWay_take taken a] at before
    exact Nat.le_trans (Nat.le_add_right _ _) before

/-- The server's end of a connection is put in its place. -/
theorem put (h : x.Posted mine) (c : Connection) (idle : mine c.id = true → c.input = []) :
    ({ x with connections := x.connections.insert c.id c } : Exchange).Posted mine :=
  { h with
    named := by
      intro d conn hd
      rw [Table.get?_insert] at hd
      split at hd
      · next same =>
        cases hd
        exact same.symm
      · exact h.named d conn hd
    idle := by
      intro d conn isMine hd
      rw [Table.get?_insert] at hd
      split at hd
      · next same =>
        cases hd
        exact idle (same ▸ isMine)
      · exact h.idle d conn isMine hd }

/-- A connection acts: only requests that were under way are handed on. -/
theorem act (h : x.Posted mine) (time : UInt64) {did : Connection × Effect}
    (idle : mine did.1.id = true → did.1.input = [])
    (submits : ∀ q, did.2 = .submit q → ∀ a, mine a.1 = true →
      x.underWay.count a + [(did.1.id, q)].count a ≤ x.written.count a) :
    (x.act time did).Posted mine := by
  obtain ⟨c, effect⟩ := did
  have put := h.put c idle
  cases effect with
  | wait => exact put
  | write frame => exact { put with }
  | finish =>
    exact { put with
      underWay := by
        intro a isMine
        show ({ x with mailbox := x.mailbox ++ [Event.closed c.id] } : Exchange).underWay.count a ≤
          x.written.count a
        rw [count_underWay_mail]
        exact h.underWay a isMine }
  | submit q =>
    exact { put with
      underWay := by
        intro a isMine
        show ({ x with mailbox := x.mailbox ++ [Event.request c.id time q] } :
          Exchange).underWay.count a ≤ x.written.count a
        rw [count_underWay_mail]
        exact submits q rfl a isMine }

/-- A connection takes a frame off its way and acts on it. -/
theorem takeFrame (h : x.Posted mine) {c : ConnectionId} {time : UInt64} {wording : String}
    {conn : Connection} {frame : Bytes} {left : Channel} (known : x.connections.get? c = some conn)
    (taken : x.up.take? c = some (frame, left)) :
    (({ x with up := left } : Exchange).act time
      ((conn.receive frame).takeFrame wording)).Posted mine := by
  have rest := h.taken taken
  have same := h.named c conn known
  cases isMine : mine c with
  | true =>
    have idle := h.idle c conn isMine known
    obtain ⟨q, hq⟩ := h.frames _ (Channel.mem_of_take? taken) isMine
    rw [hq.takeFrame idle]
    refine rest.act time (fun _ => idle) fun p hp a ha => ?_
    cases hp
    have was := h.underWay a ha
    rw [count_underWay_take taken, hq.requestIn? c] at was
    rw [same]
    exact was
  | false =>
    obtain ⟨id, -⟩ := (conn.receive frame).takeFrame_fst wording
    have id : ((conn.receive frame).takeFrame wording).1.id = c := id.trans same
    refine rest.act time (fun isMine' => ?_) fun p _ a ha => ?_
    · rw [id, isMine] at isMine'
      cases isMine'
    · have other : ((conn.receive frame).takeFrame wording).1.id ≠ a.1 := by
        rintro e
        rw [← e, id, isMine] at ha
        cases ha
      have none : [(((conn.receive frame).takeFrame wording).1.id, p)].count a = 0 := by
        rw [List.count_eq_zero, List.mem_singleton]
        rintro rfl
        exact other rfl
      rw [none]
      exact rest.underWay a ha

/-- A call begins: its request is the client's to send. -/
theorem begin (h : x.Posted mine) {now : Nat} {tokens : List String} {q : Request}
    {client : Client} {call : Call} (began : x.client.begin now tokens q = .ok (client, call)) :
    ({ x with
      client := client
      calls := x.calls ++ [(call, x.client.address q call.token)] } : Exchange).Posted mine := by
  obtain ⟨k, _, -, -, rfl⟩ := Client.of_begin began
  refine { h with sequence := ?_, unsent := ?_ }
  · intro e he
    rcases List.mem_append.1 he with he | he
    · exact h.sequence e he
    · cases List.mem_singleton.1 he
      rfl
  · intro p
    have before := h.unsent p
    have more := Client.count_unsent_enqueue { x.client with correlator := k } call
      (x.client.address q call.token) p
    simp only [List.count_append, List.map_append, List.map_cons, List.map_nil] at before ⊢
    rw [more]
    show x.client.unsent.count p + _ + _ ≤ _
    omega

/-- The oldest request of the client is written. -/
theorem write (h : x.Posted mine) {c : ConnectionId} {q : Request} {rest : List Request}
    {body frame : Bytes} (oldest : x.client.outbound = q :: rest)
    (encoded : q.encode = .ok body) (framed : Frame.write body = .ok frame) :
    ({ x with
      client := { x.client with outbound := rest }
      up := x.up ++ [(c, frame)]
      written := x.written ++ [(c, q)] } : Exchange).Posted mine := by
  have hq : IsRequestFrame q frame := ⟨body, encoded, framed⟩
  refine { h with unsent := ?_, frames := ?_, underWay := ?_ }
  · intro p
    have before := h.unsent p
    unfold Client.unsent at before ⊢
    rw [oldest] at before
    simp only [List.map_append, List.map_cons, List.map_nil, List.count_append, List.count_cons,
      List.count_nil] at before ⊢
    omega
  · intro e he isMine
    rcases List.mem_append.1 he with he | he
    · exact h.frames e he isMine
    · cases List.mem_singleton.1 he
      exact ⟨q, hq⟩
  · intro a ha
    refine Nat.le_trans (Nat.le_of_eq (count_underWay_up x (c, frame) a)) ?_
    rw [hq.requestIn? c]
    show _ ≤ (x.written ++ [(c, q)]).count a
    rw [List.count_append]
    exact Nat.add_le_add_right (h.underWay a ha) _

/-- Another client sends a frame. -/
theorem others (h : x.Posted mine) {c : ConnectionId} (frame : Bytes) (notMine : mine c = false) :
    ({ x with up := x.up ++ [(c, frame)] } : Exchange).Posted mine := by
  refine { h with frames := ?_, underWay := ?_ }
  · intro e he isMine
    rcases List.mem_append.1 he with he | he
    · exact h.frames e he isMine
    · cases List.mem_singleton.1 he
      rw [notMine] at isMine
      cases isMine
  · intro a ha
    refine Nat.le_trans (Nat.le_of_eq (count_underWay_up x (c, frame) a)) ?_
    have none : (requestIn? (c, frame)).toList.count a = 0 := by
      rw [List.count_eq_zero, Option.mem_toList]
      intro found
      rw [fst_of_requestIn? found, notMine] at ha
      cases ha
    rw [none]
    exact h.underWay a ha

/-- The relay reacts to what came first: a request that it handles was in its mailbox. -/
theorem react (h : x.Posted mine) {e : Event} {rest : List Event}
    (first : x.mailbox = e :: rest) :
    ({ x with
      mailbox := rest
      server := x.server.react e
      handled := x.handled ++ [⟨x.server.relay, e⟩] } : Exchange).Posted mine := by
  refine { h with underWay := ?_ }
  intro a ha
  have before := h.underWay a ha
  unfold Exchange.underWay at before ⊢
  rw [first] at before
  simp only [List.filterMap_append, List.count_append, List.filterMap_cons,
    List.filterMap_nil] at before ⊢
  cases hr : e.request? with
  | none =>
    simp only [hr, List.count_nil] at before ⊢
    omega
  | some b =>
    simp only [hr, List.count_cons, List.count_nil] at before ⊢
    omega

/-- Each step moves a request on or loses it. -/
theorem step (h : x.Posted mine) (s : x.Steps mine m y) : y.Posted mine := by
  cases s with
  | begin began => exact h.begin began
  | unblock => exact h.client _ _ fun q => Nat.le_of_eq Client.count_unsent_unblock
  | @finish call _ _ _ finished =>
    have f := x.client.finishes call
    rw [finished] at f
    cases f with
    | replied => exact h.client _ _ fun q => Nat.le_refl _
    | cancelled => exact h.client _ _ fun q => Client.count_unsent_giveUp
  | timeOut => exact h.client _ _ fun q => Client.count_unsent_giveUp
  | noteLogin => exact h.client _ _ fun q => Nat.le_refl _
  | noteLogout => exact h.client _ _ fun q => Nat.le_refl _
  | dial => exact h.client _ _ fun q => Nat.le_refl _
  | dialFailed => exact h.client _ _ fun q => Nat.le_refl _
  | dialed isMine =>
    have dialed := h.client x.client.dialed x.returns fun q =>
      Client.count_unsent_dialed (c := x.client) (p := q)
    refine { dialed with current := ?_ }
    intro c hc
    cases hc
    exact isMine
  | write _ oldest encoded framed => exact h.write oldest encoded framed
  | @drop q rest oldest =>
    refine h.client _ x.returns fun p => ?_
    unfold Client.unsent
    rw [oldest]
    simp only [List.count_append, List.count_cons]
    omega
  | stay => exact h
  | @receive _ _ body =>
    have received := h.client (x.client.receive body) x.returns fun q =>
      Nat.le_of_eq (congrArg (List.count q) (x.client.unsent_receive body))
    exact { received with }
  | lose =>
    have lost := h.client x.client.lost x.returns fun q => Nat.le_refl _
    exact { lost with current := nofun }
  | others notMine => exact h.others _ notMine
  | @accept c capacity new =>
    have placed := h.put { id := c, queue := x.server.outboxes.size } fun _ => rfl
    refine { placed with underWay := ?_ }
    intro a ha
    have same := count_underWay_mail x (.opened c x.server.outboxes.size) a
    exact Nat.le_trans (Nat.le_of_eq same) (h.underWay a ha)
  | takeFrame isOpen taken =>
    exact h.takeFrame (Option.filter_eq_some_iff.1 isOpen).1 taken
  | @takeResponse c conn r server isOpen taken =>
    have known := (Option.filter_eq_some_iff.1 isOpen).1
    obtain ⟨id, -, input, none⟩ := conn.writeResponse_fst r
    have served : ({ x with server := server } : Exchange).Posted mine := { h with }
    refine served.act 0 (fun isMine => ?_) fun q hq => absurd hq (none q)
    rw [id, h.named c conn known] at isMine
    rw [input]
    exact h.idle c conn isMine known
  | @close c conn isOpen =>
    have known := (Option.filter_eq_some_iff.1 isOpen).1
    refine h.act 0 (fun isMine => ?_) fun q hq => by cases hq
    have isMine : mine conn.id = true := isMine
    rw [h.named c conn known] at isMine
    exact h.idle c conn isMine known
  | react first => exact h.react first

/-! ## What follows -/

theorem mem_calls_of_written (h : x.Posted mine) {a : ConnectionId × Request}
    (written : a ∈ x.written) : ∃ call, (call, a.2) ∈ x.calls := by
  have known := h.unsent a.2
  have there : 0 < (x.written.map (·.2)).count a.2 :=
    List.count_pos_iff.2 (List.mem_map_of_mem written)
  rw [List.count_append] at known
  obtain ⟨e, he, same⟩ := List.mem_map.1 (List.count_pos_iff.1
    (Nat.lt_of_lt_of_le there (Nat.le_trans (Nat.le_add_left _ _) known)))
  exact ⟨e.1, same ▸ he⟩

/-- What is under way on a connection of the client was written to it. -/
theorem mem_written_of_underWay (h : x.Posted mine) {a : ConnectionId × Request}
    (there : a ∈ x.underWay) (isMine : mine a.1 = true) : a ∈ x.written :=
  List.count_pos_iff.1 (Nat.lt_of_lt_of_le (List.count_pos_iff.2 there) (h.underWay a isMine))

theorem mem_written_of_handled (h : x.Posted mine) {c : ConnectionId} {time : UInt64}
    {q : Request} {before : Relay} (handled : ⟨before, .request c time q⟩ ∈ x.handled)
    (isMine : mine c = true) : (c, q) ∈ x.written :=
  h.mem_written_of_underWay
    (List.mem_append_right _ (List.mem_filterMap.2 ⟨_, handled, rfl⟩)) isMine

/-- A request that waits in the mailbox belongs to a call of the client. -/
theorem mem_calls_of_mailbox (h : x.Posted mine) {c : ConnectionId} {time : UInt64} {q : Request}
    (mail : .request c time q ∈ x.mailbox) (isMine : mine c = true) :
    ∃ call, (call, q) ∈ x.calls := by
  have there : (c, q) ∈ x.underWay :=
    List.mem_append_left _ (List.mem_append_right _ (List.mem_filterMap.2 ⟨_, mail, rfl⟩))
  exact h.mem_calls_of_written (h.mem_written_of_underWay there isMine)

/-- No two calls make the same request. -/
theorem nodup_requests (h : x.Posted mine) (distinct : (x.calls.map (·.1.token)).Nodup) :
    (x.calls.map (·.2)).Nodup := by
  refine List.Nodup.of_map (·.sequence) ?_
  rw [List.map_map]
  rwa [List.map_congr_left (g := (·.1.token)) h.sequence]

/-- No request is written twice, be it to different connections. -/
theorem nodup_written (h : x.Posted mine) (distinct : (x.calls.map (·.1.token)).Nodup) :
    (x.written.map (·.2)).Nodup := by
  refine List.nodup_iff_count_le_one.2 fun q => ?_
  have known := h.unsent q
  have once := List.nodup_iff_count_le_one.1 (h.nodup_requests distinct) q
  rw [List.count_append] at known
  omega

/-- No request is handled twice on the connections of the client. -/
theorem nodup_ownHandled (h : x.Posted mine) (distinct : (x.calls.map (·.1.token)).Nodup) :
    ((x.ownHandled mine).map (·.2)).Nodup := by
  have written : (x.ownHandled mine).Subperm x.written := by
    refine List.subperm_ext_iff.2 fun a ha => ?_
    obtain ⟨-, isMine⟩ := List.mem_filter.1 ha
    have handled : (x.ownHandled mine).count a ≤ x.underWay.count a := by
      unfold Exchange.underWay
      rw [List.count_append]
      exact Nat.le_trans (List.filter_sublist.count_le a) (Nat.le_add_left _ _)
    exact Nat.le_trans handled (h.underWay a isMine)
  obtain ⟨l, perm, sublist⟩ := written
  exact (perm.map (·.2)).nodup_iff.1 ((h.nodup_written distinct).sublist (sublist.map _))

end Posted

end Exchange

end Rendezvous
