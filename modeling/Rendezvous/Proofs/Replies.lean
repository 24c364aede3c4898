import Rendezvous.Client
import Rendezvous.Connection
import Rendezvous.Proofs.Forwarding
import Rendezvous.Proofs.Streams

/-!
# Replies and events

On the wire to a client two kinds of responses are mixed, and nothing but the name of an event
tells which is which. A request on an open connection leads to at most one event, and then to its
reply on that connection:

    (r.handle (.request c time q)).2 = events ++ [⟨⟨c, k⟩, reply⟩]     (Leads.told, link?_dispatch)

Events carry the name of an action and no sequence, replies the sequence of their request and no
event. So a client that takes in any mixture of both sorts it: the replies go to its correlator and
the events into their queue, each in the order in which they came (`receive_all`).
-/

namespace Rendezvous

/-- What a response is for: it answers a request, or tells of what another peer did. -/
inductive ResponseKind where
  | reply
  | event
deriving DecidableEq, Repr

/-- The responses of one kind. -/
def ResponseKind.of (kind : ResponseKind) (wire : List (ResponseKind × Response)) :
    List Response :=
  (wire.filter (·.1 = kind)).map (·.2)

theorem Action.name_ne_empty (a : Action) : a.name ≠ "" := by cases a <;> decide

namespace Relay

/-- What a step queues, each response with its kind. -/
def sends (r : Relay) (e : Event) : List (ResponseKind × Push) :=
  match e with
  | .request c time q =>
    let o := r.dispatch c time q
    o.pushes.map (.event, ·) ++
      ((o.relay.link? c).map fun link => (.reply, ⟨link, reply q o.result⟩)).toList
  | _ => []

/-! ## What a request leads to -/

variable {r : Relay} {isOpen : ConnectionId → QueueId → Prop} {c : ConnectionId} {k : QueueId}
  {time : UInt64} {q : Request}

theorem map_sends (r : Relay) (e : Event) : (r.sends e).map (·.2) = (r.handle e).2 := by
  cases e with
  | request c time q =>
    unfold sends handle handleRequest
    dsimp only
    cases (r.dispatch c time q).relay.link? c <;> simp [Function.comp_def]
  | opened => rfl
  | closed => rfl
  | shutdown => rfl

/-- An event has no sequence and names an action. -/
structure IsTold (x : Response) : Prop where
  sequence : x.sequence = ""
  named : ∃ a : Action, x.event = a.name

theorem IsTold.event_ne_empty {x : Response} (h : IsTold x) : x.event ≠ "" := by
  obtain ⟨a, named⟩ := h.named
  rw [named]
  exact a.name_ne_empty

/-- Whatever a request leads to, at most one event is pushed. -/
theorem Leads.told {o : Outcome} (l : r.Leads c time q o) :
    o.pushes.length ≤ 1 ∧ ∀ p ∈ o.pushes, IsTold p.response := by
  cases l with
  | tookOver =>
    rw [pushes_takeOver]
    refine ⟨Option.length_toList_le, fun p hp => ?_⟩
    rw [response_of_mem_notices hp]
    exact ⟨rfl, .logout, rfl⟩
  | @relayed _ _ b _ _ _ _ _ h =>
    refine ⟨Nat.le_refl 1, fun p hp => ?_⟩
    cases List.mem_singleton.1 hp
    obtain ⟨_, _, _, _, -, -, -, -, rfl⟩ := forward_eq_ok_iff.1 h
    exact ⟨rfl, b, rfl⟩
  | refused => exact ⟨Nat.zero_le 1, nofun⟩
  | registered => exact ⟨Nat.zero_le 1, nofun⟩
  | stayed => exact ⟨Nat.zero_le 1, nofun⟩
  | loggedOut => exact ⟨Nat.zero_le 1, nofun⟩
  | edited => exact ⟨Nat.zero_le 1, nofun⟩
  | answered => exact ⟨Nat.zero_le 1, nofun⟩

theorem sequence_reply (q : Request) (result : Except RelayError Response) :
    (reply q result).sequence = q.sequence := by
  cases result <;> rfl

namespace Coherent

/-- A request moves its connection from table to table at most: it is found where it is then. -/
theorem link?_dispatch (h : r.Coherent isOpen) (hk : isOpen c k) :
    (r.dispatch c time q).relay.link? c = some ⟨c, k⟩ :=
  (h.leads (leads_dispatch r c time q)).link?_eq_some_iff.2 ⟨rfl, hk⟩

theorem sends_request (h : r.Coherent isOpen) (hk : isOpen c k) (time : UInt64) (q : Request) :
    r.sends (.request c time q) = (r.dispatch c time q).pushes.map (.event, ·) ++
      [(.reply, ⟨⟨c, k⟩, reply q (r.dispatch c time q).result⟩)] := by
  unfold sends
  dsimp only
  rw [h.link?_dispatch hk]
  rfl

/-- On a connection that is not open nobody is logged in, so nothing is handed on. -/
theorem pushes_eq_nil (h : r.Coherent isOpen) (hc : ∀ k, ¬ isOpen c k) {o : Outcome}
    (l : r.Leads c time q o) : o.pushes = [] := by
  obtain ⟨notPending, noIdentity⟩ := h.unknown_of_not_isOpen hc
  cases l with
  | tookOver _ _ _ _ known =>
    rw [notPending, noIdentity] at known
    rcases known with known | known <;> cases known
  | relayed who =>
    unfold Table.contains at noIdentity
    rw [who] at noIdentity
    cases noIdentity
  | refused => rfl
  | registered => rfl
  | stayed => rfl
  | loggedOut => rfl
  | edited => rfl
  | answered => rfl

theorem handle_request_of_not_isOpen (h : r.Coherent isOpen) (hc : ∀ k, ¬ isOpen c k) :
    (r.handle (.request c time q)).2 = [] := by
  have l := leads_dispatch r c time q
  show (r.dispatch c time q).pushes ++ _ = []
  rw [h.pushes_eq_nil hc l, (h.leads l).link?_eq_none_iff.2 hc]
  rfl

end Coherent

end Relay

open Relay (IsTold)

/-! ## What a client does with it -/

/-- What may arrive at a client: what a relay sends at any point of any run, and the replies of a
connection to frames that hold no request. -/
inductive Travels : ResponseKind → Response → Prop
  | sent {db : Database} {es : List Event} {e : Event} {kind : ResponseKind} {p : Push}
      (fresh : Fresh es) (h : (kind, p) ∈ ((Relay.idle db).after es).sends e) :
      Travels kind p.response
  | malformed (body : Bytes) (cause : CodecError) (wording : String) :
      Travels .reply (malformedReply body cause wording)

/-- Only the event tells the kinds apart. -/
theorem Travels.isEvent {kind : ResponseKind} {x : Response} (h : Travels kind x) :
    x.isEvent = (kind = .event) := by
  cases h with
  | malformed => simp [malformedReply, Response.isEvent]
  | @sent db es e _ p fresh h =>
    cases e with
    | request c time q =>
      have l := Relay.leads_dispatch ((Relay.idle db).after es) c time q
      rcases List.mem_append.1 h with h | h
      · obtain ⟨_, hp, e⟩ := List.mem_map.1 h
        cases e
        simpa [Response.isEvent] using (l.told.2 p hp).event_ne_empty
      · rw [Option.mem_toList] at h
        obtain ⟨link, -, e⟩ := Option.map_eq_some_iff.1 h
        cases e
        simp [Response.isEvent, l.event_reply]
    | opened => cases h
    | closed => cases h
    | shutdown => cases h

namespace Client

variable {x : Response} {body : Bytes}

theorem receive_of_encode (c : Client) (encoded : x.encode = .ok body) :
    c.receive body = c.dispatch x := by
  obtain ⟨-, rfl⟩ := Response.isCodec.encode_eq_ok_iff.1 encoded
  unfold receive
  rw [Response.decode_compact]

/-- A reply goes to the correlator and nowhere else. -/
theorem receive_reply (c : Client) (h : Travels .reply x) (encoded : x.encode = .ok body) :
    c.receive body = { c with correlator := (c.correlator.resolve x).1 } := by
  have isReply : x.isEvent = false := by simpa using h.isEvent
  rw [c.receive_of_encode encoded, dispatch, isReply]
  rfl

/-- An event goes into its queue and resolves no call. -/
theorem receive_event (c : Client) (h : Travels .event x) (encoded : x.encode = .ok body) :
    c.receive body = { c with
      session := if x.eventAction? = some .logout then none else c.session
      events := c.events.push x } := by
  have isEvent : x.isEvent = true := by simpa using h.isEvent
  rw [c.receive_of_encode encoded, dispatch, if_pos isEvent]

/-- A mixture of replies and events is sorted. -/
theorem receive_all {wire : List (ResponseKind × Response)} {bodies : List Bytes}
    (travel : ∀ x ∈ wire, Travels x.1 x.2)
    (encoded : List.Forall₂ (fun x body => x.2.encode = .ok body) wire bodies) (c : Client) :
    (bodies.foldl receive c).correlator =
        (ResponseKind.reply.of wire).foldl (fun k x => (k.resolve x).1) c.correlator ∧
      (bodies.foldl receive c).events = (ResponseKind.event.of wire).foldl Outbox.push c.events := by
  induction encoded generalizing c with
  | nil => exact ⟨rfl, rfl⟩
  | @cons x body wire bodies first _ ih =>
    obtain ⟨kind, x⟩ := x
    have rest := ih (fun y hy => travel y (List.mem_cons_of_mem _ hy)) (c.receive body)
    have here : Travels kind x := travel (kind, x) (List.mem_cons_self ..)
    cases kind with
    | reply =>
      rw [c.receive_reply here first] at rest
      rw [List.foldl_cons, c.receive_reply here first]
      exact rest
    | event =>
      rw [c.receive_event here first] at rest
      rw [List.foldl_cons, c.receive_event here first]
      exact rest

end Client

/-- A request on an open connection gets exactly one reply, there and under its sequence, after at
most one event, which has no sequence and names an action. On other connections, and when
connections open and close, nothing is sent. A client that receives any mixture of what is sent
hands each reply to its correlator and each event to their queue, and no event resolves a call. -/
theorem replies_told_from_events (db : Database) {es : List Event} (fresh : Fresh es) :
    let r := (Relay.idle db).after es
    (∀ c k time q, StillOpen es c k → ∃ events reply,
      (r.handle (.request c time q)).2 = events ++ [⟨⟨c, k⟩, reply⟩] ∧
      r.sends (.request c time q) = events.map (.event, ·) ++ [(.reply, ⟨⟨c, k⟩, reply⟩)] ∧
      reply.event = "" ∧ reply.sequence = q.sequence ∧ events.length ≤ 1 ∧
      ∀ p ∈ events, p.response.sequence = "" ∧ p.response.event ≠ "" ∧
        ∃ a : Action, p.response.event = a.name) ∧
    (∀ c time q, (∀ k, ¬ StillOpen es c k) → (r.handle (.request c time q)).2 = []) ∧
    (∀ c k, (r.handle (.opened c k)).2 = [] ∧ (r.handle (.closed c)).2 = []) ∧
    (∀ (wire : List (ResponseKind × Response)) (bodies : List Bytes) (client : Client),
      (∀ x ∈ wire, Travels x.1 x.2) →
      List.Forall₂ (fun x body => x.2.encode = .ok body) wire bodies →
      (bodies.foldl Client.receive client).correlator =
          (ResponseKind.reply.of wire).foldl (fun k x => (k.resolve x).1) client.correlator ∧
        (bodies.foldl Client.receive client).events =
          (ResponseKind.event.of wire).foldl Outbox.push client.events) ∧
    (∀ (x : Response) (body : Bytes) (client : Client), Travels .event x → x.encode = .ok body →
      (client.receive body).correlator = client.correlator) := by
  intro r
  have h : r.Coherent (StillOpen es) := fresh.coherent db
  refine ⟨?_, ?_, ?_, ?_, ?_⟩
  · intro c k time q hk
    have l := Relay.leads_dispatch r c time q
    obtain ⟨one, told⟩ := l.told
    have sends := h.sends_request hk time q
    refine ⟨_, _, ?_, sends, l.event_reply, Relay.sequence_reply .., one, ?_⟩
    · rw [← Relay.map_sends, sends]
      simp [Function.comp_def]
    · intro p hp
      exact ⟨(told p hp).sequence, (told p hp).event_ne_empty, (told p hp).named⟩
  · intro c time q hc
    exact h.handle_request_of_not_isOpen hc
  · intro c k
    exact ⟨rfl, rfl⟩
  · intro wire bodies client travel encoded
    exact client.receive_all travel encoded
  · intro x body client travels encoded
    rw [client.receive_event travels encoded]

/-- Carol opens a session with Bob: he is told, and she gets her reply. -/
theorem replies_told_from_events_sampleRun :
    let r := (Relay.idle sampleDatabase).after sampleRun
    let q : Request :=
      { sequence := "s2", action := "connect-service", serviceName := some "ssh-box",
        servicePwdDigest := some sampleDigest }
    Fresh sampleRun ∧ StillOpen sampleRun 2 1 ∧
      (∃ events reply, (r.handle (.request 2 0 q)).2 = events ++ [⟨⟨2, 1⟩, reply⟩] ∧
        events.length = 1 ∧ reply = { sequence := "s2" }) := by
  intro r q
  have isOpen : StillOpen sampleRun 2 1 := ⟨sampleRun.take 1, sampleRun.drop 2, rfl, by decide⟩
  obtain ⟨request, -⟩ := replies_told_from_events sampleDatabase fresh_sampleRun
  obtain ⟨events, reply, pushed, -⟩ := request 2 1 0 q isOpen
  have queued : (r.handle (.request 2 0 q)).2 =
      [⟨⟨3, 2⟩, { event := "ice-open", fromId := some "carol12345",
                  serviceName := some "ssh-box" }⟩] ++ [⟨⟨2, 1⟩, { sequence := "s2" }⟩] := by
    rw [show r = sampleRelay from after_sampleRun]
    decide +kernel
  obtain ⟨same, last⟩ := List.append_inj' (pushed.symm.trans queued) rfl
  cases last
  exact ⟨fresh_sampleRun, isOpen, events, _, pushed, by rw [same]; rfl, rfl⟩

end Rendezvous
