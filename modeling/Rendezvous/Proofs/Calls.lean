import Rendezvous.Proofs.Correlation
import Rendezvous.Proofs.Queues

/-!
# Each call gets the reply to its own request

However the steps of client, network and server follow each other, a call that returns a response
returns the one that the relay gave to the request of this very call, on the connection that the
request was written to (`calls_get_their_replies`). The replies under way are told apart by their
sequences, so the tokens of the calls must be distinct.

Three invariants carry this, one for each part of the way: requests are handled once (`Posted`),
replies stay on their connections (`Routed`), and the correlator hands a reply to the call with its
token, of which nothing is left once it has returned (`Settled`).
-/

namespace Rendezvous

open Relay (IsTold)

theorem Client.correlator_enqueue (c : Client) (call : Call) (q : Request) :
    (c.enqueue call q).correlator = c.correlator := by
  unfold enqueue
  split <;> rfl

theorem Client.correlator_unblock (c : Client) : c.unblock.correlator = c.correlator := by
  unfold unblock
  split
  · rfl
  · split <;> rfl

namespace Exchange

variable {mine : ConnectionId → Bool} {x y : Exchange} {m : Move}

/-- The reply to a request that was handled on a connection of the client. -/
def IsOwnReply (mine : ConnectionId → Bool) (x : Exchange) (r : Response) : Prop :=
  ∃ c, mine c = true ∧ x.IsReply c r

/-- A call that is over has a failure of its own or a reply under its token, and is not pending. -/
structure IsOver (mine : ConnectionId → Bool) (x : Exchange) (ret : Return) : Prop where
  began : ret.call ∈ x.calls.map (·.1)
  gone : x.client.correlator.pending.get? ret.call.token = none
  outcome : (ret.reply = none ∧
      (ret.outcome = .error .connectionClosed ∨ ret.outcome = .error .requestTimeout)) ∨
    ∃ r, ret.reply = some r ∧ ret.outcome = r.outcome ∧ r.sequence = ret.call.token ∧
      x.IsOwnReply mine r

/-- The correlator serves the calls, and has forgotten those that are over. -/
structure Settled (mine : ConnectionId → Bool) (x : Exchange) : Prop where
  serves : x.client.correlator.Serves (x.calls.map (·.1)) (x.IsOwnReply mine)
  ended : ∀ ret ∈ x.returns, x.IsOver mine ret

theorem mem_calls_of_isActive {call : Call} (active : x.isActive call = true) :
    call ∈ x.calls.map (·.1) := by
  unfold isActive at active
  obtain ⟨e, he, same⟩ := List.any_eq_true.1 (Bool.and_eq_true_iff.1 active).1
  exact List.mem_map.2 ⟨e, he, of_decide_eq_true same⟩

/-- Calls are only added. -/
theorem Steps.calls_prefix (s : x.Steps mine m y) : x.calls <+: y.calls := by
  cases s with
  | begin => exact List.prefix_append ..
  | takeFrame =>
    unfold act
    dsimp only
    split <;> exact List.prefix_refl _
  | takeResponse =>
    unfold act
    dsimp only
    split <;> exact List.prefix_refl _
  | _ => exact List.prefix_refl _

namespace Settled

theorem start {db : Database} {store : Option SnapshotStore} {files : Files} :
    (Exchange.start db store files).Settled mine where
  serves := .start
  ended _ h := by cases h

/-- The other parts of an exchange are of no matter. -/
theorem aside (h : x.Settled mine) (client : y.client = x.client) (calls : y.calls = x.calls)
    (handled : y.handled = x.handled) (returns : y.returns = x.returns) : y.Settled mine := by
  obtain ⟨serves, ended⟩ := h
  constructor
  · unfold IsOwnReply IsReply
    rw [client, calls, handled]
    exact serves
  · intro ret hret
    rw [returns] at hret
    obtain ⟨began, gone, outcome⟩ := ended ret hret
    constructor
    · rw [calls]
      exact began
    · rw [client]
      exact gone
    · unfold IsOwnReply IsReply
      rw [handled]
      exact outcome

/-- The client may change as long as it forgets requests only. -/
theorem client (h : x.Settled mine) (client : Client)
    (serves : client.correlator.Serves (x.calls.map (·.1)) (x.IsOwnReply mine))
    (less : ∀ {token p}, client.correlator.pending.get? token = some p →
      x.client.correlator.pending.get? token = some p) :
    ({ x with client := client } : Exchange).Settled mine where
  serves := serves
  ended ret hret := by
    have was := h.ended ret hret
    refine { was with gone := ?_ }
    cases hp : client.correlator.pending.get? ret.call.token with
    | none => rfl
    | some p =>
      have gone := was.gone
      rw [less hp] at gone
      cases gone

/-- A call that is over is added. -/
theorem returned (h : x.Settled mine) {client : Client} {ret : Return}
    (serves : client.correlator.Serves (x.calls.map (·.1)) (x.IsOwnReply mine))
    (less : ∀ {token p}, client.correlator.pending.get? token = some p →
      x.client.correlator.pending.get? token = some p)
    (ended : ({ x with client := client } : Exchange).IsOver mine ret) :
    ({ x with client := client, returns := x.returns ++ [ret] } : Exchange).Settled mine where
  serves := serves
  ended ret' hret := by
    rcases List.mem_append.1 hret with hret | hret
    · exact { (h.client client serves less).ended ret' hret with }
    · cases List.mem_singleton.1 hret
      exact { ended with }

theorem begin (h : x.Settled mine) {client : Client} {call : Call} {k : Correlator} {now : Nat}
    {a : Action} {tokens : List String} {q : Request}
    (distinct : ((x.calls ++ [(call, q)]).map (·.1.token)).Nodup)
    (registered : x.client.correlator.register now a tokens = some (k, call.token, call.waiter))
    (took : client.correlator = k) :
    ({ x with client := client, calls := x.calls ++ [(call, q)] } : Exchange).Settled mine := by
  have new : call.token ∉ x.calls.map (·.1.token) := by
    rw [List.map_append] at distinct
    intro old
    exact (List.nodup_append.1 distinct).2.2 _ old _ (List.mem_singleton.2 rfl) rfl
  constructor
  · show client.correlator.Serves ((x.calls ++ [(call, q)]).map (·.1)) _
    rw [took, List.map_append]
    exact h.serves.register registered
  · intro ret hret
    have was := h.ended ret hret
    refine ⟨?_, ?_, was.outcome⟩
    · show ret.call ∈ (x.calls ++ [(call, q)]).map (·.1)
      rw [List.map_append]
      exact List.mem_append_left _ was.began
    · show client.correlator.pending.get? ret.call.token = none
      cases hp : client.correlator.pending.get? ret.call.token with
      | none => rfl
      | some p =>
        rw [took] at hp
        rcases Correlator.pending_of_register registered hp with same | hp
        · obtain ⟨e, he, began⟩ := List.mem_map.1 was.began
          refine absurd (List.mem_map.2 ⟨e, he, ?_⟩) new
          rw [began, same]
        · have gone := was.gone
          rw [hp] at gone
          cases gone

/-- A call goes on: it takes its reply, or learns that there will be none. -/
theorem finish (h : x.Settled mine) (distinct : (x.calls.map (·.1.token)).Nodup) {call : Call}
    (known : call ∈ x.calls.map (·.1)) {client : Client} {outcome : Except ClientError Response}
    (finished : x.client.finish call = (client, some outcome)) :
    ({ x with
      client := client
      returns := x.returns ++ [⟨call, x.client.reply? call, outcome⟩] } : Exchange).Settled mine := by
  have f := x.client.finishes call
  rw [finished] at f
  unfold Client.reply?
  cases f with
  | @replied r found =>
    have gone := h.serves.not_pending_of_delivered known (by rwa [List.map_map]) found
    refine h.returned (h.serves.dropWaiter fun hp same => ?_) (fun hp => hp)
      ⟨known, gone, .inr ⟨r, ?_, rfl, ?_, ?_⟩⟩
    · have waits := (h.serves.pending hp).2
      rw [same, found] at waits
      cases waits
    · simp only [found]
    · exact h.serves.distinct (h.serves.delivered found).1 known
    · exact (h.serves.delivered found).2
  | cancelled found =>
    refine h.returned (h.serves.giveUp known) (fun hp => (Correlator.pending_of_erase hp).2)
      ⟨known, Correlator.not_mem_abandon .., .inl ⟨?_, .inl rfl⟩⟩
    simp only [found]

theorem timeOut (h : x.Settled mine) {call : Call} (known : call ∈ x.calls.map (·.1)) :
    ({ x with
      client := x.client.giveUp call
      returns := x.returns ++ [⟨call, none, .error .requestTimeout⟩] } : Exchange).Settled mine :=
  h.returned (h.serves.giveUp known) (fun hp => (Correlator.pending_of_erase hp).2)
    ⟨known, Correlator.not_mem_abandon .., .inl ⟨rfl, .inr rfl⟩⟩

/-- What the client takes in is an event or a reply to one of its own requests. -/
theorem receive (h : x.Settled mine) (routed : x.Routed mine) {c : ConnectionId}
    {frame body rest : Bytes} {left : Channel} (isMine : mine c = true)
    (taken : x.down.take? c = some (frame, left)) (read : Frame.read frame = (.ok body, rest)) :
    ({ x with client := x.client.receive body } : Exchange).Settled mine := by
  obtain ⟨r, framed, carries⟩ := routed.sent _ (Channel.mem_of_take? taken) isMine
  rw [framed.receive read]
  rcases carries with told | reply
  · have isEvent : r.isEvent = true := by
      simpa [Response.isEvent] using told.event_ne_empty
    unfold Client.dispatch
    rw [if_pos isEvent]
    exact h.client _ h.serves fun hp => hp
  · have isReply : r.isEvent = false := by
      obtain ⟨before, time, q, -, rfl⟩ := reply
      simp [Response.isEvent, (Relay.leads_dispatch before c time q).event_reply]
    unfold Client.dispatch
    rw [isReply]
    exact h.client _ (h.serves.resolve ⟨c, isMine, reply⟩) Correlator.pending_of_resolve

/-- What the relay reacts to makes no reply undone. -/
theorem react (h : x.Settled mine) {m : Moment} :
    ({ x with handled := x.handled ++ [m] } : Exchange).Settled mine := by
  have more : ∀ r, x.IsOwnReply mine r →
      ({ x with handled := x.handled ++ [m] } : Exchange).IsOwnReply mine r := by
    rintro r ⟨c, isMine, before, time, q, hm, hr⟩
    exact ⟨c, isMine, before, time, q, List.mem_append_left _ hm, hr⟩
  refine ⟨h.serves.mono more, fun ret hret => ?_⟩
  have was := h.ended ret hret
  refine { was with outcome := was.outcome.imp_right ?_ }
  rintro ⟨r, took, outcome, sequence, reply⟩
  exact ⟨r, took, outcome, sequence, more r reply⟩

/-- Each step keeps the calls and the correlator in agreement. -/
theorem step (h : x.Settled mine) (routed : x.Routed mine) (s : x.Steps mine m y)
    (distinct : (y.calls.map (·.1.token)).Nodup) : y.Settled mine := by
  have act : ∀ {x : Exchange} {time : UInt64} {did : Connection × Effect}, x.Settled mine →
      (x.act time did).Settled mine := by
    rintro x time ⟨c, effect⟩ h
    cases effect <;> exact h.aside rfl rfl rfl rfl
  cases s with
  | begin began =>
    obtain ⟨k, a, -, registered, rfl⟩ := Client.of_begin began
    exact h.begin distinct registered (Client.correlator_enqueue ..)
  | unblock =>
    refine h.client _ ?_ fun hp => ?_
    · rw [Client.correlator_unblock]
      exact h.serves
    · rwa [Client.correlator_unblock] at hp
  | finish active finished => exact h.finish distinct (mem_calls_of_isActive active) finished
  | timeOut active => exact h.timeOut (mem_calls_of_isActive active)
  | noteLogin => exact h.client _ h.serves fun hp => hp
  | noteLogout => exact h.client _ h.serves fun hp => hp
  | dial => exact h.client _ h.serves fun hp => hp
  | dialFailed => exact h.client _ h.serves fun hp => hp
  | dialed =>
    have dialed := h.client x.client.dialed h.serves fun hp => hp
    exact dialed.aside rfl rfl rfl rfl
  | @write _ _ rest =>
    have wrote := h.client { x.client with outbound := rest } h.serves fun hp => hp
    exact wrote.aside rfl rfl rfl rfl
  | drop => exact h.client _ (h.serves.abandon _) fun hp => (Correlator.pending_of_erase hp).2
  | stay => exact h
  | receive isMine taken read => exact (h.receive routed isMine taken read).aside rfl rfl rfl rfl
  | lose =>
    have lost := h.client x.client.lost h.serves.cancelAll fun hp => by cases hp
    exact lost.aside rfl rfl rfl rfl
  | others => exact h.aside rfl rfl rfl rfl
  | accept => exact h.aside rfl rfl rfl rfl
  | takeFrame => exact act (h.aside rfl rfl rfl rfl)
  | takeResponse => exact act (h.aside rfl rfl rfl rfl)
  | close => exact act h
  | @react e => exact (h.react (m := ⟨x.server.relay, e⟩)).aside rfl rfl rfl rfl

end Settled

/-- After every run in which no two calls have one token, all parts are in order. -/
theorem orderly {db : Database} {store : Option SnapshotStore} {files : Files} {ms : List Move}
    (run : (start db store files).run? mine ms = some x)
    (distinct : (x.calls.map (·.1.token)).Nodup) :
    x.Posted mine ∧ x.Routed mine ∧ x.Settled mine := by
  have all : x.Posted mine ∧ x.Routed mine ∧
      ((x.calls.map (·.1.token)).Nodup → x.Settled mine) := by
    refine induction (P := fun x => x.Posted mine ∧ x.Routed mine ∧
      ((x.calls.map (·.1.token)).Nodup → x.Settled mine)) ⟨.start, .start, fun _ => .start⟩ ?_ run
    rintro x m y ⟨posted, routed, settled⟩ s
    refine ⟨posted.step s, routed.step posted s, fun distinct => ?_⟩
    exact (settled (distinct.sublist (s.calls_prefix.sublist.map _))).step routed s distinct
  exact ⟨all.1, all.2.1, all.2.2 distinct⟩

/-- The response that a call has got: it lies where the call waits, or the call has returned. -/
def Gets (x : Exchange) (call : Call) (r : Response) : Prop :=
  (call ∈ x.calls.map (·.1) ∧ x.client.correlator.waiter? call.waiter = some (.delivered r)) ∨
    ∃ ret ∈ x.returns, ret.call = call ∧ ret.reply = some r

theorem Settled.of_gets (h : x.Settled mine) {call : Call} {r : Response} (gets : x.Gets call r) :
    call ∈ x.calls.map (·.1) ∧ r.sequence = call.token := by
  rcases gets with ⟨known, found⟩ | ⟨ret, hret, rfl, took⟩
  · exact ⟨known, h.serves.distinct (h.serves.delivered found).1 known⟩
  · obtain ⟨began, -, ⟨none, -⟩ | ⟨r', took', -, sequence, -⟩⟩ := h.ended ret hret
    · rw [took] at none
      cases none
    · rw [took] at took'
      cases took'
      exact ⟨began, sequence⟩

end Exchange

/-- Whatever happens in between, a call that returns a response or the relay's refusal returns the
reply to its own request, on the one connection that this was written to. No request of the client
is handled twice, no response reaches two calls, and no call is pending once it has returned. -/
theorem calls_get_their_replies {mine : ConnectionId → Bool} {db : Database}
    {store : Option SnapshotStore} {files : Files} {ms : List Move} {x : Exchange}
    (run : (Exchange.start db store files).run? mine ms = some x)
    (distinct : (x.calls.map (·.1.token)).Nodup) :
    (∀ ret ∈ x.returns,
      ((∃ r, ret.outcome = .ok r) ∨ ∃ text, ret.outcome = .error (.remote text)) →
      ∃ q c before time r, (ret.call, q) ∈ x.calls ∧ mine c = true ∧ (c, q) ∈ x.written ∧
        (∀ c', (c', q) ∈ x.written → c' = c) ∧ ⟨before, .request c time q⟩ ∈ x.handled ∧
        r = Relay.reply q (before.dispatch c time q).result ∧
        ret.reply = some r ∧ ret.outcome = r.outcome) ∧
    ((x.ownHandled mine).map (·.2)).Nodup ∧
    (∀ r call call', x.Gets call r → x.Gets call' r → call = call') ∧
    (∀ ret ∈ x.returns, x.client.correlator.pending.get? ret.call.token = none) := by
  obtain ⟨posted, -, settled⟩ := Exchange.orderly run distinct
  have tokens : ((x.calls.map (·.1)).map (·.token)).Nodup := by rwa [List.map_map]
  refine ⟨?_, posted.nodup_ownHandled distinct, ?_, fun ret hret => (settled.ended ret hret).gone⟩
  · intro ret hret replied
    obtain ⟨began, -, ⟨-, failed⟩ | ⟨r, took, outcome, sequence, c, isMine, before, time, q,
      handled, rfl⟩⟩ := settled.ended ret hret
    · rcases failed with failed | failed <;> simp [failed] at replied
    · have written := posted.mem_written_of_handled handled isMine
      obtain ⟨call, called⟩ := posted.mem_calls_of_written written
      -- the request and the call that returns have one token
      have same : call = ret.call := by
        refine List.inj_on_of_nodup_map tokens (List.mem_map_of_mem called) began ?_
        rw [← posted.sequence _ called, ← sequence]
        exact (Relay.sequence_reply ..).symm
      refine ⟨q, c, before, time, _, same ▸ called, isMine, written, ?_, handled, rfl, took,
        outcome⟩
      intro c' written'
      exact congrArg Prod.fst
        (List.inj_on_of_nodup_map (posted.nodup_written distinct) written' written rfl)
  · intro r call call' gets gets'
    obtain ⟨known, sequence⟩ := settled.of_gets gets
    obtain ⟨known', sequence'⟩ := settled.of_gets gets'
    exact List.inj_on_of_nodup_map tokens known known' (sequence.symm.trans sequence')

/-- The frame of a request. -/
def sampleFrame (q : Request) : Bytes :=
  BigEndian.word32 q.document.compact.length ++ q.document.compact

/-- Two calls are made at once, and a third one times out. In between, somebody else takes over the
identity of the client. -/
def sampleMoves : List Move :=
  [.dial, .dialed 1, .accept 1 64, .react, .accept 2 64, .react,
   .begin 0 ["t1"] (sampleLogin "bob1234567" false), .begin 0 ["t2"] (.ofAction .services),
   .write, .write, .takeFrame 1 0 "", .react, .takeFrame 1 0 "", .react,
   .begin 0 ["t3"] (.ofAction .logout),
   .others 2 (sampleFrame (sampleLogin "bob1234567" true)), .takeFrame 2 0 "", .react,
   .takeResponse 1, .takeResponse 1, .takeResponse 1, .receive 1, .receive 1, .receive 1,
   .finish ⟨"t2", 1⟩, .timeOut ⟨"t3", 2⟩, .finish ⟨"t1", 0⟩]

theorem calls_get_their_replies_sampleMoves :
    let mine : ConnectionId → Bool := (· = 1)
    ∃ x, (Exchange.start sampleDatabase none {}).run? mine sampleMoves = some x ∧
      (x.calls.map (·.1.token)).Nodup ∧
      ∃ ret ∈ x.returns, ret.call = ⟨"t1", 0⟩ ∧ ret.outcome = .ok { sequence := "t1" } ∧
        (∃ q c before time, (ret.call, q) ∈ x.calls ∧ (c, q) ∈ x.written ∧
          ⟨before, .request c time q⟩ ∈ x.handled ∧
          Relay.reply q (before.dispatch c time q).result = { sequence := "t1" }) ∧
        x.client.correlator.pending.get? ret.call.token = none := by
  intro mine
  have evaluated : ((Exchange.start sampleDatabase none {}).run? mine sampleMoves).map
      (fun x => (x.calls.map (·.1.token), x.returns[2]?)) =
      some (["t1", "t2", "t3"], some
        ⟨⟨"t1", 0⟩, some { sequence := "t1" }, .ok { sequence := "t1" }⟩) := by
    decide +kernel
  obtain ⟨x, run, found⟩ := Option.map_eq_some_iff.1 evaluated
  obtain ⟨tokens, third⟩ := Prod.mk.inj found
  have distinct : (x.calls.map (·.1.token)).Nodup := by
    rw [tokens]
    decide
  have returned := List.mem_of_getElem? third
  obtain ⟨replies, -, -, gone⟩ := calls_get_their_replies run distinct
  obtain ⟨q, c, before, time, r, called, -, written, -, handled, rfl, took, -⟩ :=
    replies _ returned (.inl ⟨_, rfl⟩)
  refine ⟨x, run, distinct, _, returned, rfl, rfl, ?_, gone _ returned⟩
  exact ⟨q, c, before, time, called, written, handled, (Option.some.inj took).symm⟩

end Rendezvous
