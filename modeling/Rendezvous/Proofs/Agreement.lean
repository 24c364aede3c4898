import Mathlib.Data.List.Induction
import Mathlib.Logic.Function.Basic
import Rendezvous.Proofs.Checking
import Rendezvous.Proofs.Packets

/-!
# The two ends of a path

Two keepalives with each other's ids exchange datagrams. A datagram that was sent may arrive at the
other end any number of times, at any later time and in any order, or never; datagrams that are no
STUN may arrive at any time, and no other ones do (`Ends.step?`).

So each response that an end sent answers a request that the other end sent before
(`Ends.HasAnswered`), and so does each response that makes an end ready. An end that has answered is
not idle any more: if one end of a path is ready, the other one has left its first state
(`ready_was_answered`).
-/

namespace Rendezvous.Stun

/-- The kind of a packet that is sent. -/
def Outgoing.kind : Outgoing → BindingKind
  | request _ => .request
  | response _ => .response

def Outgoing.transactionId : Outgoing → TransactionId
  | request id | response id => id

namespace Keepalive

variable {codec : BindingCodec} {k : Keepalive} {now : Nat} {i : Input}

/-- A packet that was sent is read as one of its kind and under its id, or not at all. -/
theorem of_packet?_datagram {sent : Outgoing} {p : BindingPacket}
    (read : BindingCodec.standard.packet? (k.datagram .standard sent) = some p) :
    p.kind = sent.kind ∧ p.transactionId = sent.transactionId := by
  cases sent with
  | request id =>
    have built : k.datagram .standard (.request id) = _ := buildRequest_eq id k.ownUsername
    rw [built] at read
    exact of_packet?_header read
  | response id =>
    cases (packet?_buildResponse id).symm.trans read
    exact ⟨rfl, rfl⟩

/-! ## Ends that are not idle -/

theorem InOrder.state_check_ne_idle (h : k.InOrder) (now : Nat) :
    (k.check now).state ≠ .idle := by
  unfold Keepalive.check
  split
  · next running =>
    intro idle
    rw [(h.idle idle).1, idle] at running
    cases running
  · exact nofun

theorem InOrder.state_ne_idle_of_response (h : k.InOrder) {id : TransactionId}
    (sent : (k.step codec now i).2 = some (.response id)) :
    (k.step codec now i).1.state ≠ .idle := by
  have r := reacts codec k now i
  generalize k.step codec now i = after at r sent
  cases r with
  | answered => exact (h.hear now).state_check_ne_idle now
  | _ => cases sent

theorem InOrder.state_ne_idle_step (h : k.InOrder) (active : k.state ≠ .idle) :
    (k.step codec now i).1.state ≠ .idle := by
  rcases h.state_step codec now i with same | moves
  · rw [same]
    exact active
  · intro idle
    rw [idle] at moves
    cases state : k.state <;> rw [state] at moves <;> cases moves

end Keepalive

/-! ## Two stations -/

/-- One of the two sides of a path. -/
inductive Side where
  | near
  | far
deriving DecidableEq

def Side.other : Side → Side
  | near => far
  | far => near

@[simp] theorem Side.other_other (e : Side) : e.other.other = e := by
  cases e <;> rfl

/-- What stands at one end of a path. -/
structure Station where
  keepalive : Keepalive
  /-- The packets that its sink has taken, oldest first. -/
  posted : List Outgoing

namespace Station

/-- Takes a turn. What is sent is posted if the sink works. -/
def turn (s : Station) (t : Turn) : Station where
  keepalive := (s.keepalive.turn .standard t).1
  posted := s.posted ++ if t.sinkWorks then (s.keepalive.turn .standard t).2.toList else []

def hasPosted (s : Station) (d : Bytes) : Bool :=
  s.posted.any (s.keepalive.datagram .standard · == d)

theorem hasPosted_iff {s : Station} {d : Bytes} :
    s.hasPosted d = true ↔ ∃ sent ∈ s.posted, s.keepalive.datagram .standard sent = d := by
  simp [hasPosted]

theorem mem_posted_turn {s : Station} {t : Turn} {sent : Outgoing}
    (h : sent ∈ (s.turn t).posted) :
    sent ∈ s.posted ∨ (s.keepalive.turn .standard t).2 = some sent := by
  rcases List.mem_append.1 h with old | new
  · exact .inl old
  · split at new
    · exact .inr (Option.mem_toList.1 new)
    · cases new

end Station

/-- Both ends of a path. -/
abbrev Ends := Side → Station

namespace Ends

/-- A path between two peers, found by each of them at some instant. -/
def new (a b : String) (created created' : Nat) : Ends
  | .near => ⟨.new a b created, []⟩
  | .far => ⟨.new b a created', []⟩

/-- A turn of one end. -/
structure Move where
  side : Side
  turn : Turn

/-- Only what the other end has posted and what is no STUN can arrive at an end. -/
def allows (p : Ends) (m : Move) : Bool :=
  match m.turn.input with
  | .receive d => !isStun d || (p m.side.other).hasPosted d
  | _ => true

def move (p : Ends) (m : Move) : Ends :=
  Function.update p m.side ((p m.side).turn m.turn)

/-- Makes a move if it is possible. -/
def step? (p : Ends) (m : Move) : Option Ends := if p.allows m then some (p.move m) else none

/-- Makes moves one after the other. -/
def run? (p : Ends) (ms : List Move) : Option Ends := ms.foldlM step? p

variable {p q start : Ends} {m : Move} {ms : List Move} {e : Side} {t : Turn} {id : TransactionId}

theorem step?_eq_some_iff : p.step? m = some q ↔ p.allows m = true ∧ p.move m = q := by
  unfold step?
  split <;> simp_all

theorem run?_cons (m : Move) (ms : List Move) :
    p.run? (m :: ms) = (p.step? m).bind (·.run? ms) := rfl

theorem run?_snoc (ms : List Move) (m : Move) :
    p.run? (ms ++ [m]) = (p.run? ms).bind (·.step? m) := by
  refine (List.foldlM_append ..).trans ?_
  congr
  funext q
  exact Option.bind_fun_some (q.step? m)

/-- What holds at first, and is kept by every move that is possible, holds after every run. -/
theorem induction {P : List Move → Ends → Prop} (base : P [] start)
    (step : ∀ ms p m, start.run? ms = some p → P ms p → p.allows m = true →
      P (ms ++ [m]) (p.move m)) (run : start.run? ms = some p) : P ms p := by
  induction ms using List.reverseRecOn generalizing p with
  | nil =>
    cases run
    exact base
  | append_singleton ms m ih =>
    rw [run?_snoc] at run
    obtain ⟨q, before, last⟩ := Option.bind_eq_some_iff.1 run
    obtain ⟨allowed, rfl⟩ := step?_eq_some_iff.1 last
    exact step ms q m before (ih before) allowed

theorem move_self (p : Ends) (e : Side) (t : Turn) : p.move ⟨e, t⟩ e = (p e).turn t :=
  Function.update_self ..

theorem move_of_ne (p : Ends) {m : Move} {e : Side} (ne : e ≠ m.side) : p.move m e = p e :=
  Function.update_of_ne ne ..

/-! ## What arrives -/

/-- A packet that arrives was posted by the other end. -/
theorem posted_of_arrives {d : Bytes} {packet : BindingPacket} (allowed : p.allows ⟨e, t⟩ = true)
    (arrives : t.input = .receive d) (read : BindingCodec.standard.packet? d = some packet) :
    ∃ sent ∈ (p e.other).posted, d = (p e.other).keepalive.datagram .standard sent ∧
      packet.kind = sent.kind ∧ packet.transactionId = sent.transactionId := by
  have stun : isStun d = true := by
    unfold BindingCodec.packet? at read
    split at read
    · assumption
    · cases read
  simp only [allows, arrives, stun] at allowed
  obtain ⟨sent, posted, rfl⟩ := Station.hasPosted_iff.1 allowed
  exact ⟨sent, posted, rfl, Keepalive.of_packet?_datagram read⟩

/-- An end that is ready to answer gets a request that the other end sent, and answers it. -/
structure AnswersRequest (p : Ends) (e : Side) (t : Turn) (id : TransactionId) : Prop where
  localReady : (p e).keepalive.localReady = true
  posted : .request id ∈ (p e.other).posted
  arrives : t.input = .receive ((p e.other).keepalive.datagram .standard (.request id))
  answer : ((p e).keepalive.turn .standard t).2 = some (.response id)

theorem answersRequest_of_response (allowed : p.allows ⟨e, t⟩ = true)
    (answer : ((p e).keepalive.turn .standard t).2 = some (.response id)) :
    p.AnswersRequest e t id := by
  obtain ⟨d, packet, arrives, read, wanted, rfl⟩ := (Keepalive.sends_response_iff ..).1 answer
  obtain ⟨sent, posted, rfl, kind, same⟩ := posted_of_arrives allowed arrives read
  cases sent with
  | request id =>
    rw [same] at answer ⊢
    exact ⟨wanted.localReady, posted, arrives, answer⟩
  | response id => cases wanted.request.symm.trans kind

theorem response_posted_of_ready (allowed : p.allows ⟨e, t⟩ = true)
    (before : (p e).keepalive.state ≠ .ready)
    (ready : ((p e).turn t).keepalive.state = .ready) :
    ∃ id, .response id ∈ (p e.other).posted := by
  obtain ⟨d, packet, arrives, read, wanted⟩ := (Keepalive.becomes_ready_iff ..).1 ⟨before, ready⟩
  obtain ⟨sent, posted, -, kind, -⟩ := posted_of_arrives allowed arrives read
  cases sent with
  | request id => cases wanted.response.symm.trans kind
  | response id => exact ⟨id, posted⟩

/-! ## What was answered -/

/-- In one of the moves that were made, an end answered a request of the other end. -/
def HasAnswered (start : Ends) (ms : List Move) (e : Side) (id : TransactionId) : Prop :=
  ∃ before t after p, ms = before ++ ⟨e, t⟩ :: after ∧ start.run? before = some p ∧
    p.AnswersRequest e t id

theorem HasAnswered.snoc (h : start.HasAnswered ms e id) (m : Move) :
    start.HasAnswered (ms ++ [m]) e id := by
  obtain ⟨before, t, after, p, rfl, run, answers⟩ := h
  exact ⟨before, t, after ++ [m], p, by rw [List.append_assoc, List.cons_append], run, answers⟩

theorem HasAnswered.last (run : start.run? ms = some p) (answers : p.AnswersRequest e t id) :
    start.HasAnswered (ms ++ [⟨e, t⟩]) e id :=
  ⟨ms, t, [], p, rfl, run, answers⟩

/-- What the ends of a path owe to each other: each response was sent for a request, and makes only
an end ready whose request was answered. -/
structure Honest (start : Ends) (ms : List Move) (p : Ends) : Prop where
  inOrder : ∀ e, (p e).keepalive.InOrder
  posted : ∀ e id, .response id ∈ (p e).posted → start.HasAnswered ms e id
  ready : ∀ e, (p e).keepalive.state = .ready → ∃ id, start.HasAnswered ms e.other id

namespace Honest

theorem new (a b : String) (created created' : Nat) :
    Honest (new a b created created') [] (new a b created created') where
  inOrder e := by
    cases e
    · exact .new a b created
    · exact .new b a created'
  posted e id posted := by
    cases e <;> cases posted
  ready e ready := by
    cases e <;> cases ready

theorem move (run : start.run? ms = some p) (h : Honest start ms p) (allowed : p.allows m = true) :
    Honest start (ms ++ [m]) (p.move m) := by
  obtain ⟨s, t⟩ := m
  constructor
  case inOrder =>
    intro e
    by_cases here : e = s
    · subst here
      rw [move_self]
      exact (h.inOrder e).step .standard t.now t.input
    · rw [move_of_ne p here]
      exact h.inOrder e
  case posted =>
    intro e id posted
    by_cases here : e = s
    · subst here
      rw [move_self] at posted
      rcases Station.mem_posted_turn posted with old | answer
      · exact (h.posted e id old).snoc _
      · exact .last run (answersRequest_of_response allowed answer)
    · rw [move_of_ne p here] at posted
      exact (h.posted e id posted).snoc _
  case ready =>
    intro e ready
    by_cases already : (p e).keepalive.state = .ready
    · obtain ⟨id, answered⟩ := h.ready e already
      exact ⟨id, answered.snoc _⟩
    · by_cases here : e = s
      · subst here
        rw [move_self] at ready
        obtain ⟨id, posted⟩ := response_posted_of_ready allowed already ready
        exact ⟨id, (h.posted e.other id posted).snoc _⟩
      · rw [move_of_ne p here] at ready
        exact absurd ready already

theorem of_run {a b : String} {created created' : Nat}
    (run : (Ends.new a b created created').run? ms = some p) :
    Honest (Ends.new a b created created') ms p :=
  induction (Honest.new a b created created') (fun _ _ _ run h => h.move run) run

end Honest

/-- An end that is not idle will never be idle again. -/
theorem ne_idle_of_run (inOrder : (p e).keepalive.InOrder) (active : (p e).keepalive.state ≠ .idle)
    (run : p.run? ms = some q) : (q e).keepalive.state ≠ .idle := by
  refine (induction (P := fun _ q => (q e).keepalive.InOrder ∧ (q e).keepalive.state ≠ .idle)
    ⟨inOrder, active⟩ ?_ run).2
  rintro - p ⟨s, t⟩ - ⟨inOrder, active⟩ -
  by_cases here : e = s
  · subst here
    rw [move_self]
    exact ⟨inOrder.step .standard t.now t.input, inOrder.state_ne_idle_step active⟩
  · rw [move_of_ne p here]
    exact ⟨inOrder, active⟩

end Ends

open Ends in
/-- If one end of a path is ready, the other end had answered one of its requests under its id while
it was ready to answer, and from then on it is never idle, whatever happens next. -/
theorem ready_was_answered {a b : String} {created created' : Nat} {ms : List Ends.Move} {p : Ends}
    {e : Side} (run : (Ends.new a b created created').run? ms = some p)
    (ready : (p e.other).keepalive.state = .ready) :
    ∃ id before t after q, ms = before ++ ⟨e, t⟩ :: after ∧
      (Ends.new a b created created').run? before = some q ∧ q.AnswersRequest e t id ∧
      ∀ later r, q.run? (⟨e, t⟩ :: later) = some r → (r e).keepalive.state ≠ .idle := by
  obtain ⟨id, before, t, after, q, split, begun, answers⟩ := (Honest.of_run run).ready _ ready
  rw [Side.other_other] at split answers
  refine ⟨id, before, t, after, q, split, begun, answers, fun later r continued => ?_⟩
  have inOrder := (Honest.of_run begun).inOrder e
  rw [run?_cons] at continued
  obtain ⟨q', step, rest⟩ := Option.bind_eq_some_iff.1 continued
  obtain ⟨-, rfl⟩ := step?_eq_some_iff.1 step
  refine ne_idle_of_run ?_ ?_ rest
  · rw [move_self]
    exact inOrder.step .standard t.now t.input
  · rw [move_self]
    exact inOrder.state_ne_idle_of_response answers.answer

/-- One end is ready to answer, gets the first request of the other one and answers it. -/
def sampleExchange : List Ends.Move :=
  [⟨.near, 0, .start, true⟩, ⟨.far, 0, .setLocalReady true, true⟩,
   ⟨.near, 0, .wake 0 sampleId, true⟩,
   ⟨.far, 20, .receive (buildRequest sampleId "bob1234567:alice12345"), true⟩,
   ⟨.near, 40, .receive (buildResponse sampleId), true⟩]

theorem ready_was_answered_sampleExchange :
    ∃ p, (Ends.new "alice12345" "bob1234567" 0 0).run? sampleExchange = some p ∧
      (p .near).keepalive.state = .ready ∧
      ∃ id before t after q, sampleExchange = before ++ ⟨.far, t⟩ :: after ∧
        (Ends.new "alice12345" "bob1234567" 0 0).run? before = some q ∧
        q.AnswersRequest .far t id ∧
        ∀ later r, q.run? (⟨.far, t⟩ :: later) = some r → (r .far).keepalive.state ≠ .idle := by
  have evaluated : ((Ends.new "alice12345" "bob1234567" 0 0).run? sampleExchange).map
      (fun p => (p .near).keepalive.state) = some .ready := by
    decide +kernel
  obtain ⟨p, run, ready⟩ := Option.map_eq_some_iff.1 evaluated
  exact ⟨p, run, ready, ready_was_answered run ready⟩

end Rendezvous.Stun
