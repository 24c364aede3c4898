import Mathlib.Data.List.DropRight
import Mathlib.Data.List.Induction
import Rendezvous.Stun.Keepalive

/-!
# How a path is checked

A keepalive takes turns: it is started, a datagram arrives, a retry loop wakes. `Reacts` says all
that one turn can do, and what holds after every turn is derived from it.

There is one retry loop at most, since the flag that keeps a second one away is set exactly while
one is alive (`InOrder`). A path that is ready or given up stays so, requests are sent only while it
is checked, and which packets make it ready or are answered is told by what was sent before
(`path_is_checked_in_order`). And it is not left alone: a start begins the checking, and a loop that
wakes sends its request (`path_is_pursued`).
-/

namespace Rendezvous.Stun

/-- A transaction id to look at. -/
def sampleId : TransactionId := ⟨.replicate 12 7, rfl⟩

/-! ## Turns -/

/-- What happens to a keepalive, at an instant. -/
structure Turn where
  now : Nat
  input : Keepalive.Input
  /-- Whether the sink takes the packet that it is handed. The keepalive goes on alike. -/
  sinkWorks : Bool

/-- The id of a request. -/
def Outgoing.requestId? : Outgoing → Option TransactionId
  | request id => some id
  | response _ => none

/-- The moves that a state can make. -/
def KeepaliveState.leadsTo : KeepaliveState → KeepaliveState → Bool
  | .idle, .checking | .checking, .ready | .checking, .abandoned => true
  | _, _ => false

theorem KeepaliveState.leadsTo_of_isTerminal {s : KeepaliveState} (h : s.isTerminal = true)
    (t : KeepaliveState) : s.leadsTo t = false := by
  revert h
  cases s <;> cases t <;> decide

namespace Keepalive

/-- Takes a turn. -/
def turn (codec : BindingCodec) (k : Keepalive) (t : Turn) : Keepalive × Option Outgoing :=
  k.step codec t.now t.input

/-- Takes turns one after the other. -/
def after (codec : BindingCodec) (k : Keepalive) (ts : List Turn) : Keepalive :=
  ts.foldl (fun k t => (k.turn codec t).1) k

/-- The ids of the requests that are sent in some turns, oldest first. -/
def requested (codec : BindingCodec) (k : Keepalive) : List Turn → List TransactionId
  | [] => []
  | t :: ts =>
    ((k.turn codec t).2.bind Outgoing.requestId?).toList ++ ((k.turn codec t).1).requested codec ts

variable {codec : BindingCodec} {k : Keepalive} {now : Nat} {i : Input}

theorem after_append (ts us : List Turn) :
    k.after codec (ts ++ us) = (k.after codec ts).after codec us :=
  List.foldl_append ..

theorem after_snoc (ts : List Turn) (t : Turn) :
    k.after codec (ts ++ [t]) = ((k.after codec ts).turn codec t).1 :=
  after_append ts [t]

theorem requested_append (ts us : List Turn) :
    k.requested codec (ts ++ us) =
      k.requested codec ts ++ (k.after codec ts).requested codec us := by
  induction ts generalizing k with
  | nil => rfl
  | cons t ts ih =>
    rw [List.cons_append, requested, requested, ih, List.append_assoc]
    rfl

theorem requested_snoc (ts : List Turn) (t : Turn) :
    k.requested codec (ts ++ [t]) = k.requested codec ts ++
      (((k.after codec ts).turn codec t).2.bind Outgoing.requestId?).toList := by
  rw [requested_append, requested, requested, List.append_nil]

/-- What holds at first and is kept by every turn holds after all turns. -/
theorem after_induction {P : Keepalive → Prop} (start : P k)
    (turn : ∀ k t, P k → P (Keepalive.turn codec k t).1) (ts : List Turn) :
    P (k.after codec ts) := by
  induction ts generalizing k with
  | nil => exact start
  | cons t ts ih => exact ih (turn k t start)

/-! ## What a turn does -/

/-- The packet is a request that is answered. -/
structure Answers (k : Keepalive) (p : BindingPacket) : Prop where
  request : p.kind = .request
  accepted : k.accepts p.username = true
  localReady : k.localReady = true

/-- The packet is a response that makes the path ready. -/
structure Confirms (k : Keepalive) (p : BindingPacket) : Prop where
  response : p.kind = .response
  known : p.transactionId ∈ k.sent
  isOpen : k.state.isTerminal = false

/-- All that a step can do. -/
inductive Reacts (codec : BindingCodec) (k : Keepalive) (now : Nat) :
    Input → Keepalive × Option Outgoing → Prop
  | started : Reacts codec k now .start ((k.hear now).check now, none)
  | set {ready : Bool} : Reacts codec k now (.setLocalReady ready) (k.setLocalReady ready, none)
  | ignored {d : Bytes}
      (neither : ∀ p, codec.packet? d = some p → ¬ k.Answers p ∧ ¬ k.Confirms p) :
      Reacts codec k now (.receive d) (k.hear now, none)
  | answered {d : Bytes} {p : BindingPacket} (read : codec.packet? d = some p)
      (wanted : k.Answers p) :
      Reacts codec k now (.receive d)
        ((k.hear now).check now, some (.response p.transactionId))
  | confirmed {d : Bytes} {p : BindingPacket} (read : codec.packet? d = some p)
      (wanted : k.Confirms p) :
      Reacts codec k now (.receive d) ({ k.hear now with state := .ready }, none)
  | missed {loop : Nat} {id : TransactionId} (gone : k.loops[loop]? = none) :
      Reacts codec k now (.wake loop id) (k, none)
  | ended {loop : Nat} {id : TransactionId} {r : RetryLoop} (alive : k.loops[loop]? = some r)
      (finished : k.state ≠ .checking) :
      Reacts codec k now (.wake loop id) (k.endLoop loop, none)
  | gaveUp {loop : Nat} {id : TransactionId} {r : RetryLoop} (alive : k.loops[loop]? = some r)
      (checking : k.state = .checking) (slept : r.fresh = false)
      (silent : abandonAfter ≤ now - k.lastHeard) :
      Reacts codec k now (.wake loop id) ({ k with state := .abandoned }.endLoop loop, none)
  | requested {loop interval : Nat} {id : TransactionId} {r : RetryLoop}
      (alive : k.loops[loop]? = some r) (checking : k.state = .checking)
      (next : r.fresh = true ∧ interval = r.interval ∨
        now - k.lastHeard < abandonAfter ∧
          interval = nextInterval r.interval (now - k.lastHeard)) :
      Reacts codec k now (.wake loop id)
        (k.sendAndSleep loop now interval id, some (.request id))

theorem reacts_receive (d : Bytes) :
    k.Reacts codec now (.receive d) (k.step codec now (.receive d)) := by
  unfold step receive
  dsimp only
  split
  · next isStun =>
    split
    · next refused =>
      refine .ignored fun p read => ?_
      simp [BindingCodec.packet?, refused, Except.toOption] at read
    · next p parsed =>
      have read : codec.packet? d = some p := by
        simp [BindingCodec.packet?, isStun, parsed, Except.toOption]
      split
      · next request =>
        unfold receiveRequest
        split
        · next wanted =>
          obtain ⟨accepted, localReady⟩ := Bool.and_eq_true_iff.1 wanted
          exact .answered read ⟨request, accepted, localReady⟩
        · next unwanted =>
          refine .ignored fun p' read' => ?_
          cases read.symm.trans read'
          refine ⟨fun answers => unwanted ?_, fun confirms => ?_⟩
          · exact Bool.and_eq_true_iff.2 ⟨answers.accepted, answers.localReady⟩
          · cases request.symm.trans confirms.response
      · next response =>
        unfold receiveResponse
        split
        · next wanted =>
          obtain ⟨known, isOpen⟩ := Bool.and_eq_true_iff.1 wanted
          refine .confirmed read ⟨response, List.contains_iff_mem.1 known, ?_⟩
          rwa [Bool.not_eq_true', state_hear] at isOpen
        · next unwanted =>
          refine .ignored fun p' read' => ?_
          cases read.symm.trans read'
          refine ⟨fun answers => ?_, fun confirms => unwanted ?_⟩
          · cases response.symm.trans answers.request
          · refine Bool.and_eq_true_iff.2 ⟨List.contains_iff_mem.2 confirms.known, ?_⟩
            rw [Bool.not_eq_true', state_hear]
            exact confirms.isOpen
  · next notStun =>
    refine .ignored fun p read => ?_
    simp [BindingCodec.packet?, notStun] at read

theorem reacts_wake (loop : Nat) (id : TransactionId) :
    k.Reacts codec now (.wake loop id) (k.step codec now (.wake loop id)) := by
  unfold step wake
  dsimp only
  split
  · next gone => exact .missed gone
  · next r alive =>
    split
    · next finished => exact .ended alive finished
    · next checking =>
      have checking : k.state = .checking := Decidable.not_not.1 checking
      split
      · next fresh => exact .requested alive checking (.inl ⟨fresh, rfl⟩)
      · next slept =>
        split
        · next silent => exact .gaveUp alive checking (Bool.not_eq_true _ ▸ slept) silent
        · next heard => exact .requested alive checking (.inr ⟨Nat.lt_of_not_le heard, rfl⟩)

theorem reacts (codec : BindingCodec) (k : Keepalive) (now : Nat) (i : Input) :
    k.Reacts codec now i (k.step codec now i) := by
  cases i with
  | start => exact .started
  | setLocalReady ready => exact .set
  | receive d => exact reacts_receive d
  | wake loop id => exact reacts_wake loop id

/-! ## What stays as it is -/

theorem check_eq_or (k : Keepalive) (now : Nat) :
    k.check now = k ∨
      k.retrying = false ∧ k.state.isTerminal = false ∧
        k.check now = { k with
          retrying := true
          state := .checking
          loops := k.loops ++ [⟨now, micros initialInterval, true⟩] } := by
  unfold check
  split
  · exact .inl rfl
  · next free =>
    rw [Bool.or_eq_true, not_or, Bool.not_eq_true, Bool.not_eq_true] at free
    exact .inr ⟨free.1, free.2, rfl⟩

theorem ids_check (k : Keepalive) (now : Nat) :
    (k.check now).localId = k.localId ∧ (k.check now).remoteId = k.remoteId := by
  rcases k.check_eq_or now with same | ⟨-, -, spawned⟩
  · rw [same]
    exact ⟨rfl, rfl⟩
  · rw [spawned]
    exact ⟨rfl, rfl⟩

/-- A keepalive stays that of the same two peers. -/
theorem ids_step (codec : BindingCodec) (k : Keepalive) (now : Nat) (i : Input) :
    (k.step codec now i).1.localId = k.localId ∧
      (k.step codec now i).1.remoteId = k.remoteId := by
  have r := reacts codec k now i
  generalize k.step codec now i = after at r
  cases r with
  | started | answered => exact (k.hear now).ids_check now
  | _ => exact ⟨rfl, rfl⟩

theorem ids_after (codec : BindingCodec) (k : Keepalive) (ts : List Turn) :
    (k.after codec ts).localId = k.localId ∧ (k.after codec ts).remoteId = k.remoteId := by
  refine after_induction (P := fun k' => k'.localId = k.localId ∧ k'.remoteId = k.remoteId)
    ⟨rfl, rfl⟩ ?_ ts
  rintro k' t ⟨localId, remoteId⟩
  obtain ⟨sameLocal, sameRemote⟩ := ids_step codec k' t.now t.input
  exact ⟨sameLocal.trans localId, sameRemote.trans remoteId⟩

/-! ## What is kept up -/

/-- The parts of a keepalive fit together: the flag is set exactly while a loop is alive, and one is
alive while the path is checked. -/
structure InOrder (k : Keepalive) : Prop where
  loops : k.loops.length = k.retrying.toNat
  checking : k.state = .checking → k.retrying = true
  idle : k.state = .idle → k.retrying = false ∧ k.sent = []

namespace InOrder

theorem new (localId remoteId : String) (now : Nat) : (new localId remoteId now).InOrder where
  loops := rfl
  checking := nofun
  idle _ := ⟨rfl, rfl⟩

theorem length_loops_le_one (h : k.InOrder) : k.loops.length ≤ 1 := by
  rw [h.loops]
  exact Bool.toNat_le k.retrying

/-- A loop that is alive is the only one. -/
theorem alone (h : k.InOrder) {loop : Nat} {r : RetryLoop} (alive : k.loops[loop]? = some r) :
    loop = 0 ∧ k.loops = [r] ∧ k.retrying = true := by
  have le := h.length_loops_le_one
  obtain ⟨lt, found⟩ := List.getElem?_eq_some_iff.1 alive
  obtain rfl : loop = 0 := by omega
  have one : k.loops.length = 1 := by omega
  obtain ⟨r', loops⟩ := List.length_eq_one_iff.1 one
  refine ⟨rfl, ?_, ?_⟩
  · rw [loops] at alive ⊢
    exact congrArg ([·]) (Option.some.inj alive)
  · have flag := h.loops
    rw [one] at flag
    exact Bool.toNat_eq_one.1 flag.symm

theorem hear (h : k.InOrder) (now : Nat) : (k.hear now).InOrder :=
  ⟨h.loops, h.checking, h.idle⟩

theorem check (h : k.InOrder) (now : Nat) : (k.check now).InOrder := by
  rcases k.check_eq_or now with same | ⟨free, -, spawned⟩
  · rw [same]
    exact h
  · rw [spawned]
    refine ⟨?_, fun _ => rfl, nofun⟩
    rw [List.length_append, h.loops, free]
    rfl

theorem endLoop (h : k.InOrder) {loop : Nat} {r : RetryLoop} (alive : k.loops[loop]? = some r)
    (finished : k.state ≠ .checking) : (k.endLoop loop).InOrder where
  loops := by
    obtain ⟨rfl, loops, -⟩ := h.alone alive
    show (k.loops.eraseIdx 0).length = 0
    rw [loops]
    rfl
  checking := fun checking => absurd checking finished
  idle := fun idle => ⟨rfl, (h.idle idle).2⟩

theorem abandon (h : k.InOrder) : ({ k with state := .abandoned } : Keepalive).InOrder where
  loops := h.loops
  checking := nofun
  idle := nofun

theorem sendAndSleep (h : k.InOrder) {loop interval : Nat} {id : TransactionId}
    (checking : k.state = .checking) : (k.sendAndSleep loop now interval id).InOrder where
  loops := by
    show (k.loops.set ..).length = k.retrying.toNat
    rw [List.length_set]
    exact h.loops
  checking := h.checking
  idle := fun (idle : k.state = .idle) => by rw [checking] at idle; cases idle

theorem step (h : k.InOrder) (codec : BindingCodec) (now : Nat) (i : Input) :
    (k.step codec now i).1.InOrder := by
  have r := reacts codec k now i
  generalize k.step codec now i = after at r
  cases r with
  | started | answered => exact (h.hear now).check now
  | set => exact ⟨h.loops, h.checking, h.idle⟩
  | ignored => exact h.hear now
  | confirmed => exact ⟨h.loops, nofun, nofun⟩
  | missed => exact h
  | ended alive finished => exact h.endLoop alive finished
  | gaveUp alive => exact h.abandon.endLoop alive nofun
  | requested _ checking => exact h.sendAndSleep checking

theorem after (h : k.InOrder) (codec : BindingCodec) (ts : List Turn) :
    (k.after codec ts).InOrder :=
  after_induction h (fun _ t h => h.step codec t.now t.input) ts

/-- Only a path that is checked can become ready. -/
theorem confirms_iff (h : k.InOrder) (p : BindingPacket) :
    k.Confirms p ↔ k.state = .checking ∧ p.kind = .response ∧ p.transactionId ∈ k.sent := by
  constructor
  · rintro ⟨response, known, isOpen⟩
    refine ⟨?_, response, known⟩
    cases state : k.state with
    | checking => rfl
    | idle =>
      rw [(h.idle state).2] at known
      cases known
    | ready | abandoned =>
      rw [state] at isOpen
      cases isOpen
  · rintro ⟨checking, response, known⟩
    exact ⟨response, known, by rw [checking]; rfl⟩

end InOrder

/-! ## Where the state moves -/

theorem state_check (k : Keepalive) (now : Nat) :
    (k.check now).state = k.state ∨ k.state = .idle ∧ (k.check now).state = .checking := by
  rcases k.check_eq_or now with same | ⟨_, isOpen, spawned⟩
  · exact .inl (by rw [same])
  · rw [spawned]
    cases state : k.state with
    | idle => exact .inr ⟨rfl, rfl⟩
    | checking => exact .inl rfl
    | ready | abandoned =>
      rw [state] at isOpen
      cases isOpen

theorem InOrder.state_step (h : k.InOrder) (codec : BindingCodec) (now : Nat) (i : Input) :
    (k.step codec now i).1.state = k.state ∨
      k.state.leadsTo (k.step codec now i).1.state = true := by
  have r := reacts codec k now i
  generalize k.step codec now i = after at r
  cases r with
  | started | answered =>
    rcases (k.hear now).state_check now with same | ⟨idle, checking⟩
    · exact .inl same
    · right
      rw [checking]
      rw [state_hear] at idle
      rw [idle]
      rfl
  | confirmed _ wanted =>
    rw [((h.confirms_iff _).1 wanted).1]
    exact .inr rfl
  | gaveUp _ checking =>
    rw [checking]
    exact .inr rfl
  | _ => exact .inl rfl

/-- A path that is ready or given up stays so. -/
theorem InOrder.state_after (h : k.InOrder) (codec : BindingCodec)
    (terminal : k.state.isTerminal = true) (ts : List Turn) :
    (k.after codec ts).state = k.state := by
  refine (after_induction (P := fun k' => k'.InOrder ∧ k'.state = k.state) ⟨h, rfl⟩ ?_ ts).2
  rintro k' t ⟨h', same⟩
  refine ⟨h'.step codec t.now t.input, ?_⟩
  rcases h'.state_step codec t.now t.input with stays | moves
  · exact stays.trans same
  · rw [same, KeepaliveState.leadsTo_of_isTerminal terminal] at moves
    cases moves

/-! ## What a turn sends -/

theorem becomes_ready_iff (codec : BindingCodec) (k : Keepalive) (now : Nat) (i : Input) :
    (k.state ≠ .ready ∧ (k.step codec now i).1.state = .ready) ↔
      ∃ d p, i = .receive d ∧ codec.packet? d = some p ∧ k.Confirms p := by
  have r := reacts codec k now i
  generalize k.step codec now i = after at r
  constructor
  · rintro ⟨before, ready⟩
    cases r with
    | confirmed read wanted => exact ⟨_, _, rfl, read, wanted⟩
    | started | answered =>
      rcases (k.hear now).state_check now with same | ⟨-, checking⟩
      · exact absurd (same.symm.trans ready) before
      · cases checking.symm.trans ready
    | gaveUp => cases ready
    | _ => exact absurd ready before
  · rintro ⟨d, p, rfl, read, wanted⟩
    cases r with
    | confirmed =>
      refine ⟨fun ready => ?_, rfl⟩
      have isOpen := wanted.isOpen
      rw [ready] at isOpen
      cases isOpen
    | ignored neither => exact absurd wanted (neither p read).2
    | answered read' wanted' =>
      cases read.symm.trans read'
      cases wanted.response.symm.trans wanted'.request

/-- A path is given up by a loop that wakes when the silence is too long. -/
theorem gave_up (before : k.state ≠ .abandoned)
    (abandoned : (k.step codec now i).1.state = .abandoned) :
    ∃ loop id r, i = .wake loop id ∧ k.loops[loop]? = some r ∧ k.state = .checking ∧
      abandonAfter ≤ now - k.lastHeard := by
  have r := reacts codec k now i
  generalize k.step codec now i = after at r abandoned
  cases r with
  | gaveUp alive checking _ silent => exact ⟨_, _, _, rfl, alive, checking, silent⟩
  | started | answered =>
    rcases (k.hear now).state_check now with same | ⟨-, checking⟩
    · exact absurd (same.symm.trans abandoned) before
    · cases checking.symm.trans abandoned
  | confirmed => cases abandoned
  | _ => exact absurd abandoned before

theorem sends_response_iff (codec : BindingCodec) (k : Keepalive) (now : Nat) (i : Input)
    (id : TransactionId) :
    (k.step codec now i).2 = some (.response id) ↔
      ∃ d p, i = .receive d ∧ codec.packet? d = some p ∧ k.Answers p ∧ p.transactionId = id := by
  have r := reacts codec k now i
  generalize k.step codec now i = after at r
  constructor
  · intro sent
    cases r with
    | answered read wanted =>
      cases sent
      exact ⟨_, _, rfl, read, wanted, rfl⟩
    | _ => cases sent
  · rintro ⟨d, p, rfl, read, wanted, rfl⟩
    cases r with
    | answered read' =>
      cases read.symm.trans read'
      rfl
    | ignored neither => exact absurd wanted (neither p read).1
    | confirmed read' wanted' =>
      cases read.symm.trans read'
      cases wanted.request.symm.trans wanted'.response

theorem checking_of_request {id : TransactionId}
    (sent : (k.step codec now i).2 = some (.request id)) :
    k.state = .checking ∧ (k.step codec now i).1.state = .checking := by
  have r := reacts codec k now i
  generalize k.step codec now i = after at r sent
  cases r with
  | requested _ checking => exact ⟨checking, checking⟩
  | _ => cases sent

/-! ## Which requests are remembered -/

theorem remember_rtake (ids : List TransactionId) (id : TransactionId) :
    remember (ids.rtake sentHistory) id = (ids ++ [id]).rtake sentHistory := by
  have latest : (ids ++ [id]).rtake sentHistory = ids.rtake 31 ++ [id] :=
    List.rtake_concat_succ ids 31 id
  rw [latest, remember]
  congr 1
  simp only [List.rtake, sentHistory, List.length_drop]
  split
  · rw [List.tail_drop]
    congr 1
    omega
  · congr 1
    omega

theorem sent_check (k : Keepalive) (now : Nat) : (k.check now).sent = k.sent := by
  rcases k.check_eq_or now with same | ⟨-, -, spawned⟩
  · rw [same]
  · rw [spawned]

/-- Only the request that a turn sends is remembered by it. -/
theorem sent_step (codec : BindingCodec) (k : Keepalive) (now : Nat) (i : Input) :
    (k.step codec now i).1.sent =
      ((k.step codec now i).2.bind Outgoing.requestId?).elim k.sent (remember k.sent) := by
  have r := reacts codec k now i
  generalize k.step codec now i = after at r
  cases r with
  | started | answered => exact (k.hear now).sent_check now
  | _ => rfl

theorem sent_after (codec : BindingCodec) (localId remoteId : String) (created : Nat)
    (ts : List Turn) :
    ((new localId remoteId created).after codec ts).sent =
      ((new localId remoteId created).requested codec ts).rtake sentHistory := by
  induction ts using List.reverseRecOn with
  | nil => rfl
  | append_singleton ts t ih =>
    rw [after_snoc, requested_snoc]
    refine (sent_step codec _ t.now t.input).trans ?_
    unfold turn
    cases ((after codec _ ts).step codec t.now t.input).2.bind Outgoing.requestId? with
    | none =>
      rw [Option.toList_none, List.append_nil]
      exact ih
    | some id =>
      show remember _ id = _
      rw [ih, remember_rtake]
      rfl

/-! ## How it goes on -/

/-- A start begins the checking, with a loop that is due at once. -/
theorem InOrder.step_start (h : k.InOrder) (codec : BindingCodec) (now : Nat)
    (idle : k.state = .idle) :
    (k.step codec now .start).1.state = .checking ∧
      (k.step codec now .start).1.loops = [⟨now, micros initialInterval, true⟩] := by
  obtain ⟨free, -⟩ := h.idle idle
  have empty : k.loops = [] := by
    rw [← List.length_eq_zero_iff, h.loops, free]
    rfl
  simp [Keepalive.step, start, Keepalive.check, free, idle, empty, KeepaliveState.isTerminal]

/-- While the path is checked there is a loop. Its first request is sent whenever it wakes, and a
later one unless the silence is too long. -/
theorem InOrder.step_wake (h : k.InOrder) (codec : BindingCodec) (now : Nat)
    (checking : k.state = .checking) :
    ∃ r, k.loops = [r] ∧ ∀ id,
      if r.fresh ∨ now - k.lastHeard < abandonAfter then
        (k.step codec now (.wake 0 id)).2 = some (.request id)
      else (k.step codec now (.wake 0 id)).1.state = .abandoned := by
  have one : k.loops.length = 1 := by
    rw [h.loops, h.checking checking]
    rfl
  obtain ⟨r, loops⟩ := List.length_eq_one_iff.1 one
  refine ⟨r, loops, fun id => ?_⟩
  have alive : k.loops[0]? = some r := by rw [loops]; rfl
  have reacts := reacts codec k now (.wake 0 id)
  generalize k.step codec now (.wake 0 id) = after at reacts
  cases reacts with
  | missed gone => cases gone.symm.trans alive
  | ended _ finished => exact absurd checking finished
  | gaveUp alive' _ slept silent =>
    cases alive.symm.trans alive'
    rw [if_neg (by simp [slept, silent])]
    rfl
  | requested alive' _ next =>
    cases alive.symm.trans alive'
    rw [if_pos (next.imp And.left And.left)]

/-! ## Every schedule -/

/-- What one turn may do to the keepalive of a path, after the requests that were sent. -/
structure Lawful (codec : BindingCodec) (localId remoteId : String)
    (requests : List TransactionId) (k : Keepalive) (t : Turn) : Prop where
  /-- The state stays or makes one of its three moves. -/
  state : (k.turn codec t).1.state = k.state ∨
    k.state.leadsTo (k.turn codec t).1.state = true
  loops : (k.turn codec t).1.loops.length ≤ 1
  /-- Requests are sent only while the path is checked. -/
  request : ∀ id, (k.turn codec t).2 = some (.request id) →
    k.state = .checking ∧ (k.turn codec t).1.state = .checking
  /-- A path becomes ready exactly by a response to one of the last 32 requests. -/
  ready : (k.state ≠ .ready ∧ (k.turn codec t).1.state = .ready) ↔
    k.state = .checking ∧ ∃ d p, t.input = .receive d ∧ codec.packet? d = some p ∧
      p.kind = .response ∧ p.transactionId ∈ requests.rtake 32
  /-- A response is sent exactly for a request that names the two ends with one colon and comes
  while this end is ready, and under the id of the request. -/
  response : ∀ id, (k.turn codec t).2 = some (.response id) ↔
    ∃ d p, t.input = .receive d ∧ codec.packet? d = some p ∧ p.kind = .request ∧
      p.username = some (localId ++ ":" ++ remoteId) ∧
      (localId ++ ":" ++ remoteId).toList.count ':' = 1 ∧ k.localReady = true ∧
      p.transactionId = id

end Keepalive

open Keepalive in
/-- However a keepalive is scheduled, whatever arrives and whether or not its sink works: there is
one retry loop at most, a path that is ready or given up stays so, and every turn is lawful. What
the sink answers is only logged, so no step reads it. -/
theorem path_is_checked_in_order (codec : BindingCodec) (localId remoteId : String)
    (created : Nat) (past : List Turn) :
    let k₀ := new localId remoteId created
    let k := k₀.after codec past
    k.loops.length ≤ 1 ∧
      (k.state.isTerminal = true → ∀ later, (k.after codec later).state = k.state) ∧
      ∀ t, Lawful codec localId remoteId (k₀.requested codec past) k t := by
  intro k₀ k
  have h : k.InOrder := (InOrder.new localId remoteId created).after codec past
  refine ⟨h.length_loops_le_one, h.state_after codec, fun t => ?_⟩
  have h' : (k.turn codec t).1.InOrder := h.step codec t.now t.input
  refine ⟨h.state_step codec t.now t.input, h'.length_loops_le_one,
    fun _ => checking_of_request, ?_, fun id => ?_⟩
  · refine (becomes_ready_iff codec k t.now t.input).trans ?_
    have sent : k.sent = (k₀.requested codec past).rtake 32 :=
      sent_after codec localId remoteId created past
    simp only [h.confirms_iff, sent]
    constructor
    · rintro ⟨d, p, arrives, read, checking, response, known⟩
      exact ⟨checking, d, p, arrives, read, response, known⟩
    · rintro ⟨checking, d, p, arrives, read, response, known⟩
      exact ⟨d, p, arrives, read, checking, response, known⟩
  · refine (sends_response_iff codec k t.now t.input id).trans ?_
    have expected : k.expectedUsername = localId ++ ":" ++ remoteId := by
      obtain ⟨sameLocal, sameRemote⟩ := ids_after codec k₀ past
      show (k₀.after codec past).localId ++ ":" ++ (k₀.after codec past).remoteId = _
      rw [sameLocal, sameRemote]
      rfl
    constructor
    · rintro ⟨d, p, arrives, read, ⟨request, accepted, ready⟩, same⟩
      obtain ⟨username, one⟩ := (k.accepts_iff _).1 accepted
      rw [expected] at username one
      exact ⟨d, p, arrives, read, request, username, one, ready, same⟩
    · rintro ⟨d, p, arrives, read, request, username, one, ready, same⟩
      rw [← expected] at username one
      exact ⟨d, p, arrives, read, ⟨request, (k.accepts_iff _).2 ⟨username, one⟩, ready⟩, same⟩

open Keepalive in
/-- However a keepalive was scheduled, it moves on: a path that is idle is checked once it is
started, and the loop of a path that is checked sends a request whenever it wakes, or gives the peer
up after too long a silence. -/
theorem path_is_pursued (codec : BindingCodec) (localId remoteId : String) (created : Nat)
    (past : List Turn) (now : Nat) :
    let k := (new localId remoteId created).after codec past
    (k.state = .idle → (k.step codec now .start).1.state = .checking ∧
      (k.step codec now .start).1.loops = [⟨now, micros initialInterval, true⟩]) ∧
    (k.state = .checking → ∃ r, k.loops = [r] ∧ ∀ id,
      if r.fresh ∨ now - k.lastHeard < abandonAfter then
        (k.step codec now (.wake 0 id)).2 = some (.request id)
      else (k.step codec now (.wake 0 id)).1.state = .abandoned) := by
  intro k
  have h : k.InOrder := (InOrder.new localId remoteId created).after codec past
  exact ⟨h.step_start codec now, h.step_wake codec now⟩

end Rendezvous.Stun
