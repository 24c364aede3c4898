import Rendezvous.Stun.Clocked
import Rendezvous.Proofs.Checking

/-!
# How long a silence may last

On its clock a keepalive may be started and may receive packets at any instant, and in any order
with the wake-ups of the same instant; but no loop sleeps past the instant when it is due
(`Clocked.step?`). Silence counts from what was heard last: the last packet or start.

While a path is checked, its loop is due before the silence has lasted for fifteen seconds
(`LoopOnTime`), however often packets come in the middle of its sleeps. So the peer is given up at
exactly that instant, and the requests that are sent in one silence lie half a second apart: there
are thirty at most (`silence_is_bounded`).
-/

namespace Rendezvous.Stun

open Keepalive (Input pause nextInterval)

/-! ## Sleeps -/

theorem pause_le (interval silence : Nat) : pause interval silence ≤ abandonAfter - silence := by
  unfold pause roundUp micros
  omega

/-- A loop sleeps half a second at least, unless the silence is too long before that. -/
theorem le_pause {interval : Nat} (h : micros initialInterval ≤ interval) (silence : Nat) :
    min initialInterval (abandonAfter - silence) ≤ pause interval silence := by
  unfold pause roundUp micros at *
  omega

/-- The intervals that a loop may have. -/
def IsInterval (interval : Nat) : Prop := micros 500 ≤ interval ∧ interval ≤ micros 7500

theorem isInterval_initial : IsInterval (micros initialInterval) := by
  unfold IsInterval micros initialInterval
  omega

theorem isInterval_next {interval silence : Nat} (heard : silence < abandonAfter)
    (h : IsInterval interval) : IsInterval (nextInterval interval silence) := by
  unfold IsInterval nextInterval micros initialInterval backoffAfter abandonAfter at *
  split
  · omega
  · split
    · omega
    · exact h

/-! ## What was heard -/

/-- Whether silence counts anew from it. -/
def Keepalive.Input.isHeard : Input → Bool
  | .start | .receive _ => true
  | _ => false

def Occurrence.isRequest (o : Occurrence) : Bool :=
  match o.sent with
  | some (.request _) => true
  | _ => false

/-- When something was heard last, as a log tells that has what came last at its front. -/
def lastHeard? (log : List Occurrence) : Option Nat :=
  (log.find? (·.input.isHeard)).map (·.time)

/-- The state at the end of a log. -/
def stateAfter (log : List Occurrence) : KeepaliveState := (log.head?.map (·.state)).getD .idle

/-- How many requests were sent since something was heard. -/
def requestsSince (log : List Occurrence) : Nat :=
  (log.takeWhile (!·.input.isHeard)).countP (·.isRequest)

theorem lastHeard?_cons (o : Occurrence) (log : List Occurrence) :
    lastHeard? (o :: log) = if o.input.isHeard then some o.time else lastHeard? log := by
  unfold lastHeard?
  cases heard : o.input.isHeard <;> simp [heard]

theorem requestsSince_cons (o : Occurrence) (log : List Occurrence) :
    requestsSince (o :: log) =
      if o.input.isHeard then 0 else requestsSince log + o.isRequest.toNat := by
  unfold requestsSince
  cases heard : o.input.isHeard
  · cases request : o.isRequest <;> simp [heard, request]
  · simp [heard]

/-- A stretch at the end of a log in which nothing is heard has no more requests than that. -/
theorem countP_le_requestsSince {stretch older : List Occurrence}
    (unheard : ∀ o ∈ stretch, o.input.isHeard = false) :
    stretch.countP (·.isRequest) ≤ requestsSince (stretch ++ older) := by
  unfold requestsSince
  rw [List.takeWhile_append_of_pos fun o ho => by rw [unheard o ho]; rfl, List.countP_append]
  exact Nat.le_add_right ..

/-- What is heard leaves the loops alone but for one that is started by it. -/
theorem Keepalive.step_of_heard (codec : BindingCodec) (k : Keepalive) (now : Nat) {i : Input}
    (heard : i.isHeard = true) :
    (k.step codec now i).1.lastHeard = now ∧ ∀ r ∈ (k.step codec now i).1.loops,
      r ∈ k.loops ∨ r = ⟨now, micros initialInterval, true⟩ := by
  have reacts := reacts codec k now i
  generalize k.step codec now i = after at reacts
  have checked : ((k.hear now).check now).lastHeard = now ∧
      ∀ r ∈ ((k.hear now).check now).loops,
        r ∈ k.loops ∨ r = ⟨now, micros initialInterval, true⟩ := by
    rcases (k.hear now).check_eq_or now with same | ⟨-, -, spawned⟩
    · rw [same]
      exact ⟨rfl, fun r hr => .inl hr⟩
    · rw [spawned]
      refine ⟨rfl, fun r hr => ?_⟩
      rcases List.mem_append.1 hr with hr | hr
      · exact .inl hr
      · exact .inr (List.mem_singleton.1 hr)
  cases reacts with
  | started | answered => exact checked
  | ignored | confirmed => exact ⟨rfl, fun r hr => .inl hr⟩
  | _ => cases heard

/-- A loop that was there before the path is found checked was checking it. -/
theorem Keepalive.InOrder.checking_of_mem_loops {k : Keepalive} (h : k.InOrder)
    {codec : BindingCodec} {now : Nat} {i : Input} {r : RetryLoop} (old : r ∈ k.loops)
    (checking : (k.step codec now i).1.state = .checking) : k.state = .checking := by
  rcases h.state_step codec now i with same | moves
  · exact same.symm.trans checking
  · rw [checking] at moves
    cases state : k.state with
    | checking => rfl
    | idle =>
      have none := h.loops
      rw [(h.idle state).1] at none
      rw [List.length_eq_zero_iff.1 none] at old
      cases old
    | ready | abandoned =>
      rw [state] at moves
      cases moves

namespace Clocked

variable {codec : BindingCodec} {c d : Clocked} {i : Input}

@[simp] theorem keepalive_act (codec : BindingCodec) (c : Clocked) (i : Input) :
    (c.act codec i).keepalive = (c.keepalive.step codec c.now i).1 := rfl

@[simp] theorem now_act (codec : BindingCodec) (c : Clocked) (i : Input) :
    (c.act codec i).now = c.now := rfl

theorem log_act (codec : BindingCodec) (c : Clocked) (i : Input) :
    (c.act codec i).log = ⟨c.now, i, (c.keepalive.step codec c.now i).2.map c.logged,
      (c.keepalive.step codec c.now i).1.state⟩ :: c.log := rfl

theorem isRequest_logged (c : Clocked) (time : Nat) (i : Input) (sent : Option Outgoing)
    (state : KeepaliveState) :
    (⟨time, i, sent.map c.logged, state⟩ : Occurrence).isRequest =
      (sent.bind Outgoing.requestId?).isSome := by
  rcases sent with _ | _ | _ <;> rfl

theorem lastHeard?_act (codec : BindingCodec) (c : Clocked) (i : Input) :
    lastHeard? (c.act codec i).log = if i.isHeard then some c.now else lastHeard? c.log :=
  lastHeard?_cons ..

theorem requestsSince_act (codec : BindingCodec) (c : Clocked) (i : Input) :
    requestsSince (c.act codec i).log =
      if i.isHeard then 0
      else requestsSince c.log +
        ((c.keepalive.step codec c.now i).2.bind Outgoing.requestId?).isSome.toNat := by
  rw [log_act, requestsSince_cons, isRequest_logged]

/-! ## Schedules on time -/

/-- A step of a schedule. -/
inductive Move where
  /-- Time passes. -/
  | wait (ms : Nat)
  | act (i : Input)

def Move.isHeard : Move → Bool
  | wait _ => false
  | act i => i.isHeard

/-- A loop wakes when it is due, and not before. -/
def allows (c : Clocked) : Input → Bool
  | .wake loop _ => c.keepalive.loops[loop]?.any (·.due ≤ c.now)
  | _ => true

/-- Makes a move if it can be made on time: no time passes while a loop is due. -/
def step? (codec : BindingCodec) (c : Clocked) (m : Move) : Option Clocked :=
  match m with
  | .wait ms =>
    if c.keepalive.loops.all (c.now + ms ≤ ·.due) then some { c with now := c.now + ms } else none
  | .act i => if c.allows i then some (c.act codec i) else none

/-- Makes moves one after the other. -/
def run? (codec : BindingCodec) (c : Clocked) (ms : List Move) : Option Clocked :=
  ms.foldlM (step? codec) c

/-- Every loop that is due at this instant has woken. -/
def IsSettled (c : Clocked) : Prop := ∀ r ∈ c.keepalive.loops, c.now < r.due

/-- What a move does when it is made. -/
inductive Steps (codec : BindingCodec) (c : Clocked) : Move → Clocked → Prop
  | wait {ms : Nat} (onTime : ∀ r ∈ c.keepalive.loops, c.now + ms ≤ r.due) :
      Steps codec c (.wait ms) { c with now := c.now + ms }
  | heard {i : Input} (heard : i.isHeard = true) : Steps codec c (.act i) (c.act codec i)
  | set {ready : Bool} :
      Steps codec c (.act (.setLocalReady ready)) (c.act codec (.setLocalReady ready))
  | woke {loop : Nat} {id : TransactionId} {r : RetryLoop}
      (alive : c.keepalive.loops[loop]? = some r) (due : r.due ≤ c.now) :
      Steps codec c (.act (.wake loop id)) (c.act codec (.wake loop id))

theorem steps_of_step? {m : Move} (h : c.step? codec m = some d) : c.Steps codec m d := by
  cases m with
  | wait ms =>
    simp only [step?] at h
    split at h
    · next onTime =>
      cases h
      exact .wait (by simpa using onTime)
    · cases h
  | act i =>
    simp only [step?] at h
    split at h
    · next allowed =>
      cases h
      cases i with
      | start | receive => exact .heard rfl
      | setLocalReady ready => exact .set
      | wake loop id =>
        obtain ⟨r, alive, due⟩ := (Option.any_eq_true _ _).1 allowed
        exact .woke alive (of_decide_eq_true due)
    · cases h

/-- What holds at first and is kept by every move of some kind holds after every run of such
moves. -/
theorem induction {M : Move → Prop} {P : Clocked → Prop} (start : P c)
    (step : ∀ c m d, P c → M m → c.Steps codec m d → P d) {ms : List Move}
    (all : ∀ m ∈ ms, M m) (run : c.run? codec ms = some d) : P d := by
  induction ms generalizing c with
  | nil =>
    cases run
    exact start
  | cons m ms ih =>
    obtain ⟨e, first, rest⟩ := Option.bind_eq_some_iff.1 run
    exact ih (step c m e start (all m (List.mem_cons_self ..)) (steps_of_step? first))
      (fun n hn => all n (List.mem_cons_of_mem _ hn)) rest

/-! ## Loops that are on time -/

/-- A loop of a path that is checked wakes before the silence is too long. Of the requests that were
sent in this silence, each but the first came half a second after the one before it. -/
structure LoopOnTime (c : Clocked) (r : RetryLoop) : Prop where
  due : r.due ≤ c.keepalive.lastHeard + abandonAfter
  fresh : r.fresh = true → r.due ≤ c.keepalive.lastHeard
  requests : requestsSince c.log = 0 ∨
    c.keepalive.lastHeard + min (initialInterval * requestsSince c.log) abandonAfter ≤ r.due

structure OnTime (c : Clocked) : Prop where
  inOrder : c.keepalive.InOrder
  state : stateAfter c.log = c.keepalive.state
  heard : lastHeard? c.log = some c.keepalive.lastHeard ∨ c.keepalive.state = .idle
  past : c.keepalive.lastHeard ≤ c.now
  asleep : ∀ r ∈ c.keepalive.loops, c.now ≤ r.due
  interval : ∀ r ∈ c.keepalive.loops, IsInterval r.interval
  loop : c.keepalive.state = .checking → ∀ r ∈ c.keepalive.loops, c.LoopOnTime r
  requests : requestsSince c.log ≤ 30

namespace OnTime

theorem new (localId remoteId : String) (now : Nat) : (new localId remoteId now).OnTime where
  inOrder := .new localId remoteId now
  state := rfl
  heard := .inr rfl
  past := Nat.le_refl now
  asleep := nofun
  interval := nofun
  loop := nofun
  requests := Nat.zero_le _

theorem wait (h : c.OnTime) {now : Nat} (later : c.now ≤ now)
    (asleep : ∀ r ∈ c.keepalive.loops, now ≤ r.due) : ({ c with now := now } : Clocked).OnTime where
  inOrder := h.inOrder
  state := h.state
  heard := h.heard
  past := Nat.le_trans h.past later
  asleep := asleep
  interval := h.interval
  loop checking r hr :=
    have onTime := h.loop checking r hr
    ⟨onTime.due, onTime.fresh, onTime.requests⟩
  requests := h.requests

/-- Something is heard. The loop sleeps on, or is just started. -/
theorem hear (h : c.OnTime) (heard : i.isHeard = true) : (c.act codec i).OnTime := by
  obtain ⟨lastHeard, loops⟩ := c.keepalive.step_of_heard codec c.now heard
  have none : requestsSince (c.act codec i).log = 0 := by
    rw [requestsSince_act, if_pos heard]
  constructor
  case inOrder => exact h.inOrder.step codec c.now i
  case state => rfl
  case heard =>
    left
    rw [lastHeard?_act, if_pos heard, keepalive_act, lastHeard]
  case past => exact Nat.le_of_eq lastHeard
  case asleep =>
    intro r hr
    rcases loops r hr with old | rfl
    · exact h.asleep r old
    · exact Nat.le_refl _
  case interval =>
    intro r hr
    rcases loops r hr with old | rfl
    · exact h.interval r old
    · exact isInterval_initial
  case loop =>
    intro checking r hr
    have due : r.due ≤ c.now + abandonAfter ∧ (r.fresh = true → r.due ≤ c.now) := by
      rcases loops r hr with old | rfl
      · have onTime := h.loop (h.inOrder.checking_of_mem_loops old checking) r old
        have past := h.past
        refine ⟨?_, fun fresh => Nat.le_trans (onTime.fresh fresh) past⟩
        have due := onTime.due
        omega
      · exact ⟨Nat.le_add_right .., fun _ => Nat.le_refl _⟩
    constructor
    · rw [keepalive_act, lastHeard]
      exact due.1
    · rw [keepalive_act, lastHeard]
      exact due.2
    · exact .inl none
  case requests =>
    rw [none]
    exact Nat.zero_le _

/-- Nothing is heard or sent, and the loops sleep on. -/
theorem aside (h : c.OnTime) (unheard : i.isHeard = false)
    (lastHeard : (c.keepalive.step codec c.now i).1.lastHeard = c.keepalive.lastHeard)
    (state : (c.keepalive.step codec c.now i).1.state = c.keepalive.state)
    (loops : (c.keepalive.step codec c.now i).1.loops = c.keepalive.loops)
    (sent : (c.keepalive.step codec c.now i).2 = none) : (c.act codec i).OnTime := by
  have same : requestsSince (c.act codec i).log = requestsSince c.log := by
    rw [requestsSince_act, unheard, sent]
    rfl
  constructor
  case inOrder => exact h.inOrder.step codec c.now i
  case state => rfl
  case heard =>
    rw [lastHeard?_act, unheard, keepalive_act, lastHeard, state]
    exact h.heard
  case past =>
    rw [keepalive_act, lastHeard]
    exact h.past
  case asleep =>
    rw [keepalive_act, loops]
    exact h.asleep
  case interval =>
    rw [keepalive_act, loops]
    exact h.interval
  case loop =>
    intro checking r hr
    rw [keepalive_act, state] at checking
    rw [keepalive_act, loops] at hr
    have onTime := h.loop checking r hr
    constructor
    · rw [keepalive_act, lastHeard]
      exact onTime.due
    · rw [keepalive_act, lastHeard]
      exact onTime.fresh
    · rw [keepalive_act, lastHeard, same]
      exact onTime.requests
  case requests =>
    rw [same]
    exact h.requests

/-- Something was heard before a loop was started. -/
theorem heard_of_alive (h : c.OnTime) {loop : Nat} {r : RetryLoop}
    (alive : c.keepalive.loops[loop]? = some r) :
    lastHeard? c.log = some c.keepalive.lastHeard := by
  refine h.heard.resolve_right fun idle => ?_
  have flag := (h.inOrder.alone alive).2.2
  rw [(h.inOrder.idle idle).1] at flag
  cases flag

/-- The loop ends, since the path is no longer checked. -/
theorem ended (h : c.OnTime) {loop : Nat} {r : RetryLoop}
    (alive : c.keepalive.loops[loop]? = some r) (unheard : i.isHeard = false)
    (lastHeard : (c.keepalive.step codec c.now i).1.lastHeard = c.keepalive.lastHeard)
    (state : (c.keepalive.step codec c.now i).1.state ≠ .checking)
    (loops : (c.keepalive.step codec c.now i).1.loops = [])
    (sent : (c.keepalive.step codec c.now i).2 = none) :
    (c.act codec i).OnTime ∧ (c.act codec i).IsSettled := by
  have settled : (c.act codec i).IsSettled := by
    unfold IsSettled
    rw [keepalive_act, loops]
    exact nofun
  refine ⟨?_, settled⟩
  constructor
  case inOrder => exact h.inOrder.step codec c.now i
  case state => rfl
  case heard =>
    left
    rw [lastHeard?_act, unheard, keepalive_act, lastHeard]
    exact h.heard_of_alive alive
  case past =>
    rw [keepalive_act, lastHeard]
    exact h.past
  case asleep => exact fun r hr => Nat.le_of_lt (settled r hr)
  case interval =>
    rw [keepalive_act, loops]
    exact nofun
  case loop => exact fun checking => absurd checking state
  case requests =>
    rw [requestsSince_act, unheard, sent]
    exact h.requests

/-- A loop that wakes on time to send a request will be on time again. -/
theorem next (h : c.OnTime) {loop interval : Nat} {r : RetryLoop}
    (alive : c.keepalive.loops[loop]? = some r) (checking : c.keepalive.state = .checking)
    (due : r.due ≤ c.now) (isInterval : IsInterval interval)
    (heard : r.fresh = true ∨ c.now - c.keepalive.lastHeard < abandonAfter) :
    let later := c.now + pause interval (c.now - c.keepalive.lastHeard)
    c.now < later ∧ later ≤ c.keepalive.lastHeard + abandonAfter ∧
      c.keepalive.lastHeard +
        min (initialInterval * (requestsSince c.log + 1)) abandonAfter ≤ later ∧
      requestsSince c.log + 1 ≤ 30 := by
  intro later
  have mem := List.mem_of_getElem? alive
  have onTime := h.loop checking r mem
  have asleep := h.asleep r mem
  have past := h.past
  have silence : c.now - c.keepalive.lastHeard < abandonAfter := by
    rcases heard with fresh | heard
    · have started := onTime.fresh fresh
      unfold abandonAfter
      omega
    · exact heard
  have least := le_pause isInterval.1 (c.now - c.keepalive.lastHeard)
  have most := pause_le interval (c.now - c.keepalive.lastHeard)
  have requests := onTime.requests
  simp only [later, initialInterval, abandonAfter] at *
  omega

/-- A loop sends a request on time. -/
theorem requested (h : c.OnTime) {interval : Nat} {id : TransactionId} {r : RetryLoop}
    (alive : c.keepalive.loops[0]? = some r) (checking : c.keepalive.state = .checking)
    (due : r.due ≤ c.now) (isInterval : IsInterval interval)
    (heard : r.fresh = true ∨ c.now - c.keepalive.lastHeard < abandonAfter)
    (made : c.keepalive.step codec c.now (.wake 0 id) =
      (c.keepalive.sendAndSleep 0 c.now interval id, some (.request id))) :
    (c.act codec (.wake 0 id)).OnTime ∧ (c.act codec (.wake 0 id)).IsSettled := by
  obtain ⟨later, inTime, spaced, few⟩ := h.next alive checking due isInterval heard
  have counted : requestsSince (c.act codec (.wake 0 id)).log = requestsSince c.log + 1 := by
    rw [requestsSince_act, made]
    rfl
  have loops : (c.act codec (.wake 0 id)).keepalive.loops =
      [⟨c.now + pause interval (c.now - c.keepalive.lastHeard), interval, false⟩] := by
    rw [keepalive_act, made]
    show c.keepalive.loops.set 0 _ = _
    rw [(h.inOrder.alone alive).2.1]
    rfl
  have lastHeard :
      (c.act codec (.wake 0 id)).keepalive.lastHeard = c.keepalive.lastHeard := by
    rw [keepalive_act, made]
    rfl
  have settled : (c.act codec (.wake 0 id)).IsSettled := by
    unfold IsSettled
    rw [loops]
    intro r hr
    rw [List.mem_singleton.1 hr]
    exact later
  refine ⟨?_, settled⟩
  constructor
  case inOrder => exact h.inOrder.step codec c.now (.wake 0 id)
  case state => rfl
  case heard =>
    left
    rw [lastHeard]
    exact (lastHeard?_act ..).trans (h.heard_of_alive alive)
  case past =>
    rw [lastHeard]
    exact h.past
  case asleep => exact fun r hr => Nat.le_of_lt (settled r hr)
  case interval =>
    rw [loops]
    intro r hr
    rw [List.mem_singleton.1 hr]
    exact isInterval
  case loop =>
    rw [loops]
    intro _ r hr
    rw [List.mem_singleton.1 hr]
    refine ⟨?_, nofun, .inr ?_⟩
    · rw [lastHeard]
      exact inTime
    · rw [lastHeard, counted]
      exact spaced
  case requests =>
    rw [counted]
    exact few

/-- A loop that wakes on time is not due again at that instant. -/
theorem wake (codec : BindingCodec) (h : c.OnTime) {loop : Nat} (id : TransactionId)
    {r : RetryLoop} (alive : c.keepalive.loops[loop]? = some r) (due : r.due ≤ c.now) :
    (c.act codec (.wake loop id)).OnTime ∧ (c.act codec (.wake loop id)).IsSettled := by
  obtain ⟨rfl, loops, -⟩ := h.inOrder.alone alive
  have reacts := c.keepalive.reacts codec c.now (.wake 0 id)
  generalize made : c.keepalive.step codec c.now (.wake 0 id) = after at reacts
  have isInterval := h.interval r (List.mem_of_getElem? alive)
  cases reacts with
  | missed gone =>
    rw [alive] at gone
    cases gone
  | ended _ finished =>
    refine h.ended alive rfl ?_ ?_ ?_ ?_ <;> rw [made]
    · rfl
    · exact finished
    · show c.keepalive.loops.eraseIdx 0 = []
      rw [loops]
      rfl
  | gaveUp =>
    refine h.ended alive rfl ?_ ?_ ?_ ?_ <;> rw [made]
    · rfl
    · exact nofun
    · show c.keepalive.loops.eraseIdx 0 = []
      rw [loops]
      rfl
  | requested alive' checking next =>
    cases alive.symm.trans alive'
    rcases next with ⟨fresh, rfl⟩ | ⟨heard, rfl⟩
    · exact h.requested alive checking due isInterval (.inl fresh) made
    · exact h.requested alive checking due (isInterval_next heard isInterval) (.inr heard) made

/-- Each move that is made on time keeps everything on time. -/
theorem step {m : Move} (h : c.OnTime) (s : c.Steps codec m d) : d.OnTime := by
  cases s with
  | wait onTime => exact h.wait (Nat.le_add_right ..) onTime
  | heard heard => exact h.hear heard
  | set => exact h.aside rfl rfl rfl rfl rfl
  | woke alive due => exact (h.wake codec _ alive due).1

theorem run {ms : List Move} (h : c.OnTime) (run : c.run? codec ms = some d) : d.OnTime :=
  induction (M := fun _ => True) h (fun _ _ _ h _ s => h.step s) (fun _ _ => trivial) run

/-- The peer is given up at the instant when the silence is too long. -/
theorem given_up (h : c.OnTime) (s : c.Steps codec (.act i) d)
    (before : c.keepalive.state ≠ .abandoned) (after : d.keepalive.state = .abandoned) :
    lastHeard? c.log = some c.keepalive.lastHeard ∧
      c.now = c.keepalive.lastHeard + abandonAfter := by
  have made : d = c.act codec i := by cases s <;> rfl
  rw [made] at after
  obtain ⟨loop, id, r, rfl, alive, checking, silent⟩ := Keepalive.gave_up before after
  cases s with
  | heard heard => cases heard
  | woke alive' due =>
    have mem := List.mem_of_getElem? alive
    have inTime : c.now ≤ c.keepalive.lastHeard + abandonAfter :=
      Nat.le_trans (h.asleep r mem) (h.loop checking r mem).due
    refine ⟨h.heard_of_alive alive, ?_⟩
    simp only [abandonAfter] at *
    omega

/-- While the path is checked and no loop is due, the silence is not too long. -/
theorem silence_lt (h : c.OnTime) (settled : c.IsSettled)
    (checking : c.keepalive.state = .checking) :
    lastHeard? c.log = some c.keepalive.lastHeard ∧
      c.now < c.keepalive.lastHeard + abandonAfter := by
  have one : c.keepalive.loops.length = 1 := by
    rw [h.inOrder.loops, h.inOrder.checking checking]
    rfl
  obtain ⟨r, loops⟩ := List.length_eq_one_iff.1 one
  have mem : r ∈ c.keepalive.loops := by
    rw [loops]
    exact List.mem_singleton_self r
  have alive : c.keepalive.loops[0]? = some r := by
    rw [loops]
    rfl
  exact ⟨h.heard_of_alive alive, Nat.lt_of_lt_of_le (settled r mem) (h.loop checking r mem).due⟩

end OnTime

/-! ## Letting time pass -/

/-- A path cannot become ready while nothing is heard. -/
theorem abandoned_of_unheard (unheard : i.isHeard = false)
    (checking : c.keepalive.state = .checking)
    (moves : c.keepalive.state.leadsTo (c.keepalive.step codec c.now i).1.state = true) :
    (c.keepalive.step codec c.now i).1.state = .abandoned := by
  cases state : (c.keepalive.step codec c.now i).1.state with
  | abandoned => rfl
  | ready =>
    have before : c.keepalive.state ≠ .ready := by
      rw [checking]
      exact nofun
    obtain ⟨d, p, rfl, -⟩ := (Keepalive.becomes_ready_iff ..).1 ⟨before, state⟩
    cases unheard
  | idle | checking =>
    rw [checking, state] at moves
    cases moves

/-- While nothing is heard, a path that is checked stays so until it is given up. -/
theorem OnTime.unheard {ms : List Move} {heard : Nat} (h : c.OnTime)
    (checking : c.keepalive.state = .checking) (last : lastHeard? c.log = some heard)
    (unheard : ∀ m ∈ ms, m.isHeard = false) (run : c.run? codec ms = some d) :
    d.OnTime ∧ lastHeard? d.log = some heard ∧ (d.keepalive.state = .checking ∨
      d.keepalive.state = .abandoned ∧ heard + abandonAfter ≤ d.now) := by
  refine induction (M := fun m => m.isHeard = false) (P := fun d => d.OnTime ∧
    lastHeard? d.log = some heard ∧ (d.keepalive.state = .checking ∨
      d.keepalive.state = .abandoned ∧ heard + abandonAfter ≤ d.now))
    ⟨h, last, .inl checking⟩ ?_ unheard run
  rintro c m d ⟨h, last, state⟩ unheard s
  refine ⟨h.step s, ?_⟩
  cases m with
  | wait ms =>
    cases s
    refine ⟨last, state.imp_right fun given => ⟨given.1, ?_⟩⟩
    exact Nat.le_add_right_of_le given.2
  | act i =>
    have unheard : i.isHeard = false := unheard
    have made : d = c.act codec i := by cases s <;> rfl
    have last' : lastHeard? d.log = some heard := by
      rw [made, lastHeard?_act, unheard]
      exact last
    refine ⟨last', ?_⟩
    rcases h.inOrder.state_step codec c.now i with same | moves
    · have same : d.keepalive.state = c.keepalive.state := by
        rw [made]
        exact same
      rw [same, made]
      exact state
    · rcases state with checking | ⟨abandoned, -⟩
      · have before : c.keepalive.state ≠ .abandoned := by
          rw [checking]
          exact nofun
        have after : d.keepalive.state = .abandoned := by
          rw [made]
          exact abandoned_of_unheard unheard checking moves
        obtain ⟨last', now⟩ := h.given_up s before after
        cases last.symm.trans last'
        refine .inr ⟨after, ?_⟩
        rw [made, now_act, now]
      · rw [KeepaliveState.leadsTo_of_isTerminal (by rw [abandoned]; rfl)] at moves
        cases moves

theorem run?_cons (m : Move) (ms : List Move) :
    c.run? codec (m :: ms) = (c.step? codec m).bind (·.run? codec ms) := rfl

/-- Time can always pass up to the instant when the loop is due, and then the loop wakes. -/
theorem OnTime.run?_wake (h : c.OnTime) {r : RetryLoop} {rest : List RetryLoop}
    (loops : c.keepalive.loops = r :: rest) (id : TransactionId) (ms : List Move) :
    c.run? codec (.wait (r.due - c.now) :: .act (.wake 0 id) :: ms) =
      ({ c with now := r.due }.act codec (.wake 0 id)).run? codec ms := by
  have mem : r ∈ c.keepalive.loops := by
    rw [loops]
    exact List.mem_cons_self ..
  have alive : c.keepalive.loops[0]? = some r := by
    rw [loops]
    rfl
  have now : c.now + (r.due - c.now) = r.due := Nat.add_sub_cancel' (h.asleep r mem)
  have waited : c.step? codec (.wait (r.due - c.now)) = some { c with now := r.due } := by
    unfold step?
    dsimp only
    rw [now, if_pos]
    rw [(h.inOrder.alone alive).2.1]
    simp
  have woke : ({ c with now := r.due } : Clocked).step? codec (.act (.wake 0 id)) =
      some ({ c with now := r.due }.act codec (.wake 0 id)) := by
    unfold step?
    dsimp only
    rw [if_pos]
    show c.keepalive.loops[0]?.any _ = true
    rw [alive]
    simp
  rw [run?_cons, waited, Option.bind_some, run?_cons, woke, Option.bind_some]

/-- The wake-ups up to an instant are a run on time, in which nothing is heard. There is fuel for
all of them, since each lies after the one before it. -/
theorem OnTime.runUpTo (codec : BindingCodec) (h : c.OnTime) (source : Nat → TransactionId)
    (limit fuel : Nat) (past : c.now ≤ limit)
    (enough : ∀ r ∈ c.keepalive.loops, limit < r.due + fuel) :
    let d := runUpTo codec source limit fuel c
    (∃ ms, (∀ m ∈ ms, m.isHeard = false) ∧ c.run? codec ms = some d) ∧ d.now ≤ limit ∧
      ∀ r ∈ d.keepalive.loops, limit < r.due := by
  induction fuel generalizing c with
  | zero => exact ⟨⟨[], nofun, rfl⟩, past, enough⟩
  | succ fuel ih =>
    unfold Clocked.runUpTo
    split
    · next none =>
      refine ⟨⟨[], nofun, rfl⟩, past, ?_⟩
      rw [none]
      exact nofun
    · next r rest loops =>
      have alive : c.keepalive.loops[0]? = some r := by
        rw [loops]
        rfl
      have single := (h.inOrder.alone alive).2.1
      have mem : r ∈ c.keepalive.loops := List.mem_of_getElem? alive
      split
      · next due =>
        have waited : ({ c with now := r.due } : Clocked).OnTime := by
          refine h.wait (h.asleep r mem) ?_
          rw [single]
          intro r' hr'
          rw [List.mem_singleton.1 hr']
        obtain ⟨onTime, settled⟩ :=
          waited.wake codec (source c.keepalive.issued) alive (Nat.le_refl r.due)
        have enough' : ∀ r' ∈ (({ c with now := r.due } : Clocked).act codec
            (.wake 0 (source c.keepalive.issued))).keepalive.loops, limit < r'.due + fuel := by
          intro r' hr'
          have later : r.due < r'.due := settled r' hr'
          have before := enough r mem
          omega
        obtain ⟨⟨ms, unheard, run⟩, rest⟩ := ih onTime due enough'
        refine ⟨⟨_, ?_, (h.run?_wake loops (source c.keepalive.issued) ms).trans run⟩, rest⟩
        intro m hm
        rcases List.mem_cons.1 hm with rfl | hm
        · rfl
        · rcases List.mem_cons.1 hm with rfl | hm
          · rfl
          · exact unheard m hm
      · next notDue =>
        refine ⟨⟨[], nofun, rfl⟩, past, ?_⟩
        rw [single]
        intro r' hr'
        rw [List.mem_singleton.1 hr']
        exact Nat.lt_of_not_le notDue

theorem run?_append (ms ns : List Move) :
    c.run? codec (ms ++ ns) = (c.run? codec ms).bind (·.run? codec ns) :=
  List.foldlM_append ..

/-- Time can pass without anything being heard, and leaves no loop due. -/
theorem OnTime.pass (h : c.OnTime) (source : Nat → TransactionId) (ms : Nat) :
    ∃ later, (∀ m ∈ later, m.isHeard = false) ∧
      c.run? codec later = some (c.pass codec source ms) ∧
      (c.pass codec source ms).IsSettled ∧ (c.pass codec source ms).now = c.now + ms := by
  obtain ⟨⟨moves, unheard, run⟩, past, settled⟩ :=
    h.runUpTo codec source (c.now + ms) (c.now + ms + 3) (Nat.le_add_right ..) fun r _ => by omega
  generalize made : Clocked.runUpTo codec source (c.now + ms) (c.now + ms + 3) c = d at *
  have passed : c.pass codec source ms = { d with now := c.now + ms } := by
    rw [← made]
    rfl
  have now : d.now + (c.now + ms - d.now) = c.now + ms := Nat.add_sub_cancel' past
  have waited : d.step? codec (.wait (c.now + ms - d.now)) =
      some { d with now := c.now + ms } := by
    unfold step?
    dsimp only
    rw [now, if_pos]
    rw [List.all_eq_true]
    exact fun r hr => decide_eq_true (Nat.le_of_lt (settled r hr))
  rw [passed]
  refine ⟨moves ++ [.wait (c.now + ms - d.now)], ?_, ?_, settled, rfl⟩
  · intro m hm
    rcases List.mem_append.1 hm with hm | hm
    · exact unheard m hm
    · rw [List.mem_singleton.1 hm]
      rfl
  · rw [run?_append, run, Option.bind_some, run?_cons, waited]
    rfl

/-! ## Every schedule -/

/-- What the log of a keepalive tells, what came last at its front. -/
structure Recorded (log : List Occurrence) : Prop where
  /-- The peer is given up exactly fifteen seconds after something was heard last. -/
  abandoned : ∀ newer o older, log = newer ++ o :: older → o.state = .abandoned →
    stateAfter older ≠ .abandoned →
      ∃ heard, lastHeard? older = some heard ∧ o.time = heard + 15000
  /-- While nothing is heard, thirty requests are sent at most. -/
  requests : ∀ newer silent older, log = newer ++ silent ++ older →
    (∀ o ∈ silent, o.input.isHeard = false) → silent.countP (·.isRequest) ≤ 30

theorem Recorded.nil : Recorded [] where
  abandoned newer o older log := by simp at log
  requests newer silent older log _ := by
    obtain ⟨-, rfl, -⟩ : newer = [] ∧ silent = [] ∧ older = [] := by simpa using log
    exact Nat.zero_le _

theorem Recorded.cons {o : Occurrence} {log : List Occurrence} (h : Recorded log)
    (given_up : o.state = .abandoned → stateAfter log ≠ .abandoned →
      ∃ heard, lastHeard? log = some heard ∧ o.time = heard + 15000)
    (few : requestsSince (o :: log) ≤ 30) : Recorded (o :: log) where
  abandoned newer o' older split := by
    cases newer with
    | nil =>
      cases split
      exact given_up
    | cons _ newer =>
      obtain ⟨-, split⟩ := List.cons.inj split
      exact h.abandoned newer o' older split
  requests newer silent older split unheard := by
    cases newer with
    | nil =>
      rw [List.nil_append] at split
      rw [split] at few
      exact Nat.le_trans (countP_le_requestsSince unheard) few
    | cons _ newer =>
      obtain ⟨-, split⟩ := List.cons.inj split
      exact h.requests newer silent older split unheard

theorem OnTime.recorded {ms : List Move} (h : c.OnTime) (recorded : Recorded c.log)
    (run : c.run? codec ms = some d) : Recorded d.log := by
  refine (induction (M := fun _ => True) (P := fun d => d.OnTime ∧ Recorded d.log)
    ⟨h, recorded⟩ ?_ (fun _ _ => trivial) run).2
  rintro c m d ⟨h, recorded⟩ - s
  have onTime := h.step s
  refine ⟨onTime, ?_⟩
  cases m with
  | wait ms =>
    cases s
    exact recorded
  | act i =>
    have made : d = c.act codec i := by cases s <;> rfl
    have few := onTime.requests
    rw [made, log_act] at few ⊢
    refine recorded.cons (fun after before => ?_) few
    rw [h.state] at before
    have abandoned : d.keepalive.state = .abandoned := by
      rw [made]
      exact after
    obtain ⟨last, now⟩ := h.given_up s before abandoned
    exact ⟨_, last, now⟩

/-- What the log and the loop of a keepalive tell at any time. -/
structure KeepsTime (c : Clocked) : Prop extends Recorded c.log where
  /-- At an instant when no loop is due any more, a path is checked only while the silence lasts
  for less than fifteen seconds. -/
  checking : c.IsSettled → c.keepalive.state = .checking →
    ∃ heard, lastHeard? c.log = some heard ∧ heard ≤ c.now ∧ c.now - heard < 15000
  interval : ∀ r ∈ c.keepalive.loops, micros 500 ≤ r.interval ∧ r.interval ≤ micros 7500

end Clocked

open Clocked in
/-- Whatever happens on time to a keepalive: it keeps time. If its path is checked and nothing more
is heard, it gives the peer up exactly fifteen seconds after what was heard last, and time can
always pass that far. -/
theorem silence_is_bounded {codec : BindingCodec} {localId remoteId : String} {created : Nat}
    {ms : List Clocked.Move} {c : Clocked}
    (run : (Clocked.new localId remoteId created).run? codec ms = some c) :
    c.KeepsTime ∧
    (∀ heard, c.keepalive.state = .checking → lastHeard? c.log = some heard →
      ∀ later d, (∀ m ∈ later, m.isHeard = false) → c.run? codec later = some d → d.IsSettled →
        d.keepalive.state = if d.now < heard + 15000 then .checking else .abandoned) ∧
    (∀ source ms, ∃ later, (∀ m ∈ later, m.isHeard = false) ∧
      c.run? codec later = some (c.pass codec source ms) ∧
      (c.pass codec source ms).IsSettled ∧ (c.pass codec source ms).now = c.now + ms) := by
  have start := OnTime.new localId remoteId created
  have h : c.OnTime := start.run run
  refine ⟨⟨start.recorded .nil run, ?_, h.interval⟩, ?_, fun source ms => h.pass source ms⟩
  · intro settled checking
    obtain ⟨last, silence⟩ := h.silence_lt settled checking
    exact ⟨_, last, h.past, Nat.sub_lt_left_of_lt_add h.past silence⟩
  · intro heard checking last later d unheard run settled
    obtain ⟨h', last', state⟩ := h.unheard checking last unheard run
    rcases state with checking' | ⟨abandoned, now⟩
    · obtain ⟨last'', silence⟩ := h'.silence_lt settled checking'
      cases last'.symm.trans last''
      exact checking'.trans (if_pos silence).symm
    · exact abandoned.trans (if_neg (Nat.not_lt_of_le now)).symm

/-- Checking starts, two requests are sent, and then a packet comes that is no STUN. -/
def sampleMoves : List Clocked.Move :=
  [.act .start, .act (.wake 0 sampleId), .wait 500, .act (.wake 0 sampleId), .wait 200,
   .act (.receive [100])]

/-- The packet comes after 700 milliseconds, and nothing else. -/
theorem silence_is_bounded_sampleMoves :
    ∃ c, (Clocked.new "local" "remote" 0).run? .standard sampleMoves = some c ∧
      c.KeepsTime ∧ c.keepalive.state = .checking ∧ lastHeard? c.log = some 700 ∧
      ∀ source, (c.pass .standard source 14999).keepalive.state = .checking ∧
        (c.pass .standard source 15000).keepalive.state = .abandoned := by
  have evaluated : ((Clocked.new "local" "remote" 0).run? .standard sampleMoves).map
      (fun c => (c.now, c.keepalive.state, lastHeard? c.log)) =
      some (700, .checking, some 700) := by
    decide +kernel
  obtain ⟨c, run, found⟩ := Option.map_eq_some_iff.1 evaluated
  simp only [Prod.mk.injEq] at found
  obtain ⟨now, checking, last⟩ := found
  obtain ⟨keepsTime, silent, passes⟩ := silence_is_bounded run
  refine ⟨c, run, keepsTime, checking, last, fun source => ⟨?_, ?_⟩⟩
  · obtain ⟨later, unheard, run, settled, time⟩ := passes source 14999
    rw [silent 700 checking last later _ unheard run settled, time, now]
    rfl
  · obtain ⟨later, unheard, run, settled, time⟩ := passes source 15000
    rw [silent 700 checking last later _ unheard run settled, time, now]
    rfl

end Rendezvous.Stun
