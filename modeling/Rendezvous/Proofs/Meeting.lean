import Rendezvous.Client.Requests
import Rendezvous.Endpoint
import Rendezvous.Proofs.Queues

/-!
# Two peers at one relay

The owner of a service and another peer run one client and one endpoint each. A loop connects the
two: it takes what comes first, an event or a report, hands it to the endpoint, and makes a call for
each signal that results, one after the other, before it takes the next. The applications make calls
of their own at any time, and so does everybody else.

To each of the two the rest is an `Exchange` with its own client (`view`). A step of the meeting is
a step of that exchange, hands an event to the endpoint, takes a frame off the way to the other
client, or is none of its business (`Becomes`); so what is kept in these cases is kept:

    w.Steps k m v → (w.view p).Becomes (k.mine p) (v.view p)                    (Steps.becomes)
-/

namespace Rendezvous

/-! ## Exchanges of several clients -/

namespace Exchange

variable {mine mine' : ConnectionId → Bool} {x y z : Exchange} {m : Move}

/-- What a client has for itself, with what all clients share as it is in another exchange. -/
def share (x y : Exchange) : Exchange :=
  { x with
    server := y.server, connections := y.connections, mailbox := y.mailbox, up := y.up
    down := y.down, handled := y.handled }

/-- What becomes of an exchange in which other clients take part. -/
inductive Becomes (mine : ConnectionId → Bool) (x : Exchange) : Exchange → Prop
  | steps {m : Move} {y : Exchange} (s : x.Steps mine m y) : Becomes mine x y
  /-- The oldest event that waits at the client is taken. -/
  | takeEvent {r : Response} {rest : List Response} (oldest : x.client.events.waiting = r :: rest) :
      Becomes mine x
        { x with client := { x.client with events := { x.client.events with waiting := rest } } }
  /-- Another client takes in a frame. -/
  | lose {left : Channel} (less : left.Sublist x.down) : Becomes mine x { x with down := left }
  | stay : Becomes mine x x

theorem share_act (x z : Exchange) (time : UInt64) (did : Connection × Effect) :
    z.share (x.act time did) = (z.share x).act time did := by
  obtain ⟨c, effect⟩ := did
  cases effect <;> rfl

/-- A step with one client is something that can happen to the others. -/
theorem Steps.beside (s : x.Steps mine m y) (posted : x.Posted mine)
    (apart : ∀ c, mine c = true → mine' c = false)
    (others : ∀ c frame, m = .others c frame → mine' c = false) :
    (z.share x).Becomes mine' (z.share y) := by
  cases s with
  | write current => exact .steps (.others (apart _ (posted.current _ current)))
  | receive _ taken => exact .lose (Channel.sublist_of_take? taken)
  | others => exact .steps (.others (others _ _ rfl))
  | accept new => exact .steps (.accept new)
  | takeFrame isOpen taken =>
    rw [share_act]
    exact .steps (.takeFrame (x := z.share x) isOpen taken)
  | takeResponse isOpen taken =>
    rw [share_act]
    exact .steps (.takeResponse (x := z.share x) isOpen taken)
  | close isOpen =>
    rw [share_act]
    exact .steps (.close (x := z.share x) isOpen)
  | react first => exact .steps (.react (x := z.share x) first)
  | _ => exact .stay

/-- A call is only added when one begins. -/
theorem Steps.calls_eq (s : x.Steps mine m y) :
    y.calls = x.calls ∨ ∃ now tokens q call, m = .begin now tokens q ∧
      y.calls = x.calls ++ [(call, x.client.address q call.token)] := by
  cases s with
  | begin => exact .inr ⟨_, _, _, _, rfl, rfl⟩
  | takeFrame | takeResponse =>
    unfold act
    dsimp only
    split <;> exact .inl rfl
  | _ => exact .inl rfl

/-- What was handled stays so. -/
theorem Steps.handled_prefix (s : x.Steps mine m y) : x.handled <+: y.handled := by
  cases s with
  | react => exact List.prefix_append ..
  | takeFrame | takeResponse =>
    unfold act
    dsimp only
    split <;> exact List.prefix_refl _
  | _ => exact List.prefix_refl _

theorem Posted.becomes (h : x.Posted mine) (b : x.Becomes mine y) : y.Posted mine := by
  cases b with
  | steps s => exact h.step s
  | takeEvent => exact h.client _ _ fun q => Nat.le_refl _
  | lose => exact { h with }
  | stay => exact h

theorem Routed.becomes (h : x.Routed mine) (posted : x.Posted mine) (b : x.Becomes mine y) :
    y.Routed mine := by
  cases b with
  | steps s => exact h.step posted s
  | takeEvent => exact { h with }
  | lose less => exact { h with sent := fun e he => h.sent e (less.subset he) }
  | stay => exact h

end Exchange

/-! ## A peer -/

/-- A peer: its client, its endpoint and the loop between them. -/
structure Seat where
  client : Client := {}
  current : Option ConnectionId := none
  dialed : List ConnectionId := []
  calls : List (Call × Request) := []
  written : List (ConnectionId × Request) := []
  returns : List Return := []
  endpoint : Endpoint := {}
  /-- The signals that no call was made for yet, oldest first. -/
  signals : List Signal := []
  /-- The call that the loop waits for. -/
  telling : Option Call := none

/-- What a loop and the agents do. -/
inductive Chore where
  /-- The oldest event is handled; an agent can be created then, or not. -/
  | handleEvent (creates : Bool)
  /-- An agent reports something. -/
  | report (sink : EventSink) (r : AgentEvent)
  /-- The oldest report is handled. -/
  | handleReport
  /-- A call begins for the oldest signal. If none can, the signal is given up. -/
  | tell (now : Nat) (tokens : List String)
deriving DecidableEq

namespace Seat

variable {s t : Seat} {chore : Chore}

/-- Whether the loop may take something new. -/
def isIdle (s : Seat) : Bool := s.signals.isEmpty && s.telling.isNone

/-- Begins a call for a signal, which yields the request as it is sent. -/
def begin? (s : Seat) (now : Nat) (tokens : List String) (signal : Signal) :
    Option (Client × Call × Request) :=
  (Request.ofSignal signal).toOption.bind fun q =>
    (s.client.begin now tokens q).toOption.map fun (client, call) =>
      (client, call, s.client.address q call.token)

def step? (s : Seat) : Chore → Option Seat
  | .handleEvent creates =>
    match s.client.events.waiting with
    | event :: rest =>
      if s.isIdle then
        let (endpoint, _, signals) := s.endpoint.handle creates event
        some { s with
          client := { s.client with events := { s.client.events with waiting := rest } }
          endpoint := endpoint
          signals := signals }
      else none
    | [] => none
  | .report sink r => some { s with endpoint := s.endpoint.report sink r }
  | .handleReport =>
    if s.isIdle then
      let (endpoint, signal) := s.endpoint.handleReport
      some { s with endpoint := endpoint, signals := signal.toList }
    else none
  | .tell now tokens =>
    match s.signals, s.telling with
    | signal :: rest, none =>
      match s.begin? now tokens signal with
      | some (client, call, q) =>
        some { s with
          client := client
          calls := s.calls ++ [(call, q)]
          signals := rest
          telling := some call }
      | none => some { s with signals := rest }
    | _, _ => none

/-- What a chore does when it is done. -/
inductive Steps (s : Seat) : Chore → Seat → Prop
  | handleEvent {creates : Bool} {event : Response} {rest : List Response}
      (idle : s.isIdle = true) (oldest : s.client.events.waiting = event :: rest) :
      Steps s (.handleEvent creates) { s with
        client := { s.client with events := { s.client.events with waiting := rest } }
        endpoint := (s.endpoint.handle creates event).1
        signals := (s.endpoint.handle creates event).2.2 }
  | report {sink : EventSink} {r : AgentEvent} :
      Steps s (.report sink r) { s with endpoint := s.endpoint.report sink r }
  | handleReport (idle : s.isIdle = true) :
      Steps s .handleReport { s with
        endpoint := s.endpoint.handleReport.1
        signals := s.endpoint.handleReport.2.toList }
  | tell {now : Nat} {tokens : List String} {signal : Signal} {rest : List Signal} {q : Request}
      {client : Client} {call : Call} (free : s.telling = none)
      (oldest : s.signals = signal :: rest) (carried : Request.ofSignal signal = .ok q)
      (began : s.client.begin now tokens q = .ok (client, call)) :
      Steps s (.tell now tokens) { s with
        client := client
        calls := s.calls ++ [(call, s.client.address q call.token)]
        signals := rest
        telling := some call }
  | drop {now : Nat} {tokens : List String} {signal : Signal} {rest : List Signal}
      (free : s.telling = none) (oldest : s.signals = signal :: rest) :
      Steps s (.tell now tokens) { s with signals := rest }

theorem of_begin? {now : Nat} {tokens : List String} {signal : Signal} {client : Client}
    {call : Call} {q : Request} (h : s.begin? now tokens signal = some (client, call, q)) :
    ∃ q', Request.ofSignal signal = .ok q' ∧ s.client.begin now tokens q' = .ok (client, call) ∧
      q = s.client.address q' call.token := by
  obtain ⟨q', carried, h⟩ := Option.bind_eq_some_iff.1 h
  obtain ⟨begun, began, e⟩ := Option.map_eq_some_iff.1 h
  cases e
  refine ⟨q', ?_, ?_, rfl⟩
  · cases hq : Request.ofSignal signal with
    | ok => rw [hq] at carried; cases carried; rfl
    | error => rw [hq] at carried; cases carried
  · cases hb : s.client.begin now tokens q' with
    | ok => rw [hb] at began; cases began; rfl
    | error => rw [hb] at began; cases began

theorem steps_of_step? (h : s.step? chore = some t) : s.Steps chore t := by
  cases chore with
  | handleEvent creates =>
    rw [step?] at h
    split at h
    · next oldest =>
      split at h
      · next idle =>
        cases h
        exact .handleEvent idle oldest
      · cases h
    · cases h
  | report sink r =>
    cases h
    exact .report
  | handleReport =>
    rw [step?] at h
    split at h
    · next idle =>
      cases h
      exact .handleReport idle
    · cases h
  | tell now tokens =>
    rw [step?] at h
    split at h
    · next oldest free =>
      split at h
      · next begun =>
        cases h
        obtain ⟨q, carried, began, rfl⟩ := of_begin? begun
        exact .tell free oldest carried began
      · cases h
        exact .drop free oldest
    · cases h

end Seat

/-! ## The meeting -/

/-- One of the two ends of a service. -/
inductive Part where
  | owner
  | member
deriving DecidableEq, Repr

def Part.other : Part → Part
  | owner => member
  | member => owner

/-- Who meets, and about which service. -/
structure Cast where
  service : String
  id : Part → String
  differ : id .owner ≠ id .member
  /-- To whose client a connection belongs, if to one of the two. -/
  whose : ConnectionId → Option Part

namespace Cast

/-- Whether a connection belongs to the client of an end. -/
def mine (k : Cast) (p : Part) (c : ConnectionId) : Bool := k.whose c = some p

/-- What the two may do by themselves. Of the service's sessions their applications ask only that
they be opened or closed; everything else about them is left to the endpoints. -/
def permits (k : Cast) : Move → Bool
  | .begin _ _ q =>
    !(q.serviceName == some k.service && (Action.ofName? q.action).any (·.isRelayed))
  | .others c _ => k.whose c = none
  | _ => true

theorem mine_eq_false {k : Cast} {p q : Part} {c : ConnectionId} (isMine : k.mine p c = true)
    (other : q ≠ p) : k.mine q c = false := by
  refine decide_eq_false fun isOther => other ?_
  rw [of_decide_eq_true isMine] at isOther
  exact (Option.some.inj isOther).symm

end Cast

structure Meeting where
  seats : Part → Seat := fun _ => {}
  server : Server := {}
  connections : Table ConnectionId Connection := .empty
  mailbox : List Event := []
  up : Channel := []
  down : Channel := []
  handled : List Moment := []

namespace Meeting

/-- Nobody is connected yet. -/
def start (db : Database) (store : Option SnapshotStore) (files : Files) : Meeting :=
  { server := { relay := .idle db, store := store, files := files } }

/-- The exchange as it is for one of the two. -/
def view (w : Meeting) (p : Part) : Exchange where
  client := (w.seats p).client
  server := w.server
  current := (w.seats p).current
  dialed := (w.seats p).dialed
  connections := w.connections
  mailbox := w.mailbox
  up := w.up
  down := w.down
  calls := (w.seats p).calls
  written := (w.seats p).written
  handled := w.handled
  returns := (w.seats p).returns

/-- Changes one of the two. -/
def sit (w : Meeting) (p : Part) (s : Seat) : Meeting :=
  { w with seats := fun q => if q = p then s else w.seats q }

/-- Takes over what became of the exchange of one of the two. Its loop waits no longer for a call
that is over. -/
def put (w : Meeting) (p : Part) (x : Exchange) : Meeting where
  seats := (w.sit p { w.seats p with
    client := x.client, current := x.current, dialed := x.dialed, calls := x.calls
    written := x.written, returns := x.returns
    telling := (w.seats p).telling.filter x.isActive }).seats
  server := x.server
  connections := x.connections
  mailbox := x.mailbox
  up := x.up
  down := x.down
  handled := x.handled

/-- A step of the exchange of one of the two, or of its loop. -/
inductive Move where
  | exchange (p : Part) (m : Rendezvous.Move)
  | chore (p : Part) (c : Chore)
deriving DecidableEq

/-- Makes a move if it can be made. -/
def step? (k : Cast) (w : Meeting) : Move → Option Meeting
  | .exchange p m =>
    if k.permits m then ((w.view p).step? (k.mine p) m).map (w.put p) else none
  | .chore p c => ((w.seats p).step? c).map (w.sit p)

/-- Makes moves one after the other. -/
def run? (k : Cast) (w : Meeting) (ms : List Move) : Option Meeting := ms.foldlM (step? k) w

/-- What a move does when it is made. -/
inductive Steps (k : Cast) (w : Meeting) : Move → Meeting → Prop
  | exchange {p : Part} {m : Rendezvous.Move} {y : Exchange} (permitted : k.permits m = true)
      (s : (w.view p).Steps (k.mine p) m y) : Steps k w (.exchange p m) (w.put p y)
  | chore {p : Part} {c : Chore} {t : Seat} (s : (w.seats p).Steps c t) :
      Steps k w (.chore p c) (w.sit p t)

variable {k : Cast} {w v : Meeting} {m : Move} {p q : Part}

theorem steps_of_step? (h : w.step? k m = some v) : w.Steps k m v := by
  cases m with
  | exchange p m =>
    rw [step?] at h
    split at h
    · next permitted =>
      obtain ⟨y, made, rfl⟩ := Option.map_eq_some_iff.1 h
      exact .exchange permitted (Exchange.steps_of_step? made)
    · cases h
  | chore p c =>
    obtain ⟨t, made, rfl⟩ := Option.map_eq_some_iff.1 h
    exact .chore (Seat.steps_of_step? made)

/-- What holds at first and is kept by every step holds after every run. -/
theorem induction {P : Meeting → Prop} (start : P w)
    (step : ∀ w m v, P w → w.Steps k m v → P v) {ms : List Move} (run : w.run? k ms = some v) :
    P v := by
  induction ms generalizing w with
  | nil =>
    cases run
    exact start
  | cons m ms ih =>
    obtain ⟨u, first, rest⟩ := Option.bind_eq_some_iff.1 run
    exact ih (step w m u start (steps_of_step? first)) rest

/-! ## How the two see it -/

theorem seats_sit_self (w : Meeting) (p : Part) (s : Seat) : (w.sit p s).seats p = s := if_pos rfl

theorem seats_sit_of_ne (other : q ≠ p) (s : Seat) : (w.sit p s).seats q = w.seats q :=
  if_neg other

theorem view_put_self (w : Meeting) (p : Part) (x : Exchange) : (w.put p x).view p = x := by
  unfold view put
  simp only [seats_sit_self]

theorem view_put_of_ne (other : q ≠ p) (x : Exchange) :
    (w.put p x).view q = (w.view q).share x := by
  unfold view put Exchange.share
  simp only [seats_sit_of_ne other]

theorem view_sit_of_ne (other : q ≠ p) (s : Seat) : (w.sit p s).view q = w.view q := by
  unfold view
  simp only [seats_sit_of_ne other]
  rfl

/-- What the loop does is a step of its own exchange at most. -/
theorem becomes_sit {c : Chore} {t : Seat} (s : (w.seats p).Steps c t) :
    (w.view p).Becomes (k.mine p) ((w.sit p t).view p) := by
  unfold view
  simp only [seats_sit_self]
  cases s with
  | handleEvent _ oldest => exact .takeEvent (x := w.view p) oldest
  | tell _ _ _ began => exact .steps (.begin (x := w.view p) began)
  | report | handleReport | drop => exact .stay

/-- Each of the two sees a step as one of its exchange, or as one of others. -/
theorem Steps.becomes (s : w.Steps k m v) (posted : ∀ p, (w.view p).Posted (k.mine p))
    (q : Part) : (w.view q).Becomes (k.mine q) (v.view q) := by
  cases s with
  | @exchange p m y permitted s =>
    by_cases same : q = p
    · cases same
      rw [view_put_self]
      exact .steps s
    · rw [view_put_of_ne same]
      refine s.beside (z := w.view q) (posted p) (fun c isMine => k.mine_eq_false isMine same) ?_
      rintro c frame rfl
      have nobody : k.whose c = none := of_decide_eq_true permitted
      exact decide_eq_false fun isMine => by
        rw [nobody] at isMine
        cases isMine
  | @chore p c t s =>
    by_cases same : q = p
    · cases same
      exact becomes_sit s
    · rw [view_sit_of_ne same]
      exact .stay

theorem Steps.handled_prefix (s : w.Steps k m v) : w.handled <+: v.handled := by
  cases s with
  | exchange _ s => exact s.handled_prefix
  | chore => exact List.prefix_refl _

end Meeting

end Rendezvous
