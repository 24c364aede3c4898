import Rendezvous.Proofs.Announcements

/-!
# Half-open sessions

A session has two ends, and each end opens and closes its own by what the other end tells it. The
owner of a service answers whatever it is told about opening, and the member opens or closes as it
is answered. Both hear in order what the other one says, so the ends go together as long as both
do what they are told.

Two things can go wrong. A member that is told that the session is open may be unable to create its
agent; it says nothing about that, and the owner's end stays open. And an owner that could not
create its agent has the member close, which it acknowledges; if the owner has opened its end anew
by then, the acknowledgement closes that. Nothing else leaves a session half open
(`half_open_iff`), and both begin with an agent that could not be created.
-/

namespace Rendezvous

/-! ## What the endpoints were told -/

/-- The two endpoints at the relay, with a record of what each of them was told. -/
structure Minutes where
  meeting : Meeting
  /-- The events that an endpoint was told so far, oldest first, each with whether an agent could be
  created then. -/
  told : Part → List (Response × Bool) := fun _ => []

namespace Minutes

def start (db : Database) (store : Option SnapshotStore) (files : Files) : Minutes :=
  { meeting := .start db store files }

/-- The event that an endpoint handles in a move. -/
def handles? (w : Meeting) (p : Part) : Meeting.Move → Option (Response × Bool)
  | .chore q (.handleEvent creates) =>
    if q = p then (w.seats p).client.events.waiting.head?.map (·, creates) else none
  | _ => none

/-- Makes a move if it can be made. -/
def step? (k : Cast) (w : Minutes) (m : Meeting.Move) : Option Minutes :=
  (w.meeting.step? k m).map fun v =>
    { meeting := v, told := fun p => w.told p ++ (handles? w.meeting p m).toList }

/-- Makes moves one after the other. -/
def run? (k : Cast) (w : Minutes) (ms : List Meeting.Move) : Option Minutes :=
  ms.foldlM (step? k) w

/-- What an end has heard about its session with the other one, oldest first. -/
def heard (k : Cast) (w : Minutes) (p : Part) : List (Action × Bool) := k.heard p (w.told p)

variable {k : Cast} {w v : Minutes} {m : Meeting.Move} {p : Part} {line : Part → ConnectionId}

/-- What holds at first and is kept by every step holds after every run. -/
theorem induction {P : Minutes → Prop} (start : P w)
    (step : ∀ w m v, P w → w.step? k m = some v → P v) {ms : List Meeting.Move}
    (run : w.run? k ms = some v) : P v := by
  induction ms generalizing w with
  | nil =>
    cases run
    exact start
  | cons m ms ih =>
    obtain ⟨u, first, rest⟩ := Option.bind_eq_some_iff.1 run
    exact ih (step w m u start first) rest

/-- A step hands the oldest event to the endpoint of an end, or nothing. -/
theorem handles_of_steps {w v : Meeting} (s : w.Steps k m v) (p : Part) :
    (∃ creates event rest, m = .chore p (.handleEvent creates) ∧ (w.seats p).isIdle = true ∧
      (w.seats p).client.events.waiting = event :: rest ∧
      handles? w p m = some (event, creates) ∧
      v = w.sit p { w.seats p with
        client := { (w.seats p).client with
          events := { (w.seats p).client.events with waiting := rest } }
        endpoint := ((w.seats p).endpoint.handle creates event).1
        signals := ((w.seats p).endpoint.handle creates event).2.2 }) ∨
    handles? w p m = none ∧ ∀ creates, m ≠ .chore p (.handleEvent creates) := by
  cases s with
  | exchange => exact .inr ⟨rfl, nofun⟩
  | @chore q c t s =>
    by_cases same : q = p
    · subst same
      cases s with
      | @handleEvent creates event rest idle oldest =>
        exact .inl ⟨creates, event, rest, rfl, idle, oldest, by simp [handles?, oldest], rfl⟩
      | _ => exact .inr ⟨rfl, nofun⟩
    · right
      cases s with
      | handleEvent => exact ⟨if_neg same, by rintro _ ⟨⟩; exact same rfl⟩
      | _ => exact ⟨rfl, nofun⟩

/-- Both ends have heard in order what the other one had to say, as far as it came through. -/
structure Faithful (k : Cast) (line : Part → ConnectionId) (w : Minutes) : Prop where
  apart : w.meeting.Apart k
  genuine : ∀ p, (w.meeting.view p).Confined (k.mine p) (k.Genuine p)
  ordered : ∀ p, (w.meeting.view p).Ordered (line p)
  hears : ∀ p, ((w.heard k p).map (·.1) ++
      ((w.meeting.view p).incoming (line p)).filterMap (k.hears? p)).Sublist
    (((w.meeting.view p).handledOn (line p.other)).filterMap (k.announces? p.other))
  attentive : ∀ p, k.Attentive p (w.meeting.seats p) (w.told p)

namespace Faithful

theorem start {db : Database} {store : Option SnapshotStore} {files : Files} :
    (Minutes.start db store files).Faithful k line where
  apart := Meeting.Apart.start
  genuine _ := Exchange.Confined.start
  ordered _ := Exchange.Ordered.start
  hears _ := List.Sublist.refl _
  attentive _ := Cast.Attentive.start

theorem genuine_pushes (h : w.Faithful k line) (fits : k.Fits w.meeting.server.relay)
    (own : ∀ p c, k.whose c = some p ↔ c = line p) (p : Part) :
    (w.meeting.view p).Pushes (k.mine p) (k.Genuine p) := by
  intro e rest first push pushed c hc isMine key a told counts
  cases (own p c).1 (of_decide_eq_true isMine)
  exact (fits.origin_of_about (h.apart.routed p) own pushed hc told counts).1

/-- An event that an endpoint handles was the next to come in. -/
theorem hears_handle (h : w.Faithful k line) {creates : Bool} {event : Response}
    {rest : List Response} {t : Seat} (waiting : t.client.events.waiting = rest)
    (oldest : (w.meeting.seats p).client.events.waiting = event :: rest) :
    ((k.heard p (w.told p ++ [(event, creates)])).map (·.1) ++
      (((w.meeting.sit p t).view p).incoming (line p)).filterMap (k.hears? p)).Sublist
    ((((w.meeting.sit p t).view p).handledOn (line p.other)).filterMap
      (k.announces? p.other)) := by
  have client : ((w.meeting.sit p t).view p).client = t.client :=
    congrArg Seat.client (Meeting.seats_sit_self ..)
  have incoming : (w.meeting.view p).incoming (line p) =
      event :: ((w.meeting.sit p t).view p).incoming (line p) := by
    unfold Exchange.incoming
    rw [client, waiting]
    show (w.meeting.seats p).client.events.waiting ++ _ = _
    rw [oldest]
    rfl
  have before := h.hears p
  rw [incoming] at before
  have same : (k.heard p [(event, creates)]).map (·.1) = [event].filterMap (k.hears? p) := by
    cases hears : k.hears? p event <;> simp [Cast.heard, hears]
  rw [Cast.heard_append, List.map_append, same, List.append_assoc, ← List.filterMap_append]
  exact before

/-- Otherwise an end hears nothing, but more may come in. -/
theorem hears_becomes (h : w.Faithful k line) (own : ∀ p c, k.whose c = some p ↔ c = line p)
    {y : Exchange} (b : (w.meeting.view p).Becomes (k.mine p) y)
    (throughout : ∀ moment ∈ y.handled, k.Fits moment.before) :
    ((w.heard k p).map (·.1) ++ (y.incoming (line p)).filterMap (k.hears? p)).Sublist
      ((y.handledOn (line p.other)).filterMap (k.announces? p.other)) := by
  have isMine : k.mine p (line p) = true := decide_eq_true ((own p _).2 rfl)
  have only : ∀ d, k.mine p d = true → d = line p := fun d isMine =>
    (own p d).1 (of_decide_eq_true isMine)
  rcases b.incoming_sublist (h.apart.posted p) (h.apart.routed p) isMine only with
    ⟨handled, less⟩ | ⟨e, rest, -, handled, less⟩
  · unfold Exchange.handledOn
    rw [handled]
    exact ((less.filterMap _).append_left _).trans (h.hears p)
  · have now : ⟨w.meeting.server.relay, e⟩ ∈ y.handled := by
      rw [handled]
      exact List.mem_append_right _ (List.mem_singleton.2 rfl)
    have more := (throughout _ now).hears_sublist (h.apart.routed p) own e
    unfold Exchange.handledOn
    rw [handled, List.filterMap_append, List.filter_append, List.map_append, List.filterMap_append]
    refine ((less.filterMap _).append_left _).trans ?_
    rw [List.filterMap_append, ← List.append_assoc]
    refine (h.hears p).append ?_
    have one : [Moment.mk (w.meeting.view p).server.relay e].filterMap (·.event.request?) =
        e.request?.toList := by
      cases read : e.request? <;> simp [read]
    rw [one]
    exact more

theorem hears_step (h : w.Faithful k line) (own : ∀ p c, k.whose c = some p ↔ c = line p)
    {v : Meeting} (s : w.meeting.Steps k m v)
    (throughout : ∀ moment ∈ v.handled, k.Fits moment.before) (p : Part) :
    ((k.heard p (w.told p ++ (handles? w.meeting p m).toList)).map (·.1) ++
      ((v.view p).incoming (line p)).filterMap (k.hears? p)).Sublist
    (((v.view p).handledOn (line p.other)).filterMap (k.announces? p.other)) := by
  rcases handles_of_steps s p with ⟨creates, event, rest, rfl, -, oldest, handles, rfl⟩ | ⟨none, -⟩
  · rw [handles]
    exact h.hears_handle rfl oldest
  · rw [none, Option.toList_none, List.append_nil]
    exact h.hears_becomes own (s.becomes h.apart.posted p) throughout

theorem attentive_step (h : w.Faithful k line) {v : Meeting} (s : w.meeting.Steps k m v)
    (p : Part) (stays : ∀ e ∈ handles? w.meeting p m, e.1.eventAction? ≠ some .logout) :
    k.Attentive p (v.seats p) (w.told p ++ (handles? w.meeting p m).toList) := by
  have was := h.attentive p
  rcases handles_of_steps s p with
    ⟨creates, event, rest, rfl, idle, oldest, handles, rfl⟩ | ⟨none, other⟩
  · have waits : event ∈ (w.meeting.seats p).client.events.waiting :=
      oldest ▸ List.mem_cons_self ..
    rw [handles, Meeting.seats_sit_self]
    exact was.handle idle ((h.apart.confined p).arrived _ waits) ((h.genuine p).arrived _ waits)
      (stays (event, creates) handles) _
  · rw [none, Option.toList_none, List.append_nil]
    cases s with
    | @exchange q m y permitted s =>
      by_cases same : p = q
      · subst same
        have seat : (w.meeting.put p y).seats p = _ := Meeting.seats_sit_self w.meeting p _
        refine was.calling (by rw [seat]) (by rw [seat]) ?_
        rcases s.calls_eq with calls | ⟨now, tokens, asked, call, rfl, calls⟩
        · exact .inl (by rw [seat]; exact calls)
        · exact .inr ⟨now, tokens, asked, call, _, permitted, by rw [seat]; exact calls⟩
      · have seat : (w.meeting.put q y).seats p = _ := Meeting.seats_sit_of_ne same _
        rw [seat]
        exact was
    | @chore q c t s =>
      by_cases same : p = q
      · subst same
        rw [Meeting.seats_sit_self]
        exact was.aside (fun creates e => other creates (e ▸ rfl)) s
      · rw [Meeting.seats_sit_of_ne same]
        exact was

theorem step (h : w.Faithful k line) (own : ∀ p c, k.whose c = some p ↔ c = line p)
    (made : w.step? k m = some v)
    (throughout : ∀ moment ∈ v.meeting.handled, k.Fits moment.before)
    (stays : ∀ p, ∀ e ∈ v.told p, e.1.eventAction? ≠ some .logout) : v.Faithful k line := by
  obtain ⟨u, moved, rfl⟩ := Option.map_eq_some_iff.1 made
  have s := Meeting.steps_of_step? moved
  have isMine (p : Part) : k.mine p (line p) = true := decide_eq_true ((own p _).2 rfl)
  have becomes := s.becomes h.apart.posted
  exact {
    apart := h.apart.step s throughout
    genuine := fun p => (h.genuine p).becomes (h.apart.posted p) (h.apart.routed p)
      (fun _ now => h.genuine_pushes (throughout _ now) own p) (becomes p)
    ordered := fun p => (h.ordered p).becomes (h.apart.posted p) (isMine p) (becomes p)
    hears := h.hears_step own s throughout
    attentive := fun p => h.attentive_step s p fun e he =>
      stays p e (List.mem_append_right _ (Option.mem_toList.2 he)) }

theorem run {db : Database} {store : Option SnapshotStore} {files : Files}
    {ms : List Meeting.Move} (run : (Minutes.start db store files).run? k ms = some w)
    (own : ∀ p c, k.whose c = some p ↔ c = line p)
    (throughout : ∀ moment ∈ w.meeting.handled, k.Fits moment.before)
    (stays : ∀ p, ∀ e ∈ w.told p, e.1.eventAction? ≠ some .logout) : w.Faithful k line := by
  refine induction (P := fun w => (∀ moment ∈ w.meeting.handled, k.Fits moment.before) →
    (∀ p, ∀ e ∈ w.told p, e.1.eventAction? ≠ some .logout) → w.Faithful k line)
    (fun _ _ => start) (fun w m v before made throughout stays => ?_) run throughout stays
  obtain ⟨u, moved, rfl⟩ := Option.map_eq_some_iff.1 made
  have s := Meeting.steps_of_step? moved
  refine (before (fun moment old => throughout moment (s.handled_prefix.subset old))
    fun p e he => stays p e (List.mem_append_left _ he)).step own made throughout stays

/-- An end hears, in this order, some of what the other one announces. -/
theorem heard_sublist (h : w.Faithful k line) (p : Part) :
    ((w.heard k p).map (·.1)).Sublist
      (((w.meeting.seats p.other).calls.map (·.2)).filterMap (k.announces? p.other)) :=
  ((List.sublist_append_left ..).trans (h.hears p)).trans
    ((h.ordered p.other).handledOn_sublist_calls.filterMap _)

/-- Of that, what its application cannot have asked for answers what the other one has heard. -/
theorem heard_sublist_answers (h : w.Faithful k line) (p : Part) :
    (((w.heard k p).map (·.1)).filter (!p.other.asksFor ·)).Sublist
      (answers (w.heard k p.other)) :=
  (((h.heard_sublist p).trans (List.sublist_append_left ..)).filter _).trans
    (h.attentive p.other).said

theorem opensOrCloses_of_heard {e : Action × Bool} (heard : e ∈ w.heard k p) :
    e.1.opensOrCloses = true := by
  obtain ⟨e', -, found⟩ := List.mem_filterMap.1 heard
  obtain ⟨a, hears, rfl⟩ := Option.map_eq_some_iff.1 found
  exact (Response.about?_eq_some_iff.1 hears).2.2

/-- An end's session is open if it was opened last, in the end's own role. -/
theorem hasSession_iff (h : w.Faithful k line) (p : Part) :
    (w.meeting.seats p).endpoint.hasSession (k.key p) = true ↔
      (w.heard k p).getLast? = some (p.role.openedBy, true) := by
  have isOpen := (h.attentive p).isOpen
  show ((w.meeting.seats p).endpoint.session? (k.key p)).isSome = true ↔ _
  rw [isOpen]
  unfold leavesOpen
  show (w.heard k p).getLast?.any _ = true ↔ _
  cases last : (w.heard k p).getLast? with
  | none => simp
  | some e =>
    obtain ⟨a, creates⟩ := e
    have role : a ≠ p.other.role.openedBy := (h.attentive p).role _ (List.mem_of_getLast? last)
    have opens : a.opens = true ↔ a = p.role.openedBy := by
      cases p <;> cases a <;> first | exact absurd rfl role | decide
    simp [opens]

end Faithful

end Minutes

/-! ## Half-open sessions -/

/-- Nothing is under way between the two, and nothing waits at either. -/
def Meeting.isQuiet (w : Meeting) : Bool :=
  w.mailbox.isEmpty && w.up.isEmpty && w.down.isEmpty &&
    w.server.outboxes.values.all (·.waiting.isEmpty) &&
    [Part.owner, .member].all fun p =>
      (w.seats p).isIdle && (w.seats p).client.unsent.isEmpty &&
        (w.seats p).client.events.waiting.isEmpty && (w.seats p).endpoint.reports.isEmpty

/-- The openings and closings that an end has heard, without acknowledged closings. -/
def unacknowledged (heard : List (Action × Bool)) : List (Action × Bool) :=
  heard.filter (·.1 ≠ .iceCloseAck)

/-- What an end heard last was a closing that is acknowledged, or it was something else. -/
theorem getLast?_cases (heard : List (Action × Bool)) :
    (∃ creates, heard.getLast? = some (.iceCloseAck, creates)) ∨
      heard.getLast? = (unacknowledged heard).getLast? ∧
        ∀ creates, heard.getLast? ≠ some (.iceCloseAck, creates) := by
  induction heard using List.reverseRecOn with
  | nil => exact .inr ⟨rfl, nofun⟩
  | append_singleton heard e =>
    obtain ⟨a, creates⟩ := e
    by_cases ack : a = .iceCloseAck
    · subst ack
      exact .inl ⟨creates, by simp⟩
    · exact .inr ⟨by simp [unacknowledged, ack], by simp [ack]⟩

/-- The last answer of an owner is that to the last opening or closing that it was asked for. -/
theorem getLast?_answers {heard : List (Action × Bool)}
    (asked : ∀ e ∈ heard, e.1.opensOrCloses = true ∧ e.1 ≠ .iceOpenAck) :
    (answers heard).getLast? = (unacknowledged heard).getLast?.bind fun e => e.1.answer? e.2 := by
  induction heard using List.reverseRecOn with
  | nil => rfl
  | append_singleton heard e ih =>
    have before := ih fun e he => asked e (List.mem_append_left _ he)
    obtain ⟨opens, notAck⟩ := asked e (List.mem_append_right _ (List.mem_singleton.2 rfl))
    obtain ⟨a, creates⟩ := e
    unfold answers unacknowledged at before ⊢
    rw [List.filterMap_append, List.filter_append]
    cases a with
    | iceOpen | iceClose => simp [Action.answer?]
    | iceCloseAck => simpa [Action.answer?] using before
    | iceOpenAck => exact absurd rfl notAck
    | _ => cases opens

namespace Minutes

variable {k : Cast} {w : Minutes} {line : Part → ConnectionId}

/-- The last opening that the owner's endpoint was asked for had an agent there. -/
def OwnerOpened (k : Cast) (w : Minutes) : Prop :=
  (unacknowledged (w.heard k .owner)).getLast? = some (.iceOpen, true)

/-- A closing was acknowledged to the owner's endpoint last. -/
def AckedLate (k : Cast) (w : Minutes) : Prop :=
  ∃ creates, (w.heard k .owner).getLast? = some (.iceCloseAck, creates)

/-- The member's endpoint was told last that the session is open, and had no agent. -/
def MemberRefused (k : Cast) (w : Minutes) : Prop :=
  (w.heard k .member).getLast? = some (.iceOpenAck, false)

/-- All answers of the owner's endpoint have been handled by the member's: none of them is under
way, and none was given up, refused or dropped. -/
def AllArrived (k : Cast) (w : Minutes) : Prop :=
  (w.heard k .member).length = (answers (w.heard k .owner)).length

namespace Faithful

theorem owner_asked (h : w.Faithful k line) :
    ∀ e ∈ w.heard k .owner, e.1.opensOrCloses = true ∧ e.1 ≠ .iceOpenAck := fun e he =>
  ⟨opensOrCloses_of_heard he, (h.attentive .owner).role e he⟩

/-- The owner's end is open if it was opened when it was asked for that last, and nothing that came
late has closed it. -/
theorem owner_open_iff (h : w.Faithful k line) :
    (w.meeting.seats .owner).endpoint.hasSession (k.key .owner) = true ↔
      w.OwnerOpened k ∧ ¬ w.AckedLate k := by
  rw [h.hasSession_iff]
  unfold OwnerOpened AckedLate
  rcases getLast?_cases (w.heard k .owner) with late | ⟨same, notLate⟩
  · obtain ⟨creates, last⟩ := late
    simp [last, Part.role, Role.openedBy]
  · rw [← same]
    simp [notLate, Part.role, Role.openedBy]

/-- The member's end is open if the owner's was, and the member had an agent as well. -/
theorem member_open_iff (h : w.Faithful k line) (arrived : w.AllArrived k) :
    (w.meeting.seats .member).endpoint.hasSession (k.key .member) = true ↔
      w.OwnerOpened k ∧ ¬ w.MemberRefused k := by
  have some' : ((w.heard k .member).map (·.1)).Sublist (answers (w.heard k .owner)) := by
    have answered := h.heard_sublist_answers .member
    have all : ∀ a, (!Part.member.other.asksFor a) = true := fun _ => rfl
    rwa [List.filter_eq_self.2 fun a _ => all a] at answered
  have all := some'.eq_of_length ((List.length_map ..).trans arrived)
  have last := congrArg List.getLast? all
  rw [List.getLast?_map, getLast?_answers h.owner_asked] at last
  rw [h.hasSession_iff]
  unfold OwnerOpened MemberRefused
  show (w.heard k .member).getLast? = some (.iceOpenAck, true) ↔ _
  constructor
  · intro opened
    rw [opened] at last ⊢
    obtain ⟨⟨a, creates⟩, asked, answer⟩ := Option.bind_eq_some_iff.1 last.symm
    obtain ⟨rfl, rfl⟩ := Action.answer?_eq_iceOpenAck answer
    exact ⟨asked, by decide⟩
  · rintro ⟨opened, notRefused⟩
    rw [opened] at last
    obtain ⟨⟨a, creates⟩, told, same⟩ := Option.map_eq_some_iff.1 last
    cases (same : a = .iceOpenAck)
    cases creates with
    | true => exact told
    | false => exact absurd told notRefused

/-- If the owner's end was closed by an acknowledgement, the owner had no agent once. -/
theorem owner_failed_of_acked (h : w.Faithful k line) (late : w.AckedLate k) :
    (.iceOpen, false) ∈ w.heard k .owner := by
  have answered (p : Part) {a : Action} (heard : a ∈ (w.heard k p).map (·.1))
      (own : p.other.asksFor a = false) :
      ∃ e ∈ w.heard k p.other, e.1.answer? e.2 = some a := by
    refine List.mem_filterMap.1 ((h.heard_sublist_answers p).subset ?_)
    exact List.mem_filter.2 ⟨heard, by simp [own]⟩
  obtain ⟨creates, last⟩ := late
  -- the member acknowledged a closing, which the owner had answered to an opening
  obtain ⟨⟨a, c⟩, atMember, ack⟩ := answered .owner
    (List.mem_map_of_mem (List.mem_of_getLast? last)) rfl
  obtain rfl : a = .iceClose := by cases a <;> cases c <;> cases ack <;> rfl
  obtain ⟨⟨b, d⟩, atOwner, closing⟩ := answered .member (List.mem_map_of_mem atMember) rfl
  obtain ⟨rfl, rfl⟩ : b = .iceOpen ∧ d = false := by
    cases b <;> cases d <;> cases closing
    exact ⟨rfl, rfl⟩
  exact atOwner

end Faithful

/-- Once everything that the owner's endpoint had for the member has been handled, their session is
half open in two cases only. Either the member could not create its agent when the owner told it
that the session is open: the owner's end is the open one. Or an acknowledged closing came to the
owner after it had opened the session anew: the member's end is the open one. Neither happens while
every agent can be created. -/
theorem half_open_iff {db : Database} {store : Option SnapshotStore} {files : Files}
    {ms : List Meeting.Move} (run : (Minutes.start db store files).run? k ms = some w)
    (own : ∀ p c, k.whose c = some p ↔ c = line p)
    (throughout : ∀ moment ∈ w.meeting.handled, k.Fits moment.before)
    (stays : ∀ p, ∀ e ∈ w.told p, e.1.eventAction? ≠ some .logout)
    (arrived : w.AllArrived k) :
    let isOpen (p : Part) : Prop :=
      (w.meeting.seats p).endpoint.hasSession ⟨k.service, k.id p.other⟩ = true
    (isOpen .owner ∧ ¬ isOpen .member ↔
      w.OwnerOpened k ∧ w.MemberRefused k ∧ ¬ w.AckedLate k) ∧
    (isOpen .member ∧ ¬ isOpen .owner ↔
      w.OwnerOpened k ∧ w.AckedLate k ∧ ¬ w.MemberRefused k) ∧
    ((∀ p, ∀ e ∈ w.heard k p, e.1.opens = true → e.2 = true) →
      (isOpen .owner ↔ isOpen .member)) := by
  have h : w.Faithful k line := .run run own throughout stays
  have owner := h.owner_open_iff
  have member := h.member_open_iff arrived
  intro isOpen
  replace owner : isOpen .owner ↔ _ := owner
  replace member : isOpen .member ↔ _ := member
  refine ⟨by rw [owner, member]; tauto, by rw [owner, member]; tauto, fun creates => ?_⟩
  have notRefused : ¬ w.MemberRefused k := fun refused => by
    have := creates .member _ (List.mem_of_getLast? refused) rfl
    cases this
  have notLate : ¬ w.AckedLate k := fun late => by
    have := creates .owner _ (h.owner_failed_of_acked late) rfl
    cases this
  rw [owner, member]
  simp [notRefused, notLate]

open Meeting (sampleCast)

/-- The connections of Bob and Carol. -/
def sampleLine : Part → ConnectionId
  | .owner => 1
  | .member => 2

theorem whose_sampleCast (p : Part) (c : ConnectionId) :
    sampleCast.whose c = some p ↔ c = sampleLine p := by
  rcases c with _ | _ | _ | c <;> cases p <;> simp [sampleCast, sampleLine]

/-- The oldest request of one of them reaches the relay. -/
def sampleSend (p : Part) : List Meeting.Move :=
  ([.write, .takeFrame (sampleLine p) 0 "", .react] : List Rendezvous.Move).map (.exchange p)

/-- The oldest response to one of them arrives. -/
def sampleFetch (p : Part) : List Meeting.Move :=
  ([.takeResponse (sampleLine p), .receive (sampleLine p)] : List Rendezvous.Move).map
    (.exchange p)

/-- One of them logs in. -/
def sampleLogIn (p : Part) (token : String) : List Meeting.Move :=
  ([.dial, .dialed (sampleLine p), .accept (sampleLine p) 64, .react,
    .begin 0 [token] (sampleLogin (sampleCast.id p) false)] : List Rendezvous.Move).map
      (.exchange p) ++
    sampleSend p ++ sampleFetch p ++ [.exchange p (.finish ⟨token, 0⟩)]

/-- Carol asks for a session, and Bob's client gets the event. So many events reach hers before the
reply. -/
def sampleConnect (token : String) (waiter : WaiterId) (events : Nat) : List Meeting.Move :=
  let asked : Request :=
    { Request.ofAction .connectService with
      serviceName := some "ssh-box", servicePwdDigest := some sampleDigest }
  [.exchange .member (.begin 0 [token] asked)] ++ sampleSend .member ++
    (List.replicate (events + 1) (sampleFetch .member)).flatten ++
    [.exchange .member (.finish ⟨token, waiter⟩)] ++ sampleFetch .owner

/-- One of them handles an event and answers. So many events reach its client before the reply. -/
def sampleRespond (p : Part) (creates : Bool) (token : String) (waiter : WaiterId) (events : Nat) :
    List Meeting.Move :=
  [.chore p (.handleEvent creates), .chore p (.tell 0 [token])] ++ sampleSend p ++
    (List.replicate (events + 1) (sampleFetch p)).flatten ++ [.exchange p (.finish ⟨token, waiter⟩)]

/-- Bob could not create his agent at first. Carol hears of that when she has asked again, and by
then Bob has opened his end. -/
def crossingMoves : List Meeting.Move :=
  sampleLogIn .owner "t1" ++ sampleLogIn .member "t2" ++
    sampleConnect "t3" 1 0 ++ sampleRespond .owner false "t4" 1 0 ++
    sampleConnect "t5" 2 1 ++ sampleRespond .owner true "t6" 2 0 ++
    sampleRespond .member true "t7" 3 1 ++ [.chore .member (.handleEvent true)] ++
    sampleFetch .owner ++ [.chore .owner (.handleEvent true)]

theorem half_open_iff_crossingMoves : ∃ w,
    (Minutes.start sampleDatabase none {}).run? sampleCast crossingMoves = some w ∧
      w.OwnerOpened sampleCast ∧ w.AckedLate sampleCast ∧
      (w.meeting.seats .owner).endpoint.hasSession ⟨"ssh-box", "carol12345"⟩ = false ∧
      (w.meeting.seats .member).endpoint.hasSession ⟨"ssh-box", "bob1234567"⟩ = true := by
  have evaluated : ((Minutes.start sampleDatabase none {}).run? sampleCast crossingMoves).map
      (fun w => decide ((∀ moment ∈ w.meeting.handled, sampleCast.Fits moment.before) ∧
        (∀ p ∈ [Part.owner, .member], ∀ e ∈ w.told p, e.1.eventAction? ≠ some .logout) ∧
        w.heard sampleCast .owner =
          [(.iceOpen, false), (.iceOpen, true), (.iceCloseAck, true)] ∧
        w.heard sampleCast .member = [(.iceClose, true), (.iceOpenAck, true)])) = some true := by
    decide +kernel
  obtain ⟨w, run, found⟩ := Option.map_eq_some_iff.1 evaluated
  obtain ⟨throughout, stays, atOwner, atMember⟩ := of_decide_eq_true found
  have arrived : w.AllArrived sampleCast := by
    unfold AllArrived
    rw [atOwner, atMember]
    decide
  have opened : w.OwnerOpened sampleCast := by
    unfold OwnerOpened
    rw [atOwner]
    decide
  have late : w.AckedLate sampleCast := ⟨true, by rw [atOwner]; rfl⟩
  have notRefused : ¬ w.MemberRefused sampleCast := by
    unfold MemberRefused
    rw [atMember]
    decide
  obtain ⟨-, member, -⟩ := half_open_iff run whose_sampleCast throughout
    (fun p => stays p (by cases p <;> decide)) arrived
  obtain ⟨isOpen, notOpen⟩ := member.2 ⟨opened, late, notRefused⟩
  exact ⟨w, run, opened, late, Bool.eq_false_iff.2 notOpen, isOpen⟩

/-- Carol asks for a session and Bob opens his end, but she has no agent then. -/
def refusalMoves : List Meeting.Move :=
  sampleLogIn .owner "t1" ++ sampleLogIn .member "t2" ++
    sampleConnect "t3" 1 0 ++ sampleRespond .owner true "t4" 1 0 ++
    sampleFetch .member ++ [.chore .member (.handleEvent false)]

/-- Every call has succeeded and nothing is under way, and Bob's end is open without Carol's. -/
theorem half_open_session : ∃ w,
    (Minutes.start sampleDatabase none {}).run? sampleCast refusalMoves = some w ∧
      (∀ moment ∈ w.meeting.handled, sampleCast.Fits moment.before) ∧
      w.meeting.server.relay.db.isMember "carol12345" "ssh-box" = true ∧
      (∀ p, (∀ e ∈ w.told p, e.1.eventAction? ≠ some .logout) ∧
        (w.meeting.seats p).returns.length = (w.meeting.seats p).calls.length ∧
        ∀ ret ∈ (w.meeting.seats p).returns, ret.outcome.isOk = true) ∧
      w.meeting.isQuiet = true ∧
      (w.meeting.seats .owner).endpoint.hasSession ⟨"ssh-box", "carol12345"⟩ = true ∧
      (w.meeting.seats .member).endpoint.hasSession ⟨"ssh-box", "bob1234567"⟩ = false := by
  have evaluated : ((Minutes.start sampleDatabase none {}).run? sampleCast refusalMoves).map
      (fun w => decide ((∀ moment ∈ w.meeting.handled, sampleCast.Fits moment.before) ∧
        w.meeting.server.relay.db.isMember "carol12345" "ssh-box" = true ∧
        (∀ p ∈ [Part.owner, .member], (∀ e ∈ w.told p, e.1.eventAction? ≠ some .logout) ∧
          (w.meeting.seats p).returns.length = (w.meeting.seats p).calls.length ∧
          ∀ ret ∈ (w.meeting.seats p).returns, ret.outcome.isOk = true) ∧
        w.meeting.isQuiet = true ∧
        (w.meeting.seats .owner).endpoint.hasSession ⟨"ssh-box", "carol12345"⟩ = true ∧
        (w.meeting.seats .member).endpoint.hasSession ⟨"ssh-box", "bob1234567"⟩ = false)) =
      some true := by
    decide +kernel
  obtain ⟨w, run, found⟩ := Option.map_eq_some_iff.1 evaluated
  obtain ⟨throughout, joined, each, quiet, isOpen, notOpen⟩ := of_decide_eq_true found
  exact ⟨w, run, throughout, joined, fun p => each p (by cases p <;> decide), quiet, isOpen,
    notOpen⟩

end Minutes

end Rendezvous
