import Rendezvous.Proofs.Ordering

/-!
# What the ends of a session announce

The two ends of a session tell each other to open and to close it. A member's application asks for
either; everything else is answered by the endpoints, and what an owner's end says about opening and
closing is answers only (`Cast.Attentive.said`). The relay hands an announcement on as an event to
the other end, and no event about their session comes from anywhere else
(`Cast.Fits.hears_sublist`). What an endpoint has heard tells whether its end is open
(`Cast.Attentive.isOpen`).
-/

namespace Rendezvous

/-! ## What an endpoint is told -/

/-- Whether an action is about opening or closing an end of a session. -/
def Action.opensOrCloses : Action → Bool
  | iceOpen | iceOpenAck | iceClose | iceCloseAck => true
  | _ => false

/-- Whether an end opens its session when it is told so. -/
def Action.opens : Action → Bool
  | iceOpen | iceOpenAck => true
  | _ => false

/-- What an end answers, when it can create an agent or cannot. -/
def Action.answer? (creates : Bool) : Action → Option Action
  | iceOpen => some (if creates then iceOpenAck else iceClose)
  | iceClose => some iceCloseAck
  | _ => none

theorem Action.answer?_eq_iceOpenAck {a : Action} {creates : Bool}
    (answer : a.answer? creates = some .iceOpenAck) : a = .iceOpen ∧ creates = true := by
  cases a <;> cases creates <;> cases answer
  exact ⟨rfl, rfl⟩

/-- What an event tells about a session. -/
def Response.about? (r : Response) (key : SessionKey) : Option Action :=
  if r.sessionKey? = some key then r.eventAction?.filter (·.opensOrCloses) else none

theorem Response.about?_eq_some_iff {r : Response} {key : SessionKey} {a : Action} :
    r.about? key = some a ↔
      r.sessionKey? = some key ∧ r.eventAction? = some a ∧ a.opensOrCloses = true := by
  unfold about?
  split
  · next about => simp [about, Option.filter_eq_some_iff]
  · next other => simp [other]

namespace Endpoint

variable {e : Endpoint} {creates : Bool} {event : Response} {key : SessionKey} {a : Action}

theorem session?_openSession_of_ne {role : Role} {k : SessionKey} (other : k ≠ key) :
    (e.openSession creates key role).1.session? k = e.session? k := by
  have closed := session?_closeSession e key k
  rw [if_neg other] at closed
  unfold openSession
  cases creates with
  | true =>
    refine (Table.get?_insert ..).trans ?_
    rw [if_neg other]
    exact closed
  | false => exact closed

theorem isSome_session?_openSession {role : Role} :
    ((e.openSession creates key role).1.session? key).isSome = creates := by
  unfold openSession
  cases creates with
  | true =>
    show (((e.closeSession key).1.sessions.insert key _).get? key).isSome = true
    rw [Table.get?_insert, if_pos rfl]
    rfl
  | false =>
    show ((e.closeSession key).1.session? key).isSome = false
    rw [session?_closeSession, if_pos rfl]
    rfl

/-- A session stays as it is, unless the event is about it or the client is logged out. -/
theorem session?_handle_of_none (notLogout : event.eventAction? ≠ some .logout)
    (aside : event.about? key = none) :
    (e.handle creates event).1.session? key = e.session? key := by
  have other : ∀ {k a}, event.eventAction? = some a → a.opensOrCloses = true →
      event.sessionKey? = some k → key ≠ k := by
    rintro k a action counts about rfl
    rw [Response.about?_eq_some_iff.2 ⟨about, action, counts⟩] at aside
    cases aside
  have done := e.handles creates event
  generalize e.handle creates event = after at done
  cases done with
  | logout action => exact absurd action notLogout
  | iceOpen action about | iceOpenAck action about =>
    exact session?_openSession_of_ne (other action rfl about)
  | iceClose action about | iceCloseAck action about =>
    rw [session?_closeSession, if_neg (other action rfl about)]
  | _ => rfl

/-- An event about opening or closing a session is handled for that session. -/
theorem handle_of_about (told : event.about? key = some a) :
    e.handle creates event = e.handleFor creates key a event := by
  obtain ⟨about, action, counts⟩ := Response.about?_eq_some_iff.1 told
  refine handle_of_sessionKey? action ?_ about
  rintro rfl
  cases counts

/-- A session that an event is about is open afterwards if it is opened and there is an agent. -/
theorem isSome_session?_handle (told : event.about? key = some a) :
    ((e.handle creates event).1.session? key).isSome = (a.opens && creates) := by
  obtain ⟨-, -, counts⟩ := Response.about?_eq_some_iff.1 told
  rw [handle_of_about told]
  cases a with
  | iceOpen | iceOpenAck => exact isSome_session?_openSession
  | iceClose | iceCloseAck =>
    show ((e.closeSession key).1.session? key).isSome = false
    rw [session?_closeSession, if_pos rfl]
    rfl
  | _ => cases counts

/-- What is answered, and about which session. -/
theorem signals_handle (e : Endpoint) (creates : Bool) (event : Response) :
    (e.handle creates event).2.2 = [] ∨ ∃ key a b, event.about? key = some a ∧
      a.answer? creates = some b ∧ (e.handle creates event).2.2 = [.forward b key] := by
  have about {key : SessionKey} {a : Action} (action : event.eventAction? = some a)
      (about : event.sessionKey? = some key) (counts : a.opensOrCloses = true) :
      event.about? key = some a := Response.about?_eq_some_iff.2 ⟨about, action, counts⟩
  have done := e.handles creates event
  generalize e.handle creates event = after at done
  cases done with
  | iceOpen action key => exact .inr ⟨_, _, _, about action key rfl, rfl, rfl⟩
  | iceClose action key => exact .inr ⟨_, _, _, about action key rfl, rfl, rfl⟩
  | _ => exact .inl rfl

end Endpoint

/-! ## What the ends tell each other -/

/-- What an application may ask for by itself: a member's, that the session be opened or closed. -/
def Part.asksFor : Part → Action → Bool
  | member, .iceOpen | member, .iceClose => true
  | _, _ => false

namespace Cast

variable {k : Cast} {p : Part} {a : Action} {q : Request}

/-- The session of an end with the other one. -/
def key (k : Cast) (p : Part) : SessionKey := ⟨k.service, k.id p.other⟩

/-- What an event tells an end about its session with the other one. -/
def hears? (k : Cast) (p : Part) (r : Response) : Option Action := r.about? (k.key p)

/-- What a request of an end tells the other one about their session. The owner speaks to the peer
that it names, and a member always to the owner. -/
def announces? (k : Cast) : Part → Request → Option Action
  | .owner, q =>
    if q.serviceName = some k.service ∧ q.toId = some (k.id .member) then
      q.action?.toOption.filter (·.opensOrCloses)
    else none
  | .member, q =>
    if q.serviceName = some k.service then
      (q.action?.toOption.bind (·.relayedAs?)).filter (·.opensOrCloses)
    else none

/-- What a signal of an end will tell the other one. -/
def tells? (k : Cast) (p : Part) (signal : Signal) : Option Action :=
  (Request.ofSignal signal).toOption.bind (k.announces? p)

theorem announces?_address (k : Cast) (p : Part) (c : Client) (q : Request) (token : String) :
    k.announces? p (c.address q token) = k.announces? p q := by
  cases p <;> rfl

theorem tells?_of_ofSignal {signal : Signal} (carried : Request.ofSignal signal = .ok q) :
    k.tells? p signal = k.announces? p q := by
  unfold tells?
  rw [carried]
  rfl

theorem isRelayed_of_opensOrCloses (counts : a.opensOrCloses = true) : a.isRelayed = true := by
  cases a <;> first | rfl | cases counts

theorem relayedAs?_of_isRelayed (relayed : a.isRelayed = true) : a.relayedAs? = some a := by
  cases a <;> first | rfl | cases relayed

/-- What is forwarded to the other end of a session. -/
theorem exists_request_of_forward (relayed : a.isRelayed = true) (key : SessionKey) :
    ∃ q, Request.ofSignal (.forward a key) = .ok q ∧ q.action? = .ok a ∧
      q.serviceName = some key.service ∧ q.toId = some key.peer :=
  ⟨_, if_pos relayed, Request.action?_ofAction a, rfl, rfl⟩

/-- What an endpoint answers about a session reaches the other end if it is the session with it. -/
theorem tells?_forward {key : SessionKey} (genuine : k.counts p key → key = k.key p)
    (counts : a.opensOrCloses = true) :
    k.tells? p (.forward a key) = if key = k.key p then some a else none := by
  have relayed := isRelayed_of_opensOrCloses counts
  obtain ⟨q, carried, action, service, toId⟩ := exists_request_of_forward relayed key
  rw [tells?_of_ofSignal carried]
  cases p with
  | owner =>
    obtain ⟨name, peer⟩ := key
    simp [announces?, action, service, toId, Cast.key, Part.other, Except.toOption, Option.filter,
      counts]
  | member =>
    have same : some key.service = some k.service ↔ key = k.key .member :=
      ⟨fun h => genuine (Option.some.inj h), fun h => by rw [h]; rfl⟩
    simp [announces?, action, service, same, Except.toOption, Option.filter,
      relayedAs?_of_isRelayed relayed, counts]

/-- A request that tells something is about the service, and relayed as what it tells. An owner's
names the member, and its action is what it tells. -/
theorem of_announces? (said : k.announces? p q = some a) :
    a.opensOrCloses = true ∧ q.serviceName = some k.service ∧
      ∃ b, q.action? = .ok b ∧ b.relayedAs? = some a ∧
        (p = .owner → b = a ∧ q.toId = some (k.id .member)) := by
  cases hb : q.action? with
  | error => cases p <;> simp [announces?, hb, Except.toOption] at said
  | ok b =>
    cases p with
    | owner =>
      simp only [announces?, hb, Except.toOption, Option.ite_none_right_eq_some,
        Option.filter_eq_some_iff, Option.some.injEq] at said
      obtain ⟨⟨service, toId⟩, rfl, counts⟩ := said
      exact ⟨counts, service, b, rfl, relayedAs?_of_isRelayed (isRelayed_of_opensOrCloses counts),
        fun _ => ⟨rfl, toId⟩⟩
    | member =>
      simp only [announces?, hb, Except.toOption, Option.ite_none_right_eq_some,
        Option.filter_eq_some_iff, Option.bind_some] at said
      exact ⟨said.2.2, said.1, b, rfl, said.2.1, nofun⟩

/-- A report of an agent says nothing about opening or closing. -/
theorem tells?_eq_none {signal : Signal} (plain : ∀ a key, signal ≠ .forward a key) :
    k.tells? p signal = none := by
  have none_of {q : Request} {b : Action} (carried : Request.ofSignal signal = .ok q)
      (asked : q.action? = .ok b) (same : b.relayedAs? = some b) (other : b.opensOrCloses = false) :
      k.tells? p signal = none := by
    rw [tells?_of_ofSignal carried, Option.eq_none_iff_forall_ne_some]
    intro a said
    obtain ⟨counts, -, b', asked', under, -⟩ := of_announces? said
    cases asked.symm.trans asked'
    cases same.symm.trans under
    rw [other] at counts
    cases counts
  cases signal with
  | forward a key => exact absurd rfl (plain a key)
  | auth => exact none_of rfl rfl rfl rfl
  | candidate => exact none_of rfl rfl rfl rfl

/-- What an application says of the session is what it may ask for. -/
theorem asksFor_of_permits {now : Nat} {tokens : List String}
    (permitted : k.permits (.begin now tokens q) = true) (said : k.announces? p q = some a) :
    p.asksFor a = true := by
  obtain ⟨-, service, b, asked, under, owner⟩ := of_announces? said
  have named := Action.ofName?_name b
  rw [← Request.action_of_action? asked] at named
  have own : b.isRelayed = false := by simpa [permits, service, named] using permitted
  cases b <;> cases under <;> cases own <;> cases p
  all_goals first | rfl | cases (owner rfl).1

/-- An event about a session that counts at an end comes from the other end. -/
def Genuine (k : Cast) (p : Part) (r : Response) : Prop :=
  ∀ key a, r.about? key = some a → k.counts p key → key = k.key p

end Cast

/-! ## What the relay makes of it -/

namespace Relay

variable {r : Relay} {c : ConnectionId} {time : UInt64} {q : Request} {o : Outcome}

/-- Besides the reply, a request makes the relay push one message at most. -/
theorem Leads.length_pushes_le (l : r.Leads c time q o) : o.pushes.length ≤ 1 := by
  cases l with
  | tookOver =>
    rw [pushes_takeOver]
    exact Option.length_toList_le
  | relayed => exact Nat.le_refl 1
  | _ => exact Nat.zero_le 1

/-- Whatever can be read off events only is pushed once at most. -/
theorem length_filterMap_handle_le {α : Type} (r : Relay) (e : Event) {f : Response → Option α}
    (events : ∀ x, x.event = "" → f x = none) :
    (((r.handle e).2.map (·.response)).filterMap f).length ≤ 1 := by
  cases e with
  | request c time q =>
    have l := leads_dispatch r c time q
    have reply : ((((r.dispatch c time q).relay.link? c).map fun link =>
        (⟨link, reply q (r.dispatch c time q).result⟩ : Push)).toList.map
          (·.response)).filterMap f = [] := by
      rw [List.filterMap_eq_nil_iff]
      intro x hx
      obtain ⟨push, hp, rfl⟩ := List.mem_map.1 hx
      obtain ⟨link, -, rfl⟩ := Option.map_eq_some_iff.1 (Option.mem_toList.1 hp)
      exact events _ l.event_reply
    show ((((r.dispatch c time q).pushes ++ _).map _).filterMap f).length ≤ 1
    rw [List.map_append, List.filterMap_append, reply, List.append_nil]
    exact Nat.le_trans (List.length_filterMap_le ..) (by simpa using l.length_pushes_le)
  | opened | closed | shutdown => exact Nat.zero_le 1

end Relay

namespace Cast.Fits

variable {k : Cast} {x : Exchange} {p : Part} {line : Part → ConnectionId}

/-- What the relay pushes to an end about a session that counts there was said by the other end,
about their session. -/
theorem origin_of_about (fits : k.Fits x.server.relay) (routed : x.Routed (k.mine p))
    (own : ∀ p c, k.whose c = some p ↔ c = line p) {e : Event} {push : Push}
    (pushed : push ∈ (x.server.relay.handle e).2)
    (here : x.queue? (line p) = some push.link.queue) {key : SessionKey} {a : Action}
    (told : push.response.about? key = some a) (counts : k.counts p key) :
    key = k.key p ∧ ∃ time q, e = .request (line p.other) time q ∧
      k.announces? p.other q = some a := by
  obtain ⟨about, action, opens⟩ := Response.about?_eq_some_iff.1 told
  have notLogout : a ≠ .logout := by
    rintro rfl
    cases opens
  obtain ⟨c, time, q, b, target, rfl, who, asked, under, service, access, forwarded, online⟩ :=
    Relay.origin_of_event pushed action notLogout about
  have known := routed.identity_of_queue online here
  have target : target = k.id p := (fits.speaks _ _ known p).1 ((own p _).2 rfl)
  subst target
  obtain ⟨s, found, rule⟩ := Database.forwardTarget_eq_ok_iff.1 forwarded
  have owned : s.owner = k.id .owner := fits.owned s (k.service_of_counts counts ▸ found)
  have speaker (peer : key.peer = k.id p.other) : c = line p.other :=
    (own _ c).1 ((fits.speaks c _ who p.other).2 peer)
  have service : q.serviceName = some k.service := k.service_of_counts counts ▸ service
  cases p with
  | owner =>
    cases counts
    refine ⟨rfl, time, q, by rw [speaker rfl], ?_⟩
    simp [Cast.announces?, Part.other, service, asked, Except.toOption, under, Option.filter, opens]
  | member =>
    obtain ⟨peer, toId⟩ : key.peer = k.id .owner ∧ q.toId = some (k.id .member) := by
      rcases rule with ⟨caller, toId, -⟩ | ⟨-, -, toOwner⟩
      · exact ⟨caller.symm.trans owned, toId⟩
      · exact absurd (owned.symm.trans toOwner.symm) k.differ
    have relayed : b.isRelayed = true := by
      by_contra session
      obtain ⟨s', found', notOwner, -⟩ :=
        Database.checkAccess_eq_ok_iff.1 (access (Bool.eq_false_iff.2 session))
      cases found.symm.trans found'
      exact notOwner (owned.trans peer.symm)
    cases (Cast.relayedAs?_of_isRelayed relayed).symm.trans under
    refine ⟨?_, time, q, by rw [speaker peer], ?_⟩
    · obtain ⟨name, sender⟩ := key
      cases peer
      cases counts
      rfl
    · simp [Cast.announces?, Part.other, service, toId, asked, Except.toOption, Option.filter,
        opens]

/-- So an end hears what the other one says, and nothing else. -/
theorem hears_sublist (fits : k.Fits x.server.relay) (routed : x.Routed (k.mine p))
    (own : ∀ p c, k.whose c = some p ↔ c = line p) (e : Event) :
    ((x.delivered (line p) e).filterMap (k.hears? p)).Sublist
      ((e.request?.toList.filter (·.1 = line p.other)).map (·.2) |>.filterMap
        (k.announces? p.other)) := by
  have once := Relay.length_filterMap_handle_le x.server.relay e (f := k.hears? p) fun r none => by
    unfold Cast.hears? Response.about? Response.eventAction? Response.isEvent
    simp [none]
  have fewer : ((x.delivered (line p) e).filterMap (k.hears? p)).length ≤ 1 :=
    Nat.le_trans ((List.filter_sublist.map _).filterMap _).length_le once
  generalize heard : (x.delivered (line p) e).filterMap (k.hears? p) = l at fewer
  match l, fewer with
  | [], _ => exact List.nil_sublist _
  | [a], _ =>
    have there : a ∈ (x.delivered (line p) e).filterMap (k.hears? p) := by simp [heard]
    obtain ⟨r, hr, told⟩ := List.mem_filterMap.1 there
    obtain ⟨push, hp, rfl⟩ := List.mem_map.1 hr
    obtain ⟨pushed, here⟩ := List.mem_filter.1 hp
    obtain ⟨-, time, q, rfl, said⟩ := fits.origin_of_about routed own pushed
      (of_decide_eq_true here) told (k.counts_other p)
    simp [Event.request?, said]

end Cast.Fits

/-! ## What an end has heard -/

/-- Of the events that an endpoint was told, those about its session with the other end: what they
say, and whether an agent could be created then. -/
def Cast.heard (k : Cast) (p : Part) (told : List (Response × Bool)) : List (Action × Bool) :=
  told.filterMap fun e => (k.hears? p e.1).map (·, e.2)

/-- The answers to what was heard. -/
def answers (heard : List (Action × Bool)) : List Action :=
  heard.filterMap fun e => e.1.answer? e.2

/-- Whether what was heard last opened the session. -/
def leavesOpen (heard : List (Action × Bool)) : Bool :=
  heard.getLast?.any fun e => e.1.opens && e.2

namespace Cast

variable {k : Cast} {p : Part} {s t : Seat} {told : List (Response × Bool)}

/-- What an end says to the other one: by its calls so far, and by the signals to come. -/
def saying (k : Cast) (p : Part) (s : Seat) : List Action :=
  (s.calls.map (·.2)).filterMap (k.announces? p) ++ s.signals.filterMap (k.tells? p)

/-- An end does as it is told, and says what it answers and what its application asks for. -/
structure Attentive (k : Cast) (p : Part) (s : Seat) (told : List (Response × Bool)) : Prop where
  isOpen : (s.endpoint.session? (k.key p)).isSome = leavesOpen (k.heard p told)
  said : ((k.saying p s).filter (!p.asksFor ·)).Sublist (answers (k.heard p told))
  role : ∀ e ∈ k.heard p told, e.1 ≠ p.other.role.openedBy

theorem heard_append (k : Cast) (p : Part) (told more : List (Response × Bool)) :
    k.heard p (told ++ more) = k.heard p told ++ k.heard p more := List.filterMap_append

theorem opensOrCloses_of_answer? {a b : Action} {creates : Bool}
    (answer : a.answer? creates = some b) : b.opensOrCloses = true := by
  cases a <;> cases creates <;> cases answer <;> rfl

/-- The signals that an endpoint sends about an event answer what it heard. -/
theorem tells_signals {e : Endpoint} {creates : Bool} {event : Response}
    (genuine : k.Genuine p event) :
    ((e.handle creates event).2.2.filterMap (k.tells? p)).Sublist
      (answers (k.heard p [(event, creates)])) := by
  rcases e.signals_handle creates event with none | ⟨key, a, b, about, answer, signals⟩
  · rw [none]
    exact List.nil_sublist _
  · -- an answer about a session with somebody else tells the other end nothing
    have told := tells?_forward (genuine key a about) (opensOrCloses_of_answer? answer)
    rw [signals, List.filterMap_cons, told]
    by_cases same : key = k.key p
    · subst same
      simp [heard, hears?, answers, about, answer]
    · rw [if_neg same]
      exact List.nil_sublist _

namespace Attentive

theorem start : k.Attentive p {} [] where
  isOpen := rfl
  said := List.Sublist.refl _
  role := nofun

/-- An end handles an event. -/
theorem handle (h : k.Attentive p s told) {creates : Bool} {event : Response}
    (idle : s.isIdle = true) (may : k.May p event) (genuine : k.Genuine p event)
    (notLogout : event.eventAction? ≠ some .logout) (events : Outbox) :
    k.Attentive p { s with
      client := { s.client with events := events }
      endpoint := (s.endpoint.handle creates event).1
      signals := (s.endpoint.handle creates event).2.2 } (told ++ [(event, creates)]) where
  isOpen := by
    rw [heard_append]
    cases hears : k.hears? p event with
    | none =>
      have nothing : k.heard p [(event, creates)] = [] := by simp [heard, hears]
      rw [nothing, List.append_nil]
      exact (congrArg _ (Endpoint.session?_handle_of_none notLogout hears)).trans h.isOpen
    | some a =>
      have one : k.heard p [(event, creates)] = [(a, creates)] := by simp [heard, hears]
      refine (Endpoint.isSome_session?_handle hears).trans ?_
      simp [one, leavesOpen]
  said := by
    have before := h.said
    unfold saying at before ⊢
    -- the loop takes an event only when all signals of the last one are out
    have silent : s.signals = [] := List.isEmpty_iff.1 (Bool.and_eq_true_iff.1 idle).1
    rw [silent, List.filterMap_nil, List.append_nil] at before
    rw [heard_append, List.filter_append]
    unfold answers at before ⊢
    rw [List.filterMap_append]
    exact before.append (List.filter_sublist.trans (tells_signals genuine))
  role := by
    rw [heard_append]
    intro e he
    rcases List.mem_append.1 he with old | new
    · exact h.role e old
    · obtain ⟨e', he', heard⟩ := List.mem_filterMap.1 new
      cases List.mem_singleton.1 he'
      obtain ⟨a, hears, rfl⟩ := Option.map_eq_some_iff.1 heard
      obtain ⟨about, action, -⟩ := Response.about?_eq_some_iff.1 hears
      rintro rfl
      exact may action _ about (k.counts_other p)

/-- Other things that the loop and the agents do change nothing about openings and closings. -/
theorem aside (h : k.Attentive p s told) {c : Chore} (other : ∀ creates, c ≠ .handleEvent creates)
    (made : s.Steps c t) : k.Attentive p t told := by
  cases made with
  | handleEvent => exact absurd rfl (other _)
  | report => exact ⟨h.isOpen, h.said, h.role⟩
  | handleReport =>
    refine ⟨(congrArg _ (s.endpoint.session?_handleReport _)).trans h.isOpen, ?_, h.role⟩
    have silent : s.endpoint.handleReport.2.toList.filterMap (k.tells? p) = [] := by
      rw [List.filterMap_eq_nil_iff]
      intro signal reported
      refine tells?_eq_none fun a key same => ?_
      rw [same] at reported
      exact s.endpoint.handleReport_ne_forward (Option.mem_toList.1 reported)
    refine List.Sublist.trans (List.Sublist.filter _ ?_) h.said
    unfold saying
    rw [silent, List.append_nil]
    exact List.sublist_append_left ..
  | @tell _ _ signal rest q _ call free oldest carried =>
    refine { h with said := ?_ }
    have same : k.announces? p (s.client.address q call.token) = k.tells? p signal := by
      rw [announces?_address, tells?_of_ofSignal carried]
    have said := h.said
    unfold saying at said ⊢
    rw [oldest] at said
    cases told : k.tells? p signal <;>
      simpa [List.filterMap_append, List.filterMap_cons, same, told] using said
  | drop _ oldest =>
    refine { h with said := List.Sublist.trans (List.Sublist.filter _ ?_) h.said }
    unfold saying
    rw [oldest]
    exact ((List.sublist_cons_self ..).filterMap _).append_left _

/-- What else an end's client does changes nothing either; its application may ask for more. -/
theorem calling (h : k.Attentive p s told) (endpoint : t.endpoint = s.endpoint)
    (signals : t.signals = s.signals)
    (calls : t.calls = s.calls ∨ ∃ now tokens q call c, k.permits (.begin now tokens q) = true ∧
      t.calls = s.calls ++ [(call, Client.address c q call.token)]) : k.Attentive p t told := by
  refine ⟨endpoint ▸ h.isOpen, ?_, h.role⟩
  have said := h.said
  unfold saying at said ⊢
  rw [signals]
  rcases calls with calls | ⟨now, tokens, q, call, c, permitted, calls⟩
  · rw [calls]
    exact said
  · have own :
        ([c.address q call.token].filterMap (k.announces? p)).filter (!p.asksFor ·) = [] := by
      rw [List.filter_eq_nil_iff]
      intro a ha
      obtain ⟨q', hq, announced⟩ := List.mem_filterMap.1 ha
      cases List.mem_singleton.1 hq
      rw [announces?_address] at announced
      simp [asksFor_of_permits permitted announced]
    rw [calls, List.map_append, List.filterMap_append, List.filter_append, List.filter_append]
    rw [List.filter_append] at said
    show (_ ++ ([c.address q call.token].filterMap (k.announces? p)).filter _ ++ _).Sublist _
    rw [own, List.append_nil]
    exact said

end Attentive

end Cast

end Rendezvous
