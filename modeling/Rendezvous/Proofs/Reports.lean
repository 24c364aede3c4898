import Rendezvous.Endpoint

/-!
# Reports of agents

An agent reports through a sink that knows the key of its session, not the agent itself. The report
waits, and when its turn comes it is relayed if its key has a session. That need not be the session
of the agent that reported: the key may have been closed and opened again in the meantime.

The calls that an endpoint has made of its agents tell which of them are open (`Accounts`). So a
report is relayed exactly if an agent of its key is open, which is the one that reported as long as
that is open itself, and one that was created later if it is closed (`report_relayed_iff`). A report
of a closed agent is relayed, then, whenever its key is open again (`closed_agent_relayed`).
-/

namespace Rendezvous

/-- The session that an event is about: of the service it names with the peer it comes from. -/
def Response.sessionKey? (r : Response) : Option SessionKey :=
  match r.fromId, r.serviceName with
  | some peer, some service => some ⟨service, peer⟩
  | _, _ => none

namespace Endpoint

variable {e : Endpoint} {creates : Bool} {event : Response} {key k : SessionKey} {a : AgentId}
  {role : Role} {calls : List AgentCall}

/-! ## What an event does -/

/-- Everything that an event can do: to the sessions, with the agents and as signals. -/
inductive Handles (e : Endpoint) (creates : Bool) (event : Response) :
    Endpoint × List AgentCall × List Signal → Prop
  | logout (action : event.eventAction? = some .logout) :
      Handles e creates event (e.closeAll.1, e.closeAll.2, [])
  | iceOpen {key : SessionKey} (action : event.eventAction? = some .iceOpen)
      (about : event.sessionKey? = some key) :
      Handles e creates event
        ((e.openSession creates key .controlled).1, (e.openSession creates key .controlled).2,
          [.forward (if creates then .iceOpenAck else .iceClose) key])
  | iceOpenAck {key : SessionKey} (action : event.eventAction? = some .iceOpenAck)
      (about : event.sessionKey? = some key) :
      Handles e creates event
        ((e.openSession creates key .controlling).1, (e.openSession creates key .controlling).2, [])
  | iceClose {key : SessionKey} (action : event.eventAction? = some .iceClose)
      (about : event.sessionKey? = some key) :
      Handles e creates event
        ((e.closeSession key).1, (e.closeSession key).2, [.forward .iceCloseAck key])
  | iceCloseAck {key : SessionKey} (action : event.eventAction? = some .iceCloseAck)
      (about : event.sessionKey? = some key) :
      Handles e creates event ((e.closeSession key).1, (e.closeSession key).2, [])
  | credentials {key : SessionKey} {ufrag pwd : String}
      (action : event.eventAction? = some .iceAuth) (about : event.sessionKey? = some key)
      (ufrags : event.get? Response.ufragKey = some ufrag)
      (pwds : event.get? Response.pwdKey = some pwd) :
      Handles e creates event
        (e, e.tellAgent key fun agent => .credentials key agent ufrag pwd, [])
  | candidate {key : SessionKey} {candidate : String}
      (action : event.eventAction? = some .iceCandidate) (about : event.sessionKey? = some key)
      (candidates : event.get? Response.candidateKey = some candidate) :
      Handles e creates event
        (e, e.tellAgent key fun agent => .candidate key agent candidate, [])
  | ignored : Handles e creates event (e, [], [])

theorem handleFor_handles {act : Action} (action : event.eventAction? = some act)
    (about : event.sessionKey? = some key) :
    Handles e creates event (e.handleFor creates key act event) := by
  unfold handleFor
  split
  · exact .iceOpen action about
  · exact .iceOpenAck action about
  · exact .iceClose action about
  · exact .iceCloseAck action about
  · split
    · next ufrags pwds => exact .credentials action about ufrags pwds
    · exact .ignored
  · split
    · next candidates => exact .candidate action about candidates
    · exact .ignored
  · exact .ignored

theorem handles (e : Endpoint) (creates : Bool) (event : Response) :
    Handles e creates event (e.handle creates event) := by
  unfold handle
  split
  · exact .ignored
  · next action => exact .logout action
  · next action =>
    split
    · next peer service =>
      exact handleFor_handles action (by simp [Response.sessionKey?, peer, service])
    · exact .ignored

/-- An event that names a session is handled for that session. -/
theorem handle_of_sessionKey? {act : Action} (action : event.eventAction? = some act)
    (notLogout : act ≠ .logout) (about : event.sessionKey? = some key) :
    e.handle creates event = e.handleFor creates key act event := by
  unfold Response.sessionKey? at about
  split at about
  · next peer service =>
    cases about
    unfold handle
    rw [action, peer, service]
    cases act <;> first | rfl | exact absurd rfl notLogout
  · cases about

theorem handle_of_sessionKey?_eq_none (notLogout : event.eventAction? ≠ some .logout)
    (nowhere : event.sessionKey? = none) : e.handle creates event = (e, [], []) := by
  unfold handle
  split
  · rfl
  · next action => exact absurd action notLogout
  · split
    · next peer service => simp [Response.sessionKey?, peer, service] at nowhere
    · rfl

theorem reports_closeSession (e : Endpoint) (key : SessionKey) :
    (e.closeSession key).1.reports = e.reports := by
  unfold closeSession
  split <;> rfl

theorem reports_openSession (e : Endpoint) (creates : Bool) (key : SessionKey) (role : Role) :
    (e.openSession creates key role).1.reports = e.reports := by
  rw [← reports_closeSession e key]
  unfold openSession
  cases creates <;> rfl

/-- An event leaves the reports waiting. -/
theorem reports_handle (e : Endpoint) (creates : Bool) (event : Response) :
    (e.handle creates event).1.reports = e.reports := by
  have done := e.handles creates event
  generalize e.handle creates event = after at done
  cases done with
  | iceOpen | iceOpenAck => exact reports_openSession ..
  | iceClose | iceCloseAck => exact reports_closeSession ..
  | _ => rfl

/-! ## Which agents are open -/

/-- The calls of an endpoint tell its sessions: those of the agents that were created and not
closed. -/
structure Accounts (e : Endpoint) (calls : List AgentCall) : Prop where
  older : ∀ {k role a}, .create k role (some a) ∈ calls → a < e.created
  created : ∀ {k a}, .close k a ∈ calls → ∃ role, .create k role (some a) ∈ calls
  session_iff : ∀ {k role a}, e.session? k = some ⟨a, role⟩ ↔
    .create k role (some a) ∈ calls ∧ .close k a ∉ calls
  newest : ∀ {k s role a}, e.session? k = some s → .create k role (some a) ∈ calls → a ≤ s.agent

namespace Accounts

theorem start : Accounts {} [] where
  older h := nomatch h
  created h := nomatch h
  session_iff := ⟨nofun, fun h => nomatch h.1⟩
  newest h := nomatch h

/-- A key without a session has no open agent. -/
theorem closed_of_none (h : e.Accounts calls) (empty : e.session? k = none)
    (made : .create k role (some a) ∈ calls) : .close k a ∈ calls := by
  refine Decidable.byContradiction fun still => ?_
  have opened := h.session_iff.2 ⟨made, still⟩
  rw [empty] at opened
  cases opened

/-- An agent that was not created yet is not closed. -/
theorem not_closed_created (h : e.Accounts calls) : .close k e.created ∉ calls := fun closed =>
  let ⟨_, made⟩ := h.created closed
  Nat.lt_irrefl _ (h.older made)

/-- Calls that create and close no agent change nothing. -/
theorem append (h : e.Accounts calls) {more : List AgentCall}
    (plain : ∀ k, (∀ role a, .create k role (some a) ∉ more) ∧ ∀ a, .close k a ∉ more) :
    e.Accounts (calls ++ more) where
  older made := h.older (by simpa [(plain _).1] using made)
  created closed :=
    let ⟨role, made⟩ := h.created (by simpa [(plain _).2] using closed)
    ⟨role, List.mem_append_left _ made⟩
  session_iff := by simp [h.session_iff, plain]
  newest found made := h.newest found (by simpa [(plain _).1] using made)

theorem congr (h : e.Accounts calls) {e' : Endpoint} (sessions : e'.sessions = e.sessions)
    (created : e'.created = e.created) : e'.Accounts calls := by
  obtain ⟨_, _, _⟩ := e'
  cases sessions
  cases created
  exact ⟨h.older, h.created, h.session_iff, h.newest⟩

theorem closeSession (h : e.Accounts calls) (key : SessionKey) :
    (e.closeSession key).1.Accounts (calls ++ (e.closeSession key).2) := by
  cases found : e.session? key with
  | none => simpa [Endpoint.closeSession, found] using h
  | some s =>
    have sessions := session?_closeSession e key
    simp only [Endpoint.closeSession, found] at sessions ⊢
    refine ⟨fun made => h.older (by simpa using made), fun closed => ?_, fun {k role a} => ?_,
      fun {k s' role a} found' made => ?_⟩
    · rcases List.mem_append.1 closed with old | new
      · obtain ⟨role, made⟩ := h.created old
        exact ⟨role, List.mem_append_left _ made⟩
      · cases List.mem_singleton.1 new
        exact ⟨s.role, List.mem_append_left _ (h.session_iff.1 found).1⟩
    · rw [sessions]
      by_cases same : k = key
      · subst same
        refine ⟨fun none => by simp at none, fun ⟨made, stays⟩ => ?_⟩
        simp only [List.mem_append, List.mem_singleton, reduceCtorEq, or_false, not_or]
          at made stays
        have := found.symm.trans (h.session_iff.2 ⟨made, stays.1⟩)
        cases this
        exact absurd rfl stays.2
      · simp [same, h.session_iff]
    · rw [sessions] at found'
      split at found'
      · cases found'
      · exact h.newest found' (by simpa using made)

theorem create (h : e.Accounts calls) (empty : e.session? key = none) (role : Role) :
    Accounts { e with sessions := e.sessions.insert key ⟨e.created, role⟩
                      created := e.created + 1 }
      (calls ++ [.create key role (some e.created)]) := by
  have sessions (k : SessionKey) : (e.sessions.insert key ⟨e.created, role⟩).get? k =
      if k = key then some ⟨e.created, role⟩ else e.session? k := Table.get?_insert ..
  refine ⟨fun {k role' a} made => ?_, fun closed => ?_, fun {k role' a} => ?_,
    fun {k s role' a} found made => ?_⟩
  · rcases List.mem_append.1 made with old | new
    · exact Nat.lt_succ_of_lt (h.older old)
    · cases List.mem_singleton.1 new
      exact Nat.lt_succ_self _
  · obtain ⟨role, made⟩ := h.created (by simpa using closed)
    exact ⟨role, List.mem_append_left _ made⟩
  · unfold session?
    rw [sessions]
    by_cases same : k = key
    · subst same
      simp only [if_pos, Option.some.injEq, Session.mk.injEq, List.mem_append, List.mem_singleton,
        AgentCall.create.injEq, reduceCtorEq, or_false, true_and]
      constructor
      · rintro ⟨rfl, rfl⟩
        exact ⟨.inr ⟨rfl, rfl⟩, h.not_closed_created⟩
      · rintro ⟨old | ⟨rfl, rfl⟩, stays⟩
        · exact absurd (h.closed_of_none empty old) stays
        · exact ⟨rfl, rfl⟩
    · simp [same, h.session_iff]
  · unfold session? at found
    rw [sessions] at found
    rcases List.mem_append.1 made with old | new
    · split at found
      · cases found
        exact Nat.le_of_lt (h.older old)
      · exact h.newest found old
    · cases List.mem_singleton.1 new
      rw [if_pos rfl] at found
      cases found
      exact Nat.le_refl _

theorem openSession (h : e.Accounts calls) (creates : Bool) (key : SessionKey) (role : Role) :
    (e.openSession creates key role).1.Accounts
      (calls ++ (e.openSession creates key role).2) := by
  have closed := h.closeSession key
  have empty : (e.closeSession key).1.session? key = none := by simp [session?_closeSession]
  unfold Endpoint.openSession
  cases creates with
  | true => simpa using closed.create empty role
  | false =>
    simp only [Bool.false_eq_true, if_false]
    rw [← List.append_assoc]
    exact closed.append fun k => by simp

theorem closeAll (h : e.Accounts calls) : e.closeAll.1.Accounts (calls ++ e.closeAll.2) where
  older made := h.older (by simpa [Endpoint.closeAll] using made)
  created {k a} closed := by
    simp only [Endpoint.closeAll, List.mem_append, List.mem_map, AgentCall.close.injEq,
      Prod.exists] at closed
    rcases closed with old | ⟨k, s, found, rfl, rfl⟩
    · obtain ⟨role, made⟩ := h.created old
      exact ⟨role, List.mem_append_left _ made⟩
    · exact ⟨s.role, List.mem_append_left _
        (h.session_iff.1 (Table.get?_eq_some_iff.2 found)).1⟩
  session_iff {k role a} := by
    refine ⟨nofun, fun ⟨made, stays⟩ => ?_⟩
    simp only [Endpoint.closeAll, List.mem_append, List.mem_map, reduceCtorEq, and_false,
      exists_false, or_false, not_or] at made stays
    have found := Table.get?_eq_some_iff.1 (h.session_iff.2 ⟨made, stays.1⟩)
    exact absurd ⟨_, found, rfl⟩ stays.2
  newest found := nomatch found

/-- What an endpoint does about an event is in its calls. -/
theorem handle (h : e.Accounts calls) (creates : Bool) (event : Response) :
    (e.handle creates event).1.Accounts (calls ++ (e.handle creates event).2.1) := by
  have done := e.handles creates event
  generalize e.handle creates event = after at done
  cases done with
  | logout => exact h.closeAll
  | iceOpen => exact h.openSession ..
  | iceOpenAck => exact h.openSession ..
  | iceClose => exact h.closeSession ..
  | iceCloseAck => exact h.closeSession ..
  | credentials => exact h.append fun k => by unfold tellAgent; split <;> simp
  | candidate => exact h.append fun k => by unfold tellAgent; split <;> simp
  | ignored => simpa using h

end Accounts

/-! ## What becomes of a report -/

end Endpoint

/-- The signal that a report of an agent of a session becomes. -/
def AgentEvent.signal (key : SessionKey) : AgentEvent → Signal
  | authReady ufrag pwd => .auth key ufrag pwd
  | candidateGathered candidate => .candidate key candidate

theorem Endpoint.signal?_eq_some_iff {e : Endpoint} {key : SessionKey} {r : AgentEvent}
    {signal : Signal} : e.signal? key r = some signal ↔
      (∃ s, e.session? key = some s) ∧ signal = r.signal key := by
  have present : e.hasSession key = true ↔ ∃ s, e.session? key = some s :=
    Option.isSome_iff_exists
  unfold signal?
  split
  · next found =>
    rw [present] at found
    cases r <;>
      exact ⟨fun h => ⟨found, (Option.some.inj h).symm⟩, fun h => congrArg some h.2.symm⟩
  · next missing =>
    rw [present] at missing
    simp [missing]

/-- The sink that is handed out with a call. -/
def AgentCall.sink? : AgentCall → Option EventSink
  | create key _ agent => some ⟨key, agent⟩
  | _ => none

/-- An endpoint and what can be seen of it from outside. -/
structure Watched where
  endpoint : Endpoint := {}
  /-- The calls it has made of agents, oldest first. -/
  calls : List AgentCall := []
  /-- The reports that wait, each with the sink that it came through, oldest first. -/
  waiting : List (EventSink × AgentEvent) := []

namespace Watched

/-- What can happen to an endpoint. -/
inductive Move where
  /-- An event is pushed; an agent can be created then, or not. -/
  | event (creates : Bool) (event : Response)
  | closeAll
  /-- Something is reported through a sink that was handed out. -/
  | report (sink : EventSink) (r : AgentEvent)
  /-- The oldest report is handled. -/
  | handleReport

/-- Makes a move if it is possible. -/
def step? (w : Watched) : Move → Option Watched
  | .event creates event =>
    let (e, calls, _) := w.endpoint.handle creates event
    some { w with endpoint := e, calls := w.calls ++ calls }
  | .closeAll =>
    let (e, calls) := w.endpoint.closeAll
    some { w with endpoint := e, calls := w.calls ++ calls }
  | .report sink r =>
    if sink ∈ w.calls.filterMap AgentCall.sink? then
      some { w with endpoint := w.endpoint.report sink r, waiting := w.waiting ++ [(sink, r)] }
    else none
  | .handleReport =>
    some { w with endpoint := w.endpoint.handleReport.1, waiting := w.waiting.tail }

/-- Makes moves one after the other. -/
def run? (w : Watched) (ms : List Move) : Option Watched := ms.foldlM step? w

/-- An agent of a session was created and has not been closed. -/
def IsOpen (w : Watched) (key : SessionKey) (a : AgentId) : Prop :=
  (∃ role, .create key role (some a) ∈ w.calls) ∧ .close key a ∉ w.calls

/-- The calls tell the sessions, and the endpoint knows what was reported and about which key. -/
structure Consistent (w : Watched) : Prop where
  accounts : w.endpoint.Accounts w.calls
  reports : w.endpoint.reports = w.waiting.map fun q => (q.1.key, q.2)
  handed : ∀ q ∈ w.waiting, q.1 ∈ w.calls.filterMap AgentCall.sink?

variable {w v : Watched} {m : Move} {ms : List Move} {sink : EventSink} {r : AgentEvent}
  {later : List (EventSink × AgentEvent)}

namespace Consistent

theorem start : Consistent {} where
  accounts := .start
  reports := rfl
  handed := nofun

theorem handed_append (h : w.Consistent) (calls : List AgentCall) :
    ∀ q ∈ w.waiting, q.1 ∈ (w.calls ++ calls).filterMap AgentCall.sink? := fun q hq => by
  rw [List.filterMap_append]
  exact List.mem_append_left _ (h.handed q hq)

theorem step (h : w.Consistent) (made : w.step? m = some v) : v.Consistent := by
  cases m with
  | event creates event =>
    cases made
    exact ⟨h.accounts.handle creates event, (Endpoint.reports_handle ..).trans h.reports,
      h.handed_append _⟩
  | closeAll =>
    cases made
    exact ⟨h.accounts.closeAll, h.reports, h.handed_append _⟩
  | report sink r =>
    rw [step?] at made
    split at made
    · next handed =>
      cases made
      refine ⟨h.accounts.congr rfl rfl, by simp [Endpoint.report, h.reports], fun q hq => ?_⟩
      rcases List.mem_append.1 hq with old | new
      · exact h.handed q old
      · cases List.mem_singleton.1 new
        exact handed
    · cases made
  | handleReport =>
    cases made
    obtain ⟨accounts, reports, handed⟩ := h
    unfold Endpoint.handleReport
    split
    · next none =>
      refine ⟨accounts, ?_, fun q hq => handed q (List.mem_of_mem_tail hq)⟩
      rw [List.map_tail, ← reports, none]
      rfl
    · next rest some =>
      refine ⟨accounts.congr rfl rfl, ?_, fun q hq => handed q (List.mem_of_mem_tail hq)⟩
      rw [List.map_tail, ← reports, some]
      rfl

theorem run (h : w.Consistent) (run : w.run? ms = some v) : v.Consistent := by
  induction ms generalizing w with
  | nil =>
    cases run
    exact h
  | cons m ms ih =>
    obtain ⟨u, first, rest⟩ := Option.bind_eq_some_iff.1 run
    exact ih (h.step first) rest

theorem isOpen_iff (h : w.Consistent) {key : SessionKey} {a : AgentId} :
    w.IsOpen key a ↔ ∃ role, w.endpoint.session? key = some ⟨a, role⟩ :=
  ⟨fun ⟨⟨role, made⟩, stays⟩ => ⟨role, h.accounts.session_iff.2 ⟨made, stays⟩⟩,
    fun ⟨role, found⟩ => ⟨⟨role, (h.accounts.session_iff.1 found).1⟩,
      (h.accounts.session_iff.1 found).2⟩⟩

theorem eq_of_isOpen (h : w.Consistent) {key : SessionKey} {a b : AgentId}
    (ha : w.IsOpen key a) (hb : w.IsOpen key b) : b = a := by
  obtain ⟨role, ha⟩ := h.isOpen_iff.1 ha
  obtain ⟨role', hb⟩ := h.isOpen_iff.1 hb
  rw [ha] at hb
  cases hb
  rfl

/-- While an agent of a key is open, those of the key that are closed are older. -/
theorem lt_of_closed (h : w.Consistent) {key : SessionKey} {a b : AgentId}
    (closed : .close key a ∈ w.calls) (hb : w.IsOpen key b) : a < b := by
  obtain ⟨role, made⟩ := h.accounts.created closed
  obtain ⟨role', found⟩ := h.isOpen_iff.1 hb
  exact Nat.lt_of_le_of_ne (h.accounts.newest found made) fun same => hb.2 (same ▸ closed)

/-- The agent that reported was created under the key of its sink. -/
theorem created_of_waiting (h : w.Consistent) (waits : (sink, r) ∈ w.waiting) {a : AgentId}
    (agent : sink.agent = some a) : ∃ role, .create sink.key role (some a) ∈ w.calls := by
  obtain ⟨call, made, handed⟩ := List.mem_filterMap.1 (h.handed _ waits)
  cases call with
  | create key role agent' =>
    cases handed
    cases agent
    exact ⟨role, made⟩
  | _ => cases handed

/-- The oldest report becomes a signal if its key has a session. -/
theorem handleReport_eq_some_iff (h : w.Consistent) (oldest : w.waiting = (sink, r) :: later)
    {signal : Signal} : w.endpoint.handleReport.2 = some signal ↔
      (∃ s, w.endpoint.session? sink.key = some s) ∧ signal = r.signal sink.key := by
  have reports := h.reports
  rw [oldest] at reports
  simp only [List.map_cons] at reports
  unfold Endpoint.handleReport
  rw [reports]
  exact Endpoint.signal?_eq_some_iff

end Consistent

/-- Whatever happened to an endpoint, its oldest report is relayed, as it is and to the other end
of its key's session, exactly if some agent of the key is open. As long as the agent that reported
is open, that is the one; if it has been closed, only one that was created after it can be. -/
theorem report_relayed_iff (run : run? {} ms = some w) (oldest : w.waiting = (sink, r) :: later) :
    (∀ signal, w.endpoint.handleReport.2 = some signal ↔
      signal = r.signal sink.key ∧ ∃ b, w.IsOpen sink.key b) ∧
    (∀ b, w.IsOpen sink.key b ↔ ∃ role, w.endpoint.session? sink.key = some ⟨b, role⟩) ∧
    ∀ a, sink.agent = some a →
      w.IsOpen sink.key a ∧ (∀ b, w.IsOpen sink.key b → b = a) ∨
      .close sink.key a ∈ w.calls ∧ ∀ b, w.IsOpen sink.key b → a < b := by
  have h : w.Consistent := Consistent.start.run run
  refine ⟨fun signal => ?_, fun b => h.isOpen_iff, fun a agent => ?_⟩
  · rw [h.handleReport_eq_some_iff oldest, and_comm]
    refine and_congr_right fun _ => ⟨?_, ?_⟩
    · intro ⟨s, found⟩
      exact ⟨s.agent, h.isOpen_iff.2 ⟨s.role, found⟩⟩
    · intro ⟨b, isOpen⟩
      obtain ⟨role, found⟩ := h.isOpen_iff.1 isOpen
      exact ⟨_, found⟩
  · by_cases closed : .close sink.key a ∈ w.calls
    · exact .inr ⟨closed, fun b isOpen => h.lt_of_closed closed isOpen⟩
    · have waits : (sink, r) ∈ w.waiting := oldest ▸ List.mem_cons_self ..
      have isOpen : w.IsOpen sink.key a := ⟨h.created_of_waiting waits agent, closed⟩
      exact .inl ⟨isOpen, fun b isOpen' => h.eq_of_isOpen isOpen isOpen'⟩

/-- A session with the owner of a service is opened, and closed after its agent has reported the
credentials; then it is opened again. -/
def reopeningMoves : List Move :=
  let event (a : Action) : Response :=
    { event := a.name, fromId := some "bob1234567", serviceName := some "ssh-box" }
  [.event true (event .iceOpenAck),
   .report ⟨⟨"ssh-box", "bob1234567"⟩, some 0⟩ (.authReady "old" "secret"),
   .event true (event .iceCloseAck),
   .event true (event .iceOpenAck)]

/-- The credentials are those of an agent that is closed, and are relayed all the same. -/
theorem closed_agent_relayed : ∃ w sink r, run? {} reopeningMoves = some w ∧
    w.waiting = [(sink, r)] ∧ sink.agent = some 0 ∧ .close sink.key 0 ∈ w.calls ∧
    w.endpoint.session? sink.key = some ⟨1, .controlling⟩ ∧
    w.endpoint.handleReport.2 = some (.auth ⟨"ssh-box", "bob1234567"⟩ "old" "secret") := by
  refine ⟨_, _, _, rfl, rfl, rfl, ?_⟩
  decide +kernel

/-- The agent whose session it is then was created later. -/
theorem report_relayed_iff_reopeningMoves : ∃ w, run? {} reopeningMoves = some w ∧
    ∃ b, w.IsOpen ⟨"ssh-box", "bob1234567"⟩ b ∧ 0 < b := by
  refine ⟨_, rfl, ?_⟩
  obtain ⟨relayed, -, agents⟩ := report_relayed_iff (show run? {} reopeningMoves = _ from rfl) rfl
  obtain ⟨-, b, isOpen⟩ := (relayed (.auth ⟨"ssh-box", "bob1234567"⟩ "old" "secret")).1
    (by decide +kernel)
  rcases agents 0 rfl with ⟨⟨-, stays⟩, -⟩ | ⟨-, later⟩
  · exact absurd (by decide +kernel) stays
  · exact ⟨b, isOpen, later b isOpen⟩

end Watched

end Rendezvous
