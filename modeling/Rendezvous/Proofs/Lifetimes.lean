import Mathlib.Data.List.Perm.Basic
import Rendezvous.Proofs.Announcements
import Rendezvous.Proofs.Reports

/-!
# How long agents live

The agents that an endpoint has created are those that it has closed and those of its sessions, each
of them once (`Endpoint.Conserves`). This holds of an endpoint without sessions, and every event
keeps it:

    e.Conserves calls → (e.handle creates event).1.Conserves (calls ++ (e.handle creates event).2.1)

So an agent is closed once at most, and exactly once when all sessions are closed. Whether a key has
a session, and in which role, is told by the last event that decided about it, and what the other
end sends goes to the agent that has the session then (`agents_accounted_for`).
-/

namespace Rendezvous

/-! ## Entries of a table -/

namespace Table

variable {κ α : Type} [LT κ] [Key κ]

theorem nodup_entries (t : Table κ α) : t.entries.Nodup := t.nodup_keys.of_map _

/-- A table that has one key more has one entry more. -/
theorem perm_entries [DecidableEq κ] {s t : Table κ α} {k : κ} {v : α} (new : t.get? k = none)
    (more : ∀ j, s.get? j = if j = k then some v else t.get? j) :
    s.entries.Perm ((k, v) :: t.entries) := by
  have fresh : (k, v) ∉ t.entries := fun old => nomatch new.symm.trans (get?_eq_some_iff.2 old)
  refine (List.perm_ext_iff_of_nodup s.nodup_entries
    (List.nodup_cons.2 ⟨fresh, t.nodup_entries⟩)).2 fun ⟨j, w⟩ => ?_
  rw [List.mem_cons, ← get?_eq_some_iff, ← get?_eq_some_iff, more]
  by_cases same : j = k
  · subst same
    simp [new, eq_comm]
  · simp [same]

end Table

namespace AgentCall

/-! ## What calls do -/

/-- The agent that a call has created. -/
def created? : AgentCall → Option AgentId
  | create _ _ agent => agent
  | _ => none

/-- The agent that a call closes. -/
def closed? : AgentCall → Option AgentId
  | close _ agent => some agent
  | _ => none

end AgentCall

/-- What the other end of a session sends for the agent of this end. -/
inductive Remote where
  | credentials (ufrag pwd : String)
  | candidate (candidate : String)
deriving DecidableEq, Repr

/-- Something that an agent is given for its session. -/
structure Delivery where
  key : SessionKey
  agent : AgentId
  content : Remote
deriving DecidableEq, Repr

def Delivery.call (d : Delivery) : AgentCall :=
  match d.content with
  | .credentials ufrag pwd => .credentials d.key d.agent ufrag pwd
  | .candidate candidate => .candidate d.key d.agent candidate

/-- What an agent is given by a call. -/
def AgentCall.delivery? : AgentCall → Option Delivery
  | .credentials key agent ufrag pwd => some ⟨key, agent, .credentials ufrag pwd⟩
  | .candidate key agent c => some ⟨key, agent, .candidate c⟩
  | _ => none

theorem Delivery.delivery?_call (d : Delivery) : d.call.delivery? = some d := by
  obtain ⟨key, agent, content⟩ := d
  cases content <;> rfl

/-- What an event brings for an agent. -/
def Response.remote? (r : Response) : Option Remote :=
  match r.eventAction? with
  | some .iceAuth =>
    match r.get? Response.ufragKey, r.get? Response.pwdKey with
    | some ufrag, some pwd => some (.credentials ufrag pwd)
    | _, _ => none
  | some .iceCandidate => (r.get? Response.candidateKey).map .candidate
  | _ => none

theorem Response.of_remote? {r : Response} {content : Remote} (h : r.remote? = some content) :
    (∃ ufrag pwd, content = .credentials ufrag pwd ∧ r.eventAction? = some .iceAuth ∧
      r.get? Response.ufragKey = some ufrag ∧ r.get? Response.pwdKey = some pwd) ∨
    ∃ candidate, content = .candidate candidate ∧ r.eventAction? = some .iceCandidate ∧
      r.get? Response.candidateKey = some candidate := by
  unfold remote? at h
  split at h
  · next action =>
    split at h
    · next ufrags pwds =>
      cases h
      exact .inl ⟨_, _, rfl, action, ufrags, pwds⟩
    · cases h
  · next action =>
    obtain ⟨candidate, candidates, rfl⟩ := Option.map_eq_some_iff.1 h
    exact .inr ⟨_, rfl, action, candidates⟩
  · cases h

namespace Endpoint

open AgentCall (created? closed?)

variable {e : Endpoint} {creates : Bool} {event : Response} {key k : SessionKey} {a : AgentId}
  {role : Role} {calls : List AgentCall}

/-- The agents of the sessions. -/
def stored (e : Endpoint) : List AgentId := e.sessions.entries.map (·.2.agent)

theorem agent_mem_stored {session : Session} (found : e.session? key = some session) :
    session.agent ∈ e.stored :=
  List.mem_map.2 ⟨_, Table.get?_eq_some_iff.1 found, rfl⟩

theorem session?_of_stored (empty : e.stored = []) (key : SessionKey) : e.session? key = none := by
  rw [Option.eq_none_iff_forall_ne_some]
  intro session found
  have stored := agent_mem_stored found
  rw [empty] at stored
  cases stored

/-! ## What is created is closed or stored -/

/-- Agents are numbered as they are created, and each of them is closed or stored, once. -/
structure Conserves (e : Endpoint) (calls : List AgentCall) : Prop where
  numbered : calls.filterMap created? = List.range e.created
  balanced : (calls.filterMap created?).Perm (calls.filterMap closed? ++ e.stored)

namespace Conserves

theorem start : Conserves {} [] where
  numbered := rfl
  balanced := .nil

theorem nodup_created (h : e.Conserves calls) : (calls.filterMap created?).Nodup :=
  h.numbered ▸ List.nodup_range

theorem nodup_closed_stored (h : e.Conserves calls) :
    (calls.filterMap closed? ++ e.stored).Nodup :=
  h.balanced.nodup_iff.1 h.nodup_created

/-- An agent that has a session is not closed. -/
theorem not_closed (h : e.Conserves calls) (found : e.session? key = some ⟨a, role⟩) :
    a ∉ calls.filterMap closed? := fun closed =>
  List.disjoint_of_nodup_append h.nodup_closed_stored closed (agent_mem_stored found)

/-- No agent has two sessions. -/
theorem key_unique (h : e.Conserves calls) {role' : Role}
    (found : e.session? key = some ⟨a, role⟩) (found' : e.session? k = some ⟨a, role'⟩) :
    key = k := by
  have once : e.stored.Nodup := (List.nodup_append.1 h.nodup_closed_stored).2.1
  exact congrArg Prod.fst (List.inj_on_of_nodup_map once (Table.get?_eq_some_iff.1 found)
    (Table.get?_eq_some_iff.1 found') rfl)

/-- If nothing is stored, each agent that was created has been closed once. -/
theorem count_closed (h : e.Conserves calls) (none : e.stored = [])
    (made : a ∈ calls.filterMap created?) : (calls.filterMap closed?).count a = 1 := by
  have balanced := h.balanced
  rw [none, List.append_nil] at balanced
  rw [← balanced.count_eq]
  exact List.count_eq_one_of_mem h.nodup_created made

/-- A session is there exactly if its agent was created for it and is not closed. -/
theorem session_iff (h : e.Conserves calls) (accounts : e.Accounts calls) :
    e.session? key = some ⟨a, role⟩ ↔
      .create key role (some a) ∈ calls ∧ a ∉ calls.filterMap closed? := by
  constructor
  · intro found
    exact ⟨(accounts.session_iff.1 found).1, h.not_closed found⟩
  · rintro ⟨made, stays⟩
    refine accounts.session_iff.2 ⟨made, fun gone => stays ?_⟩
    exact List.mem_filterMap.2 ⟨_, gone, rfl⟩

/-- The agents that are not closed are those of the sessions, one for each. -/
theorem unclosed_iff (h : e.Conserves calls) (accounts : e.Accounts calls) :
    a ∈ calls.filterMap created? ∧ a ∉ calls.filterMap closed? ↔
      ∃! key, ∃ role, e.session? key = some ⟨a, role⟩ := by
  constructor
  · rintro ⟨made, stays⟩
    obtain ⟨call, made, agent⟩ := List.mem_filterMap.1 made
    cases call with
    | create key role agent' =>
      cases agent
      have found := (h.session_iff accounts).2 ⟨made, stays⟩
      exact ⟨key, ⟨role, found⟩, fun k ⟨_, found'⟩ => h.key_unique found' found⟩
    | _ => cases agent
  · rintro ⟨key, ⟨role, found⟩, -⟩
    obtain ⟨made, stays⟩ := (h.session_iff accounts).1 found
    exact ⟨List.mem_filterMap.2 ⟨_, made, rfl⟩, stays⟩

/-- Calls may close what was stored, as long as they create nothing. -/
theorem append (h : e.Conserves calls) {e' : Endpoint} {more : List AgentCall}
    (same : e'.created = e.created) (none : more.filterMap created? = [])
    (moved : e.stored.Perm (more.filterMap closed? ++ e'.stored)) :
    e'.Conserves (calls ++ more) where
  numbered := by
    rw [List.filterMap_append, none, List.append_nil, same]
    exact h.numbered
  balanced := by
    rw [List.filterMap_append, List.filterMap_append, none, List.append_nil, List.append_assoc]
    exact h.balanced.trans (moved.append_left _)

theorem closeSession (h : e.Conserves calls) (key : SessionKey) :
    (e.closeSession key).1.Conserves (calls ++ (e.closeSession key).2) := by
  unfold Endpoint.closeSession
  split
  · next s found =>
    have moved : e.sessions.entries.Perm ((key, s) :: (e.sessions.erase key).entries) := by
      refine Table.perm_entries (by simp [Table.get?_erase]) fun j => ?_
      rw [Table.get?_erase]
      split
      · next same => exact same ▸ found
      · rfl
    exact h.append rfl rfl (moved.map _)
  · exact h.append rfl rfl (.refl _)

theorem closeAll (h : e.Conserves calls) : e.closeAll.1.Conserves (calls ++ e.closeAll.2) := by
  refine h.append rfl ?_ ?_
  · simp [Endpoint.closeAll, created?, List.filterMap_map, Function.comp_def]
  · have closed : e.closeAll.2.filterMap closed? = e.stored := by
      simp [Endpoint.closeAll, closed?, stored, List.filterMap_map, Function.comp_def]
    rw [closed]
    exact (List.append_nil e.stored).symm ▸ .refl _

theorem create (h : e.Conserves calls) (empty : e.session? key = none) (role : Role) :
    Conserves { e with sessions := e.sessions.insert key ⟨e.created, role⟩
                       created := e.created + 1 }
      (calls ++ [.create key role (some e.created)]) := by
  have added := (Table.perm_entries (s := e.sessions.insert key ⟨e.created, role⟩) empty
    fun j => Table.get?_insert ..).map (·.2.agent)
  constructor
  · rw [List.filterMap_append, h.numbered]
    exact List.range_succ.symm
  · rw [List.filterMap_append, List.filterMap_append]
    show (_ ++ [e.created]).Perm (_ ++ [] ++ _)
    rw [List.append_nil]
    refine (List.perm_append_singleton ..).trans ?_
    refine (h.balanced.cons _).trans (List.perm_middle.symm.trans ?_)
    exact added.symm.append_left _

theorem openSession (h : e.Conserves calls) (creates : Bool) (key : SessionKey) (role : Role) :
    (e.openSession creates key role).1.Conserves
      (calls ++ (e.openSession creates key role).2) := by
  have closed := h.closeSession key
  have empty : (e.closeSession key).1.session? key = none := by simp [session?_closeSession]
  unfold Endpoint.openSession
  cases creates with
  | true => simpa using closed.create empty role
  | false =>
    simp only [Bool.false_eq_true, if_false]
    rw [← List.append_assoc]
    exact closed.append rfl rfl (.refl _)

end Conserves

/-! ## What is given to agents -/

/-- What an event gives to the agent of the session that it is about. -/
def delivers? (e : Endpoint) (event : Response) : Option Delivery :=
  event.sessionKey?.bind fun key =>
    event.remote?.bind fun content =>
      (e.session? key).map fun s => ⟨key, s.agent, content⟩

theorem tellAgent_eq (e : Endpoint) (key : SessionKey) (call : AgentId → AgentCall) :
    e.tellAgent key call = (e.session? key).toList.map fun s => call s.agent := by
  unfold tellAgent
  cases e.session? key <;> rfl

/-- An event that brings something for an agent does nothing but give it to the agent, if there is
one: whatever that makes of it. -/
theorem handle_of_remote {content : Remote} (brings : event.remote? = some content) :
    e.handle creates event = (e, (e.delivers? event).toList.map (·.call), []) := by
  unfold delivers?
  rw [brings]
  cases about : event.sessionKey? with
  | none =>
    refine handle_of_sessionKey?_eq_none ?_ about
    rcases Response.of_remote? brings with ⟨_, _, -, action, -⟩ | ⟨_, -, action, -⟩ <;>
      simp [action]
  | some key =>
    rcases Response.of_remote? brings with ⟨_, _, rfl, action, ufrags, pwds⟩ |
      ⟨_, rfl, action, candidates⟩
    · rw [handle_of_sessionKey? action nofun about]
      simp only [handleFor, ufrags, pwds, tellAgent_eq, Option.bind_some]
      cases e.session? key <;> rfl
    · rw [handle_of_sessionKey? action nofun about]
      simp only [handleFor, candidates, tellAgent_eq, Option.bind_some]
      cases e.session? key <;> rfl

/-- No other event gives anything to an agent. -/
theorem delivery?_handle_of_remote?_eq_none (brings : event.remote? = none) :
    (e.handle creates event).2.1.filterMap AgentCall.delivery? = [] := by
  have closing : ∀ key, (e.closeSession key).2.filterMap AgentCall.delivery? = [] := by
    intro key
    unfold closeSession
    split <;> rfl
  have opening : ∀ key role,
      (e.openSession creates key role).2.filterMap AgentCall.delivery? = [] := by
    intro key role
    unfold openSession
    cases creates <;> simp [closing, AgentCall.delivery?]
  have done := e.handles creates event
  generalize e.handle creates event = after at done
  cases done with
  | logout => simp [closeAll, AgentCall.delivery?, List.filterMap_map, Function.comp_def]
  | iceOpen | iceOpenAck => exact opening ..
  | iceClose | iceCloseAck => exact closing _
  | credentials action about ufrags pwds => simp [Response.remote?, action, ufrags, pwds] at brings
  | candidate action about candidates => simp [Response.remote?, action, candidates] at brings
  | ignored => rfl

/-- What an event makes an endpoint give to agents. -/
theorem delivery?_handle (e : Endpoint) (creates : Bool) (event : Response) :
    (e.handle creates event).2.1.filterMap AgentCall.delivery? = (e.delivers? event).toList := by
  cases brings : event.remote? with
  | some content =>
    rw [handle_of_remote brings]
    simp [List.filterMap_map, Delivery.delivery?_call]
  | none =>
    rw [delivery?_handle_of_remote?_eq_none brings]
    simp [delivers?, brings]

/-- Everything is accounted for whatever an event does. -/
theorem Conserves.handle (h : e.Conserves calls) (creates : Bool) (event : Response) :
    (e.handle creates event).1.Conserves (calls ++ (e.handle creates event).2.1) := by
  have done := e.handles creates event
  generalize e.handle creates event = after at done
  have given : ∀ key call, (∀ agent, created? (call agent) = none ∧ closed? (call agent) = none) →
      e.Conserves (calls ++ e.tellAgent key call) := by
    intro key call plain
    rw [tellAgent_eq]
    refine h.append rfl ?_ ?_
    · simp [List.filterMap_map, plain]
    · simp [List.filterMap_map, plain]
  cases done with
  | logout => exact h.closeAll
  | iceOpen | iceOpenAck => exact h.openSession ..
  | iceClose | iceCloseAck => exact h.closeSession _
  | credentials => exact given _ (.credentials _ · _ _) fun _ => ⟨rfl, rfl⟩
  | candidate => exact given _ (.candidate _ · _) fun _ => ⟨rfl, rfl⟩
  | ignored => exact h.append rfl rfl (.refl _)

/-! ## What decides about a session -/

/-- The role of a session just opened, if there is an agent for it. -/
theorem role_openSession (e : Endpoint) (creates : Bool) (key : SessionKey) (role : Role) :
    ((e.openSession creates key role).1.session? key).map (·.role) =
      if creates then some role else none := by
  unfold openSession
  cases creates with
  | true =>
    show (((e.closeSession key).1.sessions.insert key _).get? key).map _ = _
    rw [Table.get?_insert_self]
    rfl
  | false =>
    show ((e.closeSession key).1.session? key).map _ = _
    rw [session?_closeSession, if_pos rfl]
    rfl

end Endpoint

/-- In which role an end opens its session when it is told so. -/
def Action.role? : Action → Option Role
  | .iceOpen => some .controlled
  | .iceOpenAck => some .controlling
  | _ => none

/-- What an event decides about the session of a key: in which role it is open then, or that it is
not. -/
def Response.verdict? (r : Response) (creates : Bool) (key : SessionKey) : Option (Option Role) :=
  if r.eventAction? = some .logout then some none
  else (r.about? key).map fun a => if creates then a.role? else none

theorem Endpoint.role_handle (e : Endpoint) (creates : Bool) (event : Response)
    (key : SessionKey) : ((e.handle creates event).1.session? key).map (·.role) =
      (event.verdict? creates key).getD ((e.session? key).map (·.role)) := by
  unfold Response.verdict?
  split
  · next action =>
    unfold handle
    rw [action]
    rfl
  · next notLogout =>
    cases told : event.about? key with
    | none =>
      rw [session?_handle_of_none notLogout told]
      rfl
    | some a =>
      obtain ⟨-, -, counts⟩ := Response.about?_eq_some_iff.1 told
      rw [handle_of_about told]
      cases a with
      | iceOpen | iceOpenAck => exact role_openSession ..
      | iceClose | iceCloseAck =>
        show ((e.closeSession key).1.session? key).map _ = _
        rw [session?_closeSession, if_pos rfl]
        cases creates <;> rfl
      | _ => cases counts

namespace Watched

open AgentCall (created? closed? delivery?)

variable {w v : Watched} {m : Move} {ms : List Move} {e : Endpoint} {calls : List AgentCall}
  {key : SessionKey}

/-! ## What a move does -/

/-- What a move decides about the session of a key. -/
def Move.verdict? (key : SessionKey) : Move → Option (Option Role)
  | .event creates r => r.verdict? creates key
  | .closeAll => some none
  | _ => none

/-- Whether a move closes all sessions. -/
def Move.endsAll : Move → Bool
  | .event _ r => r.eventAction? = some .logout
  | .closeAll => true
  | _ => false

/-- What a move gives to an agent. -/
def delivers? (w : Watched) : Move → Option Delivery
  | .event _ r => w.endpoint.delivers? r
  | _ => none

/-- The endpoint after a move, and the calls that it makes: an event's or those that close all
sessions. Reports leave sessions and agents alone. -/
inductive Makes (w : Watched) : Move → Endpoint → List AgentCall → Prop
  | event (creates : Bool) (event : Response) :
      Makes w (.event creates event) (w.endpoint.handle creates event).1
        (w.endpoint.handle creates event).2.1
  | closeAll : Makes w .closeAll w.endpoint.closeAll.1 w.endpoint.closeAll.2
  | report {sink : EventSink} {r : AgentEvent} {e : Endpoint}
      (sessions : e.sessions = w.endpoint.sessions) (created : e.created = w.endpoint.created) :
      Makes w (.report sink r) e []
  | handleReport {e : Endpoint} (sessions : e.sessions = w.endpoint.sessions)
      (created : e.created = w.endpoint.created) : Makes w .handleReport e []

theorem makes_of_step? (made : w.step? m = some v) :
    ∃ calls, w.Makes m v.endpoint calls ∧ v.calls = w.calls ++ calls := by
  cases m with
  | event creates event =>
    cases made
    exact ⟨_, .event creates event, rfl⟩
  | closeAll =>
    cases made
    exact ⟨_, .closeAll, rfl⟩
  | report sink r =>
    rw [step?] at made
    split at made
    · cases made
      exact ⟨[], .report rfl rfl, (List.append_nil _).symm⟩
    · cases made
  | handleReport =>
    cases made
    refine ⟨[], ?_, (List.append_nil _).symm⟩
    unfold Endpoint.handleReport
    split
    · exact .handleReport rfl rfl
    · exact .handleReport rfl rfl

namespace Makes

theorem conserves (h : w.Makes m e calls) (conserved : w.endpoint.Conserves w.calls) :
    e.Conserves (w.calls ++ calls) := by
  have quiet : e.sessions = w.endpoint.sessions → e.created = w.endpoint.created →
      e.Conserves (w.calls ++ []) := by
    intro sessions created
    refine conserved.append created rfl ?_
    unfold Endpoint.stored
    rw [sessions]
    rfl
  cases h with
  | event => exact conserved.handle ..
  | closeAll => exact conserved.closeAll
  | report sessions created => exact quiet sessions created
  | handleReport sessions created => exact quiet sessions created

theorem role (h : w.Makes m e calls) (key : SessionKey) :
    (e.session? key).map (·.role) =
      (m.verdict? key).getD ((w.endpoint.session? key).map (·.role)) := by
  have quiet : e.sessions = w.endpoint.sessions →
      (e.session? key).map (·.role) = (w.endpoint.session? key).map (·.role) := by
    intro sessions
    unfold Endpoint.session?
    rw [sessions]
  cases h with
  | event => exact w.endpoint.role_handle ..
  | closeAll => rfl
  | report sessions => exact quiet sessions
  | handleReport sessions => exact quiet sessions

theorem delivery (h : w.Makes m e calls) :
    calls.filterMap delivery? = (w.delivers? m).toList := by
  cases h with
  | event => exact w.endpoint.delivery?_handle ..
  | closeAll =>
    simp [Endpoint.closeAll, delivery?, delivers?, List.filterMap_map, Function.comp_def]
  | report => rfl
  | handleReport => rfl

/-- Nothing is stored once all sessions are closed. -/
theorem ended (h : w.Makes m e calls) (all : m.endsAll = true) : e.stored = [] := by
  cases h with
  | event creates event =>
    have action : event.eventAction? = some .logout := by simpa [Move.endsAll] using all
    unfold Endpoint.handle
    rw [action]
    rfl
  | closeAll => rfl
  | report => cases all
  | handleReport => cases all

end Makes

/-! ## What moves do one after the other -/

/-- What moves give to agents, each to those that there are then. -/
def deliveries : Watched → List Move → List Delivery
  | _, [] => []
  | w, m :: ms => (w.delivers? m).toList ++ ((w.step? m).map (deliveries · ms)).getD []

theorem conserves_run (h : w.endpoint.Conserves w.calls) (run : w.run? ms = some v) :
    v.endpoint.Conserves v.calls := by
  induction ms generalizing w with
  | nil =>
    cases run
    exact h
  | cons m ms ih =>
    obtain ⟨u, first, rest⟩ := Option.bind_eq_some_iff.1 run
    obtain ⟨calls, makes, made⟩ := makes_of_step? first
    exact ih (made ▸ makes.conserves h) rest

/-- The last verdict counts. -/
theorem role_run (run : w.run? ms = some v) (key : SessionKey) :
    (v.endpoint.session? key).map (·.role) =
      ((ms.filterMap (·.verdict? key)).getLast?).getD
        ((w.endpoint.session? key).map (·.role)) := by
  induction ms generalizing w with
  | nil =>
    cases run
    rfl
  | cons m ms ih =>
    obtain ⟨u, first, rest⟩ := Option.bind_eq_some_iff.1 run
    obtain ⟨calls, makes, -⟩ := makes_of_step? first
    rw [ih rest, makes.role key]
    cases verdict : m.verdict? key with
    | none => rw [List.filterMap_cons_none verdict, Option.getD_none]
    | some role => simp [List.filterMap_cons_some verdict, List.getLast?_cons]

theorem delivery_run (run : w.run? ms = some v) :
    v.calls.filterMap delivery? = w.calls.filterMap delivery? ++ deliveries w ms := by
  induction ms generalizing w with
  | nil =>
    cases run
    exact (List.append_nil _).symm
  | cons m ms ih =>
    obtain ⟨u, first, rest⟩ := Option.bind_eq_some_iff.1 run
    obtain ⟨calls, makes, made⟩ := makes_of_step? first
    rw [ih rest, made, List.filterMap_append, makes.delivery, List.append_assoc, deliveries, first]
    rfl

theorem ended_run {before : List Move} (run : w.run? (before ++ [m]) = some v)
    (all : m.endsAll = true) : v.endpoint.stored = [] := by
  unfold run? at run
  rw [List.foldlM_append] at run
  obtain ⟨u, -, last⟩ := Option.bind_eq_some_iff.1 run
  obtain ⟨v', made, same⟩ := Option.bind_eq_some_iff.1 last
  cases same
  obtain ⟨calls, makes, -⟩ := makes_of_step? made
  exact makes.ended all

/-- Whatever happened to an endpoint, the agents that it has created are all different, it has
closed each of them once at most, and those that it has not closed are those of its sessions, each
under the one key and in the role that it was created for. Once it has closed all sessions, at its
own will or because it was logged out, each agent has been closed exactly once. Whether a key has a
session, and in which role, is told by the last move that decided about it and by whether an agent
could be created then. What was given to agents is what events brought for them, in this order, each
for the agent that had the session of its key then; and such an event does nothing else, whatever
the answer to its one call would be, and nothing at all if there is no session. What an agent says
of what it is given is not read. -/
theorem agents_accounted_for (run : run? {} ms = some w) :
    let created := w.calls.filterMap created?
    let closed := w.calls.filterMap closed?
    created.Nodup ∧ closed.Nodup ∧
    (∀ key a role, w.endpoint.session? key = some ⟨a, role⟩ ↔
      .create key role (some a) ∈ w.calls ∧ a ∉ closed) ∧
    (∀ a, a ∈ created ∧ a ∉ closed ↔
      ∃! key, ∃ role, w.endpoint.session? key = some ⟨a, role⟩) ∧
    (∀ before m, ms = before ++ [m] → m.endsAll = true →
      (∀ key, w.endpoint.session? key = none) ∧ ∀ a ∈ created, closed.count a = 1) ∧
    (∀ key, (w.endpoint.session? key).map (·.role) =
      ((ms.filterMap (·.verdict? key)).getLast?).getD none) ∧
    w.calls.filterMap delivery? = deliveries {} ms ∧
    ∀ (e : Endpoint) (event : Response) (content : Remote), event.remote? = some content →
      ∀ answer, e.handle answer event = (e, (e.delivers? event).toList.map (·.call), []) := by
  intro created closed
  have consistent : w.Consistent := Consistent.start.run run
  have conserved : w.endpoint.Conserves w.calls := conserves_run .start run
  refine ⟨conserved.nodup_created, (List.nodup_append.1 conserved.nodup_closed_stored).1,
    fun key a role => conserved.session_iff consistent.accounts,
    fun a => conserved.unclosed_iff consistent.accounts, ?_, role_run run, delivery_run run,
    fun e event content brings answer => Endpoint.handle_of_remote brings⟩
  rintro before m rfl all
  have none := ended_run run all
  exact ⟨Endpoint.session?_of_stored none, fun a made => conserved.count_closed none made⟩

/-- A session with Bob is opened and gets a candidate. It is opened again, but without an agent, and
a second candidate finds none. Then Carol opens a session, and the client is logged out. -/
def failingMoves : List Move :=
  let event (a : Action) (peer : String) : Response :=
    { event := a.name, fromId := some peer, serviceName := some "ssh-box",
      resultMap := .ofList [(Response.candidateKey, "candidate:1")] }
  [.event true (event .iceOpenAck "bob1234567"),
   .event false (event .iceCandidate "bob1234567"),
   .event false (event .iceOpenAck "bob1234567"),
   .event true (event .iceCandidate "bob1234567"),
   .event true (event .iceOpen "carol12345"),
   .event true { event := Action.logout.name }]

/-- Both agents are closed, and only the first was given anything. -/
theorem agents_accounted_for_failingMoves : ∃ w, run? {} failingMoves = some w ∧
    w.calls.filterMap created? = [0, 1] ∧ (∀ a ∈ [0, 1], (w.calls.filterMap closed?).count a = 1) ∧
    w.calls.filterMap delivery? =
      [⟨⟨"ssh-box", "bob1234567"⟩, 0, .candidate "candidate:1"⟩] := by
  have created : (run? {} failingMoves).map (·.calls.filterMap created?) = some [0, 1] := by
    decide +kernel
  obtain ⟨w, run, created⟩ := Option.map_eq_some_iff.1 created
  obtain ⟨-, -, -, -, ended, -, given, -⟩ := agents_accounted_for run
  refine ⟨w, run, created, ?_, given.trans (by decide +kernel)⟩
  have closed := (ended (failingMoves.take 5) _ rfl (by decide +kernel)).2
  rw [created] at closed
  exact closed

end Watched

end Rendezvous
