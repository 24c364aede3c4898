import Rendezvous.Proofs.Connections

/-!
# Forwarded events

The only events that the relay pushes, apart from the notice of a lost identity, are requests that
it hands on between the two ends of a service. They tell who sent them by the connection they came
on, and reach the connection of the one peer that the records allow.

    push ∈ (r.handle e).2 → push.response.isEvent → push.response.event ≠ "logout" →
      e is a relayed request of a logged-in member or owner, and push goes to the other end
                                                                       (forwarded_event_authorized)
-/

namespace Rendezvous

namespace Relay

variable {r : Relay} {isOpen : ConnectionId → QueueId → Prop} {c : ConnectionId} {time : UInt64}
  {q : Request} {caller : String} {a b : Action}

/-! ## What is handed on -/

/-- The content of a forwarded event: a candidate, a pair of credentials, or nothing. -/
inductive Carries (q : Request) : Action → Table String String → Prop
  | candidate {x : String} (h : q.iceCandidate = some x) (given : x ≠ "") :
      Carries q .iceCandidate (.ofList [(Response.candidateKey, x)])
  | credentials {u w : String} (hu : q.iceUfrag = some u) (givenUfrag : u ≠ "")
      (hw : q.icePwd = some w) (givenPwd : w ≠ "") :
      Carries q .iceAuth (.ofList [(Response.ufragKey, u), (Response.pwdKey, w)])
  | nothing {a : Action} (noCandidate : a ≠ .iceCandidate) (noCredentials : a ≠ .iceAuth) :
      Carries q a .empty

theorem required_eq_ok_iff {value : Option String} {what x : String} :
    required value what = .ok x ↔ value = some x ∧ x ≠ "" := by
  unfold required
  constructor
  · intro h
    split at h
    · next v hv =>
      cases h
      obtain ⟨hv, hne⟩ := Option.filter_eq_some_iff.1 hv
      exact ⟨hv, by simpa using hne⟩
    · cases h
  · rintro ⟨rfl, hne⟩
    simp [Option.filter, hne]

theorem carries_of_payload {content : Table String String} (h : payload a q = .ok content) :
    Carries q a content := by
  unfold payload at h
  split at h
  · obtain ⟨x, hx, h⟩ := bind_eq_ok_iff.1 h
    obtain ⟨hx, given⟩ := required_eq_ok_iff.1 hx
    cases h
    exact .candidate hx given
  · obtain ⟨u, hu, h⟩ := bind_eq_ok_iff.1 h
    obtain ⟨w, hw, h⟩ := bind_eq_ok_iff.1 h
    obtain ⟨hu, givenUfrag⟩ := required_eq_ok_iff.1 hu
    obtain ⟨hw, givenPwd⟩ := required_eq_ok_iff.1 hw
    cases h
    exact .credentials hu givenUfrag hw givenPwd
  · next noCandidate noCredentials =>
    cases h
    exact .nothing noCandidate noCredentials

theorem forward_eq_ok_iff {push : Push} :
    r.forward caller b q = .ok push ↔
      ∃ name content target link, q.requireServiceName = .ok name ∧ payload b q = .ok content ∧
        r.db.forwardTarget caller name q.toId = .ok target ∧
        r.online.get? target = some link ∧
        push = ⟨link, { Response.ofEvent b with
          resultMap := content, fromId := some caller, serviceName := some name }⟩ := by
  unfold forward
  simp only [bind_eq_ok_iff]
  constructor
  · rintro ⟨name, named, content, hc, target, ht, h⟩
    split at h
    · next link hl =>
      cases h
      exact ⟨name, content, target, link, named, hc, ht, hl, rfl⟩
    · cases h
  · rintro ⟨name, content, target, link, named, hc, ht, hl, rfl⟩
    refine ⟨name, named, content, hc, target, ht, ?_⟩
    rw [hl]
    rfl

/-! ## What is pushed -/

/-- No reply is an event. -/
theorem Leads.event_reply {o : Outcome} (l : r.Leads c time q o) :
    (reply q o.result).event = "" := by
  cases l with
  | answered _ _ h =>
    cases h with
    | services => rfl
    | myServices => rfl
    | showService => rfl
  | tookOver =>
    unfold takeOver
    dsimp only
    split
    · rfl
    · rfl
  | refused => rfl
  | registered => rfl
  | stayed => rfl
  | loggedOut => rfl
  | edited => rfl
  | relayed => rfl

/-- A takeover tells the former connection, and only that. -/
theorem pushes_takeOver (r : Relay) (c : ConnectionId) (peer : String) :
    (r.takeOver c peer).pushes = r.notices c peer := by
  unfold takeOver
  dsimp only
  split
  · rfl
  · rfl

theorem response_of_mem_notices {peer : String} {push : Push} (h : push ∈ r.notices c peer) :
    push.response = .ofEvent .logout := by
  unfold notices at h
  rw [Option.mem_toList] at h
  obtain ⟨link, -, rfl⟩ := Option.map_eq_some_iff.1 h
  rfl

/-- An event that is no notice of a lost identity comes from a relayed request. -/
theorem Leads.relayed_of_event {o : Outcome} {push : Push} (l : r.Leads c time q o)
    (pushed : push ∈ o.pushes) (notLogout : push.response.event ≠ Action.logout.name) :
    o.relay = r ∧ ∃ caller a b, r.identities.get? c = some caller ∧ q.action? = .ok a ∧
      a.relayedAs? = some b ∧
      (a.isRelayed = false → ∃ name, q.requireServiceName = .ok name ∧
        r.db.checkAccess caller name q.servicePwd = .ok ()) ∧
      r.forward caller b q = .ok push := by
  cases l with
  | relayed who asked under access h =>
    cases List.mem_singleton.1 pushed
    exact ⟨rfl, _, _, _, who, asked, under, access, h⟩
  | tookOver =>
    rw [pushes_takeOver] at pushed
    rw [response_of_mem_notices pushed] at notLogout
    exact absurd rfl notLogout
  | refused => cases pushed
  | registered => cases pushed
  | stayed => cases pushed
  | loggedOut => cases pushed
  | edited => cases pushed
  | answered => cases pushed

/-- An event that is pushed while a request is handled is pushed by its dispatch. -/
theorem mem_pushes_of_event {e : Event} {push : Push} (pushed : push ∈ (r.handle e).2)
    (event : push.response.event ≠ "") :
    ∃ c time q, e = .request c time q ∧ push ∈ (r.dispatch c time q).pushes ∧
      (r.handle e).1 = (r.dispatch c time q).relay := by
  cases e with
  | request c time q =>
    refine ⟨c, time, q, rfl, ?_, rfl⟩
    rcases List.mem_append.1 pushed with h | h
    · exact h
    · exfalso
      rw [Option.mem_toList] at h
      obtain ⟨link, -, rfl⟩ := Option.map_eq_some_iff.1 h
      exact event (leads_dispatch r c time q).event_reply
  | opened => cases pushed
  | closed => cases pushed
  | shutdown => cases pushed

/-- Only two actions are handed on under another name, and both need access. -/
theorem isRelayed_of_relayedAs? (under : a.relayedAs? = some b)
    (session : a = .connectService ∨ a = .disconnectService) : a.isRelayed = false := by
  rcases session with rfl | rfl <;> rfl

end Relay

open Relay (Carries)

/-- An event other than the notice of a lost identity is the request of a logged-in peer about an
existing service, told in that peer's name, and goes to the one connection of the other end:
from a member to the owner, or from the owner to the registered peer that it names. Opening and
closing a session takes a member and the password of the service. -/
theorem forwarded_event_authorized (db : Database) {es : List Event} (fresh : Fresh es)
    {e : Event} {push : Push} (pushed : push ∈ (((Relay.idle db).after es).handle e).2)
    (event : push.response.event ≠ "") (notLogout : push.response.event ≠ "logout") :
    let r := (Relay.idle db).after es
    ∃ c time q p a b name s content target,
      e = .request c time q ∧ (r.handle e).1 = r ∧ r.identities.get? c = some p ∧
      q.action? = .ok a ∧ a.relayedAs? = some b ∧
      q.serviceName = some name ∧ name ≠ "" ∧ r.db.service? name = some s ∧
      Carries q b content ∧
      push.response = { sequence := "", event := b.name, fromId := some p, serviceName := some name,
                        resultList := [], resultMap := content, error := "" } ∧
      r.online.get? target = some push.link ∧
      (∀ c', r.identities.get? c' = some target ↔ c' = push.link.connection) ∧
      StillOpen es push.link.connection push.link.queue ∧
      r.pending.contains push.link.connection = false ∧
      ((s.owner ≠ p ∧ r.db.isMember p name = true ∧ target = s.owner) ∨
        (s.owner = p ∧ q.toId = some target ∧ r.db.hasPeer target = true)) ∧
      (a = .connectService ∨ a = .disconnectService →
        s.owner ≠ p ∧ r.db.isMember p name = true ∧
          Credential.verifies q.servicePwd s.salt s.passwordDigest = true) := by
  intro r
  have h : r.Coherent (StillOpen es) := fresh.coherent db
  obtain ⟨c, time, q, rfl, hpush, hr⟩ := Relay.mem_pushes_of_event pushed event
  obtain ⟨same, p, a, b, who, asked, under, access, hf⟩ :=
    (Relay.leads_dispatch r c time q).relayed_of_event hpush notLogout
  obtain ⟨name, content, target, link, named, hc, ht, hl, rfl⟩ := Relay.forward_eq_ok_iff.1 hf
  obtain ⟨s, hs, rule⟩ := Database.forwardTarget_eq_ok_iff.1 ht
  obtain ⟨hname, hne⟩ := Request.requireServiceName_eq_ok_iff.1 named
  obtain ⟨isOpen, notPending⟩ := h.isOpen_of_online hl
  refine ⟨c, time, q, p, a, b, name, s, content, target, rfl, hr.trans same, who, asked, under,
    hname, hne, hs, Relay.carries_of_payload hc, rfl, hl, ?_, isOpen, notPending, ?_, ?_⟩
  · intro c'
    exact h.identity_iff_of_online hl
  · rcases rule with ⟨owner, named, -, known⟩ | ⟨owner, member, rfl⟩
    · exact .inr ⟨owner, named, known⟩
    · exact .inl ⟨owner, member, rfl⟩
  · -- access is checked for the name that is handed on, so both speak of one service
    intro session
    obtain ⟨name', named', checked⟩ := access (Relay.isRelayed_of_relayedAs? under session)
    rw [named] at named'
    cases named'
    obtain ⟨s', hs', owner, member, verified⟩ := Database.checkAccess_eq_ok_iff.1 checked
    rw [hs] at hs'
    cases hs'
    exact ⟨owner, member, verified⟩

/-- Carol opens a session with Bob, whatever sender she writes into her request. -/
theorem forwarded_event_authorized_sampleRun :
    let r := (Relay.idle sampleDatabase).after sampleRun
    let q : Request :=
      { sequence := "s2", action := "connect-service", fromId := "dave123456",
        serviceName := some "ssh-box", servicePwdDigest := some sampleDigest }
    let push : Push := ⟨⟨3, 2⟩, { event := "ice-open", fromId := some "carol12345",
                                  serviceName := some "ssh-box" }⟩
    Fresh sampleRun ∧ push ∈ (r.handle (.request 2 0 q)).2 ∧ push.response.event ≠ "" ∧
      push.response.event ≠ "logout" ∧ r.identities.get? 2 = some "carol12345" ∧
      StillOpen sampleRun 3 2 := by
  intro r q push
  have pushed : push ∈ (r.handle (.request 2 0 q)).2 := by
    rw [show r = sampleRelay from after_sampleRun]
    decide +kernel
  have event : push.response.event ≠ "" := by decide
  have notLogout : push.response.event ≠ "logout" := by decide
  obtain ⟨c, time, _, p, _, _, _, _, _, _, request, -, sender, -, -, -, -, -, -, told, -, -, isOpen,
    -⟩ := forwarded_event_authorized sampleDatabase fresh_sampleRun pushed event notLogout
  cases request
  have hp : p = "carol12345" := (Option.some.inj (congrArg Response.fromId told)).symm
  rw [hp] at sender
  exact ⟨fresh_sampleRun, pushed, event, notLogout, sender, isOpen⟩

end Rendezvous
