import Rendezvous.Proofs.Rules
import Rendezvous.Relay.Event

/-!
# What a request leads to

Every request ends in one of eight ways, each with what was checked on the way there:

    r.Leads c time q (r.dispatch c time q)                             (leads_dispatch)

Statements about all requests go through these eight cases and leave `dispatch` closed.
-/

namespace Rendezvous

/-! ## Kinds of outcomes -/

/-- The action under which a request reaches the other end of a session. -/
def Action.relayedAs? : Action → Option Action
  | .connectService => some .iceOpen
  | .disconnectService => some .iceClose
  | a => if a.isRelayed then some a else none

/-- How the records change at the request of a logged-in peer. -/
inductive Database.Edit (db : Database) (caller : String) (time : UInt64) (q : Request) :
    Action → Database → Prop
  | create {db' : Database}
      (h : db.create time caller (q.serviceName.getD "") q.servicePwd (q.serviceSalt.getD "")
        (q.serviceDesc.getD "") = .ok db') : Edit db caller time q .createService db'
  | remove {name : String} {s : Service} {db' : Database}
      (named : q.requireServiceName = .ok name)
      (h : db.remove caller name q.servicePwd = .ok (s, db')) :
      Edit db caller time q .removeService db'
  | enable {name : String} {db' : Database} (named : q.requireServiceName = .ok name)
      (h : db.setEnabled caller name q.servicePwd true = .ok db') :
      Edit db caller time q .enableService db'
  | disable {name : String} {db' : Database} (named : q.requireServiceName = .ok name)
      (h : db.setEnabled caller name q.servicePwd false = .ok db') :
      Edit db caller time q .disableService db'
  | join {name : String} {db' : Database} (named : q.requireServiceName = .ok name)
      (h : db.join caller name q.servicePwd = .ok db') : Edit db caller time q .joinService db'
  | leave {name : String} {db' : Database} (named : q.requireServiceName = .ok name)
      (h : db.leave caller name q.servicePwdDigest = .ok db') :
      Edit db caller time q .leaveService db'

/-- No request of a logged-in peer adds a peer or loses one. -/
theorem Database.Edit.hasPeer {db db' : Database} {caller id : String} {time : UInt64}
    {q : Request} {a : Action} (e : db.Edit caller time q a db') :
    db'.hasPeer id = db.hasPeer id := by
  cases e with
  | create h =>
    obtain ⟨-, -, -, rfl⟩ := create_eq_ok_iff.1 h
    rfl
  | remove _ h =>
    obtain ⟨-, rfl⟩ := remove_eq_ok_iff.1 h
    exact hasPeer_eraseService
  | enable _ h | disable _ h =>
    obtain ⟨-, rfl⟩ := setEnabled_eq_ok_iff.1 h
    rfl
  | join _ h =>
    obtain ⟨s, -, -, -, hm⟩ := join_eq_ok_iff.1 h
    exact hasPeer_setMembership hm
  | leave _ h =>
    obtain ⟨s, -, -, -, -, hm⟩ := leave_eq_ok_iff.1 h
    exact hasPeer_setMembership hm

namespace Relay

/-- What a logged-in peer is told of the records. -/
inductive Answers (r : Relay) (caller : String) (q : Request) : Action → Response → Prop
  | services : Answers r caller q .services r.servicesReply
  | myServices : Answers r caller q .myServices (r.ownServicesReply caller)
  | showService {name : String} {i : ServiceInfo} (named : q.requireServiceName = .ok name)
      (h : r.serviceInfo name = .ok i) : Answers r caller q .showService (showReply i)

/-- The ways in which a request may end. -/
inductive Leads (r : Relay) (c : ConnectionId) (time : UInt64) (q : Request) : Outcome → Prop
  | refused (e : RelayError) : Leads r c time q (r.refuse e)
  | registered {db : Database} (asked : q.action? = .ok .register)
      (h : r.db.register q.fromId (q.pwdDigest.getD "") (q.salt.getD "") = .ok db) :
      Leads r c time q { r with db := db, dirty := true }.accept
  | stayed (asked : q.action? = .ok .login)
      (known : r.db.authenticate q.fromId (q.pwdDigest.getD "") = .ok ())
      (same : r.identities.get? c = some q.fromId) : Leads r c time q r.accept
  | tookOver (asked : q.action? = .ok .login)
      (known : r.db.authenticate q.fromId (q.pwdDigest.getD "") = .ok ())
      (other : r.identities.get? c ≠ some q.fromId)
      (free : r.isOnline q.fromId = true → q.force = true)
      (isOpen : r.identities.contains c = true ∨ r.pending.contains c = true) :
      Leads r c time q (r.takeOver c q.fromId)
  | loggedOut (asked : q.action? = .ok .logout) : Leads r c time q (r.demote c).accept
  | edited {caller : String} {a : Action} {db : Database}
      (who : r.identities.get? c = some caller) (asked : q.action? = .ok a)
      (h : r.db.Edit caller time q a db) :
      Leads r c time q { r with db := db, dirty := true }.accept
  | answered {caller : String} {a : Action} {content : Response}
      (who : r.identities.get? c = some caller) (asked : q.action? = .ok a)
      (h : r.Answers caller q a content) : Leads r c time q (r.answer content)
  | relayed {caller : String} {a b : Action} {push : Push}
      (who : r.identities.get? c = some caller) (asked : q.action? = .ok a)
      (under : a.relayedAs? = some b)
      (access : a.isRelayed = false →
        ∃ name, q.requireServiceName = .ok name ∧ r.db.checkAccess caller name q.servicePwd = .ok ())
      (h : r.forward caller b q = .ok push) :
      Leads r c time q { relay := r, pushes := [push], result := .ok {} }

/-! ## Lemmas -/

variable {r : Relay} {c : ConnectionId} {time : UInt64} {q : Request}

theorem leads_commit {x : Except RelayError Database}
    (h : ∀ db, x = .ok db → Leads r c time q { r with db := db, dirty := true }.accept) :
    Leads r c time q (r.commit x) := by
  cases x with
  | ok db => exact h db rfl
  | error e => exact .refused e

/-- An operation on the named service that succeeds has a name and a result. -/
theorem bind_requireServiceName {α : Type} {f : String → Except RelayError α} {x : α}
    (h : q.requireServiceName.bind f = .ok x) :
    ∃ name, q.requireServiceName = .ok name ∧ f name = .ok x := by
  cases hn : q.requireServiceName with
  | ok name => exact ⟨name, rfl, by rw [hn] at h; exact h⟩
  | error e => rw [hn] at h; cases h

theorem leads_register (asked : q.action? = .ok .register) :
    Leads r c time q (r.register q) := by
  apply leads_commit
  intro db h
  exact .registered asked h

theorem leads_login (asked : q.action? = .ok .login) : Leads r c time q (r.login c q) := by
  unfold login
  dsimp only
  split
  · next e _ => exact .refused e
  · next known =>
    split
    · next same => exact .stayed asked known same
    · next other =>
      split
      · exact .refused _
      · next free =>
        split
        · exact .refused _
        · next isOpen =>
          refine .tookOver asked known other (fun ho => ?_) ?_
          · simpa [ho] using free
          · simpa [Decidable.or_iff_not_imp_left] using isOpen

theorem leads_relayed {caller : String} {a b : Action} (who : r.identities.get? c = some caller)
    (asked : q.action? = .ok a) (under : a.relayedAs? = some b)
    (access : a.isRelayed = false → ∃ name, q.requireServiceName = .ok name ∧
      r.db.checkAccess caller name q.servicePwd = .ok ()) :
    Leads r c time q (r.relayed caller b q) := by
  unfold relayed
  cases h : r.forward caller b q with
  | ok push => exact .relayed who asked under access h
  | error e => exact .refused e

theorem leads_session {caller : String} {a b : Action} (who : r.identities.get? c = some caller)
    (asked : q.action? = .ok a) (under : a.relayedAs? = some b) :
    Leads r c time q (r.session caller b q) := by
  unfold session
  split
  · next h => exact leads_relayed who asked under fun _ => bind_requireServiceName h
  · next e _ => exact .refused e

theorem leads_change {caller : String} {a : Action} {f : String → Except RelayError Database}
    (who : r.identities.get? c = some caller) (asked : q.action? = .ok a)
    (edit : ∀ name db, q.requireServiceName = .ok name → f name = .ok db →
      r.db.Edit caller time q a db) : Leads r c time q (r.change q f) := by
  apply leads_commit
  intro db h
  obtain ⟨name, named, hf⟩ := bind_requireServiceName h
  exact .edited who asked (edit name db named hf)

theorem leads_showService {caller : String} (who : r.identities.get? c = some caller)
    (asked : q.action? = .ok .showService) : Leads r c time q (r.showService q) := by
  unfold showService
  split
  · next i h =>
    obtain ⟨name, named, hi⟩ := bind_requireServiceName h
    exact .answered who asked (.showService named hi)
  · next e _ => exact .refused e

/-- A logged-in peer's request, one case for each action. -/
theorem leads_serve {caller : String} {a : Action} (who : r.identities.get? c = some caller)
    (asked : q.action? = .ok a) (register : a ≠ .register) (login : a ≠ .login)
    (logout : a ≠ .logout) : Leads r c time q (r.serve caller time a q) := by
  cases a with
  | register => exact absurd rfl register
  | login => exact absurd rfl login
  | logout => exact absurd rfl logout
  | services => exact .answered who asked .services
  | myServices => exact .answered who asked .myServices
  | showService => exact leads_showService who asked
  | createService => exact leads_commit fun db h => .edited who asked (.create h)
  | removeService =>
    refine leads_change who asked fun name db named h => ?_
    cases hr : r.db.remove caller name q.servicePwd with
    | ok removed =>
      rw [hr] at h
      obtain ⟨s, db'⟩ := removed
      cases h
      exact .remove named hr
    | error e => rw [hr] at h; cases h
  | enableService => exact leads_change who asked fun _ _ named h => .enable named h
  | disableService => exact leads_change who asked fun _ _ named h => .disable named h
  | joinService => exact leads_change who asked fun _ _ named h => .join named h
  | leaveService => exact leads_change who asked fun _ _ named h => .leave named h
  | connectService => exact leads_session who asked rfl
  | disconnectService => exact leads_session who asked rfl
  | iceOpen => exact leads_relayed who asked rfl fun h => absurd h (by decide)
  | iceClose => exact leads_relayed who asked rfl fun h => absurd h (by decide)
  | iceOpenAck => exact leads_relayed who asked rfl fun h => absurd h (by decide)
  | iceCloseAck => exact leads_relayed who asked rfl fun h => absurd h (by decide)
  | iceAuth => exact leads_relayed who asked rfl fun h => absurd h (by decide)
  | iceCandidate => exact leads_relayed who asked rfl fun h => absurd h (by decide)

theorem leads_dispatch (r : Relay) (c : ConnectionId) (time : UInt64) (q : Request) :
    r.Leads c time q (r.dispatch c time q) := by
  unfold dispatch
  split
  · next e _ => exact .refused e
  · next asked => exact leads_register asked
  · next asked => exact leads_login asked
  · next asked => exact .loggedOut asked
  · next a register login logout asked =>
    cases who : r.identities.get? c with
    | some caller => exact leads_serve who asked register login logout
    | none => exact .refused _

end Relay

end Rendezvous
