import Rendezvous.Proofs.Rules
import Rendezvous.Relay.Event

/-!
# Checks of passwords

A request comes to one check of a password at most: a login to that of its peer, and a request about
a service to that of the service, unless it is refused before or needs no password. The outcome of
the check is `check?`, and the check is what wrong passwords are refused by:

    (r.dispatch c time q).result = .error .wrongPassword ↔ r.check? c q = some false
                                                                       (result_eq_wrongPassword_iff)
-/

namespace Rendezvous

open Credential (verifies)

/-! ## Which checks there are -/

namespace Database

/-- Whether a password is right for a peer, if there is one. -/
def knows? (db : Database) (id pwd : String) : Option Bool :=
  (db.peer? id).map fun p => verifies pwd p.salt p.passwordDigest

/-- Whether a password is right for a service, if there is one. -/
def opens? (db : Database) (name pwd : String) : Option Bool :=
  (db.service? name).map fun s => verifies pwd s.salt s.passwordDigest

/-- Whether a request about a service comes to the check of its password. -/
def checks (db : Database) (caller name : String) (q : Request) : Action → Bool
  | .removeService | .enableService | .disableService => true
  | .joinService => (db.findForeign caller name).isOk
  | .leaveService => (db.findForeign caller name).isOk && !q.servicePwd.isEmpty
  | .connectService | .disconnectService =>
    (db.findForeign caller name).isOk && db.isMember caller name
  | _ => false

end Database

/-- The outcome of the check of a password that a request comes to. -/
def Relay.check? (r : Relay) (c : ConnectionId) (q : Request) : Option Bool :=
  match q.action?, r.identities.get? c, q.requireServiceName with
  | .ok .login, _, _ => r.db.knows? q.fromId (q.pwdDigest.getD "")
  | .ok a, some caller, .ok name =>
    if r.db.checks caller name q a then r.db.opens? name q.servicePwd else none
  | _, _, _ => none

/-! ## Rules -/

namespace Database

variable {db : Database} {caller id name pwd salt : String} {q : Request}

/-- Ends a membership that there is or was. -/
def dropMembership (db : Database) (caller name : String) : Except RelayError Database :=
  if (db.peer? caller).any (·.memberships.contains name) then db.setMembership caller name false
  else .error (.serviceNotJoined name)

/-- Leaving comes to a check exactly if a digest is given. -/
theorem leave_eq : db.leave caller name q.servicePwdDigest =
    db.findForeign caller name >>= fun _ =>
      if q.servicePwd = "" then db.dropMembership caller name
      else db.unlockService name q.servicePwd >>= fun _ => db.dropMembership caller name := by
  unfold leave Request.servicePwd
  cases q.servicePwdDigest with
  | none => rfl
  | some pwd =>
    by_cases given : pwd = ""
    · subst given
      rfl
    · have kept : (some pwd).filter (!·.isEmpty) = some pwd := by simp [Option.filter, given]
      rw [kept, Option.getD_some, if_neg given]
      rfl

theorem authenticate_wrong_iff :
    db.authenticate id pwd = .error .wrongPassword ↔ db.knows? id pwd = some false := by
  unfold authenticate knows?
  cases db.peer? id with
  | none => simp
  | some p =>
    simp only [Option.map_some, Option.some.injEq]
    split <;> simp_all

theorem findService_ne_wrong : db.findService name ≠ .error .wrongPassword := by
  unfold findService
  split <;> simp

theorem findForeign_ne_wrong : db.findForeign caller name ≠ .error .wrongPassword := by
  unfold findForeign
  rw [ne_eq, bind_eq_error_iff]
  rintro (h | ⟨s, -, h⟩)
  · exact findService_ne_wrong h
  · split at h <;> cases h

theorem setMembership_ne_wrong {joined : Bool} :
    db.setMembership caller name joined ≠ .error .wrongPassword := by
  unfold setMembership
  split <;> simp

theorem register_ne_wrong : db.register id pwd salt ≠ .error .wrongPassword := by
  unfold register
  split
  · nofun
  · split
    · nofun
    · split <;> nofun

theorem create_ne_wrong {now : UInt64} {description : String} :
    db.create now caller name pwd salt description ≠ .error .wrongPassword := by
  unfold create
  split
  · nofun
  · split
    · nofun
    · split <;> nofun

theorem unlockService_wrong_iff :
    db.unlockService name pwd = .error .wrongPassword ↔ db.opens? name pwd = some false := by
  unfold unlockService opens?
  rw [bind_eq_error_iff]
  simp only [findService_ne_wrong, false_or, findService_eq_ok_iff, Option.map_eq_some_iff]
  refine exists_congr fun s => and_congr_right fun _ => ?_
  cases verifies pwd s.salt s.passwordDigest with
  | true => exact ⟨nofun, nofun⟩
  | false => exact ⟨fun _ => rfl, fun _ => rfl⟩

theorem unlockOwned_wrong_iff :
    db.unlockOwned caller name pwd = .error .wrongPassword ↔ db.opens? name pwd = some false := by
  unfold unlockOwned
  rw [bind_eq_error_iff, unlockService_wrong_iff]
  refine or_iff_left ?_
  rintro ⟨s, -, h⟩
  split at h <;> cases h

theorem remove_wrong_iff :
    (db.remove caller name pwd).map (·.2) = .error .wrongPassword ↔
      db.opens? name pwd = some false := by
  unfold remove
  rw [map_bind, bind_eq_error_iff, unlockOwned_wrong_iff]
  exact or_iff_left fun ⟨_, _, h⟩ => nomatch h

theorem setEnabled_wrong_iff {enabled : Bool} :
    db.setEnabled caller name pwd enabled = .error .wrongPassword ↔
      db.opens? name pwd = some false := by
  unfold setEnabled
  rw [bind_eq_error_iff, unlockOwned_wrong_iff]
  exact or_iff_left fun ⟨_, _, h⟩ => nomatch h

theorem join_wrong_iff :
    db.join caller name pwd = .error .wrongPassword ↔
      (db.findForeign caller name).isOk = true ∧ db.opens? name pwd = some false := by
  unfold join
  rw [bind_eq_error_iff, isOk_iff, exists_and_right.symm]
  simp only [findForeign_ne_wrong, false_or, bind_eq_error_iff, unlockService_wrong_iff,
    setMembership_ne_wrong, and_false, exists_false, or_false]

theorem leave_wrong_iff :
    db.leave caller name q.servicePwdDigest = .error .wrongPassword ↔
      ((db.findForeign caller name).isOk && !q.servicePwd.isEmpty) = true ∧
        db.opens? name q.servicePwd = some false := by
  have last : db.dropMembership caller name ≠ .error .wrongPassword := by
    unfold dropMembership
    split
    · exact setMembership_ne_wrong
    · simp
  rw [leave_eq, bind_eq_error_iff, Bool.and_eq_true, isOk_iff, and_assoc, exists_and_right.symm]
  simp only [findForeign_ne_wrong, false_or]
  refine exists_congr fun s => and_congr_right fun _ => ?_
  split
  · next given => simp [given, last]
  · next given => simp [given, bind_eq_error_iff, unlockService_wrong_iff, last]

theorem checkAccess_wrong_iff :
    db.checkAccess caller name pwd = .error .wrongPassword ↔
      ((db.findForeign caller name).isOk && db.isMember caller name) = true ∧
        db.opens? name pwd = some false := by
  unfold checkAccess
  rw [bind_eq_error_iff, Bool.and_eq_true, isOk_iff, and_assoc, exists_and_right.symm]
  simp only [findForeign_ne_wrong, false_or]
  refine exists_congr fun s => and_congr_right fun _ => ?_
  cases db.isMember caller name with
  | false => exact ⟨nofun, nofun⟩
  | true =>
    simp only [Bool.not_true, true_and]
    show (db.unlockService name pwd >>= _) = _ ↔ _
    rw [bind_eq_error_iff, unlockService_wrong_iff]
    exact or_iff_left fun ⟨_, _, h⟩ => nomatch h

theorem forwardTarget_ne_wrong {toId : Option String} :
    db.forwardTarget caller name toId ≠ .error .wrongPassword := by
  unfold forwardTarget
  rw [ne_eq, bind_eq_error_iff]
  rintro (h | ⟨s, -, h⟩)
  · exact findService_ne_wrong h
  · split at h
    · split at h
      · cases h
      · split at h <;> cases h
    · split at h <;> cases h

end Database

/-! ## Requests -/

namespace Relay

variable {r : Relay} {c : ConnectionId} {time : UInt64} {q : Request} {caller : String} {a : Action}

theorem result_commit_eq_error_iff {x : Except RelayError Database} {e : RelayError} :
    (r.commit x).result = .error e ↔ x = .error e := by
  cases x with
  | ok db => exact ⟨nofun, nofun⟩
  | error e' => simp [commit, refuse]

theorem required_ne_wrong {value : Option String} {what : String} :
    required value what ≠ .error .wrongPassword := by
  unfold required
  split <;> simp

theorem payload_ne_wrong : payload a q ≠ .error .wrongPassword := by
  unfold payload
  split
  · rw [ne_eq, bind_eq_error_iff]
    rintro (h | ⟨_, -, h⟩)
    · exact required_ne_wrong h
    · cases h
  · rw [ne_eq, bind_eq_error_iff]
    rintro (h | ⟨_, -, h⟩)
    · exact required_ne_wrong h
    · rw [bind_eq_error_iff] at h
      rcases h with h | ⟨_, -, h⟩
      · exact required_ne_wrong h
      · cases h
  · nofun

theorem forward_ne_wrong : r.forward caller a q ≠ .error .wrongPassword := by
  unfold forward
  rw [ne_eq, bind_eq_error_iff]
  rintro (h | ⟨name, -, h⟩)
  · have := (Request.requireServiceName_eq_error_iff.1 h).2
    cases this
  · rw [bind_eq_error_iff] at h
    rcases h with h | ⟨content, -, h⟩
    · exact payload_ne_wrong h
    · rw [bind_eq_error_iff] at h
      rcases h with h | ⟨target, -, h⟩
      · exact Database.forwardTarget_ne_wrong h
      · split at h <;> cases h

theorem relayed_ne_wrong : (r.relayed caller a q).result ≠ .error .wrongPassword := by
  unfold relayed
  cases h : r.forward caller a q with
  | ok push => simp
  | error e =>
    rintro h'
    cases h'
    exact forward_ne_wrong h

theorem showService_ne_wrong : (r.showService q).result ≠ .error .wrongPassword := by
  unfold showService
  cases h : q.requireServiceName.bind r.serviceInfo with
  | ok i => nofun
  | error e =>
    rintro wrong
    cases wrong
    change (q.requireServiceName >>= r.serviceInfo) = _ at h
    rw [bind_eq_error_iff] at h
    rcases h with h | ⟨name, -, h⟩
    · cases (Request.requireServiceName_eq_error_iff.1 h).2
    · unfold serviceInfo Database.serviceInfo at h
      rw [bind_eq_error_iff] at h
      rcases h with h | ⟨s, -, h⟩
      · exact Database.findService_ne_wrong h
      · cases h

theorem change_wrong_iff {f : String → Except RelayError Database} :
    (r.change q f).result = .error .wrongPassword ↔
      ∃ name, q.requireServiceName = .ok name ∧ f name = .error .wrongPassword := by
  unfold change
  rw [result_commit_eq_error_iff]
  show (q.requireServiceName >>= f) = _ ↔ _
  rw [bind_eq_error_iff, Request.requireServiceName_eq_error_iff]
  simp

theorem session_wrong_iff :
    (r.session caller a q).result = .error .wrongPassword ↔
      ∃ name, q.requireServiceName = .ok name ∧
        r.db.checkAccess caller name q.servicePwd = .error .wrongPassword := by
  have access : (q.requireServiceName.bind fun name => r.db.checkAccess caller name q.servicePwd) =
        .error .wrongPassword ↔ ∃ name, q.requireServiceName = .ok name ∧
          r.db.checkAccess caller name q.servicePwd = .error .wrongPassword := by
    show (q.requireServiceName >>= _) = _ ↔ _
    rw [bind_eq_error_iff, Request.requireServiceName_eq_error_iff]
    simp
  rw [← access]
  unfold session
  split
  · next h => simp [h, relayed_ne_wrong]
  · next e h => simp [h, refuse]

theorem login_wrong_iff :
    (r.login c q).result = .error .wrongPassword ↔
      r.db.knows? q.fromId (q.pwdDigest.getD "") = some false := by
  rw [← Database.authenticate_wrong_iff]
  unfold login
  dsimp only
  split
  · next e h => simp [h, refuse]
  · next h =>
    simp only [h, reduceCtorEq, iff_false]
    intro wrong
    split at wrong
    · cases wrong
    · split at wrong
      · cases wrong
      · split at wrong
        · cases wrong
        · unfold takeOver at wrong
          dsimp only at wrong
          split at wrong <;> cases wrong

theorem serve_wrong_iff (register : a ≠ .register) (login : a ≠ .login) (logout : a ≠ .logout) :
    (r.serve caller time a q).result = .error .wrongPassword ↔
      ∃ name, q.requireServiceName = .ok name ∧ r.db.checks caller name q a = true ∧
        r.db.opens? name q.servicePwd = some false := by
  cases a with
  | register => exact absurd rfl register
  | login => exact absurd rfl login
  | logout => exact absurd rfl logout
  | services | myServices => simp [serve, answer, Database.checks]
  | showService => simp [serve, showService_ne_wrong, Database.checks]
  | createService =>
    simp [serve, result_commit_eq_error_iff, Database.create_ne_wrong, Database.checks]
  | removeService =>
    simp only [serve, change_wrong_iff, Database.remove_wrong_iff, Database.checks, true_and]
  | enableService | disableService =>
    simp only [serve, change_wrong_iff, Database.setEnabled_wrong_iff, Database.checks, true_and]
  | joinService => simp only [serve, change_wrong_iff, Database.join_wrong_iff, Database.checks]
  | leaveService => simp only [serve, change_wrong_iff, Database.leave_wrong_iff, Database.checks]
  | connectService | disconnectService =>
    simp only [serve, session_wrong_iff, Database.checkAccess_wrong_iff, Database.checks]
  | iceOpen | iceClose | iceOpenAck | iceCloseAck | iceAuth | iceCandidate =>
    simp [serve, relayed_ne_wrong, Database.checks]

theorem check?_eq_some_iff (asked : q.action? = .ok a) (login : a ≠ .login) {right : Bool} :
    r.check? c q = some right ↔ ∃ caller name, r.identities.get? c = some caller ∧
      q.requireServiceName = .ok name ∧ r.db.checks caller name q a = true ∧
      r.db.opens? name q.servicePwd = some right := by
  unfold check?
  rw [asked]
  cases a with
  | login => exact absurd rfl login
  | _ =>
    cases r.identities.get? c with
    | none => simp
    | some caller =>
      cases q.requireServiceName with
      | error e => simp
      | ok name => simp [Option.ite_none_right_eq_some]

/-- A request is refused for a wrong password exactly if it comes to a check and fails it. -/
theorem result_eq_wrongPassword_iff :
    (r.dispatch c time q).result = .error .wrongPassword ↔ r.check? c q = some false := by
  unfold dispatch
  cases asked : q.action? with
  | error e =>
    have other : e ≠ .wrongPassword := by
      unfold Request.action? at asked
      split at asked
      · cases asked
      · cases asked
        exact fun same => by cases same
    simp [check?, asked, refuse, other]
  | ok a =>
    cases a with
    | login =>
      unfold check?
      rw [asked]
      exact login_wrong_iff
    | register =>
      rw [check?_eq_some_iff asked (by decide)]
      simp [register, result_commit_eq_error_iff, Database.register_ne_wrong, Database.checks]
    | logout =>
      rw [check?_eq_some_iff asked (by decide)]
      simp [accept, answer, Database.checks]
    | _ =>
      rw [check?_eq_some_iff asked (by decide)]
      cases r.identities.get? c with
      | none => simp [refuse]
      | some caller => simp [serve_wrong_iff]

end Relay

end Rendezvous
