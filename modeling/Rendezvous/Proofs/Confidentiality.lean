import Rendezvous.Proofs.Passwords
import Rendezvous.Proofs.Redactions
import Rendezvous.Proofs.WellFormed

/-!
# What clients learn of stored credentials

Of the digests and salts in its records a relay lets nobody see more than whether a password was
right. Two relays whose records differ in those fields alone, and that find the same passwords
right, push the same responses to the same connections in the same order, and their records go on
to differ in those fields alone:

    r.redacted = r'.redacted → r.verdicts es = r'.verdicts es →
      r.pushed es = r'.pushed es ∧ (r.after es).redacted = (r'.after es).redacted
                                                                       (secrets_stay_hidden)
-/

namespace Rendezvous

open Credential (verifies)

/-! ## Rules -/

/-- A computation that goes on alike from alike values. -/
theorem bind_alike {ε α β γ : Type} {x x' : Except ε α} {k k' : α → Except ε γ} (f : α → β)
    (start : x.map f = x'.map f)
    (step : ∀ a a', x = .ok a → x' = .ok a' → f a = f a' → k a = k' a') :
    (x >>= k) = (x' >>= k') := by
  cases x with
  | error e =>
    cases x' with
    | error e' =>
      cases start
      rfl
    | ok a' => cases start
  | ok a =>
    cases x' with
    | error e' => cases start
    | ok a' => exact step a a' rfl rfl (Except.ok.inj start)

namespace Database

variable {db db' : Database} {caller id name pwd : String} {q : Request}

theorem checks_redacted (q : Request) (a : Action) :
    db.redacted.checks caller name q a = db.checks caller name q a := by
  have foreign : (db.redacted.findForeign caller name).isOk =
      (db.findForeign caller name).isOk := by
    rw [findForeign_redacted]
    cases db.findForeign caller name <;> rfl
  cases a <;> simp only [checks, foreign, isMember_redacted]

section

variable (alike : db.redacted = db'.redacted)
include alike

theorem findForeign_alike :
    (db.findForeign caller name).map Service.redacted =
      (db'.findForeign caller name).map Service.redacted := by
  rw [← findForeign_redacted, alike, findForeign_redacted]

theorem setMembership_alike (joined : Bool) :
    (db.setMembership caller name joined).map redacted =
      (db'.setMembership caller name joined).map redacted := by
  rw [setMembership_redacted, alike, setMembership_redacted]

theorem dropMembership_alike :
    (db.dropMembership caller name).map redacted =
      (db'.dropMembership caller name).map redacted := by
  unfold dropMembership
  rw [← anyEntry_redacted, alike, anyEntry_redacted]
  split
  · exact setMembership_alike alike false
  · rfl

theorem authenticate_alike (same : db.knows? id pwd = db'.knows? id pwd) :
    db.authenticate id pwd = db'.authenticate id pwd := by
  have known : (db.peer? id).map Peer.redacted = (db'.peer? id).map Peer.redacted := by
    rw [← peer?_redacted, alike, peer?_redacted]
  unfold knows? at same
  unfold authenticate
  cases h : db.peer? id with
  | none =>
    rw [h, Option.map_none, eq_comm, Option.map_eq_none_iff] at known
    rw [known]
  | some p =>
    rw [h, Option.map_some, eq_comm, Option.map_eq_some_iff] at known
    obtain ⟨p', h', -⟩ := known
    rw [h, h', Option.map_some, Option.map_some, Option.some.injEq] at same
    simp only [h', same]

theorem unlockService_alike (same : db.opens? name pwd = db'.opens? name pwd) :
    (db.unlockService name pwd).map Service.redacted =
      (db'.unlockService name pwd).map Service.redacted := by
  have found : (db.service? name).map Service.redacted =
      (db'.service? name).map Service.redacted := by
    rw [← service?_redacted, alike, service?_redacted]
  unfold opens? at same
  unfold unlockService findService
  cases h : db.service? name with
  | none =>
    rw [h, Option.map_none, eq_comm, Option.map_eq_none_iff] at found
    rw [found]
  | some s =>
    rw [h, Option.map_some, eq_comm, Option.map_eq_some_iff] at found
    obtain ⟨s', h', blank⟩ := found
    rw [h, h', Option.map_some, Option.map_some, Option.some.injEq] at same
    rw [h']
    show Except.map _ (if _ then _ else _) = Except.map _ (if _ then _ else _)
    rw [same]
    split
    · exact congrArg Except.ok blank.symm
    · rfl

theorem unlockOwned_alike (same : db.opens? name pwd = db'.opens? name pwd) :
    (db.unlockOwned caller name pwd).map Service.redacted =
      (db'.unlockOwned caller name pwd).map Service.redacted := by
  unfold unlockOwned
  simp only [map_bind]
  refine bind_alike Service.redacted (unlockService_alike alike same) fun s s' _ _ blank => ?_
  have owner : s.isOwner caller = s'.isOwner caller := by
    show s.redacted.isOwner caller = s'.redacted.isOwner caller
    rw [blank]
  rw [owner]
  split
  · exact congrArg Except.ok blank
  · rfl

theorem remove_alike (same : db.opens? name pwd = db'.opens? name pwd) :
    ((db.remove caller name pwd).map (·.2)).map redacted =
      ((db'.remove caller name pwd).map (·.2)).map redacted := by
  unfold remove
  simp only [map_bind]
  refine bind_alike Service.redacted (unlockOwned_alike alike same) fun _ _ _ _ _ => ?_
  show Except.ok (db.eraseService name).redacted = Except.ok (db'.eraseService name).redacted
  rw [eraseService_redacted, alike, eraseService_redacted]

theorem setEnabled_alike (same : db.opens? name pwd = db'.opens? name pwd) (enabled : Bool) :
    (db.setEnabled caller name pwd enabled).map redacted =
      (db'.setEnabled caller name pwd enabled).map redacted := by
  unfold setEnabled
  simp only [map_bind]
  refine bind_alike Service.redacted (unlockOwned_alike alike same) fun _ _ _ _ _ => ?_
  refine congrArg Except.ok ?_
  rw [switch_redacted, alike, switch_redacted]

theorem join_alike
    (same : (db.findForeign caller name).isOk = true → db.opens? name pwd = db'.opens? name pwd) :
    (db.join caller name pwd).map redacted = (db'.join caller name pwd).map redacted := by
  unfold join
  simp only [map_bind]
  refine bind_alike Service.redacted (findForeign_alike alike) fun s _ found _ _ => ?_
  have same := same (by rw [found]; rfl)
  refine bind_alike Service.redacted (unlockService_alike alike same) fun _ _ _ _ _ => ?_
  exact setMembership_alike alike true

theorem leave_alike (same : (db.findForeign caller name).isOk = true → q.servicePwd ≠ "" →
      db.opens? name q.servicePwd = db'.opens? name q.servicePwd) :
    (db.leave caller name q.servicePwdDigest).map redacted =
      (db'.leave caller name q.servicePwdDigest).map redacted := by
  rw [leave_eq, leave_eq]
  simp only [map_bind]
  refine bind_alike Service.redacted (findForeign_alike alike) fun s _ found _ _ => ?_
  have same := same (by rw [found]; rfl)
  split
  · exact dropMembership_alike alike
  · next given =>
    simp only [map_bind]
    exact bind_alike Service.redacted (unlockService_alike alike (same given))
      fun _ _ _ _ _ => dropMembership_alike alike

theorem checkAccess_alike (same : (db.findForeign caller name).isOk = true →
      db.isMember caller name = true → db.opens? name pwd = db'.opens? name pwd) :
    db.checkAccess caller name pwd = db'.checkAccess caller name pwd := by
  have member : db.isMember caller name = db'.isMember caller name := by
    rw [← isMember_redacted, alike, isMember_redacted]
  unfold checkAccess
  refine bind_alike Service.redacted (findForeign_alike alike) fun s _ found _ _ => ?_
  have same := same (by rw [found]; rfl)
  rw [← member]
  cases joined : db.isMember caller name with
  | false => rfl
  | true =>
    exact bind_alike Service.redacted (unlockService_alike alike (same joined))
      fun _ _ _ _ _ => rfl

end

end Database

/-! ## Requests -/

namespace Relay

section

variable {r r' : Relay} {c : ConnectionId} {time : UInt64} {q : Request} {caller : String}
  (alike : r.redacted = r'.redacted)
include alike

theorem db_alike : r.db.redacted = r'.db.redacted := congrArg Relay.db alike

theorem connections_alike :
    r.pending = r'.pending ∧ r.online = r'.online ∧ r.identities = r'.identities := by
  rw [← redacted_pending, ← redacted_online, ← redacted_identities, alike]
  exact ⟨rfl, rfl, rfl⟩

theorem commit_alike {x x' : Except RelayError Database}
    (same : x.map Database.redacted = x'.map Database.redacted) :
    (r.commit x).redacted = (r'.commit x').redacted := by
  rw [commit_redacted, commit_redacted, alike, same]

theorem refuse_alike (e : RelayError) : (r.refuse e).redacted = (r'.refuse e).redacted := by
  show r.redacted.refuse e = r'.redacted.refuse e
  rw [alike]

theorem answer_alike (reply : Response) :
    (r.answer reply).redacted = (r'.answer reply).redacted := by
  show r.redacted.answer reply = r'.redacted.answer reply
  rw [alike]

theorem register_alike (q : Request) : (r.register q).redacted = (r'.register q).redacted := by
  refine commit_alike alike ?_
  rw [← Database.register_redacted, db_alike alike, Database.register_redacted]

theorem login_alike (q : Request)
    (same : r.db.knows? q.fromId (q.pwdDigest.getD "") =
      r'.db.knows? q.fromId (q.pwdDigest.getD "")) :
    (r.login c q).redacted = (r'.login c q).redacted := by
  obtain ⟨pending, online, identities⟩ := connections_alike alike
  unfold login isOnline
  dsimp only
  rw [Database.authenticate_alike (db_alike alike) same, identities, online, pending]
  split
  · exact refuse_alike alike _
  · split
    · exact answer_alike alike {}
    · split
      · exact refuse_alike alike _
      · split
        · exact refuse_alike alike _
        · rw [takeOver_redacted, alike, takeOver_redacted]

theorem change_alike {f f' : String → Except RelayError Database}
    (same : ∀ name, q.requireServiceName = .ok name →
      (f name).map Database.redacted = (f' name).map Database.redacted) :
    (r.change q f).redacted = (r'.change q f').redacted := by
  refine commit_alike alike ?_
  cases named : q.requireServiceName with
  | error e => rfl
  | ok name => exact same name named

theorem relayed_alike (a : Action) :
    (r.relayed caller a q).redacted = (r'.relayed caller a q).redacted := by
  rw [relayed_redacted, alike, relayed_redacted]

theorem session_alike (a : Action)
    (same : ∀ name, q.requireServiceName = .ok name →
      r.db.checkAccess caller name q.servicePwd = r'.db.checkAccess caller name q.servicePwd) :
    (r.session caller a q).redacted = (r'.session caller a q).redacted := by
  have access : (q.requireServiceName.bind fun name => r.db.checkAccess caller name q.servicePwd) =
      q.requireServiceName.bind fun name => r'.db.checkAccess caller name q.servicePwd := by
    cases named : q.requireServiceName with
    | error e => rfl
    | ok name => exact same name named
  unfold session
  rw [access]
  split
  · exact relayed_alike alike a
  · exact refuse_alike alike _

/-- What logged-in peers ask for, one case for each action. -/
theorem serve_alike {a : Action}
    (same : ∀ name, q.requireServiceName = .ok name → r.db.checks caller name q a = true →
      r.db.opens? name q.servicePwd = r'.db.opens? name q.servicePwd) :
    (r.serve caller time a q).redacted = (r'.serve caller time a q).redacted := by
  have db := db_alike alike
  cases a with
  | register | login | logout => exact answer_alike alike {}
  | services =>
    show (r.answer r.servicesReply).redacted = (r'.answer r'.servicesReply).redacted
    rw [← servicesReply_redacted, alike, servicesReply_redacted]
    exact answer_alike alike _
  | myServices =>
    show (r.answer (r.ownServicesReply caller)).redacted =
      (r'.answer (r'.ownServicesReply caller)).redacted
    rw [← ownServicesReply_redacted, alike, ownServicesReply_redacted]
    exact answer_alike alike _
  | showService =>
    show (r.showService q).redacted = (r'.showService q).redacted
    rw [showService_redacted, alike, showService_redacted]
  | createService =>
    refine commit_alike alike ?_
    rw [← Database.create_redacted, db, Database.create_redacted]
  | removeService =>
    exact change_alike alike fun name named => Database.remove_alike db (same name named rfl)
  | enableService =>
    exact change_alike alike fun name named =>
      Database.setEnabled_alike db (same name named rfl) true
  | disableService =>
    exact change_alike alike fun name named =>
      Database.setEnabled_alike db (same name named rfl) false
  | joinService =>
    exact change_alike alike fun name named => Database.join_alike db (same name named)
  | leaveService =>
    refine change_alike alike fun name named => Database.leave_alike db fun foreign given => ?_
    exact same name named (by simp [Database.checks, foreign, given])
  | connectService | disconnectService =>
    refine session_alike alike _ fun name named =>
      Database.checkAccess_alike db fun foreign member => ?_
    exact same name named (by simp [Database.checks, foreign, member])
  | iceOpen | iceClose | iceOpenAck | iceCloseAck | iceAuth | iceCandidate =>
    exact relayed_alike alike _

theorem dispatch_alike (same : r.check? c q = r'.check? c q) (time : UInt64) :
    (r.dispatch c time q).redacted = (r'.dispatch c time q).redacted := by
  obtain ⟨-, -, identities⟩ := connections_alike alike
  unfold dispatch
  unfold check? at same
  rw [← identities] at same ⊢
  cases asked : q.action? with
  | error e => exact refuse_alike alike e
  | ok a =>
    rw [asked] at same
    cases a with
    | register => exact register_alike alike q
    | login => exact login_alike alike q same
    | logout =>
      show (r.demote c).redacted.accept = (r'.demote c).redacted.accept
      rw [demote_redacted, alike, demote_redacted]
    | _ =>
      cases who : r.identities.get? c with
      | none => exact refuse_alike alike _
      | some caller =>
        refine serve_alike alike fun name named checks => ?_
        have checks' := checks
        rw [← Database.checks_redacted, db_alike alike, Database.checks_redacted] at checks'
        simpa only [who, named, checks, checks', if_true] using same

end

/-! ## Events and runs -/

/-- The outcome of the check of a password that an event comes to. -/
def verdict? (r : Relay) : Event → Option Bool
  | .request c _ q => r.check? c q
  | _ => none

/-- The outcomes of all checks along a run. -/
def verdicts (r : Relay) : List Event → List (Option Bool)
  | [] => []
  | e :: es => r.verdict? e :: (r.handle e).1.verdicts es

/-- What each event of a run makes the relay push. -/
def pushed (r : Relay) : List Event → List (List Push)
  | [] => []
  | e :: es => (r.handle e).2 :: (r.handle e).1.pushed es

theorem handle_alike {r r' : Relay} (alike : r.redacted = r'.redacted) (e : Event)
    (same : r.verdict? e = r'.verdict? e) :
    (r.handle e).2 = (r'.handle e).2 ∧ (r.handle e).1.redacted = (r'.handle e).1.redacted := by
  cases e with
  | opened c q =>
    refine ⟨rfl, ?_⟩
    show r.redacted.opened c q = r'.redacted.opened c q
    rw [alike]
  | closed c =>
    refine ⟨rfl, ?_⟩
    show (r.closed c).redacted = (r'.closed c).redacted
    rw [closed_redacted, alike, closed_redacted]
  | shutdown => exact ⟨rfl, alike⟩
  | request c time q =>
    obtain ⟨after, pushes, result⟩ := Outcome.mk.inj (dispatch_alike alike same time)
    refine ⟨?_, after⟩
    -- the reply goes where the relay after the request reaches the connection
    have link : (r.dispatch c time q).relay.link? c = (r'.dispatch c time q).relay.link? c := by
      rw [← link?_redacted, after, link?_redacted]
    show (r.handleRequest c time q).2 = (r'.handleRequest c time q).2
    simp only [handleRequest, pushes, result, link]

end Relay

/-- What is pushed during a run, where to and in what order, depends on the digests and salts in the
records only through the outcomes of the checks. -/
theorem secrets_stay_hidden {r r' : Relay} (alike : r.redacted = r'.redacted) (es : List Event)
    (same : r.verdicts es = r'.verdicts es) :
    r.pushed es = r'.pushed es ∧ (r.after es).redacted = (r'.after es).redacted := by
  induction es generalizing r r' with
  | nil => exact ⟨rfl, alike⟩
  | cons e es ih =>
    obtain ⟨now, later⟩ := List.cons.inj same
    obtain ⟨pushes, after⟩ := Relay.handle_alike alike e now
    obtain ⟨rest, last⟩ := ih after later
    refine ⟨?_, last⟩
    show (r.handle e).2 :: (r.handle e).1.pushed es = (r'.handle e).2 :: (r'.handle e).1.pushed es
    rw [pushes, rest]

/-- The sample records under another salt. -/
def samplePepperedDatabase : Database where
  peers := .ofList
    [("bob1234567", { id := "bob1234567", passwordDigest := samplePeppered, salt := "pepper" }),
     ("carol12345", { id := "carol12345", passwordDigest := samplePeppered, salt := "pepper",
                      memberships := .ofList [("ssh-box", true)] })]
  services := .ofList
    [("ssh-box", { name := "ssh-box", owner := "bob1234567", passwordDigest := samplePeppered,
                   salt := "pepper", createdAt := 0 })]

/-- Somebody tries to log in as Bob with another digest, and then he and Carol log in. -/
def knockingRun : List Event :=
  .opened 4 3 ::
    .request 4 0 { sampleLogin "bob1234567" false with pwdDigest := some "password" } :: sampleRun

/-- Nobody can tell from the replies which salt the relay keeps. -/
theorem secrets_stay_hidden_peppered :
    sampleDatabase ≠ samplePepperedDatabase ∧
      (Relay.idle sampleDatabase).verdicts knockingRun =
        [none, some false, none, none, some true, some true, none, some true, none] ∧
      (Relay.idle sampleDatabase).pushed knockingRun =
        (Relay.idle samplePepperedDatabase).pushed knockingRun := by
  have verdicts : (Relay.idle sampleDatabase).verdicts knockingRun =
      [none, some false, none, none, some true, some true, none, some true, none] := by
    decide +kernel
  have verdicts' : (Relay.idle samplePepperedDatabase).verdicts knockingRun =
      [none, some false, none, none, some true, some true, none, some true, none] := by
    decide +kernel
  have alike :
      (Relay.idle sampleDatabase).redacted = (Relay.idle samplePepperedDatabase).redacted := by
    decide
  refine ⟨by decide, verdicts, ?_⟩
  exact (secrets_stay_hidden alike knockingRun (verdicts.trans verdicts'.symm)).1

end Rendezvous
