import Rendezvous.Proofs.Rules
import Rendezvous.Relay.Event

/-!
# Records without secrets

What a relay knows once every digest and every salt in its records is blanked (`redacted`). All that
does not look at a password commutes with the blanking, and what it answers or pushes is not changed
by it:

    (r.closed c).redacted = r.redacted.closed c                        (closed_redacted)
    (r.relayed caller a q).redacted = r.redacted.relayed caller a q    (relayed_redacted)
-/

namespace Rendezvous

def Peer.redacted (p : Peer) : Peer := { p with passwordDigest := "", salt := "" }

def Service.redacted (s : Service) : Service := { s with passwordDigest := "", salt := "" }

/-- The records with every digest and every salt blanked. -/
def Database.redacted (db : Database) : Database where
  peers := db.peers.map Peer.redacted
  services := db.services.map Service.redacted

def Relay.redacted (r : Relay) : Relay := { r with db := r.db.redacted }

/-- What a request leads to, with the secrets of the relay blanked. -/
def Outcome.redacted (o : Outcome) : Outcome := { o with relay := o.relay.redacted }

namespace Database

variable (db : Database) (caller id name pwd salt : String)

theorem peer?_redacted : db.redacted.peer? id = (db.peer? id).map Peer.redacted :=
  Table.get?_map ..

theorem service?_redacted : db.redacted.service? name = (db.service? name).map Service.redacted :=
  Table.get?_map ..

theorem hasPeer_redacted : db.redacted.hasPeer id = db.hasPeer id := Table.contains_map ..

theorem hasService_redacted : db.redacted.hasService name = db.hasService name :=
  Table.contains_map ..

theorem isMember_redacted : db.redacted.isMember id name = db.isMember id name := by
  unfold isMember
  rw [peer?_redacted, Option.any_map]
  rfl

theorem redacted_redacted : db.redacted.redacted = db.redacted := by
  unfold redacted
  simp only [Table.map_map]
  rfl

theorem anyEntry_redacted :
    (db.redacted.peer? id).any (·.memberships.contains name) =
      (db.peer? id).any (·.memberships.contains name) := by
  rw [peer?_redacted, Option.any_map]
  rfl

/-! ## Changes of records -/

theorem insertPeer_redacted (p : Peer) :
    (db.insertPeer p).redacted = db.redacted.insertPeer p.redacted :=
  congrArg (Database.mk · _) (Table.map_insert ..)

theorem insertService_redacted (s : Service) :
    (db.insertService s).redacted = db.redacted.insertService s.redacted :=
  congrArg (Database.mk _ ·) (Table.map_insert ..)

theorem eraseService_redacted :
    (db.eraseService name).redacted = db.redacted.eraseService name := by
  unfold eraseService
  rw [hasService_redacted]
  split
  · unfold redacted
    rw [Table.map_map, Table.map_map, Table.map_erase]
    rfl
  · rfl

theorem setMembership_redacted (joined : Bool) :
    (db.setMembership caller name joined).map redacted =
      db.redacted.setMembership caller name joined := by
  unfold setMembership
  rw [hasPeer_redacted]
  split
  · refine congrArg (fun peers => Except.ok (Database.mk peers _)) ?_
    exact Table.map_modify (fun _ => by rfl) db.peers caller
  · rfl

theorem switch_redacted (enabled : Bool) :
    { db with
      services := db.services.modify name fun s => { s with enabled := enabled } }.redacted =
    { db.redacted with
      services := db.redacted.services.modify name fun s => { s with enabled := enabled } } :=
  congrArg (Database.mk _ ·) (Table.map_modify (fun _ => by rfl) db.services name)

/-! ## Look-ups -/

theorem findService_redacted :
    db.redacted.findService name = (db.findService name).map Service.redacted := by
  unfold findService
  rw [service?_redacted]
  cases db.service? name <;> rfl

theorem findForeign_redacted :
    db.redacted.findForeign caller name = (db.findForeign caller name).map Service.redacted := by
  unfold findForeign
  rw [findService_redacted]
  cases db.findService name with
  | error e => rfl
  | ok s =>
    show (if s.isOwner caller then _ else _) = Except.map _ (if s.isOwner caller then _ else _)
    split <;> rfl

theorem forwardTarget_redacted (toId : Option String) :
    db.redacted.forwardTarget caller name toId = db.forwardTarget caller name toId := by
  unfold forwardTarget
  rw [findService_redacted, isMember_redacted]
  simp only [hasPeer_redacted]
  cases db.findService name <;> rfl

theorem listServices_redacted : db.redacted.listServices = db.listServices := by
  unfold listServices redacted
  simp only [Table.values_map, List.map_map]
  rfl

theorem servicesOf_redacted : db.redacted.servicesOf caller = db.servicesOf caller := by
  unfold servicesOf
  rw [peer?_redacted]
  congr 1
  · unfold redacted
    rw [Table.values_map, List.filter_map, List.map_map]
    rfl
  · cases db.peer? caller <;> rfl

theorem serviceInfo_redacted (ownerOnline : Bool) :
    db.redacted.serviceInfo name ownerOnline = db.serviceInfo name ownerOnline := by
  unfold serviceInfo
  rw [findService_redacted]
  cases db.findService name <;> rfl

/-! ## Secrets are written blindly -/

theorem register_redacted :
    (db.redacted.register id pwd salt).map redacted = (db.register id pwd salt).map redacted := by
  unfold register
  simp only [hasPeer_redacted]
  split
  · rfl
  · split
    · rfl
    · split
      · rfl
      · simp only [Except.map, insertPeer_redacted, redacted_redacted]

theorem create_redacted (now : UInt64) (description : String) :
    (db.redacted.create now caller name pwd salt description).map redacted =
      (db.create now caller name pwd salt description).map redacted := by
  unfold create
  simp only [hasService_redacted]
  split
  · rfl
  · split
    · rfl
    · split
      · rfl
      · simp only [Except.map, insertService_redacted, redacted_redacted]

end Database

namespace Relay

variable (r : Relay) (c : ConnectionId) (caller : String) (a : Action) (q : Request)

@[simp]
theorem redacted_db : r.redacted.db = r.db.redacted := rfl

@[simp]
theorem redacted_pending : r.redacted.pending = r.pending := rfl

@[simp]
theorem redacted_online : r.redacted.online = r.online := rfl

@[simp]
theorem redacted_identities : r.redacted.identities = r.identities := rfl

theorem link?_redacted : r.redacted.link? c = r.link? c := rfl

theorem closed_redacted : (r.closed c).redacted = r.redacted.closed c := by
  unfold closed
  rw [redacted_pending, redacted_identities]
  split
  · rfl
  · cases r.identities.get? c <;> rfl

theorem demote_redacted : (r.demote c).redacted = r.redacted.demote c := by
  simp only [demote, redacted_identities]
  cases r.identities.get? c <;> rfl

theorem takeOver_redacted : (r.takeOver c caller).redacted = r.redacted.takeOver c caller := by
  simp only [takeOver, redacted_online, ← demote_redacted]
  cases (r.online.get? caller).map (·.connection) with
  | none =>
    simp only [Option.elim_none, redacted_pending]
    cases (r.demote c).pending.get? c <;> rfl
  | some previous =>
    simp only [Option.elim_some, redacted_pending, ← demote_redacted]
    cases ((r.demote c).demote previous).pending.get? c <;> rfl

theorem commit_redacted (x : Except RelayError Database) :
    (r.commit x).redacted = r.redacted.commit (x.map Database.redacted) := by
  cases x <;> rfl

theorem servicesReply_redacted : r.redacted.servicesReply = r.servicesReply := by
  simp only [servicesReply, redacted_db, Database.listServices_redacted]

theorem ownServicesReply_redacted :
    r.redacted.ownServicesReply caller = r.ownServicesReply caller := by
  simp only [ownServicesReply, redacted_db, Database.servicesOf_redacted]

theorem serviceInfo_redacted : r.redacted.serviceInfo = r.serviceInfo := by
  funext name
  simp only [serviceInfo, redacted_db, Database.serviceInfo_redacted, Database.service?_redacted,
    Option.any_map]
  rfl

theorem showService_redacted : (r.showService q).redacted = r.redacted.showService q := by
  simp only [showService, serviceInfo_redacted]
  cases q.requireServiceName.bind r.serviceInfo <;> rfl

theorem forward_redacted : r.redacted.forward = r.forward := by
  funext caller a q
  simp only [forward, redacted_db, redacted_online, Database.forwardTarget_redacted]

theorem relayed_redacted : (r.relayed caller a q).redacted = r.redacted.relayed caller a q := by
  simp only [relayed, forward_redacted]
  cases r.forward caller a q <;> rfl

end Relay

end Rendezvous
