import Rendezvous.Proofs.Connections

/-!
# What changes services and memberships

An event makes at most one change to the services and the memberships, and only one that the peer
of its connection is entitled to: creating a service, switching it on or off, removing it, joining
it or leaving it. Whatever the change does not name stays as it was.

    r.Records e (r.handle e).1.db (r.handle e).1.dirty                 (records_handle)
    ∃ ch, r.Permits e ch ∧ ch.Turns r.db (r.handle e).1.db             (handle_makes_permitted_change)

The first holds of all records and of the mark of unwritten changes, and serves every statement
about what a run leaves behind.
-/

namespace Rendezvous

open Credential (verifies saltedDigest isAcceptable)

namespace Database

/-! ## Memberships -/

/-- What the records say of a peer and a service: whether the peer is a member now, or nothing if
it never joined. -/
def membership? (db : Database) (peer name : String) : Option Bool :=
  (db.peer? peer).bind (·.memberships.get? name)

variable {db db' : Database} {caller peer name pwd : String} {time : UInt64} {q : Request}
  {a : Action}

theorem isMember_eq (db : Database) (peer name : String) :
    db.isMember peer name = (db.membership? peer name).getD false := by
  unfold isMember membership? Peer.isMember
  cases db.peer? peer with
  | none => rfl
  | some p => rfl

theorem isMember_iff : db.isMember peer name = true ↔ db.membership? peer name = some true := by
  rw [isMember_eq]
  cases db.membership? peer name with
  | none => simp
  | some joined => simp

theorem any_memberships_iff :
    (db.peer? peer).any (·.memberships.contains name) = true ↔
      ∃ joined, db.membership? peer name = some joined := by
  unfold membership?
  cases db.peer? peer with
  | none => simp
  | some p => simp [Table.contains, Option.isSome_iff_exists]

/-- A new peer has joined nothing. -/
theorem membership?_insertPeer {p : Peer} (new : db.hasPeer p.id = false)
    (blank : p.memberships = .empty) (peer name : String) :
    (db.insertPeer p).membership? peer name = db.membership? peer name := by
  have none : db.peer? p.id = none := by simpa [hasPeer, Table.contains, peer?] using new
  unfold membership?
  rw [peer?_insertPeer]
  split
  · next e =>
    rw [e, none]
    simp [blank, Table.get?_empty]
  · rfl

theorem membership?_eraseService (found : db.hasService name = true) (peer other : String) :
    (db.eraseService name).membership? peer other =
      if other = name then none else db.membership? peer other := by
  have h : (db.eraseService name).peer? peer =
      (db.peer? peer).map fun p => { p with memberships := p.memberships.erase name } := by
    unfold eraseService
    rw [if_pos found]
    exact Table.get?_map ..
  unfold membership?
  rw [h]
  cases db.peer? peer with
  | none => simp
  | some p => exact Table.get?_erase ..

theorem membership?_setMembership {joined : Bool}
    (h : db.setMembership caller name joined = .ok db') (peer other : String) :
    db'.membership? peer other =
      if peer = caller ∧ other = name then some joined else db.membership? peer other := by
  obtain ⟨known, rfl⟩ := setMembership_eq_ok_iff.1 h
  obtain ⟨p, hp⟩ := hasPeer_iff.1 known
  unfold membership? peer?
  rw [Table.get?_modify]
  by_cases e : peer = caller
  · subst e
    have hp' : db.peers.get? peer = some p := hp
    simp [hp', Table.get?_insert]
  · simp [e]

end Database

/-! ## Changes -/

/-- What one event may do to the services and memberships. -/
inductive Change where
  | nothing
  | created (s : Service)
  | switched (name : String) (enabled : Bool)
  | removed (name : String)
  | joined (peer name : String)
  | left (peer name : String)

namespace Change

/-- The record of a service after a change. -/
def service? (ch : Change) (db : Database) (name : String) : Option Service :=
  match ch with
  | created s => if name = s.name then some s else db.service? name
  | switched n enabled =>
    if name = n then (db.service? name).map fun s => { s with enabled := enabled }
    else db.service? name
  | removed n => if name = n then none else db.service? name
  | nothing | joined .. | left .. => db.service? name

/-- What the records say of a peer and a service after a change. -/
def membership? (ch : Change) (db : Database) (peer name : String) : Option Bool :=
  match ch with
  | removed n => if name = n then none else db.membership? peer name
  | joined p n => if peer = p ∧ name = n then some true else db.membership? peer name
  | left p n => if peer = p ∧ name = n then some false else db.membership? peer name
  | nothing | created .. | switched .. => db.membership? peer name

/-- One database comes from another by a change and by nothing else. -/
structure Turns (ch : Change) (db db' : Database) : Prop where
  service : ∀ name, db'.service? name = ch.service? db name
  membership : ∀ peer name, db'.membership? peer name = ch.membership? db peer name

end Change

theorem Change.turns_refl (db : Database) : Change.nothing.Turns db db :=
  ⟨fun _ => rfl, fun _ _ => rfl⟩

/-- The changes that a peer is entitled to by its request. -/
inductive Database.Entitles (db : Database) (caller : String) (q : Request) :
    Action → Change → Prop
  | create {s : Service} (owner : s.owner = caller) (named : q.serviceName = some s.name)
      (nonempty : s.name ≠ "") (free : db.service? s.name = none) (off : s.enabled = false)
      (acceptable : isAcceptable q.servicePwd s.salt = true)
      (digest : s.passwordDigest = saltedDigest q.servicePwd s.salt) :
      Entitles db caller q .createService (.created s)
  | enable {name : String} {s : Service} (named : q.serviceName = some name)
      (found : db.service? name = some s) (owner : s.owner = caller)
      (verified : verifies q.servicePwd s.salt s.passwordDigest = true) :
      Entitles db caller q .enableService (.switched name true)
  | disable {name : String} {s : Service} (named : q.serviceName = some name)
      (found : db.service? name = some s) (owner : s.owner = caller)
      (verified : verifies q.servicePwd s.salt s.passwordDigest = true) :
      Entitles db caller q .disableService (.switched name false)
  | remove {name : String} {s : Service} (named : q.serviceName = some name)
      (found : db.service? name = some s) (owner : s.owner = caller)
      (verified : verifies q.servicePwd s.salt s.passwordDigest = true) :
      Entitles db caller q .removeService (.removed name)
  | join {name : String} {s : Service} (named : q.serviceName = some name)
      (found : db.service? name = some s) (foreign : s.owner ≠ caller)
      (verified : verifies q.servicePwd s.salt s.passwordDigest = true) :
      Entitles db caller q .joinService (.joined caller name)
  | leave {name : String} {s : Service} {joined : Bool} (named : q.serviceName = some name)
      (found : db.service? name = some s) (foreign : s.owner ≠ caller)
      (entry : db.membership? caller name = some joined) :
      Entitles db caller q .leaveService (.left caller name)

namespace Database

variable {db db' : Database} {caller name : String} {time : UInt64} {q : Request} {a : Action}

theorem turns_insertService (db : Database) (s : Service) :
    (Change.created s).Turns db (db.insertService s) where
  service _ := service?_insertService ..
  membership _ _ := rfl

theorem turns_setEnabled {pwd : String} {enabled : Bool}
    (h : db.setEnabled caller name pwd enabled = .ok db') :
    (Change.switched name enabled).Turns db db' := by
  obtain ⟨-, rfl⟩ := setEnabled_eq_ok_iff.1 h
  constructor
  · intro n
    exact Table.get?_modify ..
  · intro p n
    rfl

theorem turns_eraseService (found : db.hasService name = true) :
    (Change.removed name).Turns db (db.eraseService name) where
  service _ := service?_eraseService ..
  membership _ _ := membership?_eraseService found ..

theorem services_setMembership {joined : Bool}
    (h : db.setMembership caller name joined = .ok db') (other : String) :
    db'.service? other = db.service? other := by
  obtain ⟨-, rfl⟩ := setMembership_eq_ok_iff.1 h
  rfl

theorem hasService_iff : db.hasService name = true ↔ ∃ s, db.service? name = some s :=
  Option.isSome_iff_exists

theorem service?_eq_none_iff : db.service? name = none ↔ db.hasService name = false := by
  simp [hasService, Table.contains, service?]

/-- Who switches a service owns it and knows its password. -/
theorem owned_of_setEnabled {pwd : String} {enabled : Bool}
    (h : db.setEnabled caller name pwd enabled = .ok db') :
    ∃ s, db.service? name = some s ∧ s.owner = caller ∧
      verifies pwd s.salt s.passwordDigest = true := by
  obtain ⟨⟨s, hs⟩, -⟩ := setEnabled_eq_ok_iff.1 h
  obtain ⟨found, verified, owner⟩ := unlockOwned_eq_ok_iff.1 hs
  exact ⟨s, found, owner, verified⟩

/-- A request that changes the records makes the one change that its peer is entitled to. -/
theorem Edit.turns (e : db.Edit caller time q a db') :
    ∃ ch, db.Entitles caller q a ch ∧ ch.Turns db db' := by
  have names : ∀ {name}, q.requireServiceName = .ok name → q.serviceName = some name :=
    fun h => (Request.requireServiceName_eq_ok_iff.1 h).1
  cases e with
  | create h =>
    obtain ⟨hne, acceptable, free, rfl⟩ := create_eq_ok_iff.1 h
    have named : q.serviceName = some (q.serviceName.getD "") := by
      cases hn : q.serviceName with
      | none => exact absurd (by rw [hn]; rfl) hne
      | some name => rfl
    refine ⟨_, .create rfl named hne (service?_eq_none_iff.2 free) ?_ acceptable ?_,
      turns_insertService db _⟩
    · rfl
    · rfl
  | remove named h =>
    obtain ⟨hs, rfl⟩ := remove_eq_ok_iff.1 h
    obtain ⟨found, verified, owner⟩ := unlockOwned_eq_ok_iff.1 hs
    exact ⟨_, .remove (names named) found owner verified,
      turns_eraseService (hasService_iff.2 ⟨_, found⟩)⟩
  | enable named h =>
    obtain ⟨s, found, owner, verified⟩ := owned_of_setEnabled h
    exact ⟨_, .enable (names named) found owner verified, turns_setEnabled h⟩
  | disable named h =>
    obtain ⟨s, found, owner, verified⟩ := owned_of_setEnabled h
    exact ⟨_, .disable (names named) found owner verified, turns_setEnabled h⟩
  | join named h =>
    obtain ⟨s, found, foreign, verified, hm⟩ := join_eq_ok_iff.1 h
    exact ⟨_, .join (names named) found foreign verified, services_setMembership hm,
      membership?_setMembership hm⟩
  | leave named h =>
    obtain ⟨s, found, foreign, -, entry, hm⟩ := leave_eq_ok_iff.1 h
    obtain ⟨joined, entry⟩ := any_memberships_iff.1 entry
    exact ⟨_, .leave (names named) found foreign entry, services_setMembership hm,
      membership?_setMembership hm⟩

theorem turns_register {id pwd salt : String} (h : db.register id pwd salt = .ok db') :
    Change.nothing.Turns db db' := by
  obtain ⟨-, -, new, rfl⟩ := register_eq_ok_iff.1 h
  constructor
  · intro n
    rfl
  · intro p n
    exact membership?_insertPeer new rfl p n

end Database

namespace Relay

/-! ## What an event does to the records -/

/-- The records and the mark of unwritten changes after an event. -/
inductive Records (r : Relay) : Event → Database → Bool → Prop
  | kept (e : Event) : Records r e r.db r.dirty
  | registered {c : ConnectionId} {time : UInt64} {q : Request} {db : Database}
      (asked : q.action? = .ok .register)
      (h : r.db.register q.fromId (q.pwdDigest.getD "") (q.salt.getD "") = .ok db) :
      Records r (.request c time q) db true
  | edited {c : ConnectionId} {time : UInt64} {q : Request} {caller : String} {a : Action}
      {db : Database} (who : r.identities.get? c = some caller) (asked : q.action? = .ok a)
      (h : r.db.Edit caller time q a db) : Records r (.request c time q) db true

theorem dirty_demote (r : Relay) (c : ConnectionId) : (r.demote c).dirty = r.dirty := by
  unfold demote
  split <;> rfl

theorem records_takeOver (r : Relay) (c : ConnectionId) (peer : String) :
    (r.takeOver c peer).relay.db = r.db ∧ (r.takeOver c peer).relay.dirty = r.dirty := by
  have h : (r.vacated c peer).db = r.db ∧ (r.vacated c peer).dirty = r.dirty := by
    refine ⟨db_vacated r c peer, ?_⟩
    unfold vacated
    cases r.online.get? peer with
    | none => exact dirty_demote r c
    | some link =>
      show ((r.demote c).demote link.connection).dirty = r.dirty
      rw [dirty_demote, dirty_demote]
  unfold vacated at h
  unfold takeOver
  dsimp only
  split
  · exact h
  · exact h

theorem records_closed (r : Relay) (c : ConnectionId) :
    (r.closed c).db = r.db ∧ (r.closed c).dirty = r.dirty := by
  unfold closed
  split
  · exact ⟨rfl, rfl⟩
  · split
    · exact ⟨rfl, rfl⟩
    · exact ⟨rfl, rfl⟩

/-- Only two outcomes touch the records, and both mark them as changed. -/
theorem Leads.records {r : Relay} {c : ConnectionId} {time : UInt64} {q : Request} {o : Outcome}
    (l : r.Leads c time q o) : r.Records (.request c time q) o.relay.db o.relay.dirty := by
  cases l with
  | registered asked h => exact .registered asked h
  | edited who asked h => exact .edited who asked h
  | tookOver =>
    obtain ⟨hdb, hdirty⟩ := records_takeOver r c q.fromId
    rw [hdb, hdirty]
    exact .kept _
  | loggedOut =>
    show r.Records _ (r.demote c).db (r.demote c).dirty
    rw [db_demote, dirty_demote]
    exact .kept _
  | refused => exact .kept _
  | stayed => exact .kept _
  | answered => exact .kept _
  | relayed => exact .kept _

theorem records_handle (r : Relay) (e : Event) :
    r.Records e (r.handle e).1.db (r.handle e).1.dirty := by
  cases e with
  | request c time q => exact (leads_dispatch r c time q).records
  | closed c =>
    obtain ⟨hdb, hdirty⟩ := records_closed r c
    show r.Records _ (r.closed c).db (r.closed c).dirty
    rw [hdb, hdirty]
    exact .kept _
  | opened => exact .kept _
  | shutdown => exact .kept _

/-- The changes that an event may make: none, or one that the peer its connection is logged in as
is entitled to. Who the request says it comes from plays no part. -/
inductive Permits (r : Relay) : Event → Change → Prop
  | nothing (e : Event) : Permits r e .nothing
  | asked {c : ConnectionId} {time : UInt64} {q : Request} {caller : String} {a : Action}
      {ch : Change} (who : r.identities.get? c = some caller) (asked : q.action? = .ok a)
      (entitled : r.db.Entitles caller q a ch) : Permits r (.request c time q) ch

end Relay

/-- Every event makes one change that it may make, if any. In every state, and so in every state
that a run reaches, a service appears, is switched or goes, and a membership begins, ends or goes,
only at the request of the peer entitled to it; no other record and no other entry moves. -/
theorem handle_makes_permitted_change (r : Relay) (e : Event) :
    ∃ ch, r.Permits e ch ∧ ch.Turns r.db (r.handle e).1.db := by
  have h := r.records_handle e
  generalize (r.handle e).1.db = db, (r.handle e).1.dirty = dirty at h ⊢
  cases h with
  | kept => exact ⟨.nothing, .nothing e, Change.turns_refl r.db⟩
  | registered _ h => exact ⟨.nothing, .nothing _, Database.turns_register h⟩
  | edited who asked h =>
    obtain ⟨ch, entitled, turns⟩ := h.turns
    exact ⟨ch, .asked who asked entitled, turns⟩

end Rendezvous
