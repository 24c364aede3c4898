import Rendezvous.Proofs.Changes

/-!
# Records that fit together

Peers and services stand under their own names, owners are registered, and a membership is one in
an existing service of somebody else (`Database.WellFormed`). Empty records fit together, and every
event keeps them so:

    db.WellFormed → Fresh es → ((idle db).after es).db.WellFormed      (Fresh.wellFormed)

What peers registered with stays as it is, whatever they ask for after that.
-/

namespace Rendezvous

/-! ## Accounts -/

/-- What a peer registered with: its record without what it joined. -/
def Peer.account (p : Peer) : Peer := { p with memberships := .empty }

namespace Database

variable {db db' : Database} {caller id name : String} {time : UInt64} {q : Request} {a : Action}

def account? (db : Database) (id : String) : Option Peer := (db.peer? id).map Peer.account

theorem account?_eq_some_iff {p : Peer} :
    db.account? id = some p ↔ ∃ peer, db.peer? id = some peer ∧ peer.account = p :=
  Option.map_eq_some_iff

theorem account?_eraseService (db : Database) (name id : String) :
    (db.eraseService name).account? id = db.account? id := by
  unfold eraseService account? peer?
  split
  · rw [Table.get?_map, Option.map_map]
    rfl
  · rfl

theorem account?_setMembership {joined : Bool}
    (h : db.setMembership caller name joined = .ok db') (id : String) :
    db'.account? id = db.account? id := by
  obtain ⟨-, rfl⟩ := setMembership_eq_ok_iff.1 h
  unfold account? peer?
  rw [Table.get?_modify]
  split
  · rw [Option.map_map]
    rfl
  · rfl

/-- Whatever logged-in peers ask for, accounts stay as they are. -/
theorem Edit.account? (e : db.Edit caller time q a db') (id : String) :
    db'.account? id = db.account? id := by
  cases e with
  | create h =>
    obtain ⟨-, -, -, rfl⟩ := create_eq_ok_iff.1 h
    rfl
  | remove _ h =>
    obtain ⟨-, rfl⟩ := remove_eq_ok_iff.1 h
    exact account?_eraseService ..
  | enable _ h | disable _ h =>
    obtain ⟨-, rfl⟩ := setEnabled_eq_ok_iff.1 h
    rfl
  | join _ h =>
    obtain ⟨-, -, -, -, hm⟩ := join_eq_ok_iff.1 h
    exact account?_setMembership hm id
  | leave _ h =>
    obtain ⟨-, -, -, -, -, hm⟩ := leave_eq_ok_iff.1 h
    exact account?_setMembership hm id

/-! ## Well-formedness -/

/-- Records that fit together. -/
structure WellFormed (db : Database) : Prop where
  /-- A peer stands under its own id, which is long enough, as is its salt. -/
  peer : ∀ {id p}, db.peer? id = some p →
    p.id = id ∧ Credential.minIdLength ≤ id.utf8ByteSize ∧
      Credential.minSaltLength ≤ p.salt.utf8ByteSize
  /-- A service stands under its own name, and its owner is registered. -/
  service : ∀ {name s}, db.service? name = some s →
    s.name = name ∧ name ≠ "" ∧ Credential.minSaltLength ≤ s.salt.utf8ByteSize ∧
      db.hasPeer s.owner = true
  /-- An entry of a peer is about an existing service that it does not own. -/
  member : ∀ {peer name joined}, db.membership? peer name = some joined →
    ∃ s, db.service? name = some s ∧ s.owner ≠ peer

theorem minSaltLength_le {pwd salt : String} (h : Credential.isAcceptable pwd salt = true) :
    Credential.minSaltLength ≤ salt.utf8ByteSize := by
  simp only [Credential.isAcceptable, Bool.and_eq_true, decide_eq_true_eq] at h
  exact h.2

namespace WellFormed

theorem empty : ({} : Database).WellFormed where
  peer h := by cases h
  service h := by cases h
  member h := by cases h

/-- What is asked of peers is asked of their accounts. -/
theorem peer_of_account (h : db.WellFormed) (same : ∀ id, db'.account? id = db.account? id)
    {p : Peer} (hp : db'.peer? id = some p) :
    p.id = id ∧ Credential.minIdLength ≤ id.utf8ByteSize ∧
      Credential.minSaltLength ≤ p.salt.utf8ByteSize := by
  have account : db.account? id = some p.account := by
    rw [← same id]
    exact account?_eq_some_iff.2 ⟨p, hp, rfl⟩
  obtain ⟨old, hold, e⟩ := account?_eq_some_iff.1 account
  have hid : old.id = p.id := show old.account.id = p.account.id by rw [e]
  have hsalt : old.salt = p.salt := show old.account.salt = p.account.salt by rw [e]
  rw [← hid, ← hsalt]
  exact h.peer hold

theorem register {pwd salt : String} (h : db.WellFormed)
    (hr : db.register id pwd salt = .ok db') : db'.WellFormed := by
  have turns := turns_register hr
  obtain ⟨long, acceptable, -, rfl⟩ := register_eq_ok_iff.1 hr
  constructor
  · intro id' p hp
    rw [peer?_insertPeer] at hp
    split at hp
    · next e =>
      cases hp
      exact ⟨e.symm, e ▸ long, minSaltLength_le acceptable⟩
    · exact h.peer hp
  · intro name s hs
    rw [turns.service] at hs
    obtain ⟨named, nonempty, salt, known⟩ := h.service hs
    exact ⟨named, nonempty, salt, hasPeer_insertPeer known⟩
  · intro peer name joined hm
    rw [turns.membership] at hm
    rw [turns.service]
    exact h.member hm

/-- A request of a registered peer keeps the records well formed. That the owner of a service has
no entry for it needs both halves of a removal: a new service under an old name finds no entry. -/
theorem edit (h : db.WellFormed) (known : db.hasPeer caller = true)
    (e : db.Edit caller time q a db') : db'.WellFormed := by
  obtain ⟨ch, entitled, turns⟩ := e.turns
  constructor
  · intro id p hp
    exact h.peer_of_account e.account? hp
  · intro name s hs
    rw [turns.service] at hs
    rw [e.hasPeer]
    cases entitled with
    | create owner _ nonempty _ _ acceptable _ =>
      simp only [Change.service?] at hs
      split at hs
      · next e =>
        cases hs
        exact ⟨e.symm, e ▸ nonempty, minSaltLength_le acceptable, owner ▸ known⟩
      · exact h.service hs
    | enable | disable =>
      simp only [Change.service?] at hs
      split at hs
      · obtain ⟨old, hold, rfl⟩ := Option.map_eq_some_iff.1 hs
        have := h.service hold
        exact this
      · exact h.service hs
    | remove =>
      simp only [Change.service?] at hs
      split at hs
      · cases hs
      · exact h.service hs
    | join | leave => exact h.service hs
  · intro peer name joined hm
    rw [turns.membership] at hm
    rw [turns.service]
    cases entitled with
    | @create s _ _ _ free _ _ _ =>
      obtain ⟨old, hold, foreign⟩ := h.member hm
      have other : name ≠ s.name := by
        rintro rfl
        rw [free] at hold
        cases hold
      simp only [Change.service?, if_neg other]
      exact ⟨old, hold, foreign⟩
    | enable | disable =>
      obtain ⟨old, hold, foreign⟩ := h.member hm
      simp only [Change.service?]
      split
      · exact ⟨_, congrArg (Option.map _) hold, foreign⟩
      · exact ⟨old, hold, foreign⟩
    | remove =>
      simp only [Change.membership?] at hm
      simp only [Change.service?]
      split at hm
      · cases hm
      · next other =>
        rw [if_neg other]
        exact h.member hm
    | join _ found foreign _ | leave _ found foreign _ =>
      simp only [Change.membership?] at hm
      split at hm
      · next e =>
        obtain ⟨rfl, rfl⟩ := e
        exact ⟨_, found, foreign⟩
      · exact h.member hm

end WellFormed

end Database

/-! ## Runs -/

theorem Relay.Coherent.hasPeer_of_identity {r : Relay} {isOpen : ConnectionId → QueueId → Prop}
    {c : ConnectionId} {p : String} (h : r.Coherent isOpen)
    (who : r.identities.get? c = some p) : r.db.hasPeer p = true := by
  obtain ⟨-, k, ho, -⟩ := h.identity who
  exact h.registered (Relay.isOnline_iff.2 ⟨_, ho⟩)

theorem Database.WellFormed.handle {r : Relay} {isOpen : ConnectionId → QueueId → Prop}
    (h : r.db.WellFormed) (coherent : r.Coherent isOpen) (e : Event) :
    (r.handle e).1.db.WellFormed := by
  have hr := r.records_handle e
  generalize (r.handle e).1.db = db, (r.handle e).1.dirty = dirty at hr ⊢
  cases hr with
  | kept => exact h
  | registered _ hr => exact h.register hr
  | edited who _ edit => exact h.edit (coherent.hasPeer_of_identity who) edit

theorem Fresh.wellFormed {es : List Event} (fresh : Fresh es) {db : Database}
    (start : db.WellFormed) : ((Relay.idle db).after es).db.WellFormed := by
  have both : ((Relay.idle db).after es).Coherent (StillOpen es) ∧
      ((Relay.idle db).after es).db.WellFormed := by
    refine Fresh.induction (P := fun es r => r.Coherent (StillOpen es) ∧ r.db.WellFormed)
      ⟨fresh_nil.coherent db, start⟩ ?_ fresh
    rintro es e r fresh ⟨coherent, wellFormed⟩
    exact ⟨coherent.handle fresh, wellFormed.handle coherent e⟩
  exact both.2

/-! ## A run from empty records -/

/-- A peer registers. -/
def sampleRegistration (id : String) : Request :=
  { sequence := "s0", action := "register", fromId := id, pwdDigest := some sampleDigest,
    salt := some "salt" }

/-- A request about the one service that there is. -/
def sampleServiceRequest (a : Action) (salt : Option String) : Request :=
  { sequence := "s2", action := a.name, serviceName := some "ssh-box",
    servicePwdDigest := some sampleDigest, serviceSalt := salt }

/-- Carol joins Bob's service, Bob removes it, and Carol creates another one under its name, which
Bob joins. -/
def foundingRun : List Event :=
  [.opened 1 0, .opened 2 1, .request 1 0 (sampleRegistration "bob1234567"),
   .request 2 0 (sampleRegistration "carol12345"), .request 1 0 (sampleLogin "bob1234567" false),
   .request 2 0 (sampleLogin "carol12345" false),
   .request 1 0 (sampleServiceRequest .createService (some "salt")),
   .request 2 0 (sampleServiceRequest .joinService none),
   .request 1 0 (sampleServiceRequest .removeService none),
   .request 2 0 (sampleServiceRequest .createService (some "pepper")),
   .request 1 0 (sampleServiceRequest .joinService none)]

theorem fresh_foundingRun : Fresh foundingRun := by
  unfold Fresh
  decide

/-- The sample digest as it is kept under the other salt. -/
def samplePeppered : String := "ed03dfcbc1c10983a26657280c11f51c68e6f805d61b924bc7de69681520d3fb"

/-- The relay after it: both are online, and of Carol nothing is left in the memberships. -/
def foundedRelay : Relay where
  db := {
    peers := .ofList
      [("bob1234567", { id := "bob1234567", passwordDigest := sampleSalted, salt := "salt",
                        memberships := .ofList [("ssh-box", true)] }),
       ("carol12345", { id := "carol12345", passwordDigest := sampleSalted, salt := "salt" })]
    services := .ofList
      [("ssh-box", { name := "ssh-box", owner := "carol12345", passwordDigest := samplePeppered,
                     salt := "pepper", createdAt := 0 })] }
  dirty := true
  online := .ofList [("bob1234567", ⟨1, 0⟩), ("carol12345", ⟨2, 1⟩)]
  identities := .ofList [(1, "bob1234567"), (2, "carol12345")]

theorem after_foundingRun : (Relay.idle {}).after foundingRun = foundedRelay := by
  decide +kernel

end Rendezvous
