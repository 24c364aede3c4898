import Rendezvous.Database.Rules
import Rendezvous.Message.Request

/-!
# When the rules let a caller pass

Each operation on the records succeeds exactly under the conditions that its lemma lists, and its
result is the one named there; later statements use these lemmas in place of the definitions.

    db.join caller name pwd = .ok db' ↔
      ∃ s, db.service? name = some s ∧ s.owner ≠ caller ∧ verifies pwd s.salt s.passwordDigest ∧
        db.setMembership caller name true = .ok db'                    (join_eq_ok_iff)

No operation loses a peer.
-/

namespace Rendezvous

theorem bind_eq_ok_iff {ε α β : Type} {x : Except ε α} {f : α → Except ε β} {b : β} :
    (x >>= f) = .ok b ↔ ∃ a, x = .ok a ∧ f a = .ok b := by
  cases x with
  | ok a => simp [bind, Except.bind]
  | error e => simp [bind, Except.bind]

theorem bind_eq_error_iff {ε α β : Type} {x : Except ε α} {f : α → Except ε β} {e : ε} :
    (x >>= f) = .error e ↔ x = .error e ∨ ∃ a, x = .ok a ∧ f a = .error e := by
  cases x with
  | ok a => simp [bind, Except.bind]
  | error e' => simp [bind, Except.bind]

theorem map_bind {ε α β γ : Type} (x : Except ε α) (k : α → Except ε β) (f : β → γ) :
    (x >>= k).map f = x >>= fun a => (k a).map f := by
  cases x <;> rfl

theorem isOk_iff {ε α : Type} {x : Except ε α} : x.isOk = true ↔ ∃ a, x = .ok a := by
  cases x <;> simp [Except.isOk, Except.toBool]

/-- A request is about the service that it names. -/
theorem Request.requireServiceName_eq_ok_iff {q : Request} {name : String} :
    q.requireServiceName = .ok name ↔ q.serviceName = some name ∧ name ≠ "" := by
  unfold requireServiceName
  cases h : q.serviceName with
  | none => simp
  | some n =>
    by_cases hn : n = ""
    · simp only [hn, Option.some.injEq]
      constructor
      · intro h
        cases h
      · rintro ⟨rfl, hne⟩
        exact absurd rfl hne
    · have hn' : ¬ n.isEmpty = true := fun e => hn (String.isEmpty_iff.1 e)
      simp only [if_neg hn', Except.ok.injEq, Option.some.injEq]
      constructor
      · rintro rfl
        exact ⟨rfl, hn⟩
      · exact And.left

namespace Database

open Credential (verifies saltedDigest isAcceptable)

variable {db db' : Database} {caller id name pwd : String} {s : Service}

/-! ## Look-ups -/

theorem findService_eq_ok_iff : db.findService name = .ok s ↔ db.service? name = some s := by
  unfold findService
  cases h : db.service? name with
  | none => simp
  | some s' => simp

theorem unlockService_eq_ok_iff :
    db.unlockService name pwd = .ok s ↔
      db.service? name = some s ∧ verifies pwd s.salt s.passwordDigest = true := by
  unfold unlockService
  rw [bind_eq_ok_iff]
  constructor
  · rintro ⟨s', hs, h⟩
    split at h
    · next hv =>
      cases h
      exact ⟨findService_eq_ok_iff.1 hs, hv⟩
    · cases h
  · rintro ⟨hs, hv⟩
    refine ⟨s, findService_eq_ok_iff.2 hs, ?_⟩
    rw [if_pos hv]
    rfl

theorem unlockOwned_eq_ok_iff :
    db.unlockOwned caller name pwd = .ok s ↔
      db.service? name = some s ∧ verifies pwd s.salt s.passwordDigest = true ∧
        s.owner = caller := by
  unfold unlockOwned
  rw [bind_eq_ok_iff]
  constructor
  · rintro ⟨s', hs, h⟩
    split at h
    · next ho =>
      cases h
      obtain ⟨hs, hv⟩ := unlockService_eq_ok_iff.1 hs
      exact ⟨hs, hv, by simpa [Service.isOwner] using ho⟩
    · cases h
  · rintro ⟨hs, hv, ho⟩
    refine ⟨s, unlockService_eq_ok_iff.2 ⟨hs, hv⟩, ?_⟩
    rw [if_pos (by simpa [Service.isOwner] using ho)]
    rfl

theorem findForeign_eq_ok_iff :
    db.findForeign caller name = .ok s ↔ db.service? name = some s ∧ s.owner ≠ caller := by
  unfold findForeign
  rw [bind_eq_ok_iff]
  constructor
  · rintro ⟨s', hs, h⟩
    split at h
    · cases h
    · next ho =>
      cases h
      exact ⟨findService_eq_ok_iff.1 hs, by simpa [Service.isOwner] using ho⟩
  · rintro ⟨hs, ho⟩
    refine ⟨s, findService_eq_ok_iff.2 hs, ?_⟩
    rw [if_neg (by simpa [Service.isOwner] using ho)]
    rfl

/-! ## Peers -/

theorem register_eq_ok_iff {salt : String} :
    db.register id pwd salt = .ok db' ↔
      Credential.minIdLength ≤ id.utf8ByteSize ∧ isAcceptable pwd salt = true ∧
        db.hasPeer id = false ∧
        db' = db.insertPeer { id := id, passwordDigest := saltedDigest pwd salt, salt := salt } := by
  unfold register
  split
  · next h => simp [Nat.not_le.2 h]
  · next hi =>
    split
    · next h =>
      have : isAcceptable pwd salt = false := by simpa using h
      simp [this]
    · next ha =>
      have ha' : isAcceptable pwd salt = true := by simpa using ha
      split
      · next h => simp [h]
      · next hp =>
        have hp' : db.hasPeer id = false := by simpa using hp
        simp [Nat.not_lt.1 hi, ha', hp', eq_comm]

theorem authenticate_eq_ok_iff :
    db.authenticate id pwd = .ok () ↔
      ∃ p, db.peer? id = some p ∧ verifies pwd p.salt p.passwordDigest = true := by
  unfold authenticate
  cases h : db.peer? id with
  | none => simp
  | some p => by_cases hv : verifies pwd p.salt p.passwordDigest = true <;> simp [hv]

theorem hasPeer_iff : db.hasPeer id = true ↔ ∃ p, db.peer? id = some p :=
  Option.isSome_iff_exists

/-! ## Owners -/

theorem create_eq_ok_iff {now : UInt64} {salt description : String} :
    db.create now caller name pwd salt description = .ok db' ↔
      name ≠ "" ∧ isAcceptable pwd salt = true ∧ db.hasService name = false ∧
        db' = db.insertService
          { name := name, owner := caller, passwordDigest := saltedDigest pwd salt, salt := salt,
            description := description, createdAt := now } := by
  unfold create
  split
  · next h => simp [String.isEmpty_iff.1 h]
  · next hn =>
    have hn' : name ≠ "" := fun e => hn (String.isEmpty_iff.2 e)
    split
    · next h =>
      have : isAcceptable pwd salt = false := by simpa using h
      simp [this]
    · next ha =>
      have ha' : isAcceptable pwd salt = true := by simpa using ha
      split
      · next h => simp [h]
      · next hs =>
        have hs' : db.hasService name = false := by simpa using hs
        simp [hn', ha', hs', eq_comm]

theorem remove_eq_ok_iff :
    db.remove caller name pwd = .ok (s, db') ↔
      db.unlockOwned caller name pwd = .ok s ∧ db' = db.eraseService name := by
  unfold remove
  rw [bind_eq_ok_iff]
  constructor
  · rintro ⟨s', hs, h⟩
    cases h
    exact ⟨hs, rfl⟩
  · rintro ⟨hs, rfl⟩
    exact ⟨s, hs, rfl⟩

theorem setEnabled_eq_ok_iff {enabled : Bool} :
    db.setEnabled caller name pwd enabled = .ok db' ↔
      (∃ s, db.unlockOwned caller name pwd = .ok s) ∧
        db' = { db with
          services := db.services.modify name fun s => { s with enabled := enabled } } := by
  unfold setEnabled
  rw [bind_eq_ok_iff]
  constructor
  · rintro ⟨s, hs, h⟩
    cases h
    exact ⟨⟨s, hs⟩, rfl⟩
  · rintro ⟨⟨s, hs⟩, rfl⟩
    exact ⟨s, hs, rfl⟩

/-! ## Members -/

theorem setMembership_eq_ok_iff {joined : Bool} :
    db.setMembership caller name joined = .ok db' ↔
      db.hasPeer caller = true ∧ db' = { db with
        peers := db.peers.modify caller fun p =>
          { p with memberships := p.memberships.insert name joined } } := by
  unfold setMembership
  split
  · next h => simp [h, eq_comm]
  · next h => simp [h]

theorem join_eq_ok_iff :
    db.join caller name pwd = .ok db' ↔
      ∃ s, db.service? name = some s ∧ s.owner ≠ caller ∧
        verifies pwd s.salt s.passwordDigest = true ∧
        db.setMembership caller name true = .ok db' := by
  unfold join
  simp only [bind_eq_ok_iff, findForeign_eq_ok_iff, unlockService_eq_ok_iff]
  constructor
  · rintro ⟨s, ⟨hs, ho⟩, s', ⟨hs', hv⟩, h⟩
    rw [hs] at hs'
    cases hs'
    exact ⟨s, hs, ho, hv, h⟩
  · rintro ⟨s, hs, ho, hv, h⟩
    exact ⟨s, ⟨hs, ho⟩, s, ⟨hs, hv⟩, h⟩

/-- A digest is only checked on leaving if there is one. -/
theorem leave_eq_ok_iff {digest : Option String} :
    db.leave caller name digest = .ok db' ↔
      ∃ s, db.service? name = some s ∧ s.owner ≠ caller ∧
        (∀ pwd, digest = some pwd → pwd ≠ "" → verifies pwd s.salt s.passwordDigest = true) ∧
        (db.peer? caller).any (·.memberships.contains name) = true ∧
        db.setMembership caller name false = .ok db' := by
  unfold leave
  simp only [bind_eq_ok_iff, findForeign_eq_ok_iff]
  constructor
  · rintro ⟨s, ⟨hs, ho⟩, h⟩
    refine ⟨s, hs, ho, ?_⟩
    split at h
    · next pwd hd =>
      obtain ⟨s', hu, hm⟩ := bind_eq_ok_iff.1 h
      obtain ⟨hs', hv⟩ := unlockService_eq_ok_iff.1 hu
      rw [hs] at hs'
      cases hs'
      split at hm
      · next hj =>
        refine ⟨fun pwd' hp _ => ?_, hj, hm⟩
        obtain ⟨hd, -⟩ := Option.filter_eq_some_iff.1 hd
        rw [hp] at hd
        cases hd
        exact hv
      · cases hm
    · next hd =>
      split at h
      · next hj =>
        refine ⟨fun pwd hp hne => ?_, hj, h⟩
        rw [hp] at hd
        simp [Option.filter, hne] at hd
      · cases h
  · rintro ⟨s, hs, ho, hv, hj, hm⟩
    refine ⟨s, ⟨hs, ho⟩, ?_⟩
    split
    · next pwd hd =>
      obtain ⟨hd, hne⟩ := Option.filter_eq_some_iff.1 hd
      have hu := unlockService_eq_ok_iff.2 ⟨hs, hv pwd hd (by simpa using hne)⟩
      rw [hu]
      rw [if_pos hj]
      exact hm
    · rw [if_pos hj]
      exact hm

/-! ## Sessions -/

theorem checkAccess_eq_ok_iff :
    db.checkAccess caller name pwd = .ok () ↔
      ∃ s, db.service? name = some s ∧ s.owner ≠ caller ∧ db.isMember caller name = true ∧
        verifies pwd s.salt s.passwordDigest = true := by
  unfold checkAccess
  rw [bind_eq_ok_iff]
  constructor
  · rintro ⟨s, hs, h⟩
    obtain ⟨hs, ho⟩ := findForeign_eq_ok_iff.1 hs
    split at h
    · cases h
    · next hm =>
      obtain ⟨s', hu, -⟩ := bind_eq_ok_iff.1 h
      obtain ⟨hs', hv⟩ := unlockService_eq_ok_iff.1 hu
      rw [hs] at hs'
      cases hs'
      exact ⟨s, hs, ho, by simpa using hm, hv⟩
  · rintro ⟨s, hs, ho, hm, hv⟩
    refine ⟨s, findForeign_eq_ok_iff.2 ⟨hs, ho⟩, ?_⟩
    rw [if_neg (by simp [hm])]
    exact bind_eq_ok_iff.2 ⟨s, unlockService_eq_ok_iff.2 ⟨hs, hv⟩, rfl⟩

/-- A message goes to the owner, or from the owner to the registered peer that it names. -/
theorem forwardTarget_eq_ok_iff {toId : Option String} {target : String} :
    db.forwardTarget caller name toId = .ok target ↔
      ∃ s, db.service? name = some s ∧
        ((s.owner = caller ∧ toId = some target ∧ target ≠ "" ∧ db.hasPeer target = true) ∨
          (s.owner ≠ caller ∧ db.isMember caller name = true ∧ target = s.owner)) := by
  unfold forwardTarget
  simp only [bind_eq_ok_iff, findService_eq_ok_iff]
  refine exists_congr fun s => and_congr_right fun _ => ?_
  by_cases ho : s.owner = caller
  · rw [if_pos (by simpa [Service.isOwner] using ho)]
    simp only [ho, true_and, ne_eq, not_true_eq_false, false_and, or_false]
    constructor
    · intro h
      split at h
      · cases h
      · next t ht =>
        obtain ⟨ht, hne⟩ := Option.filter_eq_some_iff.1 ht
        split at h
        · next hp =>
          cases h
          exact ⟨ht, by simpa using hne, hp⟩
        · cases h
    · rintro ⟨rfl, hne, hp⟩
      simp [Option.filter, hne, hp, pure, Except.pure]
  · rw [if_neg (by simpa [Service.isOwner] using ho)]
    simp only [ho, false_and, ne_eq, not_false_eq_true, true_and, false_or]
    by_cases hm : db.isMember caller name = true
    · simp [hm, pure, Except.pure, eq_comm]
    · simp [hm, throw, throwThe, MonadExceptOf.throw]

/-! ## No peer is lost -/

theorem hasPeer_insertPeer {p : Peer} (h : db.hasPeer id = true) :
    (db.insertPeer p).hasPeer id = true := by
  obtain ⟨q, hq⟩ := hasPeer_iff.1 h
  rw [hasPeer_iff, peer?_insertPeer]
  split
  · exact ⟨p, rfl⟩
  · exact ⟨q, hq⟩

theorem hasPeer_eraseService : (db.eraseService name).hasPeer id = db.hasPeer id := by
  unfold eraseService
  split
  · simp [hasPeer, Table.contains, Table.get?_map]
  · rfl

theorem hasPeer_setMembership {joined : Bool} (h : db.setMembership caller name joined = .ok db') :
    db'.hasPeer id = db.hasPeer id := by
  obtain ⟨-, rfl⟩ := setMembership_eq_ok_iff.1 h
  simp only [hasPeer, Table.contains, Table.get?_modify]
  split <;> simp

end Database

end Rendezvous
