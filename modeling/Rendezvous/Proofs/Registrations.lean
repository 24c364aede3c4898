import Rendezvous.Proofs.History

/-!
# What a registration decides

The first registration of an id that succeeds decides for good who may log in under it. Nothing
that happens later touches the credentials, be it a restart, and nobody registers the id again; a
login is accepted exactly if its digest, salted, is the one that was kept then
(`registration_decides_logins`).

With one salt, that is the digest of the registration or one whose message collides with its:

    saltedDigest d t = saltedDigest d' t ↔ d = d' ∨ Sha256.Collide (message d t) (message d' t)
                                                                       (saltedDigest_eq_iff)
-/

namespace Rendezvous

/-! ## Salted digests -/

/-- Two messages with one digest. -/
def Sha256.Collide (x y : Bytes) : Prop := x ≠ y ∧ digest x = digest y

theorem Hex.encode_injective {x y : Bytes} (h : encode x = encode y) : x = y := by
  have hx := decode?_encode x
  rw [h, decode?_encode] at hx
  exact (Option.some.inj hx).symm

namespace Credential

/-- What is digested to be kept. -/
def message (pwdDigest salt : String) : Bytes :=
  Utf8.encode pwdDigest ++ Utf8.encode ":" ++ Utf8.encode salt

/-- Wherever colons stand in them, two digests make different messages with one salt. -/
theorem eq_of_message_eq {d d' salt : String} (h : message d salt = message d' salt) : d = d' :=
  Utf8.encode_injective (List.append_cancel_right (List.append_cancel_right h))

theorem saltedDigest_eq_iff {d d' salt : String} :
    saltedDigest d salt = saltedDigest d' salt ↔
      d = d' ∨ Sha256.Collide (message d salt) (message d' salt) := by
  constructor
  · intro h
    have digests : Sha256.digest (message d salt) = Sha256.digest (message d' salt) :=
      Hex.encode_injective h
    by_cases same : d = d'
    · exact .inl same
    · exact .inr ⟨fun h => same (eq_of_message_eq h), digests⟩
  · rintro (rfl | ⟨-, digests⟩)
    · rfl
    · exact congrArg Hex.encode digests

end Credential

open Credential (saltedDigest isAcceptable message)

/-! ## Registrations -/

/-- What is kept of a peer that registers. -/
def Peer.registered (id pwdDigest salt : String) : Peer :=
  { id := id, passwordDigest := saltedDigest pwdDigest salt, salt := salt }

/-- Somebody wants to register. -/
structure Request.Registers (q : Request) (id pwdDigest salt : String) : Prop where
  asked : q.action? = .ok .register
  id : q.fromId = id
  pwdDigest : q.pwdDigest.getD "" = pwdDigest
  salt : q.salt.getD "" = salt

namespace Database

variable {db db' : Database} {id pwdDigest salt : String}

theorem account?_eq_none_iff : db.account? id = none ↔ db.peer? id = none :=
  Option.map_eq_none_iff

theorem hasPeer_of_account {p : Peer} (h : db.account? id = some p) : db.hasPeer id = true := by
  obtain ⟨peer, found, -⟩ := account?_eq_some_iff.1 h
  exact hasPeer_iff.2 ⟨peer, found⟩

/-- A registration opens one account. -/
theorem account?_register (h : db.register id pwdDigest salt = .ok db') (id' : String) :
    db'.account? id' =
      if id' = id then some (.registered id pwdDigest salt) else db.account? id' := by
  obtain ⟨-, -, -, rfl⟩ := register_eq_ok_iff.1 h
  unfold account?
  rw [peer?_insertPeer, apply_ite (Option.map Peer.account)]
  rfl

/-- A registered id cannot be registered again. -/
theorem register_of_hasPeer (known : db.hasPeer id = true)
    (long : Credential.minIdLength ≤ id.utf8ByteSize) :
    db.register id pwdDigest salt =
      .error (if isAcceptable pwdDigest salt then .peerExists id else .invalidPassword) := by
  unfold register
  rw [if_neg (Nat.not_lt.2 long)]
  cases isAcceptable pwdDigest salt with
  | true => simp [known]
  | false => rfl

/-- What a login is told. -/
theorem authenticate_of_account (h : db.account? id = some (.registered id pwdDigest salt))
    (d : String) : db.authenticate id d =
      if saltedDigest d salt = saltedDigest pwdDigest salt then .ok ()
      else .error .wrongPassword := by
  obtain ⟨p, found, same⟩ := account?_eq_some_iff.1 h
  have digest : p.passwordDigest = saltedDigest pwdDigest salt :=
    congrArg Peer.passwordDigest same
  have salted : p.salt = salt := congrArg Peer.salt same
  unfold authenticate
  simp only [found, digest, salted, Credential.verifies_iff]

theorem authenticate_eq_peerNotFound_iff {d : String} :
    db.authenticate id d = .error (.peerNotFound id) ↔ db.account? id = none := by
  rw [account?_eq_none_iff]
  unfold authenticate
  cases db.peer? id with
  | none => simp
  | some p =>
    dsimp only
    split <;> simp

end Database

namespace Relay

variable {r : Relay} {c : ConnectionId} {time : UInt64} {q : Request}

theorem dispatch_register (asked : q.action? = .ok .register) :
    r.dispatch c time q =
      r.commit (r.db.register q.fromId (q.pwdDigest.getD "") (q.salt.getD "")) := by
  unfold dispatch
  simp only [asked]
  rfl

theorem result_commit_eq_ok_iff {db : Except RelayError Database} :
    (∃ reply, (r.commit db).result = .ok reply) ↔ ∃ db', db = .ok db' := by
  cases db with
  | ok db => exact ⟨fun _ => ⟨db, rfl⟩, fun _ => ⟨_, rfl⟩⟩
  | error e => exact ⟨nofun, nofun⟩

end Relay

namespace Moment

variable {m : Moment} {id pwdDigest salt : String}

/-- Somebody registers, and succeeds. -/
def Registers (m : Moment) (id pwdDigest salt : String) : Prop :=
  ∃ c time q, m.event = .request c time q ∧ q.Registers id pwdDigest salt ∧
    ∃ reply, (m.before.dispatch c time q).result = .ok reply

/-- The records accept a registration, and keep what it brings. -/
theorem Registers.register (h : m.Registers id pwdDigest salt) :
    m.before.db.register id pwdDigest salt = .ok m.after.db := by
  obtain ⟨c, time, q, event, ⟨asked, rfl, rfl, rfl⟩, ok⟩ := h
  rw [Relay.dispatch_register asked, Relay.result_commit_eq_ok_iff] at ok
  obtain ⟨db, ok⟩ := ok
  unfold after
  rw [event]
  show _ = Except.ok (m.before.dispatch c time q).relay.db
  rw [Relay.dispatch_register asked, ok]
  rfl

/-- One request registers one peer. -/
theorem Registers.unique {id' d t : String} (h : m.Registers id pwdDigest salt)
    (h' : m.Registers id' d t) : id' = id ∧ d = pwdDigest ∧ t = salt := by
  obtain ⟨_, _, q, event, ⟨-, rfl, rfl, rfl⟩, -⟩ := h
  obtain ⟨_, _, q', event', ⟨-, rfl, rfl, rfl⟩, -⟩ := h'
  rw [event] at event'
  cases event'
  exact ⟨rfl, rfl, rfl⟩

/-- Whatever else happens, accounts stay as they are. -/
theorem account?_after (none : ∀ {id d t}, ¬ m.Registers id d t) (id : String) :
    m.after.db.account? id = m.before.db.account? id := by
  obtain ⟨r, e⟩ := m
  show (r.handle e).1.db.account? id = r.db.account? id
  have records := r.records_handle e
  generalize (r.handle e).1.db = db, (r.handle e).1.dirty = dirty at records ⊢
  cases records with
  | kept => rfl
  | edited _ _ edit => exact edit.account? id
  | @registered c time q db asked ok =>
    refine absurd ?_ (@none q.fromId (q.pwdDigest.getD "") (q.salt.getD ""))
    refine ⟨c, time, q, rfl, ⟨asked, rfl, rfl, rfl⟩, ?_⟩
    rw [Relay.dispatch_register asked, Relay.result_commit_eq_ok_iff]
    exact ⟨db, ok⟩

end Moment

/-! ## What the records remember of registrations -/

/-- The accounts are the registrations that succeeded. -/
def Enrolled (ms : List Moment) (db : Database) : Prop :=
  ∀ id p, db.account? id = some p ↔
    ∃ m ∈ ms, ∃ d t, m.Registers id d t ∧ p = .registered id d t

theorem enrolled_nil : Enrolled [] {} := by
  intro id p
  constructor
  · nofun
  · rintro ⟨m, hm, -⟩
    cases hm

/-- A registration adds itself; the id was free, so that no other one was of the same id. -/
theorem Enrolled.step {ms : List Moment} {m : Moment} (h : Enrolled ms m.before.db) :
    Enrolled (ms ++ [m]) m.after.db := by
  intro id' p
  have mem : (∃ m' ∈ ms ++ [m], ∃ d t, m'.Registers id' d t ∧ p = .registered id' d t) ↔
      m.before.db.account? id' = some p ∨
        ∃ d t, m.Registers id' d t ∧ p = .registered id' d t := by
    rw [h id' p]
    simp only [List.mem_append, List.mem_singleton, or_and_right, exists_or, exists_eq_left]
  rw [mem]
  by_cases some : ∃ id d t, m.Registers id d t
  · obtain ⟨id, d, t, registers⟩ := some
    have ok := registers.register
    have free : m.before.db.account? id = none := by
      obtain ⟨-, -, new, -⟩ := Database.register_eq_ok_iff.1 ok
      rw [Database.account?_eq_none_iff]
      simpa [Database.hasPeer, Table.contains, Database.peer?] using new
    have self : (∃ d' t', m.Registers id' d' t' ∧ p = .registered id' d' t') ↔
        id' = id ∧ p = .registered id d t := by
      constructor
      · rintro ⟨d', t', registers', rfl⟩
        obtain ⟨rfl, rfl, rfl⟩ := registers.unique registers'
        exact ⟨rfl, rfl⟩
      · rintro ⟨rfl, rfl⟩
        exact ⟨d, t, registers, rfl⟩
    rw [self, Database.account?_register ok]
    by_cases same : id' = id
    · simp [same, free, eq_comm]
    · simp [same]
  · have none : ∀ {id d t}, ¬ m.Registers id d t := fun h => some ⟨_, _, _, h⟩
    rw [Moment.account?_after none]
    simp [none]

theorem History.enrolled {ms : List Moment} {es : List Event} {r : Relay}
    (h : History ms es r) : Enrolled ms r.db :=
  h.induction (P := Enrolled) enrolled_nil fun _ _ _ ih => ih.step

/-- Whatever has happened, restarts included. A login learns that the peer is unknown exactly if
nobody has registered it. Once it is registered, its digest and salt stay, it is not registered
again, and exactly the logins are accepted whose salted digest is the one kept. Those are the ones
with the digest of the registration, but for collisions of the hash function. -/
theorem registration_decides_logins {ms : List Moment} {es : List Event} {r : Relay}
    (h : History ms es r) (id : String) :
    (∀ d, r.db.authenticate id d = .error (.peerNotFound id) ↔
      ∀ m ∈ ms, ∀ d₀ t₀, ¬ m.Registers id d₀ t₀) ∧
    ∀ before m later d₀ t₀, ms = before ++ m :: later → m.Registers id d₀ t₀ →
      (r.db.account? id = some (.registered id d₀ t₀) ∧
        ∀ m' ∈ later, m'.before.db.account? id = some (.registered id d₀ t₀)) ∧
      (∀ m' ∈ later, ∀ c time q d t, m'.event = .request c time q → q.Registers id d t →
        (m'.before.dispatch c time q).result =
          .error (if isAcceptable d t then .peerExists id else .invalidPassword)) ∧
      ∀ d,
        (r.db.authenticate id d = .ok () ↔ saltedDigest d t₀ = saltedDigest d₀ t₀) ∧
        (r.db.authenticate id d = .error .wrongPassword ↔
          saltedDigest d t₀ ≠ saltedDigest d₀ t₀) ∧
        (saltedDigest d t₀ = saltedDigest d₀ t₀ ↔
          d = d₀ ∨ Sha256.Collide (message d t₀) (message d₀ t₀)) := by
  refine ⟨fun d => ?_, fun before m later d₀ t₀ split registers => ?_⟩
  · rw [Database.authenticate_eq_peerNotFound_iff]
    constructor
    · intro none m hm d₀ t₀ registers
      have account := (h.enrolled id _).2 ⟨m, hm, d₀, t₀, registers, rfl⟩
      rw [none] at account
      cases account
    · intro none
      refine Option.eq_none_iff_forall_ne_some.2 fun p account => ?_
      obtain ⟨m, hm, d₀, t₀, registers, -⟩ := (h.enrolled id p).1 account
      exact none m hm d₀ t₀ registers
  · -- what a registration opened is there in every later state
    have account : ∀ {ms' es' r'}, History ms' es' r' → m ∈ ms' →
        r'.db.account? id = some (.registered id d₀ t₀) :=
      fun h' hm => (h'.enrolled id _).2 ⟨m, hm, d₀, t₀, registers, rfl⟩
    have now := account h (by simp [split])
    have then' : ∀ m' ∈ later, ∃ ms' es', History ms' es' m'.before ∧ m ∈ ms' := by
      intro m' hm
      obtain ⟨between, rest, rfl⟩ := List.append_of_mem hm
      have split : ms = (before ++ m :: between) ++ m' :: rest := by simp [split]
      obtain ⟨es', h'⟩ := h.earlier split
      exact ⟨_, es', h', by simp⟩
    refine ⟨⟨now, fun m' hm => ?_⟩, ?_, fun d => ?_⟩
    · obtain ⟨ms', es', h', hm⟩ := then' m' hm
      exact account h' hm
    · rintro m' hm c time q d t - ⟨asked, rfl, rfl, rfl⟩
      obtain ⟨ms', es', h', hm⟩ := then' m' hm
      have known := Database.hasPeer_of_account (account h' hm)
      obtain ⟨p, found⟩ := Database.hasPeer_iff.1 known
      have long := (h'.wellFormed.peer found).2.1
      rw [Relay.dispatch_register asked, Database.register_of_hasPeer known long]
      rfl
    · rw [Database.authenticate_of_account now]
      refine ⟨?_, ?_, Credential.saltedDigest_eq_iff⟩
      · simp
      · simp

/-- Bob registers, tries it again and is told that he exists. After a restart his digest opens his
account, and another one does not. -/
theorem registration_decides_logins_bob :
    ∃ before m m' r, History (before ++ [m, m']) [] r ∧
      m.Registers "bob1234567" sampleDigest "salt" ∧
      m'.event = .request 1 1 (sampleRegistration "bob1234567") ∧
      (m'.before.dispatch 1 1 (sampleRegistration "bob1234567")).result =
        .error (.peerExists "bob1234567") ∧
      r.db.authenticate "bob1234567" sampleDigest = .ok () ∧
      r.db.authenticate "bob1234567" "password" = .error .wrongPassword := by
  have asked : (sampleRegistration "bob1234567").Registers "bob1234567" sampleDigest "salt" :=
    ⟨by decide, rfl, rfl, rfl⟩
  have opened := History.start.event (.opened 1 0) (by unfold Fresh; decide)
  have once := opened.event (.request 1 0 (sampleRegistration "bob1234567"))
    (by unfold Fresh; decide)
  have twice := once.event (.request 1 1 (sampleRegistration "bob1234567"))
    (by unfold Fresh; decide)
  have registers : Moment.Registers
      ⟨(Relay.idle {}).opened 1 0, .request 1 0 (sampleRegistration "bob1234567")⟩
      "bob1234567" sampleDigest "salt" :=
    ⟨1, 0, _, rfl, asked, {}, by decide +kernel⟩
  obtain ⟨-, decided⟩ := registration_decides_logins twice.restarted "bob1234567"
  obtain ⟨-, again, login⟩ := decided [_] _ [_] sampleDigest "salt" rfl registers
  obtain ⟨ok, -, -⟩ := login sampleDigest
  obtain ⟨-, wrong, -⟩ := login "password"
  exact ⟨[_], _, _, _, twice.restarted, registers, rfl,
    again _ (List.mem_singleton_self _) 1 1 _ sampleDigest "salt" rfl asked, ok.2 rfl,
    wrong.2 (by decide +kernel)⟩

end Rendezvous
