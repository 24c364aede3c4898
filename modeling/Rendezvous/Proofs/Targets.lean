import Rendezvous.Proofs.Memberships

/-!
# Whom a message is handed to

A member talks to the owner. The owner may name any peer that is registered, whether or not that
peer has ever joined the service; so a message goes between the owner and a member of the service
exactly if the owner, where it is the sender, names one (`pairs_iff_entered`):

    db.forwardTarget caller name toId = .ok target →
      (db.Pairs name caller target ↔ (s.owner = caller → Entered ms target name))

Whether a peer has an entry for a service is told by what happened: it joined, and the service was
not removed since.
-/

namespace Rendezvous

variable {ms : List Moment} {m : Moment} {es : List Event} {r : Relay}
  {peer name caller target : String} {toId : Option String}

/-! ## Entries -/

/-- A peer joined a service that was not removed since. Whether it left is not asked. -/
def Entered (ms : List Moment) (peer name : String) : Prop :=
  ∃ before m later, ms = before ++ m :: later ∧ (∃ q, m.Joins peer name q) ∧
    ∀ m ∈ later, ¬ m.Removes name

theorem not_entered_nil : ¬ Entered [] peer name :=
  not_since_nil

/-- A peer enters by joining, and is in until the service is removed. -/
theorem entered_snoc : Entered (ms ++ [m]) peer name ↔
    (∃ q, m.Joins peer name q) ∨ (Entered ms peer name ∧ ¬ m.Removes name) :=
  since_snoc

namespace Moment.Deed

variable {a : Action} {q : Request} {ch : Change}

/-- Who has entered after a deed. -/
theorem entered_iff (h : m.Deed caller a q ch) : Entered (ms ++ [m]) peer name ↔
    (peer = caller ∧ a = .joinService ∧ q.serviceName = some name) ∨
      (Entered ms peer name ∧ ¬ (a = .removeService ∧ q.serviceName = some name)) := by
  simp [entered_snoc, h.joins_iff, h.removes_iff]

/-- A deed makes an entry for a peer that joins, and clears the entries for a service that is
removed. -/
theorem membership?_iff (h : m.Deed caller a q ch) :
    (m.after.db.membership? peer name).isSome ↔
      (peer = caller ∧ a = .joinService ∧ q.serviceName = some name) ∨
        ((m.before.db.membership? peer name).isSome ∧
          ¬ (a = .removeService ∧ q.serviceName = some name)) := by
  rw [h.turns.membership]
  cases h.entitled with
  | create | enable | disable => simp [Change.membership?]
  | @remove name' _ named =>
    by_cases same : name = name'
    · simp [Change.membership?, named, same]
    · simp [Change.membership?, named, same, Ne.symm same]
  | @join name' _ named =>
    by_cases same : peer = caller ∧ name = name'
    · simp [Change.membership?, named, same]
    · simp [Change.membership?, named, same, eq_comm (a := name')]
  | @leave name' _ _ _ _ _ entry =>
    by_cases same : peer = caller ∧ name = name'
    · obtain ⟨rfl, rfl⟩ := same
      simp [Change.membership?, entry]
    · simp [Change.membership?, same]

end Moment.Deed

/-- A peer has an entry for a service exactly if it has entered. -/
theorem History.isSome_membership?_iff (h : History ms es r) (peer name : String) :
    (r.db.membership? peer name).isSome ↔ Entered ms peer name := by
  refine h.induction
    (P := fun ms db => (db.membership? peer name).isSome ↔ Entered ms peer name) ?_ ?_
  · exact iff_of_false nofun not_entered_nil
  · intro ms m _ ih
    rcases m.deed with ⟨caller, a, q, ch, deed⟩ | rests
    · rw [deed.membership?_iff, deed.entered_iff, ih]
    · have joins : ¬ ∃ q, m.Joins peer name q := fun ⟨_, h⟩ => nomatch rests.none h
      have removes : ¬ m.Removes name := fun ⟨_, _, h⟩ => nomatch rests.none h
      rw [rests.turns.membership, entered_snoc]
      simpa [Change.membership?, joins, removes] using ih

/-! ## Pairs -/

/-- One of two peers owns a service, and the other one has an entry for it. -/
def Database.Pairs (db : Database) (name a b : String) : Prop :=
  ∃ s, db.service? name = some s ∧
    (s.owner = a ∧ (db.membership? b name).isSome ∨ s.owner = b ∧ (db.membership? a name).isSome)

/-- A message that is not from the owner goes between the owner and a member. -/
theorem Database.pairs_of_foreign {db : Database} {s : Service} (found : db.service? name = some s)
    (member : db.membership? caller name = some true) : db.Pairs name caller s.owner :=
  ⟨s, found, .inr ⟨rfl, by rw [member]; rfl⟩⟩

/-- An owner has no entry for its own service, so it makes a pair with those that have one. -/
theorem Database.WellFormed.pairs_owner_iff {db : Database} {s : Service} (h : db.WellFormed)
    (found : db.service? name = some s) :
    db.Pairs name s.owner target ↔ (db.membership? target name).isSome := by
  constructor
  · rintro ⟨s', found', pair⟩
    rw [found] at found'
    cases found'
    rcases pair with ⟨-, entry⟩ | ⟨-, entry⟩
    · exact entry
    · obtain ⟨joined, entry⟩ := Option.isSome_iff_exists.1 entry
      obtain ⟨s', found', foreign⟩ := h.member entry
      rw [found] at found'
      cases found'
      exact absurd rfl foreign
  · exact fun entry => ⟨s, found, .inl ⟨rfl, entry⟩⟩

theorem Database.WellFormed.forwardTarget_owner {db : Database} {s : Service} (h : db.WellFormed)
    (found : db.service? name = some s) (known : db.hasPeer target = true) :
    db.forwardTarget s.owner name (some target) = .ok target := by
  obtain ⟨p, hp⟩ := Database.hasPeer_iff.1 known
  obtain ⟨-, long, -⟩ := h.peer hp
  have nonempty : target ≠ "" := by
    rintro rfl
    exact absurd long (by decide)
  exact Database.forwardTarget_eq_ok_iff.2 ⟨s, found, .inl ⟨rfl, rfl, nonempty, known⟩⟩

/-- Whatever has happened, restarts included: a message goes to a registered peer, namely from a
member to the owner, or from the owner to the peer that it names. The two are the owner and
somebody with an entry for the service exactly if that peer, where the owner is the sender, has
joined the service at a time since which that was not removed. The owner may name any registered
peer, though. -/
theorem pairs_iff_entered (h : History ms es r)
    (ok : r.db.forwardTarget caller name toId = .ok target) :
    ∃ s, r.db.service? name = some s ∧ r.db.hasPeer target = true ∧
      (s.owner ≠ caller → target = s.owner ∧ r.db.membership? caller name = some true) ∧
      (s.owner = caller → toId = some target) ∧
      (r.db.Pairs name caller target ↔ (s.owner = caller → Entered ms target name)) ∧
      ∀ other, r.db.hasPeer other = true →
        r.db.forwardTarget s.owner name (some other) = .ok other := by
  obtain ⟨s, found, rule⟩ := Database.forwardTarget_eq_ok_iff.1 ok
  have any : ∀ other, r.db.hasPeer other = true →
      r.db.forwardTarget s.owner name (some other) = .ok other :=
    fun _ known => h.wellFormed.forwardTarget_owner found known
  rcases rule with ⟨rfl, named, -, known⟩ | ⟨foreign, member, rfl⟩
  · refine ⟨s, found, known, fun other => absurd rfl other, fun _ => named, ?_, any⟩
    rw [h.wellFormed.pairs_owner_iff found, h.isSome_membership?_iff]
    simp
  · have member := Database.isMember_iff.1 member
    obtain ⟨-, -, -, known⟩ := h.wellFormed.service found
    have pairs := Database.pairs_of_foreign found member
    exact ⟨s, found, known, fun _ => ⟨rfl, member⟩, fun same => absurd same foreign,
      iff_of_true pairs fun same => absurd same foreign, any⟩

/-- Bob, Carol and Dave register, Bob creates a service, and Carol joins it. -/
def strangerRun : List Event :=
  [.opened 1 0, .opened 2 1, .request 1 0 (sampleRegistration "bob1234567"),
   .request 2 0 (sampleRegistration "carol12345"), .request 2 0 (sampleRegistration "dave123456"),
   .request 1 0 (sampleLogin "bob1234567" false), .request 2 0 (sampleLogin "carol12345" false),
   .request 1 0 (sampleServiceRequest .createService (some "salt")),
   .request 2 0 (sampleServiceRequest .joinService none)]

theorem fresh_strangerRun : Fresh strangerRun := by
  unfold Fresh
  decide

/-- The records that it leaves. -/
def strangerRecords : Database := ((Relay.idle {}).after strangerRun).db

theorem strangerRecords_eq : strangerRecords = {
    peers := .ofList
      [("bob1234567", { id := "bob1234567", passwordDigest := sampleSalted, salt := "salt" }),
       ("carol12345", { id := "carol12345", passwordDigest := sampleSalted, salt := "salt",
                        memberships := .ofList [("ssh-box", true)] }),
       ("dave123456", { id := "dave123456", passwordDigest := sampleSalted, salt := "salt" })]
    services := .ofList
      [("ssh-box", { name := "ssh-box", owner := "bob1234567", passwordDigest := sampleSalted,
                     salt := "salt", createdAt := 0 })] } := by
  decide +kernel

theorem memberships_strangerRecords :
    (strangerRecords.service? "ssh-box").map (·.owner) = some "bob1234567" ∧
      strangerRecords.membership? "bob1234567" "ssh-box" = none ∧
      strangerRecords.membership? "carol12345" "ssh-box" = some true ∧
      strangerRecords.membership? "dave123456" "ssh-box" = none := by
  rw [strangerRecords_eq]
  decide

/-- Bob may name Carol, who has joined, and Dave, who has not. -/
theorem targets_strangerRecords :
    strangerRecords.forwardTarget "bob1234567" "ssh-box" (some "carol12345") = .ok "carol12345" ∧
      strangerRecords.forwardTarget "bob1234567" "ssh-box" (some "dave123456") =
        .ok "dave123456" := by
  rw [strangerRecords_eq]
  decide

/-- With Carol he makes a pair, with Dave he does not. -/
theorem pairs_iff_entered_strangerRun : ∃ ms,
    History ms strangerRun ((Relay.idle {}).after strangerRun) ∧
      Entered ms "carol12345" "ssh-box" ∧
      strangerRecords.Pairs "ssh-box" "bob1234567" "carol12345" ∧
      ¬ Entered ms "dave123456" "ssh-box" ∧
      ¬ strangerRecords.Pairs "ssh-box" "bob1234567" "dave123456" := by
  obtain ⟨ms, h⟩ := History.start.exists_of_run fresh_strangerRun
  obtain ⟨owner, -, joined, none⟩ := memberships_strangerRecords
  obtain ⟨to_carol, to_dave⟩ := targets_strangerRecords
  have carol : Entered ms "carol12345" "ssh-box" :=
    (h.isSome_membership?_iff ..).1 (Option.isSome_of_eq_some joined)
  have dave : ¬ Entered ms "dave123456" "ssh-box" := by
    rw [← h.isSome_membership?_iff]
    exact Option.not_isSome_iff_eq_none.2 none
  obtain ⟨_, -, -, -, -, with_carol, -⟩ := pairs_iff_entered h to_carol
  obtain ⟨s, found, -, -, -, with_dave, -⟩ := pairs_iff_entered h to_dave
  have found : strangerRecords.service? "ssh-box" = some s := found
  rw [found] at owner
  refine ⟨ms, h, carol, with_carol.2 fun _ => carol, dave, fun pairs => ?_⟩
  exact dave (with_dave.1 pairs (Option.some.inj owner))

/-- Bob is told that his message goes to Dave, who has never joined the service. -/
theorem stranger_is_addressed :
    Fresh strangerRun ∧
      strangerRecords.forwardTarget "bob1234567" "ssh-box" (some "dave123456") =
        .ok "dave123456" ∧
      ¬ strangerRecords.Pairs "ssh-box" "bob1234567" "dave123456" := by
  obtain ⟨-, owner, -, stranger⟩ := memberships_strangerRecords
  refine ⟨fresh_strangerRun, targets_strangerRecords.2, ?_⟩
  rintro ⟨s, -, ⟨-, entry⟩ | ⟨-, entry⟩⟩
  · simp [stranger] at entry
  · simp [owner] at entry

end Rendezvous
