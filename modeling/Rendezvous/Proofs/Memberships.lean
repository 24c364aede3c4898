import Rendezvous.Proofs.History

/-!
# Who is a member, and why

A peer is a member of a service exactly if it joined the service after that was created, and has
not left it since, and the service was not removed since (`Standing`):

    History ms es r → (r.db.isMember peer name ↔ ∃ q, Standing ms peer name q)
                                                                       (member_iff_standing_join)

So nobody is a member of a service that has just been created, whoever was a member of an earlier
one of that name.
-/

namespace Rendezvous

open Credential (verifies)

variable {ms : List Moment} {m : Moment} {peer name : String} {q : Request}

/-! ## Joins that count -/

/-- A peer joined a service that there was, and neither left it nor lost it since. -/
def Standing (ms : List Moment) (peer name : String) (q : Request) : Prop :=
  ∃ before m later, ms = before ++ m :: later ∧ m.Joins peer name q ∧
    (∃ m ∈ before, m.Creates name) ∧
    ∀ m ∈ later, ¬ m.Creates name ∧ ¬ m.Leaves peer name ∧ ¬ m.Removes name

/-- One request is about one thing. -/
theorem Moment.not_creates_of_joins (h : m.Joins peer name q) : ¬ m.Creates name := by
  obtain ⟨_, _, event, -, asked, -⟩ := h
  rintro ⟨_, _, _, _, event', -, asked', -⟩
  rw [event] at event'
  cases event'
  rw [asked] at asked'
  cases asked'

theorem standing_iff_since : Standing ms peer name q ↔
    Since (fun before m => m.Joins peer name q ∧ ∃ m ∈ before, m.Creates name)
      (fun m => ¬ m.Creates name ∧ ¬ m.Leaves peer name ∧ ¬ m.Removes name) ms := by
  simp only [Standing, Since, and_assoc]

theorem not_standing_nil : ¬ Standing [] peer name q := by
  rw [standing_iff_since]
  exact not_since_nil

/-- A join counts if it happens now, or if it counted before and nothing happens that ends it. -/
theorem standing_snoc : Standing (ms ++ [m]) peer name q ↔
    (m.Joins peer name q ∧ ∃ m ∈ ms, m.Creates name) ∨
      (Standing ms peer name q ∧ ¬ m.Creates name ∧ ¬ m.Leaves peer name ∧ ¬ m.Removes name) := by
  simp only [standing_iff_since, since_snoc]

/-! ## What the records remember -/

/-- The services that there are were created, the memberships are the joins that count, and their
digests still open the services. -/
structure Remembers (ms : List Moment) (db : Database) : Prop where
  created : ∀ {name s}, db.service? name = some s → ∃ m ∈ ms, m.Creates name
  member : ∀ peer name, db.membership? peer name = some true ↔ ∃ q, Standing ms peer name q
  verified : ∀ {peer name q}, Standing ms peer name q →
    ∃ s, db.service? name = some s ∧ verifies q.servicePwd s.salt s.passwordDigest = true

namespace Moment.Deed

variable {caller : String} {a : Action} {ch : Change} {q' : Request}

theorem creates_iff (h : m.Deed caller a q ch) :
    m.Creates name ↔ a = .createService ∧ q.serviceName = some name := by
  simp [Creates, h.does_iff, eq_comm]

theorem removes_iff (h : m.Deed caller a q ch) :
    m.Removes name ↔ a = .removeService ∧ q.serviceName = some name := by
  simp [Removes, h.does_iff, eq_comm]

theorem joins_iff (h : m.Deed caller a q ch) :
    m.Joins peer name q' ↔ peer = caller ∧ a = .joinService ∧ q' = q ∧
      q.serviceName = some name := by
  simp [Joins, h.does_iff, eq_comm]

theorem leaves_iff (h : m.Deed caller a q ch) :
    m.Leaves peer name ↔ peer = caller ∧ a = .leaveService ∧ q.serviceName = some name := by
  simp [Leaves, h.does_iff, eq_comm]

/-- Which joins count after a deed. -/
theorem standing_iff (h : m.Deed caller a q ch) : Standing (ms ++ [m]) peer name q' ↔
    (peer = caller ∧ a = .joinService ∧ q' = q ∧ q.serviceName = some name ∧
      ∃ m ∈ ms, m.Creates name) ∨
    (Standing ms peer name q' ∧ ¬ (a = .createService ∧ q.serviceName = some name) ∧
      ¬ (peer = caller ∧ a = .leaveService ∧ q.serviceName = some name) ∧
      ¬ (a = .removeService ∧ q.serviceName = some name)) := by
  rw [standing_snoc, h.joins_iff, h.creates_iff, h.leaves_iff, h.removes_iff]
  simp only [and_assoc]

end Moment.Deed

namespace Remembers

variable {caller : String} {s : Service} {enabled : Bool} {a : Action}

theorem mono (h : ∃ m ∈ ms, m.Creates name) : ∃ m' ∈ ms ++ [m], m'.Creates name := by
  obtain ⟨m', hm, creates⟩ := h
  exact ⟨m', List.mem_append_left _ hm, creates⟩

theorem rests (h : Remembers ms m.before.db) (rests : m.Rests) :
    Remembers (ms ++ [m]) m.after.db := by
  have standing : ∀ peer name q, Standing (ms ++ [m]) peer name q ↔ Standing ms peer name q := by
    intro peer name q
    have joins : ¬ m.Joins peer name q := fun h => nomatch rests.none h
    have creates : ¬ m.Creates name := fun ⟨_, _, h⟩ => nomatch rests.none h
    have leaves : ¬ m.Leaves peer name := fun ⟨_, h⟩ => nomatch rests.none h
    have removes : ¬ m.Removes name := fun ⟨_, _, h⟩ => nomatch rests.none h
    rw [standing_snoc]
    simp [joins, creates, leaves, removes]
  constructor
  · intro name s hs
    rw [rests.turns.service] at hs
    exact mono (h.created hs)
  · intro peer name
    rw [rests.turns.membership]
    simp only [standing]
    exact h.member peer name
  · intro peer name q hq
    rw [rests.turns.service]
    exact h.verified ((standing ..).1 hq)

/-- A new service has no members: the free name has no entries left. -/
theorem created_step (h : Remembers ms m.before.db) (wf : m.before.db.WellFormed)
    (deed : m.Deed caller .createService q (.created s)) :
    Remembers (ms ++ [m]) m.after.db := by
  obtain ⟨named, free⟩ :
      q.serviceName = some s.name ∧ m.before.db.service? s.name = none := by
    cases deed.entitled with
    | create _ named _ free => exact ⟨named, free⟩
  have standing : ∀ peer name q', Standing (ms ++ [m]) peer name q' ↔
      Standing ms peer name q' ∧ name ≠ s.name := by
    intro peer name q'
    rw [deed.standing_iff]
    simp [named, eq_comm]
  constructor
  · intro name s' hs
    rw [deed.turns.service] at hs
    simp only [Change.service?] at hs
    split at hs
    · next e => exact ⟨m, by simp, deed.creates_iff.2 ⟨rfl, e ▸ named⟩⟩
    · exact mono (h.created hs)
  · intro peer name
    rw [deed.turns.membership]
    simp only [standing, Change.membership?, h.member]
    constructor
    · rintro ⟨q', hq⟩
      refine ⟨q', hq, ?_⟩
      rintro rfl
      obtain ⟨s', hs, -⟩ := wf.member ((h.member peer s.name).2 ⟨q', hq⟩)
      rw [free] at hs
      cases hs
    · rintro ⟨q', hq, -⟩
      exact ⟨q', hq⟩
  · intro peer name q' hq
    obtain ⟨hq, other⟩ := (standing ..).1 hq
    rw [deed.turns.service]
    simp only [Change.service?, if_neg other]
    exact h.verified hq

theorem switched_step (h : Remembers ms m.before.db)
    (deed : m.Deed caller a q (.switched name enabled))
    (switch : a = .enableService ∨ a = .disableService) : Remembers (ms ++ [m]) m.after.db := by
  have standing : ∀ peer name q', Standing (ms ++ [m]) peer name q' ↔ Standing ms peer name q' := by
    intro peer name q'
    rw [deed.standing_iff]
    rcases switch with rfl | rfl <;> simp
  constructor
  · intro name' s hs
    rw [deed.turns.service] at hs
    simp only [Change.service?] at hs
    split at hs
    · obtain ⟨old, hold, -⟩ := Option.map_eq_some_iff.1 hs
      exact mono (h.created hold)
    · exact mono (h.created hs)
  · intro peer name'
    rw [deed.turns.membership]
    simp only [standing]
    exact h.member peer name'
  · intro peer name' q' hq
    obtain ⟨s, hs, verified⟩ := h.verified ((standing ..).1 hq)
    rw [deed.turns.service]
    simp only [Change.service?]
    split
    · exact ⟨_, congrArg (Option.map _) hs, verified⟩
    · exact ⟨s, hs, verified⟩

/-- With a service go all joins of it. -/
theorem removed_step (h : Remembers ms m.before.db)
    (deed : m.Deed caller .removeService q (.removed name)) :
    Remembers (ms ++ [m]) m.after.db := by
  have named : q.serviceName = some name := by
    cases deed.entitled with
    | remove named => exact named
  have standing : ∀ peer name' q', Standing (ms ++ [m]) peer name' q' ↔
      Standing ms peer name' q' ∧ name' ≠ name := by
    intro peer name' q'
    rw [deed.standing_iff]
    simp [named, eq_comm]
  constructor
  · intro name' s hs
    rw [deed.turns.service] at hs
    simp only [Change.service?] at hs
    split at hs
    · cases hs
    · exact mono (h.created hs)
  · intro peer name'
    rw [deed.turns.membership]
    simp only [standing, Change.membership?]
    split
    · next e => simp [e]
    · next other => simpa [other] using h.member peer name'
  · intro peer name' q' hq
    obtain ⟨hq, other⟩ := (standing ..).1 hq
    rw [deed.turns.service]
    simp only [Change.service?, if_neg other]
    exact h.verified hq

theorem joined_step (h : Remembers ms m.before.db)
    (deed : m.Deed caller .joinService q (.joined caller name)) :
    Remembers (ms ++ [m]) m.after.db := by
  obtain ⟨named, s, found, verified⟩ : q.serviceName = some name ∧
      ∃ s, m.before.db.service? name = some s ∧
        verifies q.servicePwd s.salt s.passwordDigest = true := by
    cases deed.entitled with
    | join named found _ verified => exact ⟨named, _, found, verified⟩
  have standing : ∀ peer name' q', Standing (ms ++ [m]) peer name' q' ↔
      (peer = caller ∧ q' = q ∧ name' = name) ∨ Standing ms peer name' q' := by
    intro peer name' q'
    rw [deed.standing_iff]
    have created := h.created found
    constructor
    · rintro (⟨rfl, -, rfl, n, -⟩ | ⟨hq, -⟩)
      · rw [named] at n
        exact .inl ⟨rfl, rfl, (Option.some.inj n).symm⟩
      · exact .inr hq
    · rintro (⟨rfl, rfl, rfl⟩ | hq)
      · exact .inl ⟨rfl, rfl, rfl, named, created⟩
      · exact .inr ⟨hq, by simp⟩
  constructor
  · intro name' s hs
    rw [deed.turns.service] at hs
    exact mono (h.created hs)
  · intro peer name'
    rw [deed.turns.membership]
    simp only [standing, Change.membership?]
    split
    · next e =>
      obtain ⟨rfl, rfl⟩ := e
      exact ⟨fun _ => ⟨q, .inl ⟨rfl, rfl, rfl⟩⟩, fun _ => rfl⟩
    · next other =>
      rw [h.member]
      constructor
      · rintro ⟨q', hq⟩
        exact ⟨q', .inr hq⟩
      · rintro ⟨q', ⟨rfl, -, rfl⟩ | hq⟩
        · exact absurd ⟨rfl, rfl⟩ other
        · exact ⟨q', hq⟩
  · intro peer name' q' hq
    rw [deed.turns.service]
    rcases (standing ..).1 hq with ⟨-, rfl, rfl⟩ | hq
    · exact ⟨s, found, verified⟩
    · exact h.verified hq

theorem left_step (h : Remembers ms m.before.db)
    (deed : m.Deed caller .leaveService q (.left caller name)) :
    Remembers (ms ++ [m]) m.after.db := by
  have named : q.serviceName = some name := by
    cases deed.entitled with
    | leave named => exact named
  have standing : ∀ peer name' q', Standing (ms ++ [m]) peer name' q' ↔
      Standing ms peer name' q' ∧ ¬ (peer = caller ∧ name' = name) := by
    intro peer name' q'
    rw [deed.standing_iff]
    simp [named, eq_comm]
  constructor
  · intro name' s hs
    rw [deed.turns.service] at hs
    exact mono (h.created hs)
  · intro peer name'
    rw [deed.turns.membership]
    simp only [standing, Change.membership?]
    split
    · next e => simp [e]
    · next other => simpa [other] using h.member peer name'
  · intro peer name' q' hq
    rw [deed.turns.service]
    exact h.verified ((standing ..).1 hq).1

/-- Every event keeps what the records remember in step with what has happened. -/
theorem step (h : Remembers ms m.before.db) (wf : m.before.db.WellFormed) :
    Remembers (ms ++ [m]) m.after.db := by
  rcases m.deed with ⟨caller, a, q, ch, deed⟩ | rests
  · cases deed.entitled with
    | create => exact h.created_step wf deed
    | enable => exact h.switched_step deed (.inl rfl)
    | disable => exact h.switched_step deed (.inr rfl)
    | remove => exact h.removed_step deed
    | join => exact h.joined_step deed
    | leave => exact h.left_step deed
  · exact h.rests rests

end Remembers

/-! ## Histories -/

theorem remembers_nil : Remembers [] {} where
  created h := by cases h
  member peer name := by
    constructor
    · intro hm
      cases hm
    · rintro ⟨q, hq⟩
      exact absurd hq not_standing_nil
  verified hq := absurd hq not_standing_nil

theorem History.remembers {es : List Event} {r : Relay} (h : History ms es r) :
    Remembers ms r.db :=
  h.induction (P := Remembers) remembers_nil fun _ _ wf ih => ih.step wf

/-- Whatever has happened, restarts included: a peer is a member of a service exactly if a join of
it counts, and the digest of each such join opens the service as it is now. Right after a service
was created it has no members. -/
theorem member_iff_standing_join {es : List Event} {r : Relay} (h : History ms es r)
    (peer name : String) :
    (r.db.isMember peer name = true ↔ ∃ q, Standing ms peer name q) ∧
    (∀ q, Standing ms peer name q → ∃ s, r.db.service? name = some s ∧
      verifies q.servicePwd s.salt s.passwordDigest = true) ∧
    (∀ before m, ms = before ++ [m] → m.Creates name → r.db.isMember peer name = false) := by
  have remembers := h.remembers
  have member : r.db.isMember peer name = true ↔ ∃ q, Standing ms peer name q := by
    rw [Database.isMember_iff]
    exact remembers.member peer name
  refine ⟨member, fun q hq => remembers.verified hq, ?_⟩
  rintro before m rfl creates
  rw [Bool.eq_false_iff, ne_eq, member]
  rintro ⟨q, hq⟩
  rcases standing_snoc.1 hq with ⟨joins, -⟩ | ⟨-, none, -⟩
  · exact Moment.not_creates_of_joins joins creates
  · exact none creates

/-- Bob joined the later service of that name. Carol joined only the earlier one, and owns the
later one. A restart changes nothing about it. -/
theorem member_iff_standing_join_foundingRun :
    ∃ ms, History ms [] (.idle foundedRelay.db) ∧
      (∃ q, Standing ms "bob1234567" "ssh-box" q ∧
        verifies q.servicePwd "pepper" samplePeppered = true) ∧
      ¬ ∃ q, Standing ms "carol12345" "ssh-box" q := by
  obtain ⟨ms, h⟩ := History.start.exists_of_run fresh_foundingRun
  rw [after_foundingRun] at h
  refine ⟨ms, h.restarted, ?_, ?_⟩
  · obtain ⟨member, verified, -⟩ :=
      member_iff_standing_join h.restarted "bob1234567" "ssh-box"
    obtain ⟨q, hq⟩ := member.1 (by decide)
    obtain ⟨s, hs, opens⟩ := verified q hq
    have owned : foundedRelay.db.service? "ssh-box" = some
        { name := "ssh-box", owner := "carol12345", passwordDigest := samplePeppered,
          salt := "pepper", createdAt := 0 } := by decide
    rw [show (Relay.idle foundedRelay.db).db = foundedRelay.db from rfl, owned] at hs
    cases hs
    exact ⟨q, hq, opens⟩
  · obtain ⟨member, -, -⟩ := member_iff_standing_join h.restarted "carol12345" "ssh-box"
    rw [← member]
    decide

end Rendezvous
