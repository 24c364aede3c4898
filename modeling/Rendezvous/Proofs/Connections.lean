import Rendezvous.Proofs.Dispatch
import Rendezvous.Proofs.Run

/-!
# The tables of connections

The relay keeps three tables of connections: the pending ones, the peers that are online, and the
peer that each connection speaks for. They must agree with each other, and with what was opened
and closed (`Coherent`). Each operation on the tables keeps that, so every event does:

    Fresh es → ((idle db).after es).Coherent (StillOpen es)            (Fresh.coherent)

From it, every open connection is in exactly one table, no peer speaks through two connections,
and a login that got past its checks always finds the connection that it promotes.
-/

namespace Rendezvous.Relay

/-- The tables agree with each other and with the connections that are open. -/
structure Coherent (r : Relay) (isOpen : ConnectionId → QueueId → Prop) : Prop where
  pending : ∀ {c link}, r.pending.get? c = some link → link.connection = c ∧ isOpen c link.queue
  online : ∀ {p link}, r.online.get? p = some link → r.identities.get? link.connection = some p
  identity : ∀ {c p}, r.identities.get? c = some p →
    r.pending.get? c = none ∧ ∃ k, r.online.get? p = some ⟨c, k⟩ ∧ isOpen c k
  kept : ∀ {c k}, isOpen c k → r.pending.get? c = some ⟨c, k⟩ ∨
    ∃ p, r.identities.get? c = some p ∧ r.online.get? p = some ⟨c, k⟩
  registered : ∀ {p}, r.isOnline p = true → r.db.hasPeer p = true

variable {r : Relay} {isOpen : ConnectionId → QueueId → Prop} {c : ConnectionId} {k : QueueId}
  {p : String} {link : Link}

/-! ## What follows from agreement -/

theorem isOnline_iff : r.isOnline p = true ↔ ∃ link, r.online.get? p = some link :=
  Option.isSome_iff_exists

/-- Nothing is taken from a connection without an identity. -/
theorem demote_of_no_identity (hi : r.identities.get? c = none) : r.demote c = r := by
  unfold demote
  rw [hi]

theorem get?_identities_demote (r : Relay) (c c' : ConnectionId) :
    (r.demote c).identities.get? c' = if c' = c then none else r.identities.get? c' := by
  unfold demote
  split
  · next hi =>
    split
    · next e => rw [e, hi]
    · rfl
  · exact Table.get?_erase ..

theorem db_demote (r : Relay) (c : ConnectionId) : (r.demote c).db = r.db := by
  unfold demote
  split <;> rfl

namespace Coherent

theorem eq_of_pending (h : r.Coherent isOpen) (hp : r.pending.get? c = some link) :
    link = ⟨c, link.queue⟩ := by
  obtain ⟨hc, -⟩ := h.pending hp
  cases link
  cases hc
  rfl

/-- A connection is opened with one queue. -/
theorem queue_unique (h : r.Coherent isOpen) {k' : QueueId} (hk : isOpen c k)
    (hk' : isOpen c k') : k = k' := by
  rcases h.kept hk with hp | ⟨p, hi, ho⟩
  · rcases h.kept hk' with hp' | ⟨p', hi', -⟩
    · rw [hp] at hp'
      injection hp' with e
      injection e
    · rw [(h.identity hi').1] at hp
      cases hp
  · rcases h.kept hk' with hp' | ⟨p', hi', ho'⟩
    · rw [(h.identity hi).1] at hp'
      cases hp'
    · rw [hi] at hi'
      cases hi'
      rw [ho] at ho'
      injection ho' with e
      injection e

/-- No peer speaks through two connections. -/
theorem identity_injective (h : r.Coherent isOpen) {c' : ConnectionId}
    (hi : r.identities.get? c = some p) (hi' : r.identities.get? c' = some p) : c = c' := by
  obtain ⟨-, k, ho, -⟩ := h.identity hi
  obtain ⟨-, k', ho', -⟩ := h.identity hi'
  rw [ho] at ho'
  cases ho'
  rfl

/-- Who is online is reached by the one connection that speaks for him. -/
theorem identity_iff (h : r.Coherent isOpen) :
    r.identities.get? c = some p ↔ ∃ k, r.online.get? p = some ⟨c, k⟩ ∧ isOpen c k := by
  constructor
  · intro hi
    exact (h.identity hi).2
  · rintro ⟨k, ho, -⟩
    exact h.online ho

theorem identity_iff_of_online (h : r.Coherent isOpen) (ho : r.online.get? p = some link) :
    r.identities.get? c = some p ↔ c = link.connection := by
  constructor
  · intro hi
    exact h.identity_injective hi (h.online ho)
  · rintro rfl
    exact h.online ho

/-- A connection that a peer is online on is open and not pending. -/
theorem isOpen_of_online (h : r.Coherent isOpen) (ho : r.online.get? p = some link) :
    isOpen link.connection link.queue ∧ r.pending.contains link.connection = false := by
  obtain ⟨hp, k, hk, hopen⟩ := h.identity (h.online ho)
  rw [ho] at hk
  have hlink : link = ⟨link.connection, k⟩ := Option.some.inj hk
  constructor
  · rw [hlink]
    exact hopen
  · simp [Table.contains, hp]

/-- An open connection is pending or has an identity, and not both. -/
theorem pending_eq_not_identity (h : r.Coherent isOpen) (hk : isOpen c k) :
    r.pending.contains c = !r.identities.contains c := by
  rcases h.kept hk with hp | ⟨p, hi, -⟩
  · have hi : r.identities.get? c = none := by
      cases hi : r.identities.get? c with
      | none => rfl
      | some p =>
        rw [(h.identity hi).1] at hp
        cases hp
    simp [Table.contains, hp, hi]
  · simp [Table.contains, (h.identity hi).1, hi]

/-- A connection that is not open is in no table. -/
theorem unknown_of_not_isOpen (h : r.Coherent isOpen) (hc : ∀ k, ¬ isOpen c k) :
    r.pending.contains c = false ∧ r.identities.contains c = false := by
  constructor
  · cases hp : r.pending.get? c with
    | none => simp [Table.contains, hp]
    | some link => exact absurd (h.pending hp).2 (hc _)
  · cases hi : r.identities.get? c with
    | none => simp [Table.contains, hi]
    | some p =>
      obtain ⟨-, k, -, hk⟩ := h.identity hi
      exact absurd hk (hc k)

/-- The link of a connection is the one it was opened with. -/
theorem link?_eq_some_iff (h : r.Coherent isOpen) :
    r.link? c = some link ↔ link.connection = c ∧ isOpen c link.queue := by
  unfold link?
  constructor
  · intro hl
    split at hl
    · next l hp =>
      cases hl
      exact h.pending hp
    · next hp =>
      obtain ⟨p, hi, ho⟩ := Option.bind_eq_some_iff.1 hl
      obtain ⟨-, k, hk, hopen⟩ := h.identity hi
      rw [ho] at hk
      cases hk
      exact ⟨rfl, hopen⟩
  · rintro ⟨rfl, hopen⟩
    rcases h.kept hopen with hp | ⟨p, hi, ho⟩
    · rw [hp]
    · rw [(h.identity hi).1, hi]
      exact ho

theorem link?_eq_none_iff (h : r.Coherent isOpen) : r.link? c = none ↔ ∀ k, ¬ isOpen c k := by
  constructor
  · intro hl k hk
    have := h.link?_eq_some_iff.2 (show (Link.mk c k).connection = c ∧ isOpen c k from ⟨rfl, hk⟩)
    rw [hl] at this
    cases this
  · intro hn
    cases hl : r.link? c with
    | none => rfl
    | some link => exact absurd (h.link?_eq_some_iff.1 hl).2 (hn _)

/-- Who is online is told by the identities. -/
theorem online_eq_some_iff (h : r.Coherent isOpen) :
    r.online.get? p = some link ↔
      r.identities.get? link.connection = some p ∧ isOpen link.connection link.queue := by
  constructor
  · intro ho
    exact ⟨h.online ho, (h.isOpen_of_online ho).1⟩
  · rintro ⟨hi, hk⟩
    obtain ⟨-, k, ho, hk'⟩ := h.identity hi
    rw [ho, h.queue_unique hk' hk]

theorem pending_eq_some_iff (h : r.Coherent isOpen) :
    r.pending.get? c = some link ↔
      link.connection = c ∧ isOpen c link.queue ∧ r.identities.get? c = none := by
  constructor
  · intro hp
    obtain ⟨hc, hk⟩ := h.pending hp
    refine ⟨hc, hk, ?_⟩
    cases hi : r.identities.get? c with
    | none => rfl
    | some p =>
      rw [(h.identity hi).1] at hp
      cases hp
  · rintro ⟨rfl, hk, hi⟩
    rcases h.kept hk with hp | ⟨p, hi', -⟩
    · exact hp
    · rw [hi] at hi'
      cases hi'

theorem isOnline_iff_identity (h : r.Coherent isOpen) :
    r.isOnline p = true ↔ ∃ c, r.identities.get? c = some p := by
  rw [isOnline_iff]
  constructor
  · rintro ⟨link, ho⟩
    exact ⟨_, h.online ho⟩
  · rintro ⟨c, hi⟩
    obtain ⟨-, k, ho, -⟩ := h.identity hi
    exact ⟨_, ho⟩

/-! ## The operations on the tables -/

theorem idle (db : Database) : (idle db).Coherent fun _ _ => False where
  pending h := by cases h
  online h := by cases h
  identity h := by cases h
  kept h := h.elim
  registered h := by cases h

theorem congr {isOpen' : ConnectionId → QueueId → Prop} (h : r.Coherent isOpen)
    (e : ∀ c k, isOpen' c k ↔ isOpen c k) : r.Coherent isOpen' := by
  have : isOpen' = isOpen := funext fun c => funext fun k => propext (e c k)
  rwa [this]

/-- Records may change as long as no peer is lost. -/
theorem records {db : Database} {dirty : Bool} (h : r.Coherent isOpen)
    (keep : ∀ p, r.db.hasPeer p = true → db.hasPeer p = true) :
    ({ r with db := db, dirty := dirty } : Relay).Coherent isOpen where
  pending := h.pending
  online := h.online
  identity := h.identity
  kept := h.kept
  registered ho := keep _ (h.registered ho)

theorem opened (h : r.Coherent isOpen) (new : ∀ k, ¬ isOpen c k) :
    (r.opened c k).Coherent fun c' k' => (c' = c ∧ k' = k) ∨ isOpen c' k' where
  pending {c' link} hp := by
    simp only [Relay.opened, Table.get?_insert] at hp
    split at hp
    · next e =>
      cases hp
      exact ⟨e.symm, .inl ⟨e, rfl⟩⟩
    · obtain ⟨hc, ho⟩ := h.pending hp
      exact ⟨hc, .inr ho⟩
  online := h.online
  identity {c' p} hi := by
    obtain ⟨hp, k', ho, hk'⟩ := h.identity hi
    have hne : c' ≠ c := fun e => new k' (e ▸ hk')
    refine ⟨?_, k', ho, .inr hk'⟩
    simp only [Relay.opened, Table.get?_insert, if_neg hne]
    exact hp
  kept {c' k'} ho := by
    simp only [Relay.opened, Table.get?_insert]
    rcases ho with ⟨rfl, rfl⟩ | ho
    · left
      rw [if_pos rfl]
    · have hne : c' ≠ c := fun e => new k' (e ▸ ho)
      rw [if_neg hne]
      exact h.kept ho
  registered := h.registered

theorem demote_eq (h : r.Coherent isOpen) (hi : r.identities.get? c = some p) :
    ∃ k, isOpen c k ∧ r.online.get? p = some ⟨c, k⟩ ∧ r.demote c = { r with
      pending := r.pending.insert c ⟨c, k⟩
      online := r.online.erase p
      identities := r.identities.erase c } := by
  obtain ⟨-, k, ho, hk⟩ := h.identity hi
  refine ⟨k, hk, ho, ?_⟩
  unfold Relay.demote
  rw [hi]
  simp only [ho]

theorem demote (h : r.Coherent isOpen) : (r.demote c).Coherent isOpen := by
  cases hi : r.identities.get? c with
  | none => rwa [demote_of_no_identity hi]
  | some peer =>
    obtain ⟨k, hk, ho, e⟩ := h.demote_eq hi
    -- no other connection speaks for the peer, so going offline touches no other entry
    have other : ∀ {c' p'}, c' ≠ c → r.identities.get? c' = some p' → p' ≠ peer := by
      rintro c' p' hne hi' rfl
      exact hne (h.identity_injective hi' hi)
    rw [e]
    constructor
    · intro c' link hp
      simp only [Table.get?_insert] at hp
      split at hp
      · next e' =>
        cases hp
        exact ⟨e'.symm, e' ▸ hk⟩
      · exact h.pending hp
    · intro p' link hl
      simp only [Table.get?_erase] at hl ⊢
      split at hl
      · cases hl
      · next hne =>
        have hi' := h.online hl
        have hne' : link.connection ≠ c := by
          intro e'
          rw [e', hi] at hi'
          exact hne (Option.some.inj hi').symm
        rw [if_neg hne']
        exact hi'
    · intro c' p' hi'
      simp only [Table.get?_erase, Table.get?_insert] at hi' ⊢
      split at hi'
      · cases hi'
      · next hne =>
        rw [if_neg hne, if_neg (other hne hi')]
        exact h.identity hi'
    · intro c' k' hk'
      simp only [Table.get?_erase, Table.get?_insert]
      by_cases hne : c' = c
      · subst hne
        left
        rw [if_pos rfl, h.queue_unique hk hk']
      · rw [if_neg hne, if_neg hne]
        rcases h.kept hk' with hp | ⟨p', hi', ho'⟩
        · exact .inl hp
        · right
          refine ⟨p', hi', ?_⟩
          rw [if_neg (other hne hi')]
          exact ho'
    · intro p' ho'
      obtain ⟨link, hl⟩ := isOnline_iff.1 ho'
      simp only [Table.get?_erase] at hl
      split at hl
      · cases hl
      · exact h.registered (isOnline_iff.2 ⟨link, hl⟩)

theorem promote (h : r.Coherent isOpen) (hp : r.pending.get? c = some link)
    (free : r.online.get? p = none) (known : r.db.hasPeer p = true) :
    (r.promote c link p).Coherent isOpen := by
  have hlink := h.eq_of_pending hp
  obtain ⟨-, hk⟩ := h.pending hp
  -- the connection is pending and the peer is free, so the new entries replace none
  have pend : ∀ {c' p'}, r.identities.get? c' = some p' → c' ≠ c ∧ p' ≠ p := by
    intro c' p' hi
    obtain ⟨hp', k', ho, -⟩ := h.identity hi
    constructor
    · rintro rfl
      rw [hp] at hp'
      cases hp'
    · rintro rfl
      rw [free] at ho
      cases ho
  unfold Relay.promote
  constructor
  · intro c' link' hp'
    simp only [Table.get?_erase] at hp'
    split at hp'
    · cases hp'
    · exact h.pending hp'
  · intro p' link' hl
    simp only [Table.get?_insert] at hl ⊢
    split at hl
    · next e =>
      cases hl
      rw [hlink, if_pos rfl, e]
    · have hi := h.online hl
      rw [if_neg (pend hi).1]
      exact hi
  · intro c' p' hi
    simp only [Table.get?_insert, Table.get?_erase] at hi ⊢
    split at hi
    · next e =>
      cases hi
      subst e
      refine ⟨if_pos rfl, link.queue, ?_, hk⟩
      rw [if_pos rfl, ← hlink]
    · next hne =>
      rw [if_neg hne, if_neg (pend hi).2]
      exact h.identity hi
  · intro c' k' hk'
    simp only [Table.get?_insert, Table.get?_erase]
    by_cases hne : c' = c
    · subst hne
      right
      refine ⟨p, if_pos rfl, ?_⟩
      rw [if_pos rfl, hlink, h.queue_unique hk hk']
    · rw [if_neg hne, if_neg hne]
      rcases h.kept hk' with hp' | ⟨p', hi, ho⟩
      · exact .inl hp'
      · right
        refine ⟨p', hi, ?_⟩
        rw [if_neg (pend hi).2]
        exact ho
  · intro p' ho
    obtain ⟨link', hl⟩ := isOnline_iff.1 ho
    simp only [Table.get?_insert] at hl
    split at hl
    · next e => exact e ▸ known
    · exact h.registered (isOnline_iff.2 ⟨link', hl⟩)

/-- A pending connection may be forgotten. -/
theorem dropped (h : r.Coherent isOpen) (hi : r.identities.get? c = none) :
    ({ r with pending := r.pending.erase c } : Relay).Coherent
      fun c' k' => isOpen c' k' ∧ c' ≠ c where
  pending {c' link} hp := by
    simp only [Table.get?_erase] at hp
    split at hp
    · cases hp
    · next hne =>
      obtain ⟨e, hk⟩ := h.pending hp
      exact ⟨e, hk, hne⟩
  online := h.online
  identity {c' p} hi' := by
    obtain ⟨hp, k', ho, hk'⟩ := h.identity hi'
    have hne : c' ≠ c := by
      rintro rfl
      rw [hi] at hi'
      cases hi'
    refine ⟨?_, k', ho, hk', hne⟩
    simp only [Table.get?_erase, if_neg hne]
    exact hp
  kept {c' k'} ho := by
    obtain ⟨hk', hne⟩ := ho
    simp only [Table.get?_erase, if_neg hne]
    exact h.kept hk'
  registered := h.registered

/-- Closing a connection is a logout after which it is forgotten. -/
theorem closed_eq (h : r.Coherent isOpen) :
    r.closed c = { r.demote c with pending := (r.demote c).pending.erase c } := by
  unfold Relay.closed
  split
  · next hp =>
    obtain ⟨link, hl⟩ := Option.isSome_iff_exists.1 hp
    have hi : r.identities.get? c = none := by
      cases hi : r.identities.get? c with
      | none => rfl
      | some p =>
        rw [(h.identity hi).1] at hl
        cases hl
    rw [demote_of_no_identity hi]
  · next hp =>
    have hp' : r.pending.get? c = none := by simpa [Table.contains] using hp
    -- the connection only became pending by the logout, so forgetting it restores the table
    have erased : ∀ t : Table ConnectionId Link, (∀ c', c' ≠ c → t.get? c' = r.pending.get? c') →
        t.erase c = r.pending := by
      intro t ht
      apply Table.ext_get?
      intro c'
      rw [Table.get?_erase]
      split
      · next e => rw [e, hp']
      · next hne => exact ht c' hne
    split
    · next peer hi =>
      obtain ⟨k, -, -, e⟩ := h.demote_eq hi
      rw [e, erased]
      intro c' hne
      rw [Table.get?_insert, if_neg hne]
    · next hi =>
      rw [demote_of_no_identity hi, erased _ fun _ _ => rfl]

theorem closed (h : r.Coherent isOpen) :
    (r.closed c).Coherent fun c' k' => isOpen c' k' ∧ c' ≠ c := by
  rw [h.closed_eq]
  apply h.demote.dropped
  rw [get?_identities_demote, if_pos rfl]

end Coherent

/-! ## Taking an identity over -/

/-- The relay once a connection has left its identity and the peer it wants is free. -/
def vacated (r : Relay) (c : ConnectionId) (peer : String) : Relay :=
  ((r.online.get? peer).map (·.connection)).elim (r.demote c) (r.demote c).demote

/-- Whom a forced login tells that it lost its identity. -/
def notices (r : Relay) (c : ConnectionId) (peer : String) : List Push :=
  ((((r.online.get? peer).map (·.connection)).bind (r.vacated c peer).pending.get?).map
    fun link => ⟨link, Response.ofEvent .logout⟩).toList

theorem db_vacated (r : Relay) (c : ConnectionId) (peer : String) :
    (r.vacated c peer).db = r.db := by
  unfold vacated
  cases r.online.get? peer with
  | none => exact db_demote r c
  | some link =>
    show ((r.demote c).demote link.connection).db = r.db
    rw [db_demote, db_demote]

namespace Coherent

theorem vacated (h : r.Coherent isOpen) : (r.vacated c p).Coherent isOpen := by
  unfold Relay.vacated
  cases r.online.get? p with
  | none => exact h.demote
  | some link => exact h.demote.demote

/-- The peer is online nowhere once its former connection and the new one are free. -/
theorem online_vacated (h : r.Coherent isOpen) : (r.vacated c p).online.get? p = none := by
  cases hv : (r.vacated c p).online.get? p with
  | none => rfl
  | some link =>
    have hi := h.vacated.online hv
    unfold Relay.vacated at hi
    cases hl : r.online.get? p with
    | none =>
      simp only [hl, Option.map_none, Option.elim_none, get?_identities_demote] at hi
      split at hi
      · cases hi
      · obtain ⟨-, k, ho, -⟩ := h.identity hi
        rw [hl] at ho
        cases ho
    | some previous =>
      simp only [hl, Option.map_some, Option.elim_some, get?_identities_demote] at hi
      split at hi
      · cases hi
      · next hne =>
        split at hi
        · cases hi
        · exact absurd (h.identity_injective hi (h.online hl)) hne

/-- The connection itself is pending by then, so that it can be promoted. -/
theorem pending_vacated (h : r.Coherent isOpen) (hk : isOpen c k) :
    (r.vacated c p).pending.get? c = some ⟨c, k⟩ := by
  rcases h.vacated.kept hk with hp | ⟨p', hi, -⟩
  · exact hp
  · exfalso
    unfold Relay.vacated at hi
    cases hl : r.online.get? p with
    | none => simp [hl, get?_identities_demote] at hi
    | some previous => simp [hl, get?_identities_demote] at hi

/-- A takeover always ends in a promotion. -/
theorem takeOver_eq (h : r.Coherent isOpen) (hk : isOpen c k) :
    r.takeOver c p = { relay := (r.vacated c p).promote c ⟨c, k⟩ p, pushes := r.notices c p
                       result := .ok {} } := by
  have hp := h.pending_vacated (p := p) hk
  unfold Relay.vacated at hp
  unfold Relay.takeOver
  simp only [hp]
  rfl

theorem isOpen_of_known (h : r.Coherent isOpen)
    (known : r.identities.contains c = true ∨ r.pending.contains c = true) : ∃ k, isOpen c k := by
  rcases known with hi | hp
  · obtain ⟨p, hi⟩ := Option.isSome_iff_exists.1 hi
    obtain ⟨-, k, -, hk⟩ := h.identity hi
    exact ⟨k, hk⟩
  · obtain ⟨link, hp⟩ := Option.isSome_iff_exists.1 hp
    exact ⟨link.queue, (h.pending hp).2⟩

end Coherent

/-! ## Runs -/

namespace Coherent

theorem leads {time : UInt64} {q : Request} {o : Outcome} (h : r.Coherent isOpen)
    (l : r.Leads c time q o) : o.relay.Coherent isOpen := by
  cases l with
  | refused e => exact h
  | registered _ hr =>
    obtain ⟨-, -, -, rfl⟩ := Database.register_eq_ok_iff.1 hr
    exact h.records fun _ => Database.hasPeer_insertPeer
  | stayed => exact h
  | tookOver _ known _ _ hk =>
    obtain ⟨k, hk⟩ := h.isOpen_of_known hk
    rw [h.takeOver_eq hk]
    refine h.vacated.promote (h.pending_vacated hk) h.online_vacated ?_
    rw [db_vacated, Database.hasPeer_iff]
    obtain ⟨p, hp, -⟩ := Database.authenticate_eq_ok_iff.1 known
    exact ⟨p, hp⟩
  | loggedOut => exact h.demote
  | edited _ _ e =>
    refine h.records fun p hp => ?_
    rw [e.hasPeer]
    exact hp
  | answered => exact h
  | relayed => exact h

/-- Every event keeps the tables coherent with what is open after it. -/
theorem handle {es : List Event} {e : Event} (h : r.Coherent (StillOpen es))
    (fresh : Fresh (es ++ [e])) : (r.handle e).1.Coherent (StillOpen (es ++ [e])) := by
  cases e with
  | opened c k =>
    refine (h.opened fresh.not_stillOpen (k := k)).congr fun c' k' => ?_
    rw [stillOpen_snoc]
    simp [eq_comm]
  | closed c =>
    refine h.closed.congr fun c' k' => ?_
    rw [stillOpen_snoc]
    simp [eq_comm]
  | request c time q =>
    refine (h.leads (leads_dispatch r c time q)).congr fun c' k' => ?_
    rw [stillOpen_snoc]
    simp
  | shutdown =>
    refine h.congr fun c' k' => ?_
    rw [stillOpen_snoc]
    simp

end Coherent

end Rendezvous.Relay

namespace Rendezvous

theorem Fresh.coherent {es : List Event} (h : Fresh es) (db : Database) :
    ((Relay.idle db).after es).Coherent (StillOpen es) := by
  refine Fresh.induction (P := fun es r => r.Coherent (StillOpen es)) ?_ ?_ h
  · refine (Relay.Coherent.idle db).congr fun c k => ?_
    exact iff_false_intro (not_stillOpen_nil c k)
  · intro es e r fresh ih
    exact ih.handle fresh

/-- After every run, the open connections are spread over the two tables, the tables of identities
are inverse to each other, who is online is registered, and a login that passed its checks
succeeds. -/
theorem connections_consistent (db : Database) {es : List Event} (fresh : Fresh es) :
    let r := (Relay.idle db).after es
    (∀ c, (∃ k, StillOpen es c k) → r.pending.contains c = !r.identities.contains c) ∧
    (∀ c, (∀ k, ¬ StillOpen es c k) →
      r.pending.contains c = false ∧ r.identities.contains c = false) ∧
    (∀ c link, r.pending.get? c = some link →
      link.connection = c ∧ StillOpen es c link.queue) ∧
    (∀ c p, r.identities.get? c = some p ↔
      ∃ k, r.online.get? p = some ⟨c, k⟩ ∧ StillOpen es c k) ∧
    (∀ p link, r.online.get? p = some link → r.identities.get? link.connection = some p) ∧
    (∀ c c' p, r.identities.get? c = some p → r.identities.get? c' = some p → c = c') ∧
    (∀ p, r.isOnline p = true → r.db.hasPeer p = true) ∧
    (∀ c p, r.identities.contains c = true ∨ r.pending.contains c = true →
      (r.takeOver c p).result = .ok {}) := by
  intro r
  have h : r.Coherent (StillOpen es) := fresh.coherent db
  refine ⟨?_, ?_, ?_, ?_, ?_, ?_, ?_, ?_⟩
  · rintro c ⟨k, hk⟩
    exact h.pending_eq_not_identity hk
  · intro c hc
    exact h.unknown_of_not_isOpen hc
  · intro c link hp
    exact h.pending hp
  · intro c p
    exact h.identity_iff
  · intro p link ho
    exact h.online ho
  · intro c c' p hi hi'
    exact h.identity_injective hi hi'
  · intro p ho
    exact h.registered ho
  · intro c p known
    obtain ⟨k, hk⟩ := h.isOpen_of_known known
    rw [h.takeOver_eq hk]

theorem connections_consistent_sampleRun :
    Fresh sampleRun ∧ StillOpen sampleRun 3 2 ∧
      let r := (Relay.idle sampleDatabase).after sampleRun
      r.online.get? "bob1234567" = some ⟨3, 2⟩ ∧ r.identities.get? 3 = some "bob1234567" ∧
        r.pending.contains 3 = !r.identities.contains 3 ∧
        (r.takeOver 3 "carol12345").result = .ok {} := by
  obtain ⟨hone, -, -, -, hback, -, -, hlogin⟩ :=
    connections_consistent sampleDatabase fresh_sampleRun
  have isOpen : StillOpen sampleRun 3 2 := ⟨sampleRun.take 4, sampleRun.drop 5, rfl, by decide⟩
  have online : ((Relay.idle sampleDatabase).after sampleRun).online.get? "bob1234567" =
      some ⟨3, 2⟩ := by
    rw [after_sampleRun]
    decide
  have identity := hback _ _ online
  refine ⟨fresh_sampleRun, isOpen, online, identity, hone 3 ⟨2, isOpen⟩, hlogin 3 _ ?_⟩
  left
  simp [Table.contains, identity]

end Rendezvous
