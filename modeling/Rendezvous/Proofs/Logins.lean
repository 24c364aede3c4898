import Rendezvous.Proofs.Changes
import Rendezvous.Proofs.Identities

/-!
# What a login does

A login on an open connection succeeds if the peer is known by its digest and nobody else speaks
for it, or the login is forced. Then the connection speaks for the peer, whoever spoke for it
before is told so and becomes pending, and nobody else notices (`login_hands_over`).

What is addressed to a peer goes to the connection that speaks for it:

    x ∈ (r.handle e).2 → x.response.isEvent → ∃ peer, r.addressee? e = some peer ∧
      r.identities.get? x.link.connection = some peer                  (Coherent.addressee)

So a connection that lost a peer is sent nothing more that is addressed to it, until it logs in as
that peer itself.
-/

namespace Rendezvous

open Credential (verifies)

/-- Whoever speaks for a peer after a request did so before, or has logged in as that peer. -/
theorem Request.of_identity? {q : Request} {identity : Option String} {p : String}
    (h : q.identity?.getD identity = some p) :
    identity = some p ∨ (q.action? = .ok .login ∧ q.fromId = p) := by
  unfold identity? at h
  split at h
  · next asked => exact .inr ⟨asked, Option.some.inj h⟩
  · cases h
  · exact .inl h

namespace Relay

variable {r r' : Relay} {isOpen : ConnectionId → QueueId → Prop} {c d : ConnectionId}
  {k : QueueId} {time : UInt64} {q : Request} {p : String} {link : Link}

/-! ## Tables that are told from the identities -/

namespace Coherent

/-- A connection is pending under the same queue as long as nothing becomes of its identity. -/
theorem pending_congr (h : r.Coherent isOpen) (h' : r'.Coherent isOpen)
    (same : r'.identities.get? c = r.identities.get? c) :
    r'.pending.get? c = r.pending.get? c := by
  ext link
  rw [h.pending_eq_some_iff, h'.pending_eq_some_iff, same]

theorem online_congr (h : r.Coherent isOpen) (h' : r'.Coherent isOpen)
    (same : ∀ c, r'.identities.get? c = some p ↔ r.identities.get? c = some p) :
    r'.online.get? p = r.online.get? p := by
  ext link
  rw [h.online_eq_some_iff, h'.online_eq_some_iff, same]

end Coherent

/-! ## Who is told of a takeover -/

namespace Coherent

/-- The connection that loses the peer is told, once. -/
theorem notices_eq (h : r.Coherent isOpen) (held : r.identities.get? d = some p) :
    ∃ k, r.notices c p = [⟨⟨d, k⟩, .ofEvent .logout⟩] := by
  obtain ⟨k, hx⟩ := h.mem_notices c held
  refine ⟨k, ?_⟩
  unfold notices at hx ⊢
  rw [Option.mem_toList] at hx
  rw [hx]
  rfl

/-- Nobody but the connection that loses the peer is told. -/
theorem filter_notices (h : r.Coherent isOpen) (other : r.identities.get? d ≠ some p) :
    (r.notices c p).filter (·.link.connection = d) = [] := by
  rw [List.filter_eq_nil_iff]
  intro x hx there
  refine other ?_
  rw [← of_decide_eq_true there]
  exact h.connection_of_mem_notices hx

end Coherent

/-! ## Logging in -/

/-- What a request on an open connection leads to if it is a login. -/
inductive LogsIn (r : Relay) (c : ConnectionId) (q : Request) : Outcome → Prop
  | refused (e : RelayError)
      (cause : r.db.authenticate q.fromId (q.pwdDigest.getD "") ≠ .ok () ∨
        (r.identities.get? c ≠ some q.fromId ∧ (∃ d, r.identities.get? d = some q.fromId) ∧
          q.force = false)) : LogsIn r c q (r.refuse e)
  | stayed (known : r.db.authenticate q.fromId (q.pwdDigest.getD "") = .ok ())
      (held : r.identities.get? c = some q.fromId) : LogsIn r c q r.accept
  | tookOver (known : r.db.authenticate q.fromId (q.pwdDigest.getD "") = .ok ())
      (other : r.identities.get? c ≠ some q.fromId)
      (free : (∀ d, r.identities.get? d ≠ some q.fromId) ∨ q.force = true) :
      LogsIn r c q (r.takeOver c q.fromId)

theorem Coherent.logsIn (h : r.Coherent isOpen) (hk : isOpen c k) (asked : q.action? = .ok .login) :
    r.LogsIn c q (r.dispatch c time q) := by
  have there : r.identities.contains c = true ∨ r.pending.contains c = true := by
    rw [h.pending_eq_not_identity hk]
    cases r.identities.contains c <;> simp
  unfold dispatch
  rw [asked]
  show r.LogsIn c q (r.login c q)
  unfold login
  dsimp only
  split
  · next e unknown => exact .refused e (.inl fun known => nomatch unknown.symm.trans known)
  · next known =>
    split
    · next held => exact .stayed known held
    · next other =>
      split
      · next taken =>
        simp only [Bool.and_eq_true, Bool.not_eq_true', h.isOnline_iff_identity] at taken
        exact .refused _ (.inr ⟨other, taken⟩)
      · next free =>
        rw [if_neg (by rcases there with there | there <;> simp [there])]
        refine .tookOver known other ?_
        rw [Decidable.or_iff_not_imp_right]
        intro unforced d held
        simp [h.isOnline_iff_identity.2 ⟨d, held⟩, unforced] at free

namespace LogsIn

variable {o : Outcome}

/-- A login succeeds if the peer is known by its digest, and is free or the login is forced. -/
theorem ok_iff (l : r.LogsIn c q o) (h : r.Coherent isOpen) (hk : isOpen c k) :
    (∃ content, o.result = .ok content) ↔
      (∃ peer, r.db.peer? q.fromId = some peer ∧
        verifies (q.pwdDigest.getD "") peer.salt peer.passwordDigest = true) ∧
      (r.identities.get? c = some q.fromId ∨ (∀ d, r.identities.get? d ≠ some q.fromId) ∨
        q.force = true) := by
  rw [← Database.authenticate_eq_ok_iff]
  cases l with
  | refused e cause =>
    refine iff_of_false nofun ?_
    rintro ⟨known, allowed⟩
    rcases cause with unknown | ⟨other, ⟨d, held⟩, unforced⟩
    · exact unknown known
    · rcases allowed with same | free | forced
      · exact other same
      · exact free d held
      · rw [unforced] at forced
        cases forced
  | stayed known held => exact iff_of_true ⟨_, rfl⟩ ⟨known, .inl held⟩
  | tookOver known _ free =>
    refine iff_of_true ⟨{}, ?_⟩ ⟨known, .inr free⟩
    rw [h.takeOver_eq hk]

/-- A login that is refused, or for the peer that the connection speaks for, does nothing. -/
theorem unchanged (l : r.LogsIn c q o) (h : r.Coherent isOpen) (hk : isOpen c k)
    (quiet : (¬ ∃ content, o.result = .ok content) ∨ r.identities.get? c = some q.fromId) :
    o.relay = r ∧ o.pushes = [] := by
  cases l with
  | refused => exact ⟨rfl, rfl⟩
  | stayed => exact ⟨rfl, rfl⟩
  | tookOver _ other =>
    rcases quiet with refused | held
    · rw [h.takeOver_eq hk] at refused
      exact absurd ⟨_, rfl⟩ refused
    · exact absurd held other

/-- The connection that logs in is told that it succeeded, and nothing else. -/
theorem told (l : r.LogsIn c q o) (h : r.Coherent isOpen) (hk : isOpen c k)
    (ok : ∃ content, o.result = .ok content) :
    o.pushes.filter (·.link.connection = c) = [] ∧ o.result = .ok {} := by
  cases l with
  | refused =>
    obtain ⟨_, ok⟩ := ok
    cases ok
  | stayed => exact ⟨rfl, rfl⟩
  | tookOver _ other =>
    rw [h.takeOver_eq hk]
    exact ⟨h.filter_notices other, rfl⟩

/-- A login that changes something is a takeover. -/
theorem eq_takeOver (l : r.LogsIn c q o) (ok : ∃ content, o.result = .ok content)
    (other : r.identities.get? c ≠ some q.fromId) : o = r.takeOver c q.fromId := by
  cases l with
  | refused =>
    obtain ⟨_, ok⟩ := ok
    cases ok
  | stayed _ held => exact absurd held other
  | tookOver => rfl

end LogsIn

/-! ## What a successful login leaves behind -/

/-- A connection has got a peer from whoever had it, by an event that is reacted to. Nobody else
notices. -/
structure HandsOver (r : Relay) (e : Event) (r' : Relay) (c : ConnectionId) (k : QueueId)
    (p : String) : Prop where
  /-- The connection speaks for the peer, and is not pending. -/
  holds : r'.identities.get? c = some p ∧ r'.online.get? p = some ⟨c, k⟩ ∧
    r'.pending.get? c = none
  /-- The peer that it spoke for before is offline. -/
  left : ∀ old, r.identities.get? c = some old → r'.isOnline old = false
  /-- The connection that spoke for the peer before is pending, and is told once. -/
  lost : ∀ d, r.identities.get? d = some p → r'.identities.get? d = none ∧
    (∃ k', r'.pending.get? d = some ⟨d, k'⟩) ∧ r.pushedTo e d = [.ofEvent .logout]
  /-- Any other connection stays what it was, and is told nothing. -/
  kept : ∀ d, d ≠ c → r.identities.get? d ≠ some p →
    r'.identities.get? d = r.identities.get? d ∧ r'.pending.get? d = r.pending.get? d ∧
      r.pushedTo e d = []
  /-- Any other peer is reached as before. -/
  reached : ∀ peer, peer ≠ p → r.identities.get? c ≠ some peer →
    r'.online.get? peer = r.online.get? peer
  records : r'.db = r.db ∧ r'.dirty = r.dirty

namespace Coherent

theorem get?_identities_takeOver (h : r.Coherent isOpen) (hk : isOpen c k) (d : ConnectionId) :
    (r.takeOver c p).relay.identities.get? d =
      if d = c then some p
      else if r.identities.get? d = some p then none else r.identities.get? d := by
  rw [h.takeOver_eq hk]
  show ((r.vacated c p).identities.insert c p).get? d = _
  rw [Table.get?_insert]
  split
  · rfl
  · next other => exact h.get?_identities_vacated other

theorem handsOver (h : r.Coherent isOpen) (hk : isOpen c k)
    (other : r.identities.get? c ≠ some q.fromId)
    (turn : r.dispatch c time q = r.takeOver c q.fromId) :
    r.HandsOver (.request c time q) (r.takeOver c q.fromId).relay c k q.fromId := by
  have h' : (r.takeOver c q.fromId).relay.Coherent isOpen :=
    turn ▸ h.leads (leads_dispatch r c time q)
  have identities := h.get?_identities_takeOver (p := q.fromId) hk
  have pushes : (r.dispatch c time q).pushes = r.notices c q.fromId := by
    rw [turn, pushes_takeOver]
  have records := r.records_takeOver c q.fromId
  generalize (r.takeOver c q.fromId).relay = r' at h' identities records ⊢
  have mine : r'.identities.get? c = some q.fromId := by rw [identities, if_pos rfl]
  constructor
  · exact ⟨mine, h'.online_eq_some_iff.2 ⟨mine, hk⟩, (h'.identity mine).1⟩
  · intro old held
    rw [← Bool.not_eq_true, h'.isOnline_iff_identity]
    rintro ⟨d, found⟩
    have differs : old ≠ q.fromId := fun same => other (same ▸ held)
    rw [identities] at found
    split at found
    · exact differs (Option.some.inj found).symm
    · next elsewhere =>
      split at found
      · cases found
      · exact elsewhere (h.identity_injective found held)
  · intro d held
    have elsewhere : d ≠ c := fun same => other (same ▸ held)
    have gone : r'.identities.get? d = none := by
      rw [identities, if_neg elsewhere, if_pos held]
    obtain ⟨-, k', -, hk'⟩ := h.identity held
    refine ⟨gone, ⟨k', h'.pending_eq_some_iff.2 ⟨rfl, hk', gone⟩⟩, ?_⟩
    obtain ⟨k'', told⟩ := h.notices_eq (c := c) held
    rw [h.pushedTo_request_of_ne elsewhere, pushes, told]
    simp
  · intro d elsewhere unheld
    have same : r'.identities.get? d = r.identities.get? d := by
      rw [identities, if_neg elsewhere, if_neg unheld]
    refine ⟨same, h.pending_congr h' same, ?_⟩
    rw [h.pushedTo_request_of_ne elsewhere, pushes, h.filter_notices unheld]
    rfl
  · intro peer differs notMine
    refine h.online_congr h' fun d => ?_
    rw [identities]
    by_cases same : d = c
    · subst same
      rw [if_pos rfl]
      exact iff_of_false (fun e => differs (Option.some.inj e).symm) notMine
    · rw [if_neg same]
      split
      · next held =>
        rw [held]
        exact iff_of_false (by simp) fun e => differs (Option.some.inj e).symm
      · rfl
  · exact records

end Coherent

/-! ## Whom events are for -/

/-- The peer that is told of what a request does: whoever loses the peer that is logged in as, or
the other end of the session. -/
def addressee? (r : Relay) : Event → Option String
  | .request c _ q =>
    match q.action? with
    | .ok .login => some q.fromId
    | .ok _ =>
      (r.identities.get? c).bind fun caller =>
        (r.db.forwardTarget caller (q.serviceName.getD "") q.toId).toOption
    | .error _ => none
  | _ => none

/-- An event goes to the connection that speaks for the peer that it is for. -/
theorem Coherent.addressee (h : r.Coherent isOpen) {e : Event} {x : Push}
    (pushed : x ∈ (r.handle e).2) (event : x.response.isEvent = true) :
    ∃ peer, r.addressee? e = some peer ∧ r.identities.get? x.link.connection = some peer := by
  have named : x.response.event ≠ "" := by simpa [Response.isEvent] using event
  obtain ⟨c, time, q, rfl, hx, -⟩ := mem_pushes_of_event pushed named
  have l := leads_dispatch r c time q
  generalize r.dispatch c time q = o at hx l
  cases l with
  | tookOver asked =>
    rw [pushes_takeOver] at hx
    exact ⟨q.fromId, by simp only [addressee?, asked], h.connection_of_mem_notices hx⟩
  | @relayed caller a b push who asked under _ forwarded =>
    cases List.mem_singleton.1 hx
    obtain ⟨name, _, target, link, stated, -, ht, online, rfl⟩ := forward_eq_ok_iff.1 forwarded
    refine ⟨target, ?_, h.online online⟩
    obtain ⟨stated, -⟩ := Request.requireServiceName_eq_ok_iff.1 stated
    have answer : (r.identities.get? c).bind (fun caller =>
        (r.db.forwardTarget caller (q.serviceName.getD "") q.toId).toOption) = some target := by
      rw [who, stated]
      show (r.db.forwardTarget caller name q.toId).toOption = some target
      rw [ht]
      rfl
    cases a with
    | login => cases under
    | _ => simpa only [addressee?, asked] using answer
  | refused => cases hx
  | registered => cases hx
  | stayed => cases hx
  | loggedOut => cases hx
  | edited => cases hx
  | answered => cases hx

theorem Coherent.addressee_of_mem_pushedTo (h : r.Coherent isOpen) {e : Event} {x : Response}
    (pushed : x ∈ r.pushedTo e d) (event : x.isEvent = true) :
    ∃ peer, r.addressee? e = some peer ∧ r.identities.get? d = some peer := by
  obtain ⟨y, hy, rfl⟩ := List.mem_map.1 pushed
  obtain ⟨hy, there⟩ := List.mem_filter.1 hy
  obtain ⟨peer, addressed, speaks⟩ := h.addressee hy event
  rw [of_decide_eq_true there] at speaks
  exact ⟨peer, addressed, speaks⟩

/-! ## Once an identity is lost -/

/-- An event by which a connection gets a peer, or keeps it: its own login as that peer succeeds. -/
def Gains (r : Relay) (e : Event) (c : ConnectionId) (p : String) : Prop :=
  ∃ time q, e = .request c time q ∧ q.action? = .ok .login ∧ q.fromId = p ∧
    ∃ content, (r.dispatch c time q).result = .ok content

/-- A connection does not get a peer but by its own login. -/
theorem Coherent.stays_without (h : r.Coherent isOpen) {e : Event}
    (without : r.identities.get? c ≠ some p) (none : ¬ r.Gains e c p) :
    (r.handle e).1.identities.get? c ≠ some p := by
  cases e with
  | opened => exact without
  | shutdown => exact without
  | closed d =>
    show (r.closed d).identities.get? c ≠ some p
    rw [h.closed_eq]
    show (r.demote d).identities.get? c ≠ some p
    rw [get?_identities_demote]
    split
    · simp
    · exact without
  | request d time q =>
    have l := leads_dispatch r d time q
    show (r.dispatch d time q).relay.identities.get? c ≠ some p
    by_cases same : c = d
    · subst same
      by_cases known : ∃ k, isOpen c k
      · obtain ⟨k, hk⟩ := known
        rw [(h.identity_of_own hk l).1]
        split
        · next ok =>
          intro gained
          rcases Request.of_identity? gained with kept | ⟨asked, rfl⟩
          · exact without kept
          · exact none ⟨time, q, rfl, asked, rfl, l.isOk_reply.1 ok⟩
        · exact without
      · obtain ⟨-, gone⟩ := (h.leads l).unknown_of_not_isOpen fun k hk => known ⟨k, hk⟩
        intro held
        simp [Table.contains, held] at gone
    · rw [h.identity_of_other same l]
      split
      · simp
      · exact without

end Relay

/-- A connection that has no claim to a peer does not get it until it logs in as that peer. -/
theorem Fresh.stays_without {db : Database} {es later : List Event} {d : ConnectionId}
    {p : String} (fresh : Fresh (es ++ later))
    (without : ((Relay.idle db).after es).identities.get? d ≠ some p)
    (none : ∀ before e rest, later = before ++ e :: rest →
      ¬ (((Relay.idle db).after es).after before).Gains e d p) :
    (((Relay.idle db).after es).after later).identities.get? d ≠ some p := by
  induction later using List.reverseRecOn with
  | nil => exact without
  | append_singleton later e ih =>
    rw [← List.append_assoc] at fresh
    have coherent := fresh.of_snoc.coherent db
    rw [Relay.after_append] at coherent
    rw [Relay.after_snoc]
    refine coherent.stays_without ?_ (none later e [] rfl)
    exact ih fresh.of_snoc fun before e' rest split => none before e' (rest ++ [e]) (by simp [split])

/-- Until then, whatever event is pushed to it is for another peer. -/
theorem Fresh.pushed_for_others {db : Database} {es later : List Event} {d : ConnectionId}
    {p : String} {g : Event} {x : Response} (fresh : Fresh (es ++ later))
    (without : ((Relay.idle db).after es).identities.get? d ≠ some p)
    (none : ∀ before e rest, later = before ++ e :: rest →
      ¬ (((Relay.idle db).after es).after before).Gains e d p)
    (pushed : x ∈ (((Relay.idle db).after es).after later).pushedTo g d)
    (event : x.isEvent = true) :
    ∃ other, other ≠ p ∧
      (((Relay.idle db).after es).after later).addressee? g = some other ∧
      (((Relay.idle db).after es).after later).identities.get? d = some other := by
  have without := fresh.stays_without without none
  have coherent := fresh.coherent db
  rw [Relay.after_append] at coherent
  obtain ⟨other, addressed, speaks⟩ := coherent.addressee_of_mem_pushedTo pushed event
  refine ⟨other, ?_, addressed, speaks⟩
  rintro rfl
  exact without speaks

/-- After any run, a login on an open connection succeeds exactly if the peer is known by its
digest, and the connection speaks for it already, nobody does, or the login is forced. A login that
is refused, or is for the peer that the connection speaks for already, changes nothing, and only
the connection is told anything. Any other login hands the peer over to the connection; and if
another connection loses the peer by it, then until that logs in as the peer itself, every event
that is pushed to it is for some other peer that it speaks for. -/
theorem login_hands_over (db : Database) {es : List Event} (fresh : Fresh es) {c : ConnectionId}
    {k : QueueId} (isOpen : StillOpen es c k) (time : UInt64) {q : Request}
    (asked : q.action? = .ok .login) :
    let r := (Relay.idle db).after es
    let e := Event.request c time q
    let succeeds := ∃ content, (r.dispatch c time q).result = .ok content
    (succeeds ↔
      (∃ peer, r.db.peer? q.fromId = some peer ∧
        verifies (q.pwdDigest.getD "") peer.salt peer.passwordDigest = true) ∧
      (r.identities.get? c = some q.fromId ∨ (∀ d, r.identities.get? d ≠ some q.fromId) ∨
        q.force = true)) ∧
    (¬ succeeds ∨ r.identities.get? c = some q.fromId →
      r.handle e = (r, [⟨⟨c, k⟩, Relay.reply q (r.dispatch c time q).result⟩])) ∧
    (succeeds → r.pushedTo e c = [{ sequence := q.sequence }]) ∧
    (succeeds → r.identities.get? c ≠ some q.fromId →
      r.HandsOver e (r.handle e).1 c k q.fromId ∧
      ∀ d, r.identities.get? d = some q.fromId → ∀ later g, Fresh (es ++ e :: later ++ [g]) →
        (∀ before e' rest, later = before ++ e' :: rest →
          ¬ (r.after (e :: before)).Gains e' d q.fromId) →
        ∀ x ∈ (r.after (e :: later)).pushedTo g d, x.isEvent = true →
          ∃ other, other ≠ q.fromId ∧ (r.after (e :: later)).addressee? g = some other ∧
            (r.after (e :: later)).identities.get? d = some other) := by
  intro r e succeeds
  have h : r.Coherent (StillOpen es) := fresh.coherent db
  have l : r.LogsIn c q (r.dispatch c time q) := h.logsIn isOpen asked
  refine ⟨l.ok_iff h isOpen, fun quiet => ?_, fun ok => ?_, fun ok other => ?_⟩
  · obtain ⟨relay, pushes⟩ := l.unchanged h isOpen quiet
    show ((r.dispatch c time q).relay, _) = _
    rw [h.link?_dispatch isOpen, relay, pushes]
    rfl
  · obtain ⟨pushes, result⟩ := l.told h isOpen ok
    show r.pushedTo (.request c time q) c = _
    rw [h.pushedTo_request isOpen, pushes, result]
    rfl
  · have turn := l.eq_takeOver ok other
    have hands := h.handsOver isOpen other turn
    rw [← turn] at hands
    refine ⟨hands, fun d held later g fresh' none x pushed event => ?_⟩
    have fresh' : Fresh (es ++ [e] ++ later) := by simpa using fresh'.of_snoc
    have lost := (hands.lost d held).1
    have gone : ((Relay.idle db).after (es ++ [e])).identities.get? d ≠ some q.fromId := by
      rw [Relay.after_snoc]
      exact fun speaks => nomatch lost.symm.trans speaks
    have others := fresh'.pushed_for_others (g := g) (x := x) gone
    rw [Relay.after_snoc] at others
    exact others none pushed event

/-- Bob's owner end acknowledges a session to Carol. -/
def sampleAcknowledgement : Request :=
  { sequence := "s3", action := "ice-open-ack", toId := some "carol12345",
    serviceName := some "ssh-box" }

/-- Bob moves from the first connection to the third. The first one logs in as Carol then, and so
gets an event again, one for Carol. -/
theorem login_hands_over_sampleRun :
    let es := sampleRun.take 5
    let r := (Relay.idle sampleDatabase).after es
    let e := Event.request 3 0 (sampleLogin "bob1234567" true)
    let r' := r.after [e, .request 1 0 (sampleLogin "carol12345" true)]
    StillOpen es 3 2 ∧ r.HandsOver e (r.handle e).1 3 2 "bob1234567" ∧
      r.pushedTo e 1 = [.ofEvent .logout] ∧
      ∃ x ∈ r'.pushedTo (.request 3 0 sampleAcknowledgement) 1, x.isEvent = true ∧
        ∃ other, other ≠ "bob1234567" ∧ r'.identities.get? 1 = some other := by
  intro es r e r'
  have fresh : Fresh es := by
    unfold Fresh
    decide
  have isOpen : StillOpen es 3 2 := ⟨sampleRun.take 4, [], rfl, nofun⟩
  obtain ⟨ok_iff, -, -, moved⟩ := login_hands_over sampleDatabase fresh isOpen 0
    (q := sampleLogin "bob1234567" true) rfl
  have known : (r.db.peer? "bob1234567").map (fun peer =>
      verifies sampleDigest peer.salt peer.passwordDigest) = some true := by decide +kernel
  have held : r.identities.get? 1 = some "bob1234567" ∧ r.identities.get? 3 = none := by
    decide +kernel
  obtain ⟨peer, found, verified⟩ := Option.map_eq_some_iff.1 known
  have ok := ok_iff.2 ⟨⟨peer, found, verified⟩, .inr (.inr rfl)⟩
  obtain ⟨hands, others⟩ := moved ok fun speaks => nomatch held.2.symm.trans speaks
  refine ⟨isOpen, hands, (hands.lost 1 held.1).2.2, ?_⟩
  have pushed : (r'.pushedTo (.request 3 0 sampleAcknowledgement) 1).any (·.isEvent) = true := by
    decide +kernel
  obtain ⟨x, pushed, event⟩ := List.any_eq_true.1 pushed
  obtain ⟨other, differs, -, speaks⟩ := others 1 held.1
    [.request 1 0 (sampleLogin "carol12345" true)] (.request 3 0 sampleAcknowledgement) (by
      unfold Fresh
      decide) (by
      intro before e' rest split
      rcases before with _ | ⟨_, before⟩
      · cases split
        rintro ⟨_, _, same, -, bob, -⟩
        cases same
        exact absurd bob (by decide)
      · simp at split) x pushed event
  exact ⟨x, pushed, event, other, differs, speaks⟩

end Rendezvous
