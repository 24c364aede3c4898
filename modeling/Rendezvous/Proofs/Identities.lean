import Rendezvous.Proofs.Refusals
import Rendezvous.Proofs.Replies

/-!
# Who a connection speaks for

The identity of an open connection changes when one of its own logins or logouts succeeds, and when
another connection takes the identity over. In the first case the reply tells so
(`identity_of_own`), in the second a pushed logout does (`identity_of_other`). So whoever reads the
responses to a connection in order, and knows which login or logout is under way, knows the
identity:

    (r.pushedTo e c).foldl (passes awaited) (r.identities.get? c) =
      (r.handle e).1.identities.get? c                               (foldl_passes_pushedTo)
-/

namespace Rendezvous

/-- Whom a connection speaks for once a request on it has succeeded, if that changes it. -/
def Request.identity? (q : Request) : Option (Option String) :=
  match q.action? with
  | .ok .login => some (some q.fromId)
  | .ok .logout => some none
  | _ => none

theorem Request.identity?_eq_none {q : Request} {a : Action} (asked : q.action? = .ok a)
    (login : a ≠ .login) (logout : a ≠ .logout) : q.identity? = none := by
  unfold identity?
  rw [asked]
  cases a with
  | login => exact absurd rfl login
  | logout => exact absurd rfl logout
  | _ => rfl

namespace Response

/-- Whether a response tells that an identity is lost. -/
def isLogout (r : Response) : Bool := r.eventAction? = some .logout

/-- Whom a connection speaks for, by a response to it. Perhaps a login or a logout is under way:
then its token is known, and for whom the connection speaks if it succeeds. -/
def passes (awaited : Option (String × Option String)) (identity : Option String)
    (r : Response) : Option String :=
  if r.isEvent then if r.isLogout then none else identity
  else
    match awaited with
    | some (token, goal) => if r.sequence = token ∧ r.isOk then goal else identity
    | none => identity

/-- The sequences of the replies among some responses. -/
def sequences (rs : List Response) : List String := (rs.filter (!·.isEvent)).map (·.sequence)

theorem mem_sequences {token : String} {rs : List Response} :
    token ∈ sequences rs ↔ ∃ r ∈ rs, r.isEvent = false ∧ r.sequence = token := by
  simp [sequences, and_assoc]

theorem sequences_append (rs rs' : List Response) :
    sequences (rs ++ rs') = sequences rs ++ sequences rs' := by
  simp [sequences]

theorem sequences_of_isEvent {rs : List Response} (told : ∀ r ∈ rs, r.isEvent = true) :
    sequences rs = [] := by
  rw [List.eq_nil_iff_forall_not_mem]
  intro token ht
  obtain ⟨r, hr, isReply, -⟩ := mem_sequences.1 ht
  rw [told r hr] at isReply
  cases isReply

/-- A reply under another token tells nothing. -/
theorem passes_of_ne {token : String} {goal identity : Option String} {r : Response}
    (other : r.isEvent = false → r.sequence ≠ token) :
    passes (some (token, goal)) identity r = passes none identity r := by
  unfold passes
  split
  · rfl
  · next isReply => exact if_neg fun h => other (by simpa using isReply) h.1

/-- No reply is under the token. -/
theorem foldl_passes_of_not_mem {token : String} {goal identity : Option String}
    {rs : List Response} (other : token ∉ sequences rs) :
    rs.foldl (passes (some (token, goal))) identity = rs.foldl (passes none) identity := by
  refine List.foldl_ext _ _ identity fun s r hr => passes_of_ne fun isReply same => ?_
  exact other (mem_sequences.2 ⟨r, hr, isReply, same⟩)

/-- Events tell of nothing but a loss. -/
theorem foldl_passes_of_isEvent {awaited : Option (String × Option String)}
    {identity : Option String} {rs : List Response} (told : ∀ r ∈ rs, r.isEvent = true) :
    rs.foldl (passes awaited) identity = if rs.any (·.isLogout) then none else identity := by
  induction rs generalizing identity with
  | nil => rfl
  | cons r rs ih =>
    rw [List.foldl_cons, ih fun r' hr' => told r' (List.mem_cons_of_mem _ hr')]
    unfold passes
    rw [if_pos (told r (List.mem_cons_self ..)), List.any_cons]
    cases r.isLogout with
    | true => simp
    | false => simp

end Response

namespace Relay

/-- What an event makes the relay push to a connection. -/
def pushedTo (r : Relay) (e : Event) (c : ConnectionId) : List Response :=
  ((r.handle e).2.filter (·.link.connection = c)).map (·.response)

variable {r : Relay} {isOpen : ConnectionId → QueueId → Prop} {c d : ConnectionId} {k : QueueId}
  {time : UInt64} {q : Request} {o : Outcome}

/-- A reply tells whether its request succeeded. -/
theorem Leads.isOk_reply (l : r.Leads c time q o) :
    (reply q o.result).isOk = true ↔ ∃ content, o.result = .ok content := by
  have refused : ∀ e : RelayError, ({ sequence := q.sequence, error := e.message } :
      Response).isOk = false := by
    intro e
    simp [Response.isOk, e.message_ne_empty]
  cases l with
  | refused e =>
    refine iff_of_false ?_ nofun
    show ({ sequence := q.sequence, error := e.message } : Response).isOk ≠ true
    rw [refused]
    decide
  | tookOver =>
    unfold takeOver
    dsimp only
    split
    · exact iff_of_true rfl ⟨_, rfl⟩
    · refine iff_of_false ?_ nofun
      show Response.isOk { sequence := q.sequence, error := RelayError.message _ } ≠ true
      rw [refused]
      decide
  | answered _ _ h =>
    cases h with
    | services => exact iff_of_true rfl ⟨_, rfl⟩
    | myServices => exact iff_of_true rfl ⟨_, rfl⟩
    | showService => exact iff_of_true rfl ⟨_, rfl⟩
  | registered => exact iff_of_true rfl ⟨_, rfl⟩
  | stayed => exact iff_of_true rfl ⟨_, rfl⟩
  | loggedOut => exact iff_of_true rfl ⟨_, rfl⟩
  | edited => exact iff_of_true rfl ⟨_, rfl⟩
  | relayed => exact iff_of_true rfl ⟨_, rfl⟩

/-- What is handed on between two peers tells neither of them of a lost identity. -/
theorem isLogout_of_forward {caller : String} {a b : Action} {p : Push}
    (under : a.relayedAs? = some b) (h : r.forward caller b q = .ok p) :
    p.response.isLogout = false := by
  obtain ⟨_, _, _, _, -, -, -, -, rfl⟩ := forward_eq_ok_iff.1 h
  have named : (Response.ofEvent b).eventAction? = some b := Response.eventAction?_ofEvent b
  have other : b ≠ .logout := by
    rintro rfl
    cases a <;> cases under
  show decide ((Response.ofEvent b).eventAction? = some .logout) = false
  rw [named]
  simp [other]

namespace Coherent

/-- The connection that is told of a takeover is the one that had the identity. -/
theorem connection_of_mem_notices (h : r.Coherent isOpen) {peer : String} {p : Push}
    (hp : p ∈ r.notices c peer) : r.identities.get? p.link.connection = some peer := by
  unfold notices at hp
  rw [Option.mem_toList] at hp
  obtain ⟨link, hl, rfl⟩ := Option.map_eq_some_iff.1 hp
  obtain ⟨previous, hprevious, hl⟩ := Option.bind_eq_some_iff.1 hl
  obtain ⟨held, hheld, rfl⟩ := Option.map_eq_some_iff.1 hprevious
  rw [(h.vacated.pending hl).1]
  exact h.online hheld

/-- Whoever loses an identity is told. -/
theorem mem_notices (h : r.Coherent isOpen) {peer : String} (d : ConnectionId)
    (hi : r.identities.get? c = some peer) :
    ∃ k, ⟨⟨c, k⟩, .ofEvent .logout⟩ ∈ r.notices d peer := by
  obtain ⟨-, k, ho, hk⟩ := h.identity hi
  have freed : (r.vacated d peer).pending.get? c = some ⟨c, k⟩ := by
    rcases h.vacated.kept (c := c) hk with hp | ⟨p', hi', -⟩
    · exact hp
    · exfalso
      unfold Relay.vacated at hi'
      simp [ho, get?_identities_demote] at hi'
  refine ⟨k, ?_⟩
  unfold notices
  rw [ho, Option.mem_toList]
  simp [freed]

theorem get?_identities_vacated (h : r.Coherent isOpen) {peer : String} (other : c ≠ d) :
    (r.vacated d peer).identities.get? c =
      if r.identities.get? c = some peer then none else r.identities.get? c := by
  unfold Relay.vacated
  cases ho : r.online.get? peer with
  | none =>
    have free : r.identities.get? c ≠ some peer := by
      intro hi
      obtain ⟨-, _, ho', -⟩ := h.identity hi
      rw [ho] at ho'
      cases ho'
    simp [get?_identities_demote, other, free]
  | some link =>
    have same : r.identities.get? c = some peer ↔ c = link.connection :=
      h.identity_iff_of_online ho
    simp only [Option.map_some, Option.elim_some, get?_identities_demote, if_neg other, same]

/-- A request on a connection changes its identity as the reply tells. -/
theorem identity_of_own (h : r.Coherent isOpen) (hk : isOpen c k) (l : r.Leads c time q o) :
    o.relay.identities.get? c =
      (if (reply q o.result).isOk then q.identity?.getD (r.identities.get? c)
        else r.identities.get? c) ∧
    ∀ p ∈ o.pushes, p.link.connection = c → p.response.isLogout = false := by
  have ok := l.isOk_reply
  have same : ∀ {a : Action}, q.action? = .ok a → a ≠ .login → a ≠ .logout →
      r.identities.get? c = if (reply q o.result).isOk then q.identity?.getD (r.identities.get? c)
        else r.identities.get? c := by
    intro a asked login logout
    rw [Request.identity?_eq_none asked login logout]
    exact (ite_self _).symm
  cases l with
  | refused e =>
    refine ⟨?_, nofun⟩
    rw [if_neg fun h => nomatch ok.1 h]
    rfl
  | registered asked => exact ⟨same asked nofun nofun, nofun⟩
  | stayed asked _ holds =>
    refine ⟨?_, nofun⟩
    rw [if_pos (ok.2 ⟨_, rfl⟩)]
    unfold Request.identity?
    rw [asked]
    exact holds
  | tookOver asked _ other =>
    rw [h.takeOver_eq hk] at ok ⊢
    refine ⟨?_, fun p hp hc => ?_⟩
    · rw [if_pos (ok.2 ⟨_, rfl⟩)]
      unfold Request.identity?
      rw [asked]
      exact Table.get?_insert_self ..
    · have hi := h.connection_of_mem_notices hp
      rw [hc] at hi
      exact absurd hi other
  | loggedOut asked =>
    refine ⟨?_, nofun⟩
    rw [if_pos (ok.2 ⟨_, rfl⟩)]
    unfold Request.identity?
    rw [asked]
    show (r.demote c).identities.get? c = none
    rw [get?_identities_demote, if_pos rfl]
  | edited _ asked edit =>
    refine ⟨?_, nofun⟩
    cases edit <;> exact same asked nofun nofun
  | answered _ asked answer =>
    refine ⟨?_, nofun⟩
    cases answer <;> exact same asked nofun nofun
  | relayed _ asked under _ forwarded =>
    refine ⟨same asked ?_ ?_, fun p hp _ => ?_⟩
    · rintro rfl
      cases under
    · rintro rfl
      cases under
    · cases List.mem_singleton.1 hp
      exact isLogout_of_forward under forwarded

/-- A request on another connection takes the identity of this one, which is told, or leaves it. -/
theorem identity_of_other (h : r.Coherent isOpen) (other : c ≠ d) (l : r.Leads d time q o) :
    o.relay.identities.get? c =
      if o.pushes.any fun p => p.link.connection = c && p.response.isLogout then none
      else r.identities.get? c := by
  cases l with
  | refused e => rfl
  | registered => rfl
  | stayed => rfl
  | edited => rfl
  | answered => rfl
  | loggedOut =>
    show (r.demote d).identities.get? c = r.identities.get? c
    rw [get?_identities_demote, if_neg other]
  | relayed _ _ under _ forwarded =>
    have quiet := isLogout_of_forward under forwarded
    simp [quiet]
  | tookOver _ _ _ _ known =>
    obtain ⟨k', hk'⟩ := h.isOpen_of_known known
    rw [h.takeOver_eq hk']
    show ((r.vacated d q.fromId).identities.insert d q.fromId).get? c = _
    rw [Table.get?_insert, if_neg other, h.get?_identities_vacated other]
    have told : ((r.notices d q.fromId).any fun p =>
        p.link.connection = c && p.response.isLogout) = true ↔
        r.identities.get? c = some q.fromId := by
      rw [List.any_eq_true]
      constructor
      · rintro ⟨p, hp, hc⟩
        have hc : p.link.connection = c := by simpa using (Bool.and_eq_true_iff.1 hc).1
        rw [← hc]
        exact h.connection_of_mem_notices hp
      · intro hi
        obtain ⟨k, hp⟩ := h.mem_notices d hi
        exact ⟨_, hp, by simp [Response.isLogout, Response.eventAction?_ofEvent]⟩
    simp only [told]

theorem get?_identities_closed (h : r.Coherent isOpen) (other : c ≠ d) :
    (r.closed d).identities.get? c = r.identities.get? c := by
  rw [h.closed_eq]
  show (r.demote d).identities.get? c = _
  rw [get?_identities_demote, if_neg other]

/-- The pushes of a request on an open connection to this connection: events, and its reply. -/
theorem pushedTo_request (h : r.Coherent isOpen) (hk : isOpen c k) :
    r.pushedTo (.request c time q) c =
      ((r.dispatch c time q).pushes.filter (·.link.connection = c)).map (·.response) ++
        [reply q (r.dispatch c time q).result] := by
  unfold pushedTo
  show (((r.dispatch c time q).pushes ++ _).filter _).map _ = _
  rw [h.link?_dispatch hk]
  simp

/-- The pushes of a request on another connection to this one. -/
theorem pushedTo_request_of_ne (h : r.Coherent isOpen) (other : c ≠ d) :
    r.pushedTo (.request d time q) c =
      ((r.dispatch d time q).pushes.filter (·.link.connection = c)).map (·.response) := by
  have l := leads_dispatch r d time q
  have elsewhere : (((r.dispatch d time q).relay.link? d).map fun link =>
      (⟨link, reply q (r.dispatch d time q).result⟩ : Push)).toList.filter
        (·.link.connection = c) = [] := by
    rw [List.filter_eq_nil_iff]
    intro p hp
    rw [Option.mem_toList] at hp
    obtain ⟨link, hl, rfl⟩ := Option.map_eq_some_iff.1 hp
    obtain ⟨there, -⟩ := (h.leads l).link?_eq_some_iff.1 hl
    simp [there, Ne.symm other]
  unfold pushedTo
  show (((r.dispatch d time q).pushes ++ _).filter _).map _ = _
  rw [List.filter_append, elsewhere, List.append_nil]

theorem isEvent_of_mem_pushes (l : r.Leads d time q o) {x : Response}
    (hx : x ∈ (o.pushes.filter (·.link.connection = c)).map (·.response)) : x.isEvent = true := by
  obtain ⟨p, hp, rfl⟩ := List.mem_map.1 hx
  simpa [Response.isEvent] using (l.told.2 p (List.mem_filter.1 hp).1).event_ne_empty

/-- The reply to a login or logout that succeeded is the one that is waited for. -/
theorem passes_reply (l : r.Leads c time q o) {awaited : Option (String × Option String)}
    (expects : ∀ goal, q.identity? = some goal ↔ awaited = some (q.sequence, goal))
    (identity : Option String) :
    Response.passes awaited identity (reply q o.result) =
      if (reply q o.result).isOk then q.identity?.getD identity else identity := by
  have isReply : (reply q o.result).isEvent = false := by
    simp [Response.isEvent, l.event_reply]
  unfold Response.passes
  rw [isReply]
  cases asked : q.identity? with
  | some goal =>
    rw [(expects goal).1 asked]
    simp [sequence_reply]
  | none =>
    rw [asked] at expects
    cases awaited with
    | none => simp
    | some a =>
      obtain ⟨token, goal⟩ := a
      have differs : q.sequence ≠ token := by
        rintro rfl
        cases (expects goal).2 rfl
      simp [sequence_reply, differs]

theorem foldl_passes_own (h : r.Coherent isOpen) {awaited : Option (String × Option String)}
    (expects : ∀ goal, q.identity? = some goal ↔ awaited = some (q.sequence, goal)) :
    (r.pushedTo (.request c time q) c).foldl (Response.passes awaited) (r.identities.get? c) =
      (r.dispatch c time q).relay.identities.get? c := by
  have l := leads_dispatch r c time q
  by_cases known : ∃ k, isOpen c k
  · obtain ⟨k, hk⟩ := known
    obtain ⟨identity, quiet⟩ := h.identity_of_own hk l
    have none : (((r.dispatch c time q).pushes.filter (·.link.connection = c)).map
        (·.response)).any (·.isLogout) = false := by
      rw [List.any_eq_false]
      intro x hx
      obtain ⟨p, hp, rfl⟩ := List.mem_map.1 hx
      obtain ⟨hp, hc⟩ := List.mem_filter.1 hp
      simp [quiet p hp (of_decide_eq_true hc)]
    rw [h.pushedTo_request hk, List.foldl_append,
      Response.foldl_passes_of_isEvent fun x => isEvent_of_mem_pushes l, none, identity]
    exact passes_reply l expects _
  · have unknown : ∀ k, ¬ isOpen c k := fun k hk => known ⟨k, hk⟩
    have nothing : r.pushedTo (.request c time q) c = [] := by
      unfold pushedTo
      rw [h.handle_request_of_not_isOpen unknown]
      rfl
    have before := (h.unknown_of_not_isOpen unknown).2
    have after := ((h.leads l).unknown_of_not_isOpen unknown).2
    unfold Table.contains at before after
    rw [Option.isSome_eq_false_iff, Option.isNone_iff_eq_none] at before after
    rw [nothing, before, after]
    rfl

/-- At most one reply is pushed to a connection, to the request on it. -/
theorem sequences_pushedTo (h : r.Coherent isOpen) (e : Event) :
    Response.sequences (r.pushedTo e c) = [] ∨ ∃ time q, e = .request c time q ∧
      Response.sequences (r.pushedTo e c) = [q.sequence] := by
  cases e with
  | opened => exact .inl rfl
  | shutdown => exact .inl rfl
  | closed => exact .inl rfl
  | request d time q =>
    have l := leads_dispatch r d time q
    by_cases other : c = d
    · subst other
      by_cases known : ∃ k, isOpen c k
      · obtain ⟨k, hk⟩ := known
        refine .inr ⟨time, q, rfl, ?_⟩
        rw [h.pushedTo_request hk, Response.sequences_append,
          Response.sequences_of_isEvent fun x => isEvent_of_mem_pushes l]
        simp [Response.sequences, Response.isEvent, l.event_reply, sequence_reply]
      · left
        unfold pushedTo
        rw [h.handle_request_of_not_isOpen fun k hk => known ⟨k, hk⟩]
        rfl
    · left
      rw [h.pushedTo_request_of_ne other]
      exact Response.sequences_of_isEvent fun x => isEvent_of_mem_pushes l

/-- What is pushed to a connection tells whom it speaks for, if the login or logout that is under
way is the one that is reacted to. -/
theorem foldl_passes_pushedTo (h : r.Coherent isOpen) {e : Event} (stays : e ≠ .closed c)
    {awaited : Option (String × Option String)}
    (expects : ∀ time q, e = .request c time q →
      ∀ goal, q.identity? = some goal ↔ awaited = some (q.sequence, goal)) :
    (r.pushedTo e c).foldl (Response.passes awaited) (r.identities.get? c) =
      (r.handle e).1.identities.get? c := by
  cases e with
  | opened => rfl
  | shutdown => rfl
  | closed d =>
    have other : c ≠ d := fun same => stays (same ▸ rfl)
    exact (h.get?_identities_closed other).symm
  | request d time q =>
    by_cases other : c = d
    · subst other
      exact h.foldl_passes_own (expects time q rfl)
    · have l := leads_dispatch r d time q
      show _ = (r.dispatch d time q).relay.identities.get? c
      rw [h.pushedTo_request_of_ne other,
        Response.foldl_passes_of_isEvent fun x => isEvent_of_mem_pushes l,
        h.identity_of_other other l]
      congr 1
      rw [List.any_map, List.any_filter]
      rfl

end Coherent

end Relay

end Rendezvous
