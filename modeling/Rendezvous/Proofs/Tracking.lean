import Rendezvous.Proofs.Sitting

/-!
# What a client has heard

By all that a client has taken in, its connection speaks for somebody (`Sitting.heard`); what is
still on its way changes that to whom the relay takes the connection for:

    (w.x.transit c).foldl (passes w.awaited) w.heard = w.x.server.relay.identities.get? c
                                                                     (Tracks.identity)

This holds at every point of a sitting (`Sitting.Tracks`). Here are the steps of the client; what it
takes in and what the relay does follow in `Rendezvous.Proofs.Sessions`.
-/

namespace Rendezvous

open Response (passes sequences)

/-- Whom the client takes itself for when a call succeeds. -/
def Phase.goal : Phase → Option String
  | .idle => none
  | .calling _ goal => goal
  | .noting goal => goal

/-- Whether a move is no login without a name. Such a login is sent as one for whom the client takes
itself for, but its caller notes the empty name. -/
def Move.namesPeer : Move → Bool
  | .begin _ _ q => q.action? ≠ .ok .login || q.fromId ≠ ""
  | _ => true

/-- Whether a move begins no call, takes no response in and lets the relay not react. -/
def Move.isPlain : Move → Bool
  | .begin .. | .receive _ | .react => false
  | _ => true

namespace Client

theorem session_enqueue (c : Client) (call : Call) (q : Request) :
    (c.enqueue call q).session = c.session := by
  unfold enqueue
  split <;> rfl

theorem session_unblock (c : Client) : c.unblock.session = c.session := by
  unfold unblock
  split
  · rfl
  · split <;> rfl

/-- A login that says for whom is sent as it is. -/
theorem identity?_address (c : Client) {now : Nat} {tokens : List String} {q : Request}
    (names : (Move.begin now tokens q).namesPeer = true) (token : String) :
    (c.address q token).identity? = q.identity? := by
  have same : (c.address q token).action? = q.action? := rfl
  unfold Request.identity?
  rw [same]
  split
  · next login =>
    have named : q.fromId.isEmpty = false := by
      unfold Move.namesPeer at names
      simpa [login] using names
    unfold address
    simp [named]
  · rfl
  · rfl

end Client

namespace Exchange

variable {mine : ConnectionId → Bool} {x y : Exchange} {m : Move} {c : ConnectionId}

/-- A step at which the client takes in some responses, perhaps none. For the rest it is not about
what the connection carries and for whom it speaks. -/
structure Takes (c : ConnectionId) (taken : List Response) (x y : Exchange) : Prop where
  stays : .closed c ∉ y.mailbox
  transit : x.transit c = taken ++ y.transit c
  calls : x.calls ⊆ y.calls
  identities : y.server.relay.identities.get? c = x.server.relay.identities.get? c
  unhandled : ∀ {q goal}, q.identity? = some goal → y.Unhandled c q → x.Unhandled c q

theorem Steps.takes (s : x.Steps mine m y) (posted : x.Posted mine) (routed : x.Routed mine)
    (isMine : mine c = true) (kept : x.keeps c y m = true) (plain : m.isPlain = true) :
    Takes c [] x y := by
  have reacts : m ≠ .react := by
    rintro rfl
    cases plain
  refine ⟨not_mem_of_keeps kept, ?_, s.calls_prefix.subset, ?_, fun _ => ?_⟩
  · refine (s.transit_eq posted routed isMine kept ?_ reacts).symm
    rintro d rfl
    cases plain
  · rw [s.relay_eq reacts]
  · refine s.unhandled posted isMine ?_
    rintro now tokens q rfl
    cases plain

end Exchange

namespace Sitting

open Exchange (Takes)

variable {c : ConnectionId} {w v : Sitting} {m : Move} {y : Exchange}

/-- The token of the login or logout that waits for its reply, and its goal. -/
def awaited (w : Sitting) : Option (String × Option String) :=
  match w.phase with
  | .calling call goal =>
    if w.x.client.correlator.waiter? call.waiter = some .waiting then some (call.token, goal)
    else none
  | _ => none

/-- For whom the connection speaks, by all that the client has taken in. -/
def heard (w : Sitting) : Option String :=
  if w.isSucceeding then if w.late then none else w.phase.goal
  else if w.overtaken then none else w.x.client.session

/-- What a sitting keeps up. -/
structure Tracks (c : ConnectionId) (w : Sitting) : Prop where
  stays : .closed c ∉ w.x.mailbox
  once : (sequences (w.x.transit c)).Nodup
  /-- A login or logout that is on its way is that of the present call, which waits. -/
  asked : ∀ {q goal}, w.x.Unhandled c q → q.identity? = some goal →
    ∃ call, w.phase = .calling call goal ∧ (call, q) ∈ w.x.calls ∧
      w.x.client.correlator.waiter? call.waiter = some .waiting
  calling : ∀ {call goal}, w.phase = .calling call goal →
    ∃ q, (call, q) ∈ w.x.calls ∧ q.identity? = some goal
  late : w.late = true → w.isSucceeding = true
  overtaken : w.overtaken = true → w.x.client.session.isSome = true
  identity : (w.x.transit c).foldl (passes w.awaited) w.heard =
    w.x.server.relay.identities.get? c

/-! ## The present call -/

theorem isSucceeding_of_not_delivered {call : Call} {goal : Option String}
    (phase : w.phase = .calling call goal)
    (none : ∀ r, w.x.client.correlator.waiter? call.waiter ≠ some (.delivered r)) :
    w.isSucceeding = false := by
  unfold isSucceeding Client.reply?
  rw [phase]
  dsimp only
  split
  · next r found => exact absurd found (none r)
  · rfl

theorem awaited_of_waiting {call : Call} {goal : Option String}
    (phase : w.phase = .calling call goal)
    (waits : w.x.client.correlator.waiter? call.waiter = some .waiting) :
    w.awaited = some (call.token, goal) := by
  unfold awaited
  rw [phase]
  exact if_pos waits

theorem awaited_of_not_waiting {call : Call} {goal : Option String}
    (phase : w.phase = .calling call goal)
    (ended : w.x.client.correlator.waiter? call.waiter ≠ some .waiting) : w.awaited = none := by
  unfold awaited
  rw [phase]
  exact if_neg ended

/-- What is awaited is the present call. -/
theorem eq_of_awaited {token : String} {goal : Option String}
    (h : w.awaited = some (token, goal)) :
    ∃ call, w.phase = .calling call goal ∧ call.token = token ∧
      w.x.client.correlator.waiter? call.waiter = some .waiting := by
  unfold awaited at h
  split at h
  · next call goal' phase =>
    split at h
    · next waits =>
      cases h
      exact ⟨call, phase, rfl, waits⟩
    · cases h
  · cases h

/-- Whether the reply has come depends on where the present call waits. -/
theorem congr_of_waiter (waiter : ∀ call goal, w.phase = .calling call goal →
      y.client.correlator.waiter? call.waiter = w.x.client.correlator.waiter? call.waiter) :
    ({ w with x := y } : Sitting).awaited = w.awaited ∧
      ({ w with x := y } : Sitting).isSucceeding = w.isSucceeding := by
  unfold awaited isSucceeding Client.reply?
  dsimp only
  cases phase : w.phase with
  | idle => exact ⟨rfl, rfl⟩
  | noting => exact ⟨rfl, rfl⟩
  | calling call goal =>
    dsimp only
    rw [waiter call goal phase]
    exact ⟨rfl, rfl⟩

theorem heard_congr (succeeding : ({ w with x := y } : Sitting).isSucceeding = w.isSucceeding)
    (session : y.client.session = w.x.client.session) :
    ({ w with x := y } : Sitting).heard = w.heard := by
  unfold heard
  rw [succeeding]
  dsimp only
  rw [session]

theorem phaseAfter_begin {now : Nat} {tokens : List String} {q sent : Request} {call : Call}
    (last : y.calls.getLast? = some (call, sent)) :
    w.phaseAfter (.begin now tokens q) y = q.identity?.elim w.phase (.calling call) := by
  unfold phaseAfter
  dsimp only
  rw [last]
  cases q.identity? <;> rfl

namespace Tracks

/-- What has to be shown of a step that is about the client alone. -/
theorem takes (h : w.Tracks c) {taken : List Response} (t : Takes c taken w.x v.x)
    (calling : ∀ {call goal}, v.phase = .calling call goal → w.phase = .calling call goal)
    (asked : ∀ {call goal q}, w.phase = .calling call goal → (call, q) ∈ w.x.calls →
      w.x.client.correlator.waiter? call.waiter = some .waiting → w.x.Unhandled c q →
      v.x.Unhandled c q → v.phase = .calling call goal ∧
        v.x.client.correlator.waiter? call.waiter = some .waiting)
    (late : v.late = true → v.isSucceeding = true)
    (overtaken : v.overtaken = true → v.x.client.session.isSome = true)
    (heard : (v.x.transit c).foldl (passes v.awaited) v.heard =
      (v.x.transit c).foldl (passes w.awaited) (taken.foldl (passes w.awaited) w.heard)) :
    v.Tracks c where
  stays := t.stays
  once := by
    have once := h.once
    rw [t.transit, Response.sequences_append] at once
    exact (List.nodup_append.1 once).2.1
  asked hq ha := by
    have before := t.unhandled ha hq
    obtain ⟨call, phase, called, waits⟩ := h.asked before ha
    obtain ⟨phase', waits'⟩ := asked phase called waits before hq
    exact ⟨call, phase', t.calls called, waits'⟩
  calling phase := by
    obtain ⟨q, called, ha⟩ := h.calling (calling phase)
    exact ⟨q, t.calls called, ha⟩
  late := late
  overtaken := overtaken
  identity := by
    rw [heard, ← List.foldl_append, ← t.transit, t.identities]
    exact h.identity

/-- What is not about the connection and the present call keeps everything. -/
theorem aside (h : w.Tracks c) (t : Takes c [] w.x y)
    (session : y.client.session = w.x.client.session)
    (waiter : ∀ call goal, w.phase = .calling call goal →
      y.client.correlator.waiter? call.waiter = w.x.client.correlator.waiter? call.waiter) :
    ({ w with x := y } : Sitting).Tracks c := by
  obtain ⟨awaited, succeeding⟩ := congr_of_waiter waiter
  refine h.takes t id ?_ ?_ ?_ ?_
  · intro call goal q phase _ waits _ _
    exact ⟨phase, (waiter call goal phase).trans waits⟩
  · rw [succeeding]
    exact h.late
  · dsimp only
    rw [session]
    exact h.overtaken
  · rw [awaited, heard_congr succeeding session]
    rfl

/-- The present call returns. -/
theorem ended (h : w.Tracks c) (t : Takes c [] w.x y) {call : Call} {goal : Option String}
    {succeeds : Bool} (session : y.client.session = w.x.client.session)
    (phase : w.phase = .calling call goal)
    (ended : w.x.client.correlator.waiter? call.waiter ≠ some .waiting)
    (outcome : w.isSucceeding = succeeds) :
    ({ w with x := y, phase := if succeeds then .noting goal else .idle } : Sitting).Tracks c := by
  have late := h.late
  rw [outcome] at late
  refine h.takes t ?_ ?_ ?_ ?_ ?_
  · intro call' goal' phase'
    cases succeeds <;> cases phase'
  · intro call' goal' q phase' _ waits
    rw [phase] at phase'
    cases phase'
    exact absurd waits ended
  · intro isLate
    cases late isLate
    rfl
  · dsimp only
    rw [session]
    exact h.overtaken
  · rw [awaited_of_not_waiting phase ended]
    unfold heard
    rw [phase, outcome, ← session]
    cases succeeds <;> rfl

/-- The caller notes the success. -/
theorem noted (h : w.Tracks c) (t : Takes c [] w.x y) {goal : Option String}
    (phase : w.phase = .noting goal) (session : y.client.session = goal) :
    ({ x := y, phase := .idle, late := false, overtaken := w.late && goal.isSome } :
      Sitting).Tracks c := by
  refine h.takes t nofun ?_ nofun ?_ ?_
  · intro call goal' q phase'
    rw [phase] at phase'
    cases phase'
  · dsimp only
    rw [session]
    exact fun overtaken => (Bool.and_eq_true_iff.1 overtaken).2
  · unfold awaited heard isSucceeding
    rw [phase]
    dsimp only
    rw [session]
    cases w.late <;> cases goal <;> rfl

/-! ## Steps of the client -/

/-- Another call begins. -/
theorem begin_other (h : w.Tracks c) (settled : w.x.Settled (· = c)) {now : Nat}
    {tokens : List String} {q : Request} {client : Client} {call : Call}
    (began : w.x.client.begin now tokens q = .ok (client, call))
    (fresh : w.x.client.correlator.sweep now = w.x.client.correlator)
    (other : (w.x.client.address q call.token).identity? = none) :
    ({ w with x := { w.x with
        client := client
        calls := w.x.calls ++ [(call, w.x.client.address q call.token)] } } :
      Sitting).Tracks c := by
  have unhandled : ∀ {p goal}, p.identity? = some goal →
      ({ w.x with client := client } : Exchange).Unhandled c p → w.x.Unhandled c p := by
    intro p goal asked hp
    rcases Exchange.unhandled_begin began hp with hp | rfl
    · exact hp
    · rw [other] at asked
      cases asked
  obtain ⟨k, a, -, registered, rfl⟩ := Client.of_begin began
  refine h.aside ⟨h.stays, rfl, List.subset_append_left .., rfl, unhandled⟩ ?_ ?_
  · exact Client.session_enqueue ..
  · intro present goal phase
    obtain ⟨p, called, -⟩ := h.calling phase
    dsimp only
    rw [Client.correlator_enqueue]
    exact (settled.serves.waiter?_register registered fresh).2 present
      (List.mem_map_of_mem (f := Prod.fst) called)

/-- A login or logout begins. -/
theorem begin_own (h : w.Tracks c) (posted : w.x.Posted (· = c)) (routed : w.x.Routed (· = c))
    (settled : w.x.Settled (· = c)) {now : Nat} {tokens : List String} {q : Request}
    {client : Client} {call : Call} {goal : Option String}
    (began : w.x.client.begin now tokens q = .ok (client, call))
    (distinct : ((w.x.calls ++ [(call, w.x.client.address q call.token)]).map
      (·.1.token)).Nodup)
    (fresh : w.x.client.correlator.sweep now = w.x.client.correlator) (idle : w.phase = .idle)
    (asks : (w.x.client.address q call.token).identity? = some goal) :
    ({ w with
        x := { w.x with
          client := client
          calls := w.x.calls ++ [(call, w.x.client.address q call.token)] }
        phase := .calling call goal } : Sitting).Tracks c := by
  have unhandled : ∀ {p}, ({ w.x with client := client } : Exchange).Unhandled c p →
      w.x.Unhandled c p ∨ p = w.x.client.address q call.token := Exchange.unhandled_begin began
  obtain ⟨k, a, -, registered, rfl⟩ := Client.of_begin began
  have waits : ({ w.x.client with correlator := k }.enqueue call
      (w.x.client.address q call.token)).correlator.waiter? call.waiter = some .waiting := by
    rw [Client.correlator_enqueue]
    exact (settled.serves.waiter?_register registered fresh).1
  have new : call.token ∉ sequences (w.x.transit c) := by
    intro ht
    obtain ⟨call', q', called, same, -⟩ :=
      posted.call_of_mem_sequences routed (decide_eq_true rfl) ht
    rw [List.map_append] at distinct
    exact (List.nodup_append.1 distinct).2.2 _ (List.mem_map_of_mem (f := (·.1.token)) called) _
      (List.mem_singleton.2 rfl) same
  have idleBefore : w.isSucceeding = false := by
    unfold isSucceeding
    rw [idle]
  have notLate : w.late = false := by
    have late := h.late
    rw [idleBefore] at late
    simpa using late
  have identity := h.identity
  have awaits : w.awaited = none := by
    unfold awaited
    rw [idle]
  have was : w.heard = if w.overtaken then none else w.x.client.session := by
    unfold heard
    rw [idleBefore]
    rfl
  rw [awaits, was] at identity
  constructor
  case stays => exact h.stays
  case once => exact h.once
  case asked =>
    intro p goal' hp asked
    rcases unhandled hp with hp | rfl
    · obtain ⟨call', phase, -⟩ := h.asked hp asked
      rw [idle] at phase
      cases phase
    · rw [asks] at asked
      cases asked
      exact ⟨call, rfl, List.mem_append_right _ (List.mem_singleton.2 rfl), waits⟩
  case calling =>
    intro call' goal' phase
    cases phase
    exact ⟨_, List.mem_append_right _ (List.mem_singleton.2 rfl), asks⟩
  case late =>
    intro late
    have late : w.late = true := late
    rw [notLate] at late
    cases late
  case overtaken =>
    intro overtaken
    dsimp only
    rw [Client.session_enqueue]
    exact h.overtaken overtaken
  case identity =>
    rw [awaited_of_waiting rfl waits]
    show (w.x.transit c).foldl _ _ = _
    rw [Response.foldl_passes_of_not_mem new]
    unfold heard
    rw [isSucceeding_of_not_delivered rfl fun r found => by rw [waits] at found; cases found]
    dsimp only
    rw [Client.session_enqueue]
    exact identity

/-- The reply to a request that is on its way cannot be on its way. -/
theorem not_mem_sequences (posted : w.x.Posted (· = c)) (routed : w.x.Routed (· = c))
    (distinct : (w.x.calls.map (·.1.token)).Nodup) {call : Call} {q : Request}
    (called : (call, q) ∈ w.x.calls) (hq : w.x.Unhandled c q) :
    call.token ∉ sequences (w.x.transit c) := by
  intro ht
  obtain ⟨call', q', called', same, handled⟩ :=
    posted.call_of_mem_sequences routed (decide_eq_true rfl) ht
  obtain ⟨-, rfl⟩ := Exchange.eq_of_token distinct called' called same
  exact posted.not_handled distinct (decide_eq_true rfl) hq handled

/-- The client gives up the request of the present call, which is too long for a frame. -/
theorem drop_own (h : w.Tracks c) (t : Takes c [] w.x y) {call : Call} {goal : Option String}
    (phase : w.phase = .calling call goal) (session : y.client.session = w.x.client.session)
    (waits : w.x.client.correlator.waiter? call.waiter = some .waiting)
    (closed : y.client.correlator.waiter? call.waiter = some .closed)
    (new : call.token ∉ sequences (w.x.transit c))
    (gone : ∀ {q}, (call, q) ∈ w.x.calls → ¬ y.Unhandled c q) :
    ({ w with x := y } : Sitting).Tracks c := by
  have before : w.isSucceeding = false :=
    isSucceeding_of_not_delivered phase fun r found => by rw [waits] at found; cases found
  have after : ({ w with x := y } : Sitting).isSucceeding = false :=
    isSucceeding_of_not_delivered phase fun r (found : y.client.correlator.waiter? _ = _) => by
      rw [closed] at found
      cases found
  have ended : ({ w with x := y } : Sitting).awaited = none :=
    awaited_of_not_waiting phase fun (found : y.client.correlator.waiter? _ = _) => by
      rw [closed] at found
      cases found
  have late := h.late
  rw [before] at late
  refine h.takes t id ?_ ?_ ?_ ?_
  · intro call' goal' q phase' called _ _ hq
    rw [phase] at phase'
    cases phase'
    exact absurd hq (gone called)
  · intro isLate
    cases late isLate
  · dsimp only
    rw [session]
    exact h.overtaken
  · rw [t.transit, List.nil_append] at new
    rw [ended, awaited_of_waiting phase waits]
    dsimp only
    rw [Response.foldl_passes_of_not_mem new]
    unfold heard
    rw [before, after, ← session]
    rfl

/-- The client gives up a request that is too long for a frame. -/
theorem drop (h : w.Tracks c) (posted : w.x.Posted (· = c)) (routed : w.x.Routed (· = c))
    (settled : w.x.Settled (· = c)) (distinct : (w.x.calls.map (·.1.token)).Nodup)
    {q : Request} {rest : List Request} (oldest : w.x.client.outbound = q :: rest)
    (t : Takes c [] w.x { w.x with client := { w.x.client with
      outbound := rest, correlator := w.x.client.correlator.abandon q.sequence } }) :
    ({ w with x := { w.x with client := { w.x.client with
      outbound := rest, correlator := w.x.client.correlator.abandon q.sequence } } } :
      Sitting).Tracks c := by
  by_cases present : ∃ call goal, w.phase = .calling call goal ∧ call.token = q.sequence
  · obtain ⟨call, goal, phase, token⟩ := present
    obtain ⟨p, called, asked⟩ := h.calling phase
    have hq : w.x.Unhandled c q := by
      refine .inl (List.mem_append_right _ ?_)
      rw [oldest]
      exact List.mem_cons_self ..
    obtain ⟨call', called', sequence⟩ := posted.mem_calls_of_unhandled (decide_eq_true rfl) hq
    obtain ⟨rfl, rfl⟩ := Exchange.eq_of_token distinct called called' (token.trans sequence)
    obtain ⟨call', phase', -, waits⟩ := h.asked hq asked
    rw [phase] at phase'
    cases phase'
    have closed := settled.serves.waiter?_abandon_self
      (List.mem_map_of_mem (f := Prod.fst) called) waits
    rw [token] at closed
    refine h.drop_own t phase rfl waits closed (not_mem_sequences posted routed distinct called hq) ?_
    intro p' called'
    obtain ⟨-, rfl⟩ := Exchange.eq_of_token distinct called called' rfl
    exact posted.not_unhandled_of_drop distinct (decide_eq_true rfl) oldest
  · refine h.aside t rfl fun call goal phase => ?_
    obtain ⟨p, called, -⟩ := h.calling phase
    exact settled.serves.waiter?_abandon (List.mem_map_of_mem (f := Prod.fst) called)
      fun token => present ⟨call, goal, phase, token⟩

/-- The present call takes its reply, or learns that there will be none. -/
theorem finish_own (h : w.Tracks c) {call : Call} {goal : Option String}
    {client : Client} {outcome : Except ClientError Response}
    (phase : w.phase = .calling call goal)
    (f : w.x.client.Finishes call (client, some outcome)) (t : Takes c [] w.x y)
    (took : y.client = client)
    (last : y.returns.getLast? = some ⟨call, w.x.client.reply? call, outcome⟩) :
    ({ w with x := y, phase := w.phaseAfter (.finish call) y } : Sitting).Tracks c := by
  have after : w.phaseAfter (.finish call) y =
      if w.isSucceeding then .noting goal else .idle := by
    unfold phaseAfter isSucceeding Client.reply?
    simp only [phase, if_pos, last]
    cases f with
    | @replied r found =>
      simp only [found, Option.any_some]
      unfold Response.outcome
      cases r.isOk <;> rfl
    | cancelled found =>
      simp only [found]
      rfl
  rw [after]
  refine h.ended t ?_ phase ?_ rfl
  · rw [took]
    cases f <;> rfl
  · cases f with
    | replied found =>
      rw [found]
      simp
    | cancelled found =>
      rw [found]
      simp

/-- Another call is over. -/
theorem finish_other (h : w.Tracks c) (settled : w.x.Settled (· = c))
    (distinct : (w.x.calls.map (·.1.token)).Nodup) {call : Call} {client : Client}
    {outcome : Except ClientError Response} (known : call ∈ w.x.calls.map (·.1))
    (other : ∀ goal, w.phase ≠ .calling call goal)
    (f : w.x.client.Finishes call (client, some outcome)) (t : Takes c [] w.x y)
    (took : y.client = client) :
    ({ w with x := y, phase := w.phaseAfter (.finish call) y } : Sitting).Tracks c := by
  have after : w.phaseAfter (.finish call) y = w.phase := by
    unfold phaseAfter
    dsimp only
    split
    · next phase =>
      rw [if_neg, phase]
      rintro rfl
      exact other _ phase
    · rfl
  rw [after]
  refine h.aside t ?_ fun present goal phase => ?_
  · rw [took]
    cases f <;> rfl
  · obtain ⟨p, called, -⟩ := h.calling phase
    have known' := List.mem_map_of_mem (f := Prod.fst) called
    have ne : present ≠ call := by
      rintro rfl
      exact other goal phase
    have waiter := settled.serves.waiter_ne known' known ne
    have token : present.token ≠ call.token := by
      intro same
      have tokens : ((w.x.calls.map (·.1)).map (·.token)).Nodup := by rwa [List.map_map]
      exact ne (List.inj_on_of_nodup_map tokens known' known same)
    rw [took]
    cases f with
    | replied => exact Correlator.waiter?_dropWaiter waiter
    | cancelled =>
      exact (Correlator.waiter?_dropWaiter waiter).trans
        (settled.serves.waiter?_abandon known' token)

/-- A call begins. -/
theorem begin (h : w.Tracks c) (posted : w.x.Posted (· = c)) (routed : w.x.Routed (· = c))
    (settled : w.x.Settled (· = c)) {now : Nat} {tokens : List String} {q : Request}
    {client : Client} {call : Call}
    (began : w.x.client.begin now tokens q = .ok (client, call))
    (distinct : ((w.x.calls ++ [(call, w.x.client.address q call.token)]).map
      (·.1.token)).Nodup)
    (names : (Move.begin now tokens q).namesPeer = true)
    (allowed : w.allows c (.begin now tokens q) = true) :
    ({ w with
        x := { w.x with
          client := client
          calls := w.x.calls ++ [(call, w.x.client.address q call.token)] }
        phase := w.phaseAfter (.begin now tokens q) { w.x with
          client := client
          calls := w.x.calls ++ [(call, w.x.client.address q call.token)] } } :
      Sitting).Tracks c := by
  obtain ⟨fresh, free⟩ := Bool.and_eq_true_iff.1 allowed
  have fresh : w.x.client.correlator.sweep now = w.x.client.correlator := of_decide_eq_true fresh
  have same := w.x.client.identity?_address names call.token
  rw [phaseAfter_begin List.getLast?_concat]
  cases asks : q.identity? with
  | none => exact h.begin_other settled began fresh (same.trans asks)
  | some goal =>
    have idle : w.phase = .idle := by simpa [asks] using free
    exact h.begin_own posted routed settled began distinct fresh idle (same.trans asks)

end Tracks

end Sitting

end Rendezvous
