import Rendezvous.Proofs.Tracking

/-!
# Whom a client takes itself for

When nothing is on its way to a client, it takes itself for whom the relay takes its connection for,
unless the notice of a loss was taken in before the caller noted the login that it ends
(`in_step_unless_overtaken`). Then the client takes itself for somebody though the connection is
pending, until the next login, logout or notice (`session_out_of_step`).
-/

namespace Rendezvous

open Response (passes sequences)

namespace Sitting

open Exchange (Takes)

variable {c : ConnectionId} {w v : Sitting} {m : Move} {y : Exchange}

namespace Tracks

/-! ## What is taken in -/

/-- The client takes in an event. -/
theorem receive_event (h : w.Tracks c) {r : Response} (t : Takes c [r] w.x y)
    (told : r.isEvent = true) (correlator : y.client.correlator = w.x.client.correlator)
    (session : y.client.session = if r.isLogout then none else w.x.client.session) :
    ({ x := y, phase := w.phase, late := w.late || r.isLogout && w.isSucceeding
       overtaken := w.overtaken && !r.isLogout } : Sitting).Tracks c := by
  obtain ⟨awaits, succeeding⟩ := congr_of_waiter (w := w) (y := y) fun call goal _ => by
    rw [correlator]
  refine h.takes t id ?_ ?_ ?_ ?_
  · intro call goal q phase _ waits _ _
    refine ⟨phase, ?_⟩
    dsimp only
    rw [correlator]
    exact waits
  · intro isLate
    refine succeeding.trans ?_
    rcases Bool.or_eq_true_iff.1 isLate with isLate | isLate
    · exact h.late isLate
    · exact (Bool.and_eq_true_iff.1 isLate).2
  · intro overtaken
    obtain ⟨overtaken, stays⟩ := Bool.and_eq_true_iff.1 overtaken
    rw [Bool.not_eq_true'] at stays
    dsimp only
    rw [session, stays]
    exact h.overtaken overtaken
  · refine (congrArg (fun f => List.foldl (passes f) _ _) awaits).trans ?_
    rw [List.foldl_cons, List.foldl_nil]
    refine congrArg (List.foldl _ · _) ?_
    have heard : ({ x := y, phase := w.phase, late := w.late || r.isLogout && w.isSucceeding
                    overtaken := w.overtaken && !r.isLogout } : Sitting).heard =
        if w.isSucceeding then if w.late || r.isLogout && w.isSucceeding then none else w.phase.goal
        else if w.overtaken && !r.isLogout then none
        else if r.isLogout then none else w.x.client.session := by
      rw [← session, ← succeeding]
      rfl
    rw [heard]
    unfold passes Sitting.heard
    rw [if_pos told]
    cases w.isSucceeding <;> cases r.isLogout <;> simp

/-- The client takes in the reply that the present call waits for. -/
theorem receive_own (h : w.Tracks c) (posted : w.x.Posted (· = c))
    (distinct : (w.x.calls.map (·.1.token)).Nodup) {r : Response} (t : Takes c [r] w.x y)
    {call : Call} {goal : Option String} (isReply : r.isEvent = false) (reply : w.x.IsReply c r)
    (phase : w.phase = .calling call goal) (sequence : r.sequence = call.token)
    (waits : w.x.client.correlator.waiter? call.waiter = some .waiting)
    (delivered : y.client.correlator.waiter? call.waiter = some (.delivered r))
    (session : y.client.session = w.x.client.session) :
    ({ w with x := y } : Sitting).Tracks c := by
  have before : w.isSucceeding = false :=
    isSucceeding_of_not_delivered phase fun r found => by rw [waits] at found; cases found
  have after : ({ w with x := y } : Sitting).isSucceeding = r.isOk := by
    unfold isSucceeding Client.reply?
    dsimp only
    rw [phase]
    dsimp only
    rw [delivered]
    rfl
  have ended : ({ w with x := y } : Sitting).awaited = none :=
    awaited_of_not_waiting phase fun (found : y.client.correlator.waiter? _ = _) => by
      rw [delivered] at found
      cases found
  have notLate : w.late = false := by
    have late := h.late
    rw [before] at late
    simpa using late
  have new : call.token ∉ sequences (y.transit c) := by
    have once := h.once
    have split : sequences (r :: y.transit c) = call.token :: sequences (y.transit c) := by
      simp [sequences, isReply, sequence]
    rw [t.transit] at once
    exact (List.nodup_cons.1 (split ▸ once)).1
  refine h.takes t id ?_ ?_ ?_ ?_
  · intro call' goal' q phase' called _ unhandled _
    rw [phase] at phase'
    cases phase'
    -- the reply answers the present call, whose request is handled then
    obtain ⟨call', q', called', -, token, handled⟩ :=
      posted.call_of_reply (decide_eq_true rfl) reply
    obtain ⟨-, rfl⟩ := Exchange.eq_of_token distinct called called' (sequence.symm.trans token)
    exact absurd handled (posted.not_handled distinct (decide_eq_true rfl) unhandled)
  · intro isLate
    have isLate : w.late = true := isLate
    rw [notLate] at isLate
    cases isLate
  · dsimp only
    rw [session]
    exact h.overtaken
  · rw [ended, awaited_of_waiting phase waits]
    dsimp only
    rw [Response.foldl_passes_of_not_mem new]
    rw [List.foldl_cons, List.foldl_nil]
    refine congrArg (List.foldl _ · _) ?_
    unfold passes heard
    rw [before, after, isReply, ← session]
    simp only [sequence, notLate, phase, true_and]
    cases r.isOk <;> rfl

/-- The client takes in a reply that the present call does not wait for. -/
theorem receive_other (h : w.Tracks c) {r : Response} (t : Takes c [r] w.x y)
    (isReply : r.isEvent = false) (other : ∀ goal, w.awaited ≠ some (r.sequence, goal))
    (waiter : ∀ call goal, w.phase = .calling call goal →
      y.client.correlator.waiter? call.waiter = w.x.client.correlator.waiter? call.waiter)
    (session : y.client.session = w.x.client.session) :
    ({ w with x := y } : Sitting).Tracks c := by
  obtain ⟨awaits, succeeding⟩ := congr_of_waiter waiter
  have passed : passes w.awaited w.heard r = w.heard := by
    unfold passes
    rw [isReply]
    cases awaited : w.awaited with
    | none => rfl
    | some a =>
      have ne : r.sequence ≠ a.1 := fun same => other a.2 (by rw [awaited, same])
      simp [ne]
  refine h.takes t id ?_ ?_ ?_ ?_
  · intro call goal q phase _ waits _ _
    exact ⟨phase, (waiter call goal phase).trans waits⟩
  · rw [succeeding]
    exact h.late
  · dsimp only
    rw [session]
    exact h.overtaken
  · rw [awaits, heard_congr succeeding session, List.foldl_cons, List.foldl_nil, passed]

/-- The client takes in a reply. -/
theorem receive_reply (h : w.Tracks c) (posted : w.x.Posted (· = c))
    (settled : w.x.Settled (· = c)) (distinct : (w.x.calls.map (·.1.token)).Nodup)
    {r : Response} (t : Takes c [r] w.x y) (isReply : r.isEvent = false)
    (reply : w.x.IsReply c r)
    (correlator : y.client.correlator = (w.x.client.correlator.resolve r).1)
    (session : y.client.session = w.x.client.session) :
    ({ w with x := y } : Sitting).Tracks c := by
  have waiter : ∀ {call goal}, w.phase = .calling call goal →
      y.client.correlator.waiter? call.waiter =
        if r.sequence = call.token ∧
            w.x.client.correlator.waiter? call.waiter = some .waiting then some (.delivered r)
        else w.x.client.correlator.waiter? call.waiter := by
    intro call goal phase
    obtain ⟨q, called, -⟩ := h.calling phase
    rw [correlator]
    exact settled.serves.waiter?_resolve (List.mem_map_of_mem (f := Prod.fst) called) r
  by_cases present : ∃ goal, w.awaited = some (r.sequence, goal)
  · obtain ⟨goal, awaited⟩ := present
    obtain ⟨call, phase, token, waits⟩ := eq_of_awaited awaited
    have delivered := waiter phase
    rw [if_pos ⟨token.symm, waits⟩] at delivered
    exact h.receive_own posted distinct t isReply reply phase token.symm waits delivered session
  · have other : ∀ goal, w.awaited ≠ some (r.sequence, goal) :=
      fun goal awaited => present ⟨goal, awaited⟩
    refine h.receive_other t isReply other (fun call goal phase => ?_) session
    rw [waiter phase, if_neg]
    rintro ⟨token, waits⟩
    refine other goal ?_
    rw [awaited_of_waiting phase waits, token]

/-! ## Steps of the relay -/

/-- The relay reacts to a request of the present call exactly if this is what is awaited. -/
theorem expects (h : w.Tracks c) (posted : w.x.Posted (· = c))
    (distinct : (w.x.calls.map (·.1.token)).Nodup) {q : Request} (hq : w.x.Unhandled c q)
    (goal : Option String) :
    q.identity? = some goal ↔ w.awaited = some (q.sequence, goal) := by
  obtain ⟨call, called, sequence⟩ := posted.mem_calls_of_unhandled (decide_eq_true rfl) hq
  constructor
  · intro asked
    obtain ⟨call', phase, called', waits⟩ := h.asked hq asked
    rw [awaited_of_waiting phase waits, posted.sequence _ called']
  · intro awaited
    obtain ⟨call', phase, token, -⟩ := eq_of_awaited awaited
    obtain ⟨q', called', asked⟩ := h.calling phase
    obtain ⟨-, rfl⟩ := Exchange.eq_of_token distinct called called' (sequence.symm.trans token.symm)
    exact asked

/-- The relay reacts to what came first. -/
theorem react (h : w.Tracks c) (posted : w.x.Posted (· = c)) (routed : w.x.Routed (· = c))
    (distinct : (w.x.calls.map (·.1.token)).Nodup) {e : Event} {rest : List Event}
    (first : w.x.mailbox = e :: rest) (mailbox : y.mailbox = rest)
    (client : y.client = w.x.client) (calls : y.calls = w.x.calls)
    (transit : y.transit c = w.x.transit c ++ w.x.server.relay.pushedTo e c)
    (identities : y.server.relay.identities = (w.x.server.relay.handle e).1.identities)
    (unhandled : ∀ {q}, y.Unhandled c q → w.x.Unhandled c q) :
    ({ w with x := y } : Sitting).Tracks c := by
  have inMailbox : ∀ {time q}, e = .request c time q → w.x.Unhandled c q := by
    rintro time q rfl
    refine .inr (.inr (List.mem_filterMap.2 ⟨.request c time q, ?_, rfl⟩))
    rw [first]
    exact List.mem_cons_self ..
  have notClosed : e ≠ .closed c := by
    rintro rfl
    refine h.stays ?_
    rw [first]
    exact List.mem_cons_self ..
  obtain ⟨awaits, succeeding⟩ := congr_of_waiter (w := w) (y := y) fun call goal _ => by rw [client]
  constructor
  case stays =>
    intro closed
    refine h.stays ?_
    rw [first]
    exact List.mem_cons_of_mem _ (mailbox ▸ closed)
  case once =>
    show (sequences (y.transit c)).Nodup
    rw [transit, Response.sequences_append]
    rcases routed.coherent.sequences_pushedTo (c := c) e with none | ⟨time, q, request, one⟩
    · rw [none, List.append_nil]
      exact h.once
    · have hq := inMailbox request
      obtain ⟨call, called, sequence⟩ := posted.mem_calls_of_unhandled (decide_eq_true rfl) hq
      rw [one, List.nodup_append_comm, List.singleton_append, List.nodup_cons, sequence]
      exact ⟨not_mem_sequences posted routed distinct called hq, h.once⟩
  case asked =>
    intro q goal hq asked
    obtain ⟨call, phase, called, waits⟩ := h.asked (unhandled hq) asked
    refine ⟨call, phase, calls ▸ called, ?_⟩
    dsimp only
    rw [client]
    exact waits
  case calling =>
    intro call goal phase
    obtain ⟨q, called, asked⟩ := h.calling phase
    exact ⟨q, calls ▸ called, asked⟩
  case late =>
    rw [succeeding]
    exact h.late
  case overtaken =>
    dsimp only
    rw [client]
    exact h.overtaken
  case identity =>
    rw [awaits, heard_congr succeeding (by rw [client])]
    show (y.transit c).foldl _ _ = y.server.relay.identities.get? c
    rw [transit, List.foldl_append, h.identity, identities]
    exact routed.coherent.foldl_passes_pushedTo notClosed fun time q request =>
      h.expects posted distinct (inMailbox request)

/-! ## Runs -/

theorem receive (h : w.Tracks c) (posted : w.x.Posted (· = c)) (routed : w.x.Routed (· = c))
    (settled : w.x.Settled (· = c)) (distinct : (w.x.calls.map (·.1.token)).Nodup)
    (s : w.x.Steps (· = c) (.receive c) y) :
    ({ x := y, phase := w.phase, late := w.lateAfter c (.receive c)
       overtaken := w.overtakenAfter c (.receive c) } : Sitting).Tracks c := by
  have unhandled : ∀ {q}, y.Unhandled c q → w.x.Unhandled c q :=
    s.unhandled posted (decide_eq_true rfl) fun _ _ _ e => by cases e
  cases s with
  | @receive _ _ body _ left _ taken read =>
    obtain ⟨r, carries, received, transit, first⟩ :=
      routed.transit_receive (decide_eq_true rfl) taken read
    have t : Takes c [r] w.x { w.x with client := w.x.client.receive body, down := left } := by
      refine ⟨h.stays, ?_, List.Subset.refl _, rfl, fun _ => unhandled⟩
      rw [received]
      exact transit
    have loses : w.losesNext c = r.isLogout := by
      unfold losesNext
      rw [first]
      rfl
    unfold lateAfter overtakenAfter
    dsimp only
    rw [loses]
    rcases carries with told | reply
    · have told : r.isEvent = true := by simpa [Response.isEvent] using told.event_ne_empty
      refine h.receive_event t told ?_ ?_
      · rw [received]
        unfold Client.dispatch
        rw [if_pos told]
      · rw [received]
        unfold Client.dispatch Response.isLogout
        simp [told]
    · have isReply : r.isEvent = false := by
        obtain ⟨before, time, q, -, rfl⟩ := reply
        simp [Response.isEvent, (Relay.leads_dispatch before c time q).event_reply]
      have quiet : r.isLogout = false := by
        simp [Response.isLogout, Response.eventAction?, isReply]
      have took : w.x.client.receive body =
          { w.x.client with correlator := (w.x.client.correlator.resolve r).1 } := by
        rw [received]
        unfold Client.dispatch
        rw [isReply]
        rfl
      rw [quiet, Bool.false_and, Bool.or_false, Bool.not_false, Bool.and_true]
      refine h.receive_reply posted settled distinct t isReply reply ?_ ?_
      · rw [took]
      · rw [took]

/-- Each step of a sitting keeps it up. -/
theorem step (h : w.Tracks c) (posted : w.x.Posted (· = c)) (routed : w.x.Routed (· = c))
    (settled : w.x.Settled (· = c)) (names : m.namesPeer = true) (made : w.step? c m = some v)
    (distinct : (v.x.calls.map (·.1.token)).Nodup) : v.Tracks c := by
  obtain ⟨y, allowed, s, kept, rfl⟩ := of_step? made
  have isMine : decide (c = c) = true := decide_eq_true rfl
  have before : (w.x.calls.map (·.1.token)).Nodup :=
    distinct.sublist (s.calls_prefix.sublist.map _)
  have t := s.takes posted routed isMine kept
  -- most steps are not about the client
  have quiet : Takes c [] w.x y → y.client = w.x.client →
      ({ w with x := y } : Sitting).Tracks c := fun t client =>
    h.aside t (by rw [client]) fun _ _ _ => by rw [client]
  have act : ∀ (x : Exchange) (time : UInt64) (did : Connection × Effect),
      (x.act time did).client = x.client := by
    rintro x time ⟨conn, effect⟩
    cases effect <;> rfl
  cases s with
  | begin began => exact h.begin posted routed settled began distinct names allowed
  | unblock =>
    refine h.aside (t rfl) (Client.session_unblock _) fun call goal _ => ?_
    dsimp only
    rw [Client.correlator_unblock]
  | @finish call client outcome active finished =>
    have f := w.x.client.finishes call
    rw [finished] at f
    by_cases present : ∃ goal, w.phase = .calling call goal
    · obtain ⟨goal, phase⟩ := present
      exact h.finish_own phase f (t rfl) rfl List.getLast?_concat
    · exact h.finish_other settled before (Exchange.mem_calls_of_isActive active)
        (fun goal phase => present ⟨goal, phase⟩) f (t rfl) rfl
  | timeOut => cases allowed
  | lose => cases allowed
  | noteLogin =>
    have noted := h.noted (t rfl) (of_decide_eq_true allowed) rfl
    rwa [Option.isSome_some, Bool.and_true] at noted
  | noteLogout =>
    have noted := h.noted (t rfl) (of_decide_eq_true allowed) rfl
    rwa [Option.isSome_none, Bool.and_false] at noted
  | dial => exact h.aside (t rfl) rfl fun _ _ _ => rfl
  | dialFailed => exact h.aside (t rfl) rfl fun _ _ _ => rfl
  | dialed => exact h.aside (t rfl) rfl fun _ _ _ => rfl
  | write => exact h.aside (t rfl) rfl fun _ _ _ => rfl
  | drop oldest => exact h.drop posted routed settled before oldest (t rfl)
  | stay => exact h
  | @receive d _ _ _ _ isMine' taken read =>
    cases of_decide_eq_true isMine'
    exact h.receive posted routed settled before (.receive isMine' taken read)
  | others => exact quiet (t rfl) rfl
  | accept => exact quiet (t rfl) rfl
  | takeFrame => exact quiet (t rfl) (act ..)
  | takeResponse => exact quiet (t rfl) (act ..)
  | close => exact quiet (t rfl) (act ..)
  | @react e rest first =>
    have s : w.x.Steps (· = c) .react _ := .react first
    have unhandled := fun {q} => s.unhandled (q := q) posted isMine fun _ _ _ e => by cases e
    exact h.react posted routed before first rfl rfl rfl
      (Exchange.transit_react first rfl kept) (Server.identities_react ..) unhandled

theorem start {db : Database} {store : Option SnapshotStore} {files : Files} :
    (Sitting.start db store files).Tracks c where
  stays := nofun
  once := List.nodup_nil
  asked h := by
    rcases h with h | h | h <;> cases h
  calling h := by cases h
  late h := by cases h
  overtaken h := by cases h
  identity := rfl

end Tracks

/-- After every sitting in which no two calls have one token, all parts are in order. -/
theorem tracks {db : Database} {store : Option SnapshotStore} {files : Files} {ms : List Move}
    (run : (start db store files).run? c ms = some w) (names : ∀ m ∈ ms, m.namesPeer = true)
    (distinct : (w.x.calls.map (·.1.token)).Nodup) :
    w.x.Routed (· = c) ∧ w.Tracks c := by
  have all : w.x.Posted (· = c) ∧ w.x.Routed (· = c) ∧
      ((w.x.calls.map (·.1.token)).Nodup → w.x.Settled (· = c) ∧ w.Tracks c) := by
    refine induction (P := fun w => w.x.Posted (· = c) ∧ w.x.Routed (· = c) ∧
      ((w.x.calls.map (·.1.token)).Nodup → w.x.Settled (· = c) ∧ w.Tracks c))
      ⟨.start, .start, fun _ => ⟨.start, .start⟩⟩ ?_ names run
    rintro w m v ⟨posted, routed, rest⟩ names made
    obtain ⟨y, -, s, -, rfl⟩ := of_step? made
    refine ⟨posted.step s, routed.step posted s, fun distinct => ?_⟩
    obtain ⟨settled, tracks⟩ := rest (distinct.sublist (s.calls_prefix.sublist.map _))
    exact ⟨settled.step routed s distinct, tracks.step posted routed settled names made distinct⟩
  exact ⟨all.2.1, (all.2.2 distinct).2⟩

end Sitting

/-- When no login or logout is under way and all responses to an open connection are taken in, the
client takes itself for whom the relay takes it, unless the notice of a loss was taken in before
the caller noted the login that it ends. Then the client still takes itself for somebody, and the
connection is pending. -/
theorem in_step_unless_overtaken {c : ConnectionId} {k : QueueId} {db : Database}
    {store : Option SnapshotStore} {files : Files} {ms : List Move} {w : Sitting}
    (run : (Sitting.start db store files).run? c ms = some w) (names : ∀ m ∈ ms, m.namesPeer = true)
    (distinct : (w.x.calls.map (·.1.token)).Nodup) (idle : w.phase = .idle)
    (taken : w.x.transit c = []) (isOpen : StillOpen w.x.events c k) :
    (w.overtaken = false → w.x.InStep c) ∧
    (w.overtaken = true → (∃ p, w.x.client.session = some p) ∧
      w.x.server.relay.pending.contains c = true ∧ ¬ w.x.InStep c) := by
  obtain ⟨routed, tracks⟩ := Sitting.tracks run names distinct
  have pending := routed.coherent.pending_eq_not_identity isOpen
  have identity : (if w.overtaken then none else w.x.client.session) =
      w.x.server.relay.identities.get? c := by
    have identity := tracks.identity
    rw [taken] at identity
    have heard : w.heard = if w.overtaken then none else w.x.client.session := by
      unfold Sitting.heard Sitting.isSucceeding
      rw [idle]
      rfl
    rw [← heard]
    exact identity
  unfold Table.contains at pending ⊢
  rw [← identity] at pending
  constructor
  · intro inTime
    rw [inTime] at pending identity
    refine ⟨fun p => by rw [← identity]; rfl, ?_⟩
    unfold Table.contains
    rw [pending]
    cases w.x.client.session <;> simp
  · intro overtaken
    rw [overtaken] at pending identity
    have session := Option.isSome_iff_exists.1 (tracks.overtaken overtaken)
    refine ⟨session, pending, fun inStep => ?_⟩
    obtain ⟨p, session⟩ := session
    have known := (inStep.1 p).1 session
    rw [← identity] at known
    cases known

/-- Bob logs in. Then another client takes his identity over by force, and both the reply and the
notice are under way to him. -/
def takeoverMoves : List Move :=
  [.dial, .dialed 1, .accept 1 64, .accept 2 64, .react, .react,
   .begin 0 ["t1"] (sampleLogin "bob1234567" false), .write, .takeFrame 1 0 "", .react,
   .others 2 (sampleFrame (sampleLogin "bob1234567" true)), .takeFrame 2 0 "", .react,
   .takeResponse 1, .takeResponse 1]

/-- His caller notes the login before the notice is taken in. -/
theorem in_step_unless_overtaken_takeoverMoves :
    let ms := takeoverMoves ++
      [.receive 1, .finish ⟨"t1", 0⟩, .noteLogin "bob1234567", .receive 1]
    ∃ w, (Sitting.start sampleDatabase none {}).run? 1 ms = some w ∧
      (∀ m ∈ ms, m.namesPeer = true) ∧ (w.x.calls.map (·.1.token)).Nodup ∧ w.phase = .idle ∧
      w.x.transit 1 = [] ∧ StillOpen w.x.events 1 0 ∧ w.overtaken = false ∧ w.x.InStep 1 ∧
      w.x.client.session = none := by
  intro ms
  have evaluated : ((Sitting.start sampleDatabase none {}).run? 1 ms).map (fun w =>
      ((w.x.calls.map (·.1.token), w.phase, w.x.transit 1, w.overtaken),
        w.x.client.session,
        decide (w.x.events.head? = some (.opened 1 0) ∧ .closed 1 ∉ w.x.events.tail))) =
      some ((["t1"], .idle, [], false), none, true) := by
    decide +kernel
  have names : ∀ m ∈ ms, m.namesPeer = true := by decide +kernel
  obtain ⟨w, run, found⟩ := Option.map_eq_some_iff.1 evaluated
  simp only [Prod.mk.injEq, decide_eq_true_iff] at found
  obtain ⟨⟨tokens, idle, taken, inTime⟩, session, opened, stays⟩ := found
  have distinct : (w.x.calls.map (·.1.token)).Nodup := by
    rw [tokens]
    decide
  obtain ⟨later, events⟩ := List.head?_eq_some_iff.1 opened
  have isOpen : StillOpen w.x.events 1 0 := by
    rw [events] at stays ⊢
    exact ⟨[], later, rfl, stays⟩
  obtain ⟨inStep, -⟩ := in_step_unless_overtaken run names distinct idle taken isOpen
  exact ⟨w, run, names, distinct, idle, taken, isOpen, inTime, inStep inTime, session⟩

/-- The notice is taken in before his caller notes the login: the client takes itself for Bob,
though its connection is pending. And a login without a name is sent as one for Bob, who is logged
in, but its caller notes the empty name. In both cases every call is over and nothing is on its way
to the client. -/
theorem session_out_of_step :
    (∃ w, (Sitting.start sampleDatabase none {}).run? 1 (takeoverMoves ++
        [.receive 1, .receive 1, .finish ⟨"t1", 0⟩, .noteLogin "bob1234567"]) = some w ∧
      w.phase = .idle ∧ (∀ e ∈ w.x.calls, w.x.isActive e.1 = false) ∧ w.x.transit 1 = [] ∧
      w.x.client.session = some "bob1234567" ∧ w.x.server.relay.identities.get? 1 = none ∧
      w.x.server.relay.pending.contains 1 = true ∧ ¬ w.x.InStep 1) ∧
    (∃ w, (Sitting.start sampleDatabase none {}).run? 1
        [.dial, .dialed 1, .accept 1 64, .react,
         .begin 0 ["t1"] (sampleLogin "bob1234567" false), .write, .takeFrame 1 0 "", .react,
         .takeResponse 1, .receive 1, .finish ⟨"t1", 0⟩, .noteLogin "bob1234567",
         .begin 0 ["t2"] (sampleLogin "" false), .write, .takeFrame 1 0 "", .react,
         .takeResponse 1, .receive 1, .finish ⟨"t2", 1⟩, .noteLogin ""] = some w ∧
      w.phase = .idle ∧ (∀ e ∈ w.x.calls, w.x.isActive e.1 = false) ∧ w.x.transit 1 = [] ∧
      w.x.client.session = some "" ∧
      w.x.server.relay.identities.get? 1 = some "bob1234567" ∧ ¬ w.x.InStep 1) := by
  constructor
  · have evaluated : ((Sitting.start sampleDatabase none {}).run? 1 (takeoverMoves ++
        [.receive 1, .receive 1, .finish ⟨"t1", 0⟩, .noteLogin "bob1234567"])).map (fun w =>
        ((w.phase, w.x.calls.all (!w.x.isActive ·.1), w.x.transit 1), w.x.client.session,
          w.x.server.relay.identities.get? 1, w.x.server.relay.pending.contains 1)) =
        some ((.idle, true, []), some "bob1234567", none, true) := by
      decide +kernel
    obtain ⟨w, run, found⟩ := Option.map_eq_some_iff.1 evaluated
    simp only [Prod.mk.injEq, List.all_eq_true, Bool.not_eq_true'] at found
    obtain ⟨⟨idle, ended, taken⟩, session, identity, pending⟩ := found
    refine ⟨w, run, idle, ended, taken, session, identity, pending, fun inStep => ?_⟩
    have known := (inStep.1 _).1 session
    rw [identity] at known
    cases known
  · have evaluated : ((Sitting.start sampleDatabase none {}).run? 1
        [.dial, .dialed 1, .accept 1 64, .react,
         .begin 0 ["t1"] (sampleLogin "bob1234567" false), .write, .takeFrame 1 0 "", .react,
         .takeResponse 1, .receive 1, .finish ⟨"t1", 0⟩, .noteLogin "bob1234567",
         .begin 0 ["t2"] (sampleLogin "" false), .write, .takeFrame 1 0 "", .react,
         .takeResponse 1, .receive 1, .finish ⟨"t2", 1⟩, .noteLogin ""]).map (fun w =>
        ((w.phase, w.x.calls.all (!w.x.isActive ·.1), w.x.transit 1), w.x.client.session,
          w.x.server.relay.identities.get? 1)) =
        some ((.idle, true, []), some "", some "bob1234567") := by
      decide +kernel
    obtain ⟨w, run, found⟩ := Option.map_eq_some_iff.1 evaluated
    simp only [Prod.mk.injEq, List.all_eq_true, Bool.not_eq_true'] at found
    obtain ⟨⟨idle, ended, taken⟩, session, identity⟩ := found
    refine ⟨w, run, idle, ended, taken, session, identity, fun inStep => ?_⟩
    have known := (inStep.1 _).1 session
    rw [identity] at known
    simp at known

end Rendezvous
