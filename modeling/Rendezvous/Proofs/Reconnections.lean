import Rendezvous.Proofs.Calls

/-!
# Requests from before a connection

A connection that is dialed starts with an empty queue: what was queued for an earlier one is
forgotten. Calls that wait for room in the queue are not: they get room as soon as it is empty, and
their requests go out on the new connection, although nobody waits for a reply any more. Of all
requests made so far these are the ones that can still be written to a later connection
(`written_later_iff_blocked`), so none of a call that has returned is.

Of an exchange this needs no more than where the requests of the client are (`ClientRequests`).
-/

namespace Rendezvous

/-! ## Where the requests of the client are -/

/-- The requests of the client in an exchange: those that wait at their calls, those in its queue
and those that it has written, with the connections that it has dialed. -/
structure ClientRequests where
  /-- The calls that wait for room in the queue, each with its request. -/
  blocked : List (Call × Request)
  /-- The queue. -/
  outbound : List Request
  /-- The connection that is written to. -/
  current : Option ConnectionId
  /-- All connections so far. -/
  dialed : List ConnectionId
  /-- All calls so far, each with its request. -/
  calls : List (Call × Request)
  /-- The requests that were written, each with its connection. -/
  written : List (ConnectionId × Request)
  /-- The calls that are over. -/
  returned : List Call

/-- What a step can do to the requests of the client. -/
inductive ClientRequests.Steps (k : ClientRequests) : ClientRequests → Prop
  | stay : Steps k k
  | queue (call : Call) (q : Request) (nobody : k.blocked = []) :
      Steps k { k with calls := k.calls ++ [(call, q)], outbound := k.outbound ++ [q] }
  | block (call : Call) (q : Request) :
      Steps k { k with calls := k.calls ++ [(call, q)], blocked := k.blocked ++ [(call, q)] }
  | unblock {e : Call × Request} {rest : List (Call × Request)} (first : k.blocked = e :: rest) :
      Steps k { k with blocked := rest, outbound := k.outbound ++ [e.2] }
  | finish {call : Call} (known : call ∈ k.calls.map (·.1)) :
      Steps k { k with
        blocked := k.blocked.filter (·.1 != call), returned := k.returned ++ [call] }
  | dial (c : ConnectionId) :
      Steps k { k with outbound := [], current := some c, dialed := k.dialed ++ [c] }
  | write {c : ConnectionId} {q : Request} {rest : List Request} (current : k.current = some c)
      (oldest : k.outbound = q :: rest) :
      Steps k { k with outbound := rest, written := k.written ++ [(c, q)] }
  | drop {q : Request} {rest : List Request} (oldest : k.outbound = q :: rest) :
      Steps k { k with outbound := rest }
  | lose : Steps k { k with current := none }

namespace Client

variable {c c' : Client} {call : Call}

/-- A call that goes on does not wait for room. -/
theorem queues_of_finish {outcome : Except ClientError Response}
    (finished : c.finish call = (c', some outcome)) :
    c'.blocked = c.blocked.filter (·.1 != call) ∧ c'.outbound = c.outbound := by
  have waits : c.isBlocked call = false := by
    unfold finish at finished
    split at finished
    · cases finished
    · next free => simpa using free
  have kept : c.blocked.filter (·.1 != call) = c.blocked := by
    rw [List.filter_eq_self]
    intro e he
    simpa using List.any_eq_false.1 waits e he
  have f := c.finishes call
  rw [finished] at f
  cases f with
  | replied => exact ⟨kept.symm, rfl⟩
  | cancelled => exact ⟨rfl, rfl⟩

theorem queues_receive (c : Client) (body : Bytes) :
    (c.receive body).blocked = c.blocked ∧ (c.receive body).outbound = c.outbound := by
  unfold receive
  split
  · unfold dispatch
    split
    · exact ⟨rfl, rfl⟩
    · exact ⟨rfl, rfl⟩
  · exact ⟨rfl, rfl⟩

end Client

namespace Exchange

variable {mine : ConnectionId → Bool} {x y : Exchange} {m : Move}

def clientRequests (x : Exchange) : ClientRequests where
  blocked := x.client.blocked
  outbound := x.client.outbound
  current := x.current
  dialed := x.dialed
  calls := x.calls
  written := x.written
  returned := x.returns.map (·.call)

theorem clientRequests_act (x : Exchange) (time : UInt64) (did : Connection × Effect) :
    (x.act time did).clientRequests = x.clientRequests := by
  obtain ⟨c, effect⟩ := did
  cases effect <;> rfl

theorem Steps.clientRequests (s : x.Steps mine m y) : x.clientRequests.Steps y.clientRequests := by
  cases s with
  | @begin _ _ q _ call began =>
    obtain ⟨k, a, -, -, rfl⟩ := Client.of_begin began
    unfold Exchange.clientRequests Client.enqueue
    split
    · next room =>
      exact .queue _ _ (List.isEmpty_iff.1 (Bool.and_eq_true_iff.1 room).1)
    · exact .block ..
  | unblock =>
    unfold Exchange.clientRequests Client.unblock
    split
    · exact .stay
    · next first =>
      split
      · exact .unblock (k := x.clientRequests) first
      · exact .stay
  | finish active finished =>
    obtain ⟨blocked, outbound⟩ := Client.queues_of_finish finished
    have s := ClientRequests.Steps.finish (k := x.clientRequests) (mem_calls_of_isActive active)
    unfold Exchange.clientRequests at s ⊢
    simpa [blocked, outbound] using s
  | timeOut active =>
    have s := ClientRequests.Steps.finish (k := x.clientRequests) (mem_calls_of_isActive active)
    unfold Exchange.clientRequests at s ⊢
    simpa [Client.giveUp] using s
  | dialed => exact .dial ..
  | write current oldest => exact .write (k := x.clientRequests) current oldest
  | drop oldest => exact .drop (k := x.clientRequests) oldest
  | @receive _ _ body =>
    obtain ⟨blocked, outbound⟩ := x.client.queues_receive body
    unfold Exchange.clientRequests
    simp only [blocked, outbound]
    exact .stay
  | lose => exact .lose
  | takeFrame =>
    rw [clientRequests_act]
    exact .stay
  | takeResponse =>
    rw [clientRequests_act]
    exact .stay
  | close =>
    rw [clientRequests_act]
    exact .stay
  | noteLogin | noteLogout | dial | dialFailed | stay | others | accept | react => exact .stay

end Exchange

namespace ClientRequests

variable {k k' : ClientRequests} {q : Request} {d : ConnectionId}

/-! ## Calls that wait for room -/

/-- Whoever waits for room has called and not returned, and only dialed connections are written
to. -/
structure Orderly (k : ClientRequests) : Prop where
  called : k.blocked ⊆ k.calls
  returned : ∀ call ∈ k.returned, call ∈ k.calls.map (·.1) ∧ call ∉ k.blocked.map (·.1)
  current : ∀ c, k.current = some c → c ∈ k.dialed
  written : ∀ e ∈ k.written, e.1 ∈ k.dialed

theorem not_mem_of_nodup_snoc {calls : List (Call × Request)} {call : Call}
    (distinct : ((calls ++ [(call, q)]).map (·.1.token)).Nodup) : call ∉ calls.map (·.1) := by
  rw [List.map_append] at distinct
  intro old
  obtain ⟨e, he, rfl⟩ := List.mem_map.1 old
  exact (List.nodup_append.1 distinct).2.2 _ (List.mem_map_of_mem he) _ (List.mem_singleton.2 rfl)
    rfl

theorem Orderly.step (h : k.Orderly) (s : k.Steps k')
    (distinct : (k'.calls.map (·.1.token)).Nodup) : k'.Orderly := by
  have more : ∀ {call call' : Call} {q : Request}, call' ∈ k.calls.map (·.1) →
      call' ∈ (k.calls ++ [(call, q)]).map (·.1) := by
    intro call call' q old
    rw [List.map_append]
    exact List.mem_append_left _ old
  cases s with
  | stay => exact h
  | queue call q =>
    refine { h with called := ?_, returned := ?_ }
    · exact fun e he => List.mem_append_left _ (h.called he)
    · exact fun call' hcall => ⟨more (h.returned call' hcall).1, (h.returned call' hcall).2⟩
  | block call q =>
    refine { h with called := ?_, returned := ?_ }
    · intro e he
      rcases List.mem_append.1 he with he | he
      · exact List.mem_append_left _ (h.called he)
      · exact List.mem_append_right _ he
    · intro call' hcall
      obtain ⟨known, free⟩ := h.returned call' hcall
      refine ⟨more known, ?_⟩
      rw [List.map_append]
      rintro waits
      rcases List.mem_append.1 waits with waits | new
      · exact free waits
      · rw [List.map_singleton, List.mem_singleton] at new
        subst new
        exact not_mem_of_nodup_snoc distinct known
  | unblock first =>
    refine { h with called := ?_, returned := ?_ }
    · exact fun e he => h.called (first ▸ List.mem_cons_of_mem _ he)
    · intro call hcall
      obtain ⟨known, free⟩ := h.returned call hcall
      refine ⟨known, fun waits => free ?_⟩
      rw [first]
      exact List.mem_cons_of_mem _ waits
  | @finish call known =>
    refine { h with called := ?_, returned := ?_ }
    · exact fun e he => h.called (List.mem_filter.1 he).1
    · intro call' hcall
      rcases List.mem_append.1 hcall with hcall | new
      · obtain ⟨known, free⟩ := h.returned call' hcall
        exact ⟨known, fun waits => free ((List.filter_sublist.map _).subset waits)⟩
      · cases List.mem_singleton.1 new
        refine ⟨known, fun waits => ?_⟩
        obtain ⟨e, he, same⟩ := List.mem_map.1 waits
        simpa [same] using (List.mem_filter.1 he).2
  | dial c =>
    refine { h with current := ?_, written := ?_ }
    · rintro c' hc
      cases hc
      exact List.mem_append_right _ (List.mem_singleton.2 rfl)
    · exact fun e he => List.mem_append_left _ (h.written e he)
  | write current _ =>
    refine { h with written := ?_ }
    intro e he
    rcases List.mem_append.1 he with he | he
    · exact h.written e he
    · cases List.mem_singleton.1 he
      exact h.current _ current
  | drop => exact { h with }
  | lose => exact { h with current := nofun }

/-! ## Requests that do not wait for room -/

/-- A request that has been made is not written to a connection, and will not be. -/
structure Without (q : Request) (d : ConnectionId) (k : ClientRequests) : Prop where
  blocked : q ∉ k.blocked.map (·.2)
  outbound : d ∈ k.dialed → q ∉ k.outbound
  current : k.current = some d → d ∈ k.dialed
  written : (d, q) ∉ k.written

theorem Without.step (h : k.Without q d) (known : q ∈ k.calls.map (·.2)) (s : k.Steps k')
    (distinct : (k'.calls.map (·.2)).Nodup) : k'.Without q d := by
  have other : ∀ {call : Call} {p : Request},
      ((k.calls ++ [(call, p)]).map (·.2)).Nodup → q ≠ p := by
    rintro call p distinct rfl
    rw [List.map_append] at distinct
    exact (List.nodup_append.1 distinct).2.2 _ known _ (List.mem_singleton.2 rfl) rfl
  cases s with
  | stay => exact h
  | queue call p =>
    refine { h with outbound := fun there => ?_ }
    intro queued
    rcases List.mem_append.1 queued with queued | new
    · exact h.outbound there queued
    · exact other distinct (List.mem_singleton.1 new)
  | block call p =>
    refine { h with blocked := ?_ }
    rw [List.map_append]
    intro waits
    rcases List.mem_append.1 waits with waits | new
    · exact h.blocked waits
    · exact other distinct (List.mem_singleton.1 new)
  | unblock first =>
    have free := h.blocked
    rw [first, List.map_cons, List.mem_cons, not_or] at free
    refine { h with blocked := free.2, outbound := fun there => ?_ }
    intro queued
    rcases List.mem_append.1 queued with queued | new
    · exact h.outbound there queued
    · exact free.1 (List.mem_singleton.1 new)
  | finish =>
    exact { h with blocked := fun waits => h.blocked ((List.filter_sublist.map _).subset waits) }
  | dial c =>
    refine { h with outbound := fun _ => List.not_mem_nil, current := fun hc => ?_ }
    cases hc
    exact List.mem_append_right _ (List.mem_singleton.2 rfl)
  | write current oldest =>
    refine { h with outbound := fun there queued => ?_, written := ?_ }
    · exact h.outbound there (oldest ▸ List.mem_cons_of_mem _ queued)
    · intro written
      rcases List.mem_append.1 written with written | new
      · exact h.written written
      · cases List.mem_singleton.1 new
        exact h.outbound (h.current current) (oldest ▸ List.mem_cons_self ..)
  | drop oldest =>
    exact { h with
      outbound := fun there queued => h.outbound there (oldest ▸ List.mem_cons_of_mem _ queued) }
  | lose => exact { h with current := nofun }

end ClientRequests

/-- A request that can be encoded fits a frame. -/
theorem Request.exists_frame {q : Request} {body : Bytes} (encoded : q.encode = .ok body) :
    ∃ frame, Frame.write body = .ok frame := by
  obtain ⟨fits, rfl⟩ := Request.isCodec.encode_eq_ok_iff.1 encoded
  exact ⟨_, Frame.write_eq_ok_iff.2 ⟨fits, rfl⟩⟩

namespace Exchange

variable {mine : ConnectionId → Bool} {x y z : Exchange} {ms ns : List Move} {q : Request}
  {d : ConnectionId} {db : Database} {store : Option SnapshotStore} {files : Files}

theorem orderly_clientRequests (run : (start db store files).run? mine ms = some x)
    (distinct : (x.calls.map (·.1.token)).Nodup) : x.clientRequests.Orderly := by
  refine induction (P := fun x =>
    (x.calls.map (·.1.token)).Nodup → x.clientRequests.Orderly) ?_ ?_ run distinct
  · intro _
    refine ⟨List.nil_subset _, ?_, ?_, ?_⟩ <;> intro _ h <;> cases h
  · intro x m y h s distinct
    exact (h (distinct.sublist (s.calls_prefix.sublist.map _))).step s.clientRequests distinct

/-- A request that has been made and does not wait for room is not written to any connection dialed
later. -/
theorem not_written_later (posted : x.Posted mine) (without : x.clientRequests.Without q d)
    (known : q ∈ x.calls.map (·.2)) (later : x.run? mine ms = some y)
    (distinct : (y.calls.map (·.1.token)).Nodup) : (d, q) ∉ y.written := by
  have all : y.Posted mine ∧ q ∈ y.calls.map (·.2) ∧
      ((y.calls.map (·.1.token)).Nodup → y.clientRequests.Without q d) := by
    refine induction (P := fun y => y.Posted mine ∧ q ∈ y.calls.map (·.2) ∧
      ((y.calls.map (·.1.token)).Nodup → y.clientRequests.Without q d))
      ⟨posted, known, fun _ => without⟩ ?_ later
    rintro y m z ⟨posted, known, without⟩ s
    refine ⟨posted.step s, (s.calls_prefix.sublist.map _).subset known, fun distinct => ?_⟩
    have before := without (distinct.sublist (s.calls_prefix.sublist.map _))
    exact before.step known s.clientRequests ((posted.step s).nodup_requests distinct)
  exact (all.2.2 distinct).written

/-! ## Room for the next call -/

theorem run?_pair {m n : Move} (first : x.step? mine m = some y)
    (second : y.step? mine n = some z) : x.run? mine [m, n] = some z := by
  simp [run?, first, second]

theorem run?_trans (first : x.run? mine ms = some y) (rest : y.run? mine ns = some z) :
    x.run? mine (ms ++ ns) = some z := by
  unfold run? at *
  rw [List.foldlM_append, first]
  exact rest

variable (mine) in
/-- With an empty queue the call that waits longest gets room, and its request is written if it can
be. -/
theorem round {e : Call × Request} {rest : List (Call × Request)} (current : x.current = some d)
    (empty : x.client.outbound = []) (first : x.client.blocked = e :: rest) :
    ∃ y, x.run? mine [.unblock, .write] = some y ∧ y.current = some d ∧ y.client.outbound = [] ∧
      y.client.blocked = rest ∧ y.calls = x.calls ∧
      ((∃ body, e.2.encode = .ok body) → (d, e.2) ∈ y.written) := by
  have room : x.client.unblock = { x.client with outbound := [e.2], blocked := rest } := by
    unfold Client.unblock
    simp [first, empty, requestCapacity]
  have unblocked : x.step? mine .unblock =
      some { x with client := { x.client with outbound := [e.2], blocked := rest } } := by
    rw [← room]
    rfl
  cases encoded : e.2.encode with
  | error cause =>
    refine ⟨{ x with client := { x.client with
      outbound := [], blocked := rest, correlator := x.client.correlator.abandon e.2.sequence } },
      run?_pair unblocked ?_, current, rfl, rfl, rfl, nofun⟩
    simp [step?, current, Client.writeRequest, encoded]
  | ok body =>
    obtain ⟨frame, framed⟩ := Request.exists_frame encoded
    refine ⟨{ x with
      client := { x.client with outbound := [], blocked := rest }
      up := x.up ++ [(d, frame)]
      written := x.written ++ [(d, e.2)] },
      run?_pair unblocked ?_, current, rfl, rfl, rfl, fun _ => by simp⟩
    simp [step?, current, Client.writeRequest, encoded, framed]

variable (mine) in
/-- The calls that wait for room get it one after the other. -/
theorem exists_written {call : Call} {before rest : List (Call × Request)}
    (current : x.current = some d) (empty : x.client.outbound = [])
    (waiting : x.client.blocked = before ++ (call, q) :: rest)
    (encodable : ∃ body, q.encode = .ok body) :
    ∃ ms y, x.run? mine ms = some y ∧ y.calls = x.calls ∧ (d, q) ∈ y.written := by
  induction before generalizing x with
  | nil =>
    obtain ⟨y, run, -, -, -, calls, written⟩ := round mine current empty waiting
    exact ⟨_, y, run, calls, written encodable⟩
  | cons e before ih =>
    obtain ⟨y, run, current, empty, blocked, calls, -⟩ := round mine current empty waiting
    obtain ⟨ms, z, later, calls', written⟩ := ih current empty blocked
    exact ⟨_, z, run?_trans run later, calls'.trans calls, written⟩

/-- The client loses its connection and dials another one, whose queue is empty. -/
theorem redialed (isMine : mine d = true) (new : d ∉ x.dialed) :
    ∃ y, x.run? mine [.lose, .dial, .dialed d] = some y ∧ y.current = some d ∧
      y.client.outbound = [] ∧ y.client.blocked = x.client.blocked ∧ y.calls = x.calls := by
  let dialing : Exchange := { x with
    client := { x.client.lost with status := .connecting }, current := none }
  refine ⟨{ dialing with
    client := dialing.client.dialed, current := some d, dialed := x.dialed ++ [d] }, ?_, rfl, rfl,
    rfl, rfl⟩
  have lost : x.run? mine [.lose, .dial] = some dialing := run?_pair rfl rfl
  refine run?_trans lost ?_
  simp [run?, step?, dialing, isMine, new]

end Exchange

/-- After any run, among all requests made so far exactly those whose calls wait for room can still
be written to a connection that is dialed later. These calls have not returned, so that no request
of a call that has failed is written then. -/
theorem written_later_iff_blocked {mine : ConnectionId → Bool} {db : Database}
    {store : Option SnapshotStore} {files : Files} {ms : List Move} {x : Exchange}
    (run : (Exchange.start db store files).run? mine ms = some x)
    (distinct : (x.calls.map (·.1.token)).Nodup) {call : Call} {q : Request}
    (called : (call, q) ∈ x.calls) (encodable : ∃ body, q.encode = .ok body) {d : ConnectionId}
    (isMine : mine d = true) (new : d ∉ x.dialed) :
    ((∃ later y, x.run? mine later = some y ∧ (y.calls.map (·.1.token)).Nodup ∧
        (d, q) ∈ y.written) ↔ (call, q) ∈ x.client.blocked) ∧
      ((call, q) ∈ x.client.blocked → ∀ ret ∈ x.returns, ret.call ≠ call) := by
  have orderly := Exchange.orderly_clientRequests run distinct
  obtain ⟨posted, -, -⟩ := Exchange.orderly run distinct
  refine ⟨⟨?_, fun waits => ?_⟩, ?_⟩
  · rintro ⟨later, y, continued, distinct', written⟩
    by_contra free
    refine Exchange.not_written_later posted ⟨?_, fun there => absurd there new, ?_, ?_⟩
      (List.mem_map_of_mem called) continued distinct' written
    · intro waits
      obtain ⟨⟨call', q'⟩, he, rfl⟩ := List.mem_map.1 waits
      -- the request is under the token of its call, and no other call has this one
      have same : call'.token = call.token :=
        (posted.sequence _ (orderly.called he)).symm.trans (posted.sequence _ called)
      have e := List.inj_on_of_nodup_map distinct (orderly.called he) called same
      cases e
      exact free he
    · exact fun hc => absurd (orderly.current d hc) new
    · exact fun hw => new (orderly.written _ hw)
  · obtain ⟨before, rest, waiting⟩ := List.append_of_mem waits
    obtain ⟨y, redialed, current, empty, blocked, calls⟩ := Exchange.redialed isMine new
    obtain ⟨later, z, continued, calls', written⟩ :=
      Exchange.exists_written mine current empty (blocked.trans waiting) encodable
    refine ⟨_, z, Exchange.run?_trans redialed continued, ?_, written⟩
    rw [calls', calls]
    exact distinct
  · rintro waits ret hret rfl
    exact (orderly.returned _ (List.mem_map_of_mem hret)).2 (List.mem_map_of_mem waits)

/-- A client asks for the services. -/
def sampleQuestion (token : String) : Request :=
  { Request.ofAction .services with sequence := token }

/-- So many calls begin at once that the last one waits for room. -/
def crowdedMoves : List Move :=
  [.dial, .dialed 1] ++
    (List.range 33).map fun i => .begin 0 ["t" ++ toString i] (.ofAction .services)

theorem written_later_iff_blocked_crowdedMoves :
    let mine : ConnectionId → Bool := fun _ => true
    ∃ x, (Exchange.start {} none {}).run? mine crowdedMoves = some x ∧
      (∃ later y, x.run? mine later = some y ∧ (2, sampleQuestion "t32") ∈ y.written) ∧
      ¬ ∃ later y, x.run? mine later = some y ∧ (y.calls.map (·.1.token)).Nodup ∧
        (2, sampleQuestion "t31") ∈ y.written := by
  intro mine
  have evaluated : ((Exchange.start {} none {}).run? mine crowdedMoves).map (fun x => decide
      ((x.calls.map (·.1.token)).Nodup ∧
        x.calls[31]? = some (⟨"t31", 31⟩, sampleQuestion "t31") ∧
        x.calls[32]? = some (⟨"t32", 32⟩, sampleQuestion "t32") ∧
        x.client.blocked = [(⟨"t32", 32⟩, sampleQuestion "t32")] ∧ x.dialed = [1])) =
      some true := by
    decide +kernel
  obtain ⟨x, run, found⟩ := Option.map_eq_some_iff.1 evaluated
  obtain ⟨distinct, queued, waits, blocked, dialed⟩ := of_decide_eq_true found
  have new : 2 ∉ x.dialed := by
    rw [dialed]
    decide
  have short : ∀ token ∈ ["t31", "t32"],
      (sampleQuestion token).document.compact.length ≤ maxFrameSize := by
    decide +kernel
  have encodable : ∀ token ∈ ["t31", "t32"], ∃ body, (sampleQuestion token).encode = .ok body :=
    fun token ht => ⟨_, Request.isCodec.encode_eq_ok_iff.2 ⟨short token ht, rfl⟩⟩
  obtain ⟨⟨-, written⟩, -⟩ := written_later_iff_blocked run distinct (List.mem_of_getElem? waits)
    (encodable _ (by simp)) (d := 2) rfl new
  obtain ⟨⟨free, -⟩, -⟩ := written_later_iff_blocked run distinct (List.mem_of_getElem? queued)
    (encodable _ (by simp)) (d := 2) rfl new
  refine ⟨x, run, ?_, fun later => ?_⟩
  · obtain ⟨later, y, continued, -, there⟩ := written (by rw [blocked]; simp)
    exact ⟨later, y, continued, there⟩
  · have blocked' := free later
    rw [blocked] at blocked'
    revert blocked'
    decide

/-- The call that waits for room loses its waiter with the connection. Yet its request is written to
the next one, and then the call fails. -/
theorem stale_request_is_written :
    let mine : ConnectionId → Bool := fun _ => true
    ∃ x y z, (Exchange.start {} none {}).run? mine (crowdedMoves ++ [.lose]) = some x ∧
      (⟨"t32", 32⟩, sampleQuestion "t32") ∈ x.calls ∧
      x.client.correlator.waiter? 32 = some .closed ∧ 2 ∉ x.dialed ∧
      x.run? mine [.dial, .dialed 2, .unblock, .write] = some y ∧
      (2, sampleQuestion "t32") ∈ y.written ∧
      y.run? mine [.finish ⟨"t32", 32⟩] = some z ∧
      ⟨⟨"t32", 32⟩, none, .error .connectionClosed⟩ ∈ z.returns := by
  intro mine
  have evaluated : ((Exchange.start {} none {}).run? mine (crowdedMoves ++ [.lose])).bind
      (fun x => (x.run? mine [.dial, .dialed 2, .unblock, .write]).bind fun y =>
        (y.run? mine [.finish ⟨"t32", 32⟩]).map fun z => decide
          (x.calls[32]? = some (⟨"t32", 32⟩, sampleQuestion "t32") ∧
            x.client.correlator.waiter? 32 = some .closed ∧ x.dialed = [1] ∧
            y.written = [(2, sampleQuestion "t32")] ∧
            z.returns = [⟨⟨"t32", 32⟩, none, .error .connectionClosed⟩])) =
      some true := by
    decide +kernel
  obtain ⟨x, lost, evaluated⟩ := Option.bind_eq_some_iff.1 evaluated
  obtain ⟨y, redialed, evaluated⟩ := Option.bind_eq_some_iff.1 evaluated
  obtain ⟨z, failed, found⟩ := Option.map_eq_some_iff.1 evaluated
  obtain ⟨called, waiter, dialed, written, returns⟩ := of_decide_eq_true found
  refine ⟨x, y, z, lost, List.mem_of_getElem? called, waiter, ?_, redialed, ?_, failed, ?_⟩
  · rw [dialed]
    decide
  · rw [written]
    exact List.mem_singleton.2 rfl
  · rw [returns]
    exact List.mem_singleton.2 rfl

end Rendezvous
