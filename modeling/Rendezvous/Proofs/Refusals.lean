import Rendezvous.Proofs.Connections

/-!
# Refused requests

A request that is refused leaves no trace but its reply: the records, the tables of connections
and the mark of unwritten changes stay as they were, nothing goes to another connection, and the
requester is told why under the sequence of its request.

    Fresh es → (r.dispatch c time q).result = .error e → (r.handle (.request c time q)).1 = r ∧ ..
                                                                       (refusal_leaves_no_trace)
-/

namespace Rendezvous

/-- Every refusal has a text. -/
theorem RelayError.message_ne_empty (e : RelayError) : e.message ≠ "" := by
  cases e with
  | invalidPassword => decide
  | wrongPassword => decide
  | _ =>
    intro h
    exact absurd (String.append_eq_empty_iff.1 h).1 (by decide)

namespace Relay

variable {r : Relay} {isOpen : ConnectionId → QueueId → Prop} {c : ConnectionId} {time : UInt64}
  {q : Request} {e : RelayError}

/-- A takeover is the one outcome that changes the tables before its last check; that check cannot
fail while the tables are coherent. -/
theorem Coherent.eq_refuse (h : r.Coherent isOpen) {o : Outcome} (l : r.Leads c time q o)
    (he : o.result = .error e) : o = r.refuse e := by
  cases l with
  | refused e' =>
    cases he
    rfl
  | tookOver _ _ _ _ known =>
    obtain ⟨k, hk⟩ := h.isOpen_of_known known
    rw [h.takeOver_eq hk] at he
    cases he
  | registered => cases he
  | stayed => cases he
  | loggedOut => cases he
  | edited => cases he
  | answered => cases he
  | relayed => cases he

end Relay

theorem refusal_leaves_no_trace (db : Database) {es : List Event} (fresh : Fresh es)
    {c : ConnectionId} {time : UInt64} {q : Request} {e : RelayError}
    (refused : (((Relay.idle db).after es).dispatch c time q).result = .error e) :
    let r := (Relay.idle db).after es
    (r.handle (.request c time q)).1 = r ∧ e.message ≠ "" ∧
      (∀ k, StillOpen es c k → (r.handle (.request c time q)).2 =
        [⟨⟨c, k⟩, { sequence := q.sequence, error := e.message }⟩]) ∧
      ((∀ k, ¬ StillOpen es c k) → (r.handle (.request c time q)).2 = []) := by
  intro r
  have h : r.Coherent (StillOpen es) := fresh.coherent db
  have ho : r.dispatch c time q = r.refuse e := h.eq_refuse (Relay.leads_dispatch ..) refused
  have hh : r.handle (.request c time q) = (r, ((r.link? c).map fun link =>
      ⟨link, { sequence := q.sequence, error := e.message }⟩).toList) := by
    show r.handleRequest c time q = _
    unfold Relay.handleRequest
    rw [ho]
    rfl
  rw [hh]
  refine ⟨rfl, e.message_ne_empty, ?_, ?_⟩
  · intro k hk
    have hl : r.link? c = some ⟨c, k⟩ := h.link?_eq_some_iff.2 ⟨rfl, hk⟩
    rw [hl]
    rfl
  · intro hn
    rw [h.link?_eq_none_iff.2 hn]
    rfl

/-- Carol wants to become Bob, who is online elsewhere. -/
theorem refusal_leaves_no_trace_sampleRun :
    let r := (Relay.idle sampleDatabase).after sampleRun
    let q := sampleLogin "bob1234567" false
    Fresh sampleRun ∧ StillOpen sampleRun 2 1 ∧
      (r.dispatch 2 0 q).result = .error (.peerAlreadyOnline "bob1234567") ∧
      (r.handle (.request 2 0 q)).1 = r ∧
      (r.handle (.request 2 0 q)).2 =
        [⟨⟨2, 1⟩, { sequence := "s1", error := "peer already online: " ++ "bob1234567" }⟩] := by
  intro r q
  have isOpen : StillOpen sampleRun 2 1 := ⟨sampleRun.take 1, sampleRun.drop 2, rfl, by decide⟩
  have refused : (r.dispatch 2 0 q).result = .error (.peerAlreadyOnline "bob1234567") := by
    rw [show r = sampleRelay from after_sampleRun]
    decide +kernel
  obtain ⟨same, -, pushed, -⟩ := refusal_leaves_no_trace sampleDatabase fresh_sampleRun refused
  exact ⟨fresh_sampleRun, isOpen, refused, same, pushed 1 isOpen⟩

end Rendezvous
