import Rendezvous.Proofs.Since
import Rendezvous.Relay.Event

/-!
# Runs of the relay

A run is a list of events that a relay handles one after the other. It starts with some records
and without connections. Ids of connections are counted up, so that no run opens one twice.

    StillOpen (es ++ [e]) c q ↔ e = .opened c q ∨ StillOpen es c q ∧ e ≠ .closed c
                                                                       (stillOpen_snoc)
    r.after (es ++ [e]) = ((r.after es).handle e).1                    (after_snoc)

What holds at first and is kept by every event holds after every run (`Fresh.induction`).
-/

namespace Rendezvous

/-! ## Which connections are open -/

/-- The connection that an event opens. -/
def Event.opening? : Event → Option ConnectionId
  | .opened c _ => some c
  | _ => none

/-- No connection is opened twice. -/
def Fresh (es : List Event) : Prop := (es.filterMap Event.opening?).Nodup

/-- A connection was opened with a queue and has not been closed since. -/
def StillOpen (es : List Event) (c : ConnectionId) (q : QueueId) : Prop :=
  ∃ before later, es = before ++ .opened c q :: later ∧ .closed c ∉ later

theorem mem_opening_of_stillOpen {es : List Event} {c : ConnectionId} {q : QueueId}
    (h : StillOpen es c q) : c ∈ es.filterMap Event.opening? := by
  obtain ⟨before, later, rfl, -⟩ := h
  rw [List.filterMap_append, List.mem_append]
  right
  exact List.mem_filterMap.2 ⟨.opened c q, List.mem_cons_self .., rfl⟩

theorem stillOpen_iff_since {es : List Event} {c : ConnectionId} {q : QueueId} :
    StillOpen es c q ↔ Since (fun _ e => e = .opened c q) (· ≠ .closed c) es := by
  constructor
  · rintro ⟨before, later, rfl, stays⟩
    exact ⟨before, _, later, rfl, rfl, fun e he closed => stays (closed ▸ he)⟩
  · rintro ⟨before, _, later, rfl, rfl, stays⟩
    exact ⟨before, later, rfl, fun closed => stays _ closed rfl⟩

theorem not_stillOpen_nil (c : ConnectionId) (q : QueueId) : ¬ StillOpen [] c q := by
  rw [stillOpen_iff_since]
  exact not_since_nil

theorem stillOpen_snoc {es : List Event} {e : Event} {c : ConnectionId} {q : QueueId} :
    StillOpen (es ++ [e]) c q ↔ e = .opened c q ∨ StillOpen es c q ∧ e ≠ .closed c := by
  simp only [stillOpen_iff_since, since_snoc]

theorem fresh_nil : Fresh [] := List.nodup_nil

theorem Fresh.of_append {es later : List Event} (h : Fresh (es ++ later)) : Fresh es := by
  unfold Fresh at h
  rw [List.filterMap_append] at h
  exact (List.nodup_append.1 h).1

theorem Fresh.of_snoc {es : List Event} {e : Event} (h : Fresh (es ++ [e])) : Fresh es :=
  h.of_append

/-- What is opened now is not open. -/
theorem Fresh.not_stillOpen {es : List Event} {c : ConnectionId} {q : QueueId}
    (h : Fresh (es ++ [.opened c q])) (q' : QueueId) : ¬ StillOpen es c q' := by
  intro ho
  unfold Fresh at h
  rw [List.filterMap_append] at h
  have hm := mem_opening_of_stillOpen ho
  exact (List.nodup_append.1 h).2.2 c hm c (by simp [Event.opening?]) rfl

/-! ## Where a run leads -/

namespace Relay

/-- A relay that has records and no connections yet. -/
def idle (db : Database) : Relay := { db := db }

/-- The relay after a run. -/
def after (r : Relay) (es : List Event) : Relay := es.foldl (fun r e => (r.handle e).1) r

theorem after_append (r : Relay) (es later : List Event) :
    r.after (es ++ later) = (r.after es).after later :=
  List.foldl_append

theorem after_snoc (r : Relay) (es : List Event) (e : Event) :
    r.after (es ++ [e]) = ((r.after es).handle e).1 :=
  r.after_append es [e]

end Relay

/-- What holds of a relay without connections, and is kept by every event that opens no connection
a second time, holds after every run. -/
theorem Fresh.induction {P : List Event → Relay → Prop} {db : Database}
    (start : P [] (.idle db))
    (step : ∀ es e r, Fresh (es ++ [e]) → P es r → P (es ++ [e]) (r.handle e).1)
    {es : List Event} (h : Fresh es) : P es ((Relay.idle db).after es) := by
  induction es using List.reverseRecOn with
  | nil => exact start
  | append_singleton es e ih =>
    rw [Relay.after_snoc]
    exact step es e _ h (ih h.of_snoc)

/-! ## A run to look at -/

/-- A digest as clients send it. -/
def sampleDigest : String := "2bb80d537b1da3e38bd30361aa855686bde0eacd7162fef6a25fe97bf527a25b"

/-- The same digest as it is kept. -/
def sampleSalted : String := "fd61b1133c89ff9773d31546aa7291de44c4521053c1e62e9c434b91e291b8e4"

/-- Bob owns a service that Carol has joined. -/
def sampleDatabase : Database where
  peers := .ofList
    [("bob1234567", { id := "bob1234567", passwordDigest := sampleSalted, salt := "salt" }),
     ("carol12345", { id := "carol12345", passwordDigest := sampleSalted, salt := "salt",
                      memberships := .ofList [("ssh-box", true)] })]
  services := .ofList
    [("ssh-box", { name := "ssh-box", owner := "bob1234567", passwordDigest := sampleSalted,
                   salt := "salt", createdAt := 0 })]

/-- A login of one of them. -/
def sampleLogin (id : String) (force : Bool) : Request :=
  { sequence := "s1", action := "login", fromId := id, pwdDigest := some sampleDigest,
    force := force }

/-- Both log in; then Bob moves from one connection to another, and the old one is closed. -/
def sampleRun : List Event :=
  [.opened 1 0, .opened 2 1, .request 1 0 (sampleLogin "bob1234567" false),
   .request 2 0 (sampleLogin "carol12345" false), .opened 3 2,
   .request 3 0 (sampleLogin "bob1234567" true), .closed 1]

theorem fresh_sampleRun : Fresh sampleRun := by
  unfold Fresh
  decide

/-- The relay after it: Bob and Carol are online, and nothing is pending. -/
def sampleRelay : Relay where
  db := sampleDatabase
  online := .ofList [("bob1234567", ⟨3, 2⟩), ("carol12345", ⟨2, 1⟩)]
  identities := .ofList [(2, "carol12345"), (3, "bob1234567")]

theorem after_sampleRun : (Relay.idle sampleDatabase).after sampleRun = sampleRelay := by
  decide +kernel

end Rendezvous
