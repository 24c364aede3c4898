import Rendezvous.Proofs.Snapshots
import Rendezvous.Proofs.WellFormed

/-!
# What has happened to the records

A history begins with empty records and grows by one event at a time. Now and then a relay ends and
another one starts with the records of its snapshot and no connections (`History.restart`); nothing
that the records say is lost by that.

A peer does something about a service if it asks for it on a connection that is logged in as that
peer, and gets it (`Moment.Does`). Whatever changes services and memberships is done so, and one
event does one thing at most (`Moment.deed`).
-/

namespace Rendezvous

/-- An event, and the relay that reacts to it. -/
structure Moment where
  before : Relay
  event : Event

/-- The relay once it has reacted. -/
def Moment.after (m : Moment) : Relay := (m.before.handle m.event).1

/-! ## Histories -/

/-- What has happened so far, the events since the last start, and the relay that there is now. -/
inductive History : List Moment → List Event → Relay → Prop
  | start : History [] [] (.idle {})
  | event {ms : List Moment} {es : List Event} {r : Relay} (h : History ms es r) (e : Event)
      (fresh : Fresh (es ++ [e])) : History (ms ++ [⟨r, e⟩]) (es ++ [e]) (r.handle e).1
  | restart {ms : List Moment} {es : List Event} {r : Relay} {db : Database} (h : History ms es r)
      (restored : Database.restore r.db.snapshot = .ok db) : History ms [] (.idle db)

namespace History

variable {ms : List Moment} {es : List Event} {r : Relay}

theorem coherent (h : History ms es r) : r.Coherent (StillOpen es) := by
  induction h with
  | start => exact fresh_nil.coherent {}
  | event _ e fresh ih => exact ih.handle fresh
  | @restart _ _ _ db => exact fresh_nil.coherent db

/-- A relay can be started again at any time, and its records stay as they are. -/
theorem restarted (h : History ms es r) : History ms [] (.idle r.db) :=
  h.restart (restore_snapshot r.db)

theorem wellFormed (h : History ms es r) : r.db.WellFormed := by
  induction h with
  | start => exact .empty
  | event h e _ ih => exact ih.handle h.coherent e
  | restart _ restored ih =>
    rw [restore_snapshot] at restored
    cases restored
    exact ih

/-- What holds of empty records, and is kept by every event in a state that a history leads to, holds
of all histories: a restart keeps the records. -/
theorem induction {P : List Moment → Database → Prop} (start : P [] {})
    (step : ∀ ms (m : Moment), m.before.db.WellFormed → P ms m.before.db →
      P (ms ++ [m]) m.after.db) (h : History ms es r) : P ms r.db := by
  induction h with
  | start => exact start
  | @event ms _ r h e _ ih => exact step ms ⟨r, e⟩ h.wellFormed ih
  | restart _ restored ih =>
    rw [restore_snapshot] at restored
    cases restored
    exact ih

/-- Whatever a history says of some moment, it leads to the relay of that moment. -/
theorem earlier {before later : List Moment} {m : Moment} (h : History ms es r)
    (split : ms = before ++ m :: later) : ∃ es', History before es' m.before := by
  induction h generalizing later with
  | start => simp at split
  | restart _ _ ih => exact ih split
  | event h e _ ih =>
    rcases List.eq_nil_or_concat' later with rfl | ⟨later, last, rfl⟩
    · obtain ⟨rfl, e⟩ := List.append_inj' split rfl
      cases e
      exact ⟨_, h⟩
    · rw [← List.cons_append, ← List.append_assoc] at split
      exact ih (List.append_inj' split rfl).1

/-- Every run of a relay that has just started is part of a history. -/
theorem exists_of_run {db : Database} (h : History ms [] (.idle db)) (fresh : Fresh es) :
    ∃ ms', History ms' es ((Relay.idle db).after es) := by
  refine Fresh.induction (P := fun es r => ∃ ms', History ms' es r) ⟨ms, h⟩ ?_ fresh
  rintro es e r fresh ⟨ms', h'⟩
  exact ⟨_, h'.event e fresh⟩

end History

/-! ## Deeds -/

/-- The actions that change services and memberships. -/
def Action.edits : Action → Bool
  | .createService | .removeService | .enableService | .disableService | .joinService
  | .leaveService => true
  | _ => false

theorem Relay.Answers.edits {r : Relay} {caller : String} {q : Request} {a : Action}
    {content : Response} (h : r.Answers caller q a content) : a.edits = false := by
  cases h <;> rfl

theorem Action.edits_of_relayedAs? {a b : Action} (h : a.relayedAs? = some b) :
    a.edits = false := by
  revert h
  cases a <;> simp [relayedAs?, isRelayed, edits]

namespace Moment

/-- A peer asks for something about a service, and gets it. -/
def Does (m : Moment) (peer : String) (a : Action) (name : String) (q : Request) : Prop :=
  ∃ c time, m.event = .request c time q ∧ m.before.identities.get? c = some peer ∧
    q.action? = .ok a ∧ q.serviceName = some name ∧
    ∃ reply, (m.before.dispatch c time q).result = .ok reply

def Creates (m : Moment) (name : String) : Prop := ∃ peer q, m.Does peer .createService name q

def Removes (m : Moment) (name : String) : Prop := ∃ peer q, m.Does peer .removeService name q

def Joins (m : Moment) (peer name : String) (q : Request) : Prop := m.Does peer .joinService name q

def Leaves (m : Moment) (peer name : String) : Prop := ∃ q, m.Does peer .leaveService name q

/-- A peer does what it is entitled to, and that is all that is done. -/
structure Deed (m : Moment) (caller : String) (a : Action) (q : Request) (ch : Change) : Prop where
  does_iff : ∀ peer b name q', m.Does peer b name q' ↔
    peer = caller ∧ b = a ∧ q' = q ∧ q.serviceName = some name
  entitled : m.before.db.Entitles caller q a ch
  turns : ch.Turns m.before.db m.after.db

/-- Nothing is done to services and memberships. -/
structure Rests (m : Moment) : Prop where
  none : ∀ {peer a name q}, m.Does peer a name q → a.edits = false
  turns : Change.nothing.Turns m.before.db m.after.db

theorem deed_of_edit {r : Relay} {c : ConnectionId} {time : UInt64} {q : Request}
    {caller : String} {a : Action} {db : Database} (who : r.identities.get? c = some caller)
    (asked : q.action? = .ok a) (edit : r.db.Edit caller time q a db)
    (outcome : r.dispatch c time q = Relay.accept { r with db := db, dirty := true }) :
    ∃ ch, Deed ⟨r, .request c time q⟩ caller a q ch := by
  obtain ⟨ch, entitled, turns⟩ := edit.turns
  refine ⟨ch, ?_, entitled, ?_⟩
  · intro peer b name q'
    constructor
    · rintro ⟨c', time', event, who', asked', named, -⟩
      cases event
      have who' : r.identities.get? c = some peer := who'
      rw [who] at who'
      rw [asked] at asked'
      cases who'
      cases asked'
      exact ⟨rfl, rfl, rfl, named⟩
    · rintro ⟨rfl, rfl, rfl, named⟩
      refine ⟨c, time, rfl, who, asked, named, {}, ?_⟩
      show (r.dispatch c time q').result = _
      rw [outcome]
      rfl
  · have after : (Moment.after ⟨r, .request c time q⟩).db = db := by
      show (r.dispatch c time q).relay.db = db
      rw [outcome]
      rfl
    rw [after]
    exact turns

/-- Only requests do anything. -/
theorem rests_of_quiet {r : Relay} {e : Event} (quiet : ∀ c time q, e ≠ .request c time q)
    (same : (r.handle e).1.db = r.db) : Rests ⟨r, e⟩ where
  none := by
    rintro peer a name q ⟨c, time, event, -⟩
    exact absurd event (quiet c time q)
  turns := by
    show Change.nothing.Turns r.db (r.handle e).1.db
    rw [same]
    exact Change.turns_refl r.db

theorem rests_of_request {r : Relay} {c : ConnectionId} {time : UInt64} {q : Request}
    (none : ∀ a reply, q.action? = .ok a → (r.dispatch c time q).result = .ok reply →
      a.edits = false)
    (turns : Change.nothing.Turns r.db (r.dispatch c time q).relay.db) :
    Rests ⟨r, .request c time q⟩ where
  none := by
    rintro peer a name q' ⟨c', time', event, -, asked, -, reply, ok⟩
    cases event
    exact none a reply asked ok
  turns := turns

/-- An event does one thing at most to services and memberships, and only for a peer that is
entitled to it. -/
theorem deed (m : Moment) : (∃ caller a q ch, m.Deed caller a q ch) ∨ m.Rests := by
  obtain ⟨r, e⟩ := m
  cases e with
  | opened => exact .inr (rests_of_quiet (fun _ _ _ => nofun) rfl)
  | closed c => exact .inr (rests_of_quiet (fun _ _ _ => nofun) (r.records_closed c).1)
  | shutdown => exact .inr (rests_of_quiet (fun _ _ _ => nofun) rfl)
  | request c time q =>
    have l := Relay.leads_dispatch r c time q
    have other : ∀ {b : Action}, q.action? = .ok b → b.edits = false →
        Change.nothing.Turns r.db (r.dispatch c time q).relay.db →
        Rests ⟨r, .request c time q⟩ := by
      intro b asked edits turns
      refine rests_of_request (fun a reply asked' _ => ?_) turns
      rw [asked] at asked'
      cases asked'
      exact edits
    have same : Change.nothing.Turns r.db r.db := Change.turns_refl r.db
    generalize outcome : r.dispatch c time q = o at l other
    cases l with
    | edited who asked edit =>
      obtain ⟨ch, deed⟩ := deed_of_edit who asked edit outcome
      exact .inl ⟨_, _, _, ch, deed⟩
    | refused e =>
      right
      refine rests_of_request (fun a reply _ ok => ?_) (outcome ▸ same)
      rw [outcome] at ok
      cases ok
    | registered asked h => exact .inr (other asked rfl (Database.turns_register h))
    | stayed asked => exact .inr (other asked rfl same)
    | tookOver asked =>
      refine .inr (other asked rfl ?_)
      rw [(r.records_takeOver c q.fromId).1]
      exact same
    | loggedOut asked =>
      refine .inr (other asked rfl ?_)
      show Change.nothing.Turns r.db (r.demote c).db
      rw [Relay.db_demote]
      exact same
    | answered _ asked h => exact .inr (other asked h.edits same)
    | relayed _ asked under => exact .inr (other asked (Action.edits_of_relayedAs? under) same)

end Moment

end Rendezvous
