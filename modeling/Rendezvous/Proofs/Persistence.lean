import Rendezvous.Proofs.WellFormed
import Rendezvous.Proofs.Writes
import Rendezvous.Server

/-!
# What is kept in the snapshot file

However events and attempts to write follow one another, and whichever of these fail: while the
records of a server do not count as changed, they are the ones that its file is loaded as. A loop
that tries to write after every event only ever waits with changed records if the last attempt
failed.

    Server.load store files = .ok s₀ → Reaches s₀ s → s.relay.dirty = false →
      store.load s.files = .ok s.relay.db                              (unchanged_records_are_stored)

It rests on two things: every event that changes the records marks them (`Relay.records_handle`),
and a snapshot is restored as it was taken (`restore_snapshot`).
-/

namespace Rendezvous

namespace Server

variable {s₀ s s' : Server} {store : SnapshotStore} {files : Files} {d : Disk}
  {last : Except StoreError Unit}

/-! ## Attempts to write -/

/-- Tries to write the records by the steps of a disk if they changed, and tells how it went. -/
def flushOn (d : Disk) (s : Server) : Server × Except StoreError Unit :=
  if s.relay.dirty then
    match s.store with
    | none => ({ s with relay := { s.relay with dirty := false } }, .ok ())
    | some store =>
      match store.writeOn d s.files s.relay.db.snapshot with
      | (files, .ok ()) =>
        ({ s with files := files, relay := { s.relay with dirty := false } }, .ok ())
      | (files, .error e) => ({ s with files := files }, .error e)
  else (s, .ok ())

theorem flushOn_disk (s : Server) : (s.flushOn Files.disk).1 = s.flush := by
  unfold flushOn flush
  split
  · cases s.store with
    | none => rfl
    | some store =>
      dsimp only
      rw [SnapshotStore.writeOn_disk]
      unfold SnapshotStore.save
      rcases store.write s.files s.relay.db.snapshot with ⟨files, e | ⟨⟨⟩⟩⟩ <;> rfl
  · rfl

/-- After an attempt nothing is left to write unless it failed. -/
theorem dirty_flushOn (d : Disk) (s : Server) :
    (s.flushOn d).1.relay.dirty = false ∨ ∃ e, (s.flushOn d).2 = .error e := by
  unfold flushOn
  split
  · cases s.store with
    | none => exact .inl rfl
    | some store =>
      dsimp only
      split
      · exact .inl rfl
      · next e _ => exact .inr ⟨e, rfl⟩
  · next clean => exact .inl (by simpa using clean)

/-! ## Steps -/

/-- What happens beside events and attempts to write: queues are opened, emptied and left, and files
change that are not the snapshot. -/
structure Aside (s s' : Server) : Prop where
  relay : s'.relay = s.relay
  store : s'.store = s.store
  snapshot : ∀ store ∈ s.store, s'.files.read store.path = s.files.read store.path

/-- What may become of a server. -/
inductive Reaches (s₀ : Server) : Server → Prop
  | start : Reaches s₀ s₀
  | event {s : Server} (h : Reaches s₀ s) (e : Event) : Reaches s₀ (s.handle e)
  | flush {s : Server} (h : Reaches s₀ s) (d : Disk) : Reaches s₀ (s.flushOn d).1
  | aside {s s' : Server} (h : Reaches s₀ s) (h' : Aside s s') : Reaches s₀ s'

/-- The server when its loop waits for the next event, and how the last attempt to write went. The
loop tries to write after each event, and again at each tick of its clock. -/
inductive Waits (s₀ : Server) : Server → Except StoreError Unit → Prop
  | start : Waits s₀ s₀ (.ok ())
  | event {s : Server} {last : Except StoreError Unit} (h : Waits s₀ s last) (e : Event)
      (d : Disk) : Waits s₀ ((s.handle e).flushOn d).1 ((s.handle e).flushOn d).2
  | tick {s : Server} {last : Except StoreError Unit} (h : Waits s₀ s last) (d : Disk) :
      Waits s₀ (s.flushOn d).1 (s.flushOn d).2
  | aside {s s' : Server} {last : Except StoreError Unit} (h : Waits s₀ s last)
      (h' : Aside s s') : Waits s₀ s' last

theorem Waits.reaches (h : Waits s₀ s last) : Reaches s₀ s := by
  induction h with
  | start => exact .start
  | event _ e d ih => exact (ih.event e).flush d
  | tick _ d ih => exact ih.flush d
  | aside _ h' ih => exact ih.aside h'

/-! ## What the file holds -/

/-- The records are in the file unless they count as changed. -/
structure Stored (store : SnapshotStore) (s : Server) : Prop where
  writesTo : s.store = some store
  clean : s.relay.dirty = false → store.load s.files = .ok s.relay.db

theorem handle_eq (s : Server) (e : Event) :
    (s.handle e).relay = (s.relay.handle e).1 ∧ (s.handle e).store = s.store ∧
      (s.handle e).files = s.files := by
  have delivered : ∀ (pushes : List Push) (s : Server), (pushes.foldl deliver s).relay = s.relay ∧
      (pushes.foldl deliver s).store = s.store ∧ (pushes.foldl deliver s).files = s.files := by
    intro pushes
    induction pushes with
    | nil => exact fun s => ⟨rfl, rfl, rfl⟩
    | cons p pushes ih => exact fun s => ih (s.deliver p)
  exact delivered (s.relay.handle e).2 { s with relay := (s.relay.handle e).1 }

namespace Stored

theorem of_load (h : Server.load store files = .ok s) : Stored store s := by
  obtain ⟨db, loaded, h⟩ := bind_eq_ok_iff.1 h
  cases h
  exact ⟨rfl, fun _ => loaded⟩

/-- Records that an event changes count as changed after it. -/
theorem event (h : Stored store s) (e : Event) : Stored store (s.handle e) := by
  obtain ⟨relay, kept, files⟩ := s.handle_eq e
  refine ⟨kept.trans h.writesTo, ?_⟩
  rw [relay, files]
  have records := s.relay.records_handle e
  generalize (s.relay.handle e).1.db = db, (s.relay.handle e).1.dirty = dirty at records ⊢
  cases records with
  | kept => exact h.clean
  | registered => exact fun clean => nomatch clean
  | edited => exact fun clean => nomatch clean

theorem flush (h : Stored store s) (d : Disk) : Stored store (s.flushOn d).1 := by
  unfold flushOn
  split
  · next dirty =>
    rw [h.writesTo]
    dsimp only
    split
    · next written => exact ⟨rfl, fun _ => SnapshotStore.load_of_writeOn written⟩
    · refine ⟨rfl, fun clean => ?_⟩
      rw [dirty] at clean
      cases clean
  · exact h

theorem aside (h : Stored store s) (h' : Aside s s') : Stored store s' := by
  refine ⟨h'.store.trans h.writesTo, fun clean => ?_⟩
  have same := h'.snapshot store h.writesTo
  rw [h'.relay] at clean ⊢
  have loaded := h.clean clean
  unfold SnapshotStore.load at loaded ⊢
  rwa [same]

theorem reached (h : Stored store s₀) (reaches : Reaches s₀ s) : Stored store s := by
  induction reaches with
  | start => exact h
  | event _ e ih => exact ih.event e
  | flush _ d ih => exact ih.flush d
  | aside _ h' ih => exact ih.aside h'

end Stored

theorem Waits.dirty (h : Waits s₀ s last) (clean : s₀.relay.dirty = false) :
    s.relay.dirty = false ∨ ∃ e, last = .error e := by
  induction h with
  | start => exact .inl clean
  | event _ e d => exact dirty_flushOn d _
  | tick _ d => exact dirty_flushOn d _
  | aside _ h' ih =>
    rw [h'.relay]
    exact ih

end Server

open Server in
/-- From the moment a server is loaded from its file, which nobody else writes: records that do not
count as changed are those in the file. Whenever its loop takes the next event, and when the loop
has ended with a last attempt to write, the records do not count as changed or the last attempt
failed. -/
theorem unchanged_records_are_stored {store : SnapshotStore} {files : Files} {s₀ : Server}
    (loaded : Server.load store files = .ok s₀) :
    (∀ s, Reaches s₀ s → s.relay.dirty = false →
      store.load s.files = .ok s.relay.db) ∧
    (∀ s last, Waits s₀ s last → Reaches s₀ s ∧
      (s.relay.dirty = false ∨ ∃ e, last = .error e) ∧
      ∀ d, (s.flushOn d).1.relay.dirty = false ∨ ∃ e, (s.flushOn d).2 = .error e) := by
  have stored : Stored store s₀ := .of_load loaded
  have clean : s₀.relay.dirty = false := by
    obtain ⟨db, -, h⟩ := bind_eq_ok_iff.1 loaded
    cases h
    rfl
  constructor
  · intro s reaches unchanged
    exact (stored.reached reaches).clean unchanged
  · intro s last waits
    exact ⟨waits.reaches, waits.dirty clean, fun d => dirty_flushOn d s⟩

/-! ## An attempt that fails and one that succeeds -/

/-- A disk that never gets to the second step. -/
def stuckDisk : Disk where
  write fs _ _ := (fs, .ok ())
  rename fs _ _ := (fs, .error .notFound)
  faithful _ h := by cases h

def sampleStore : SnapshotStore := ⟨["", "db.json"]⟩

/-- A server that has just started, without a file. -/
def sampleServer : Server := { store := some sampleStore }

/-- The server once Bob has registered and the attempt to write that has failed. -/
def unwrittenServer : Server × Except StoreError Unit :=
  (sampleServer.handle (.request 1 0 (sampleRegistration "bob1234567"))).flushOn stuckDisk

/-- The server once another attempt has succeeded. -/
def writtenServer : Server := (unwrittenServer.1.flushOn Files.disk).1

open Server in
theorem unchanged_records_are_stored_sampleStore :
    Server.load sampleStore {} = .ok sampleServer ∧
    Waits sampleServer unwrittenServer.1 unwrittenServer.2 ∧
    unwrittenServer.1.relay.dirty = true ∧
    (∃ e, unwrittenServer.2 = .error e) ∧
    Reaches sampleServer writtenServer ∧
    writtenServer.relay.db.hasPeer "bob1234567" = true ∧
    sampleStore.load writtenServer.files = .ok writtenServer.relay.db := by
  have loaded : Server.load sampleStore {} = .ok sampleServer := by rfl
  obtain ⟨clean, waiting⟩ := unchanged_records_are_stored loaded
  have waits : Waits sampleServer unwrittenServer.1 unwrittenServer.2 := .event .start _ _
  have dirty : unwrittenServer.1.relay.dirty = true := by decide +kernel
  obtain ⟨reaches, failed, -⟩ := waiting _ _ waits
  have written : Reaches sampleServer writtenServer := reaches.flush Files.disk
  refine ⟨loaded, waits, dirty, failed.resolve_left ?_, written, ?_, clean _ written ?_⟩
  · rw [dirty]
    decide
  · decide +kernel
  · decide +kernel

end Rendezvous
