import Rendezvous.Proofs.Transit

/-!
# One login after the other

In a sitting a client on one connection makes its logins and logouts one after the other: none
begins before the caller of the last one has noted its outcome. All else may go on as it likes in
between, other calls of the client and other clients included; only that no call times out, that the
connection stays and that its queue has room.

Two tasks write whom the client takes itself for. The caller notes a login some time after its reply
was taken in, and what is taken in meanwhile may be the notice that the identity is lost again. A
sitting keeps account of this (`late`, `overtaken`).
-/

namespace Rendezvous

/-- The client takes itself for whom the relay takes it. -/
def Exchange.InStep (x : Exchange) (c : ConnectionId) : Prop :=
  (∀ p, x.client.session = some p ↔ x.server.relay.identities.get? c = some p) ∧
    (x.client.session = none ↔ x.server.relay.pending.contains c = true)

/-- How far the application is with its login or logout. The goal is whom the client takes itself
for when it succeeds. -/
inductive Phase where
  | idle
  | calling (call : Call) (goal : Option String)
  /-- The call has returned its reply, and the caller is about to note the goal. -/
  | noting (goal : Option String)
deriving DecidableEq

/-- One client's session: an exchange in which it makes one login or logout after the other, how far
it is with the present one, and whether a pushed logout came between. -/
structure Sitting where
  x : Exchange
  phase : Phase := .idle
  /-- The client took in a pushed logout after the reply to the present call. -/
  late : Bool := false
  /-- So it was when the caller noted its latest login. -/
  overtaken : Bool := false

namespace Sitting

/-- Nobody is connected yet. -/
def start (db : Database) (store : Option SnapshotStore) (files : Files) : Sitting :=
  { x := .start db store files }

/-- Whether the reply to the present call has come and tells of its success. -/
def isSucceeding (w : Sitting) : Bool :=
  match w.phase with
  | .idle => false
  | .noting _ => true
  | .calling call _ => (w.x.client.reply? call).any (·.isOk)

/-- Whether the client takes in a pushed logout next. -/
def losesNext (w : Sitting) (c : ConnectionId) : Bool :=
  (w.x.down.filterMap (responseOn? c)).head?.any (·.isLogout)

/-- Moves that do not belong here: a call times out or is forgotten, the connection is lost, a login
begins while another is made, or the caller notes what is not so. -/
def allows (w : Sitting) (c : ConnectionId) (m : Move) : Bool :=
  match m with
  | .timeOut _ | .lose => false
  | .close d => d ≠ c
  | .begin now _ q =>
    w.x.client.correlator.sweep now = w.x.client.correlator &&
      (q.identity?.isNone || w.phase = .idle)
  | .noteLogin peer => w.phase = .noting (some peer)
  | .noteLogout => w.phase = .noting none
  | _ => true

def phaseAfter (w : Sitting) (m : Move) (y : Exchange) : Phase :=
  match m with
  | .begin _ _ q =>
    match q.identity?, y.calls.getLast? with
    | some goal, some (call, _) => .calling call goal
    | _, _ => w.phase
  | .finish call =>
    match w.phase with
    | .calling present goal =>
      if call = present then
        match y.returns.getLast? with
        | some ⟨_, _, .ok _⟩ => .noting goal
        | _ => .idle
      else w.phase
    | phase => phase
  | .noteLogin _ | .noteLogout => .idle
  | _ => w.phase

def lateAfter (w : Sitting) (c : ConnectionId) (m : Move) : Bool :=
  match m with
  | .receive _ => w.late || w.losesNext c && w.isSucceeding
  | .noteLogin _ | .noteLogout => false
  | _ => w.late

def overtakenAfter (w : Sitting) (c : ConnectionId) (m : Move) : Bool :=
  match m with
  | .receive _ => w.overtaken && !w.losesNext c
  | .noteLogin _ => w.late
  | .noteLogout => false
  | _ => w.overtaken

/-- Makes a move that belongs to a sitting of a client on a connection. -/
def step? (c : ConnectionId) (w : Sitting) (m : Move) : Option Sitting :=
  if w.allows c m then
    ((w.x.step? (· = c) m).filter (w.x.keeps c · m)).map fun y =>
      { x := y, phase := w.phaseAfter m y, late := w.lateAfter c m
        overtaken := w.overtakenAfter c m }
  else none

/-- Makes moves one after the other. -/
def run? (c : ConnectionId) (w : Sitting) (ms : List Move) : Option Sitting :=
  ms.foldlM (step? c) w

/-- What holds at first and is kept by every move holds after every run. -/
theorem induction {c : ConnectionId} {M : Move → Prop} {P : Sitting → Prop} {w v : Sitting}
    (start : P w) (step : ∀ w m v, P w → M m → w.step? c m = some v → P v) {ms : List Move}
    (all : ∀ m ∈ ms, M m) (run : w.run? c ms = some v) : P v := by
  induction ms generalizing w with
  | nil =>
    cases run
    exact start
  | cons m ms ih =>
    obtain ⟨u, first, rest⟩ := Option.bind_eq_some_iff.1 run
    exact ih (step w m u start (all m (List.mem_cons_self ..)) first)
      (fun n hn => all n (List.mem_cons_of_mem _ hn)) rest

theorem of_step? {c : ConnectionId} {w v : Sitting} {m : Move} (h : w.step? c m = some v) :
    ∃ y, w.allows c m = true ∧ w.x.Steps (· = c) m y ∧ w.x.keeps c y m = true ∧
      v = { x := y, phase := w.phaseAfter m y, late := w.lateAfter c m
            overtaken := w.overtakenAfter c m } := by
  unfold step? at h
  split at h
  · next allowed =>
    obtain ⟨y, hy, rfl⟩ := Option.map_eq_some_iff.1 h
    obtain ⟨made, kept⟩ := Option.filter_eq_some_iff.1 hy
    exact ⟨y, allowed, Exchange.steps_of_step? made, kept, rfl⟩
  · cases h

end Sitting

end Rendezvous
