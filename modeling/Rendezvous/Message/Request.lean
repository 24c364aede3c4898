import Rendezvous.Action
import Rendezvous.RelayError

/-!
# Requests

What a client sends to the relay. The action is kept as text, so that an unknown one can still be
answered under the request's sequence.
-/

namespace Rendezvous

/-- A request. Every field but the action may be left out. -/
structure Request where
  /-- Token that the reply repeats. -/
  sequence : String := ""
  action : String := ""
  fromId : String := ""
  toId : Option String := none
  pwdDigest : Option String := none
  salt : Option String := none
  /-- Take over an identity that is online elsewhere. -/
  force : Bool := false
  serviceName : Option String := none
  servicePwdDigest : Option String := none
  serviceDesc : Option String := none
  serviceSalt : Option String := none
  iceCandidate : Option String := none
  iceUfrag : Option String := none
  icePwd : Option String := none
deriving DecidableEq, Repr, Inhabited

namespace Request

/-- A request for an action and nothing else. -/
def ofAction (a : Action) : Request := { action := a.name }

/-- The action that is asked for. -/
def action? (r : Request) : Except RelayError Action :=
  match Action.ofName? r.action with
  | some a => .ok a
  | none => .error (.unknownAction r.action)

/-- The service that the request is about; a name that is missing or empty is refused. -/
def requireServiceName (r : Request) : Except RelayError String :=
  match r.serviceName with
  | some name => if name.isEmpty then .error (.invalidServiceName name) else .ok name
  | none => .error (.invalidServiceName "")

/-- The digest of the service password, empty if there is none. -/
def servicePwd (r : Request) : String := r.servicePwdDigest.getD ""

/-! ## Lemmas -/

theorem action?_ofAction (a : Action) : (ofAction a).action? = .ok a := by
  simp [action?, ofAction, Action.ofName?_name]

/-- A refused service name is always the empty one. -/
theorem requireServiceName_eq_error_iff {r : Request} {e : RelayError} :
    r.requireServiceName = .error e ↔
      (r.serviceName = none ∨ r.serviceName = some "") ∧ e = .invalidServiceName "" := by
  unfold requireServiceName
  split
  · next name h =>
    split
    · next hn =>
      rw [String.isEmpty_iff.1 hn] at h ⊢
      simp [h, eq_comm]
    · next hn =>
      have : name ≠ "" := fun e => hn (String.isEmpty_iff.2 e)
      simp [h, this]
  · next h => simp [h, eq_comm]

end Request

end Rendezvous
