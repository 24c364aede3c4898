/-!
# Actions

The requests that the relay understands, under the names they have on the wire.

    ofName? s = some a  ↔  a.name = s                 (ofName?_eq_some_iff)
-/

namespace Rendezvous

/-- Everything a client can ask of the relay. -/
inductive Action where
  | register
  | login
  | logout
  | services
  | myServices
  | showService
  | joinService
  | leaveService
  | createService
  | removeService
  | enableService
  | disableService
  | connectService
  | disconnectService
  | iceOpen
  | iceClose
  | iceOpenAck
  | iceCloseAck
  | iceAuth
  | iceCandidate
deriving DecidableEq, Repr

namespace Action

/-! ## Algorithm -/

/-- Every action, in the order of declaration. -/
def all : List Action :=
  [register, login, logout, services, myServices, showService, joinService, leaveService,
   createService, removeService, enableService, disableService, connectService, disconnectService,
   iceOpen, iceClose, iceOpenAck, iceCloseAck, iceAuth, iceCandidate]

/-- The name on the wire. -/
def name : Action → String
  | register => "register"
  | login => "login"
  | logout => "logout"
  | services => "services"
  | myServices => "myservices"
  | showService => "show-service"
  | joinService => "join-service"
  | leaveService => "leave-service"
  | createService => "create-service"
  | removeService => "remove-service"
  | enableService => "enable-service"
  | disableService => "disable-service"
  | connectService => "connect-service"
  | disconnectService => "disconnect-service"
  | iceOpen => "ice-open"
  | iceClose => "ice-close"
  | iceOpenAck => "ice-open-ack"
  | iceCloseAck => "ice-close-ack"
  | iceAuth => "ice-auth"
  | iceCandidate => "ice-candidate"

/-- Actions handed on unchanged between the two ends of a service session. -/
def isRelayed : Action → Bool
  | iceOpen | iceClose | iceOpenAck | iceCloseAck | iceAuth | iceCandidate => true
  | _ => false

def ofName? (s : String) : Option Action := all.find? (·.name == s)

/-! ## Lemmas -/

theorem mem_all (a : Action) : a ∈ all := by cases a <;> decide

theorem ofName?_name (a : Action) : ofName? a.name = some a := by cases a <;> rfl

theorem name_of_ofName? {s : String} {a : Action} (h : ofName? s = some a) : a.name = s := by
  have := List.find?_some h
  simpa using this

theorem ofName?_eq_some_iff {s : String} {a : Action} : ofName? s = some a ↔ a.name = s :=
  ⟨name_of_ofName?, fun h => h ▸ ofName?_name a⟩

theorem name_injective {a b : Action} (h : a.name = b.name) : a = b := by
  have ha := ofName?_name a
  rw [h, ofName?_name] at ha
  exact (Option.some.inj ha).symm

end Action

end Rendezvous
