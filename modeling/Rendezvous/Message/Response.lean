import Rendezvous.Action
import Rendezvous.Table

/-!
# Responses

What the relay sends to a client: a reply repeats the sequence of its request, an event that is
pushed on behalf of another peer has no sequence and names an action.
-/

namespace Rendezvous

/-- A response. -/
structure Response where
  sequence : String := ""
  /-- The action of a pushed event; empty in a reply. -/
  event : String := ""
  /-- The peer that a pushed event comes from. -/
  fromId : Option String := none
  /-- The service that a pushed event is about. -/
  serviceName : Option String := none
  resultList : List String := []
  resultMap : Table String String := .empty
  /-- Why a request was refused; empty on success. -/
  error : String := ""
deriving DecidableEq

namespace Response

instance : Inhabited Response := ⟨{}⟩

/-- The key of a forwarded candidate. -/
def candidateKey : String := "ice-candidate"

/-- The key of a forwarded user name fragment. -/
def ufragKey : String := "ice-ufrag"

/-- The key of a forwarded password. -/
def pwdKey : String := "ice-pwd"

/-- A reply to the request with the given sequence. -/
def reply (sequence : String) : Response := { sequence := sequence }

/-- A pushed event. -/
def ofEvent (a : Action) : Response := { event := a.name }

def isEvent (r : Response) : Bool := !r.event.isEmpty

def isOk (r : Response) : Bool := r.error.isEmpty

/-- The action of an event; nothing if there is none or it is unknown. -/
def eventAction? (r : Response) : Option Action :=
  if r.isEvent then Action.ofName? r.event else none

/-- A value of the result map. -/
def get? (r : Response) (key : String) : Option String := r.resultMap.get? key

/-! ## Lemmas -/

theorem isEvent_ofEvent (a : Action) : (ofEvent a).isEvent = true := by cases a <;> decide

theorem eventAction?_ofEvent (a : Action) : (ofEvent a).eventAction? = some a := by
  rw [eventAction?, isEvent_ofEvent, if_pos rfl]
  exact Action.ofName?_name a

end Response

end Rendezvous
