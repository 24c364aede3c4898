import Rendezvous.Text.Quoted

/-!
# Refusals

Why the relay refuses a request. The wording of each cause is what a client reads in the `error`
field of the reply.
-/

namespace Rendezvous

inductive RelayError where
  | invalidId (id : String)
  | invalidPassword
  | peerExists (id : String)
  | peerNotFound (id : String)
  | wrongPassword
  | peerNotLogin (id : String)
  | peerAlreadyOnline (id : String)
  | invalidServiceName (name : String)
  | serviceExists (name : String)
  | serviceNotFound (name : String)
  | serviceNotOwner (id : String)
  | serviceIsOwner (id : String)
  | serviceNotJoined (name : String)
  | unknownAction (name : String)
  | invalidParameters (reason : String)
deriving DecidableEq, Repr

/-- The text of a refusal. -/
def RelayError.message : RelayError → String
  | invalidId id => "invalid id: " ++ id
  | invalidPassword => "invalid password digest or salt"
  | peerExists id => "peer exists: " ++ id
  | peerNotFound id => "peer not found: " ++ id
  | wrongPassword => "wrong password"
  | peerNotLogin id => "peer not login: " ++ id
  | peerAlreadyOnline id => "peer already online: " ++ id
  | invalidServiceName name => "invalid service name: " ++ Text.quoted name
  | serviceExists name => "service exists: " ++ name
  | serviceNotFound name => "service not found: " ++ name
  | serviceNotOwner id => "service not owner: " ++ id
  | serviceIsOwner id => "service is owner: " ++ id
  | serviceNotJoined name => "service not joined: " ++ name
  | unknownAction name => "unknown action: " ++ name
  | invalidParameters reason => "invalid parameters: " ++ reason

end Rendezvous
