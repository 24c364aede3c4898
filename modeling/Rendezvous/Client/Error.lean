import Rendezvous.Message.Encoding
import Rendezvous.RelayError

/-!
# What can go wrong for a client

Besides the relay's refusals a client sees its own: commands that it does not understand, a relay
that it does not reach, and replies that do not come.
-/

namespace Rendezvous

inductive ClientError where
  | notConnected
  | alreadyConnected
  | requestTimeout
  | connectionClosed
  /-- The relay refused, with this text. -/
  | remote (text : String)
  /-- Refused before anything was sent. -/
  | refused (cause : RelayError)
  /-- A reply that does not hold what it should. -/
  | codec (cause : CodecError)
deriving DecidableEq, Repr

namespace ClientError

/-- The text of an error; `wording` is what the JSON library says of a reply that is no JSON. -/
def message (e : ClientError) (wording : String := "") : String :=
  match e with
  | notConnected => "not connected to signal server"
  | alreadyConnected => "already connected to signal server"
  | requestTimeout => "request timeout"
  | connectionClosed => "connection closed by other side"
  | remote text => text
  | refused cause => cause.message
  | codec cause => cause.message wording

/-- Whether the relay refused for a given reason. -/
def isRemote (e : ClientError) (reason : RelayError) : Bool :=
  match e with
  | remote text => text == reason.message
  | _ => false

end ClientError

end Rendezvous
