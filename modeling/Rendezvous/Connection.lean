import Rendezvous.Frame
import Rendezvous.Json.Value
import Rendezvous.Relay

/-!
# Connections

The relay's end of a stream. It takes frames off the stream and responses off its queue, in
whatever order they come: a frame becomes a request for the relay, or is answered at once if it
holds none; a response becomes a frame. A stream that ends or holds no frame, a queue that is gone
and a response too long for a frame finish the connection.
-/

namespace Rendezvous

structure Connection where
  id : ConnectionId
  queue : QueueId
  /-- What arrived and was not taken yet. -/
  input : Bytes := []
  /-- Whether nothing more will arrive. -/
  inputEnded : Bool := false
  finished : Bool := false
deriving DecidableEq

/-- What a connection does with what it takes. -/
inductive Effect where
  /-- Nothing was there to take. -/
  | wait
  | submit (request : Request)
  /-- Writes a frame. -/
  | write (frame : Bytes)
  | finish
deriving DecidableEq

/-- The sequence of a body that is no request but still a well-formed object with a text under
that key; otherwise empty. -/
def echoedSequence (body : Bytes) : String :=
  match Json.Value.decode body with
  | .ok v => ((v.get? "sequence").bind (·.text?)).getD ""
  | .error _ => ""

/-- The reply to a frame that holds no request; `wording` is what the JSON library says of a body
that is no JSON. The echoed sequence releases whoever waits for a reply to it. -/
def malformedReply (body : Bytes) (cause : CodecError) (wording : String) : Response :=
  { sequence := echoedSequence body
    error :=
      (RelayError.invalidParameters ("malformed request: " ++ cause.message wording)).message }

namespace Connection

/-- Bytes arrive. -/
def receive (c : Connection) (bytes : Bytes) : Connection := { c with input := c.input ++ bytes }

/-- The other side stops sending. -/
def receiveEnd (c : Connection) : Connection := { c with inputEnded := true }

/-- Whether the stream has something to take: a frame, or what finishes the connection. -/
def isReady (c : Connection) : Bool :=
  !c.finished && (c.inputEnded || Frame.front c.input != .incomplete)

def finish (c : Connection) : Connection × Effect := ({ c with finished := true }, .finish)

/-- Writes a response as a frame, unless it is too long for one. -/
def writeResponse (c : Connection) (r : Response) : Connection × Effect :=
  match r.encode.bind Frame.write with
  | .ok frame => (c, .write frame)
  | .error _ => c.finish

/-- Takes the next frame off the stream; `wording` is what the JSON library says of its body should
that be no JSON. -/
def takeFrame (c : Connection) (wording : String) : Connection × Effect :=
  match Frame.front c.input with
  | .incomplete => if c.inputEnded then c.finish else (c, .wait)
  | .invalid _ _ => c.finish
  | .whole body rest =>
    let c := { c with input := rest }
    match Request.decode body with
    | .ok q => (c, .submit q)
    | .error e => c.writeResponse (malformedReply body e wording)

/-- Takes the next response off the queue; there is none if the relay has dropped the queue. -/
def takeResponse (c : Connection) (r : Option Response) : Connection × Effect :=
  match r with
  | some r => c.writeResponse r
  | none => c.finish

end Connection

end Rendezvous
