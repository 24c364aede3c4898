import Rendezvous.Connection
import Rendezvous.Server

/-!
# A server with its connections

All connections of a server on one clock. Bytes arrive on connections; before the clock moves on,
everything that follows from them has happened. Each connection hands at most 16 frames on before
the server takes its turn, reacts to them in order, and the answers are written.
-/

namespace Rendezvous

/-- Something that the other side of a connection sees. -/
inductive Sight where
  | frame (bytes : Bytes)
  | closed
deriving DecidableEq

/-- What is to be seen at each connection, in order. -/
abbrev Sights := List (ConnectionId × Sight)

structure Host where
  server : Server := {}
  connections : Table ConnectionId Connection := .empty
  /-- Milliseconds since the server started. -/
  clock : Nat := 0
  /-- What requests are told of the time of day, in milliseconds since the epoch. -/
  timeOfDay : UInt64 := 0
  /-- What the JSON library says of bodies that are no JSON. -/
  wording : String := ""
deriving DecidableEq

namespace Host

instance : Inhabited Host := ⟨{}⟩

/-- How many responses wait for a connection at most. -/
def queueCapacity : Nat := 64

/-- How many frames a connection hands on at a time. -/
def frameBatch : Nat := 16

/-- After so many milliseconds the records are written again if that failed before. -/
def persistInterval : Nat := 10000

def connection? (h : Host) (c : ConnectionId) : Option Connection := h.connections.get? c

/-- Accepts a connection under the next id. -/
def accept (h : Host) : Host × ConnectionId :=
  let id := h.connections.size + 1
  let (server, queue) := h.server.openConnection id queueCapacity
  ({ h with
      server := server.flush
      connections := h.connections.insert id { id := id, queue := queue } }, id)

/-- Takes at most `n` frames off a connection: the connection after that, the requests in them and
what is to be seen. -/
def takeFrames (wording : String) : Nat → Connection → Connection × List Request × Sights
  | 0, c => (c, [], [])
  | n + 1, c =>
    if c.finished then (c, [], [])
    else
      let (c, effect) := c.takeFrame wording
      match effect with
      | .wait => (c, [], [])
      | .finish => (c, [], [(c.id, .closed)])
      | .submit q =>
        let (c, requests, sights) := takeFrames wording n c
        (c, q :: requests, sights)
      | .write frame =>
        let (c, requests, sights) := takeFrames wording n c
        (c, requests, (c.id, .frame frame) :: sights)

/-- Writes responses until one finishes the connection. -/
def writeResponses : Connection → List Response → Connection × Sights
  | c, [] => (c, [])
  | c, r :: rest =>
    if c.finished then (c, [])
    else
      let (c, effect) := c.takeResponse (some r)
      match effect with
      | .write frame =>
        let (c, sights) := writeResponses c rest
        (c, (c.id, .frame frame) :: sights)
      | _ => (c, [(c.id, .closed)])

/-- Puts a connection back. One that is finished leaves the relay. -/
def putBack (h : Host) (c : Connection) : Host :=
  { h with
    connections := h.connections.insert c.id c
    server := if c.finished then (h.server.abandon c.queue).react (.closed c.id) else h.server }

/-- Lets a connection take a batch of frames, and the server react to them. -/
def readFrames (h : Host) (c : Connection) : Host × Sights :=
  if c.finished then (h, [])
  else
    let (c, requests, sights) := takeFrames h.wording frameBatch c
    let server := requests.foldl (fun s q => s.react (.request c.id h.timeOfDay q)) h.server
    ({ h with server := server }.putBack c, sights)

/-- Lets a connection write what waits for it. -/
def writeQueue (h : Host) (c : Connection) : Host × Sights :=
  if c.finished then (h, [])
  else
    let (server, responses) := h.server.drain c.queue
    let (c, sights) := writeResponses c responses
    ({ h with server := server }.putBack c, sights)

/-- Does the same for one connection after the other. -/
def forEach (f : Host → Connection → Host × Sights) (h : Host) : Host × Sights :=
  h.connections.keys.foldl
    (fun (h, sights) id =>
      match h.connection? id with
      | some c =>
        let (h, more) := f h c
        (h, sights ++ more)
      | none => (h, sights))
    (h, [])

/-- One turn of every connection and of the server. -/
def turn (h : Host) : Host × Sights :=
  let (h, read) := h.forEach readFrames
  let (h, written) := h.forEach writeQueue
  (h, read ++ written)

/-- Whether a turn would change anything: some connection has a frame to take, or an end to meet, or
a response to write. -/
def isBusy (h : Host) : Bool :=
  h.connections.values.any fun c =>
    c.isReady || !c.finished && (h.server.outbox? c.queue).any fun q => !q.waiting.isEmpty

/-- Takes turns while there is something to do, at most `n`. -/
def turns : Nat → Host → Host × Sights
  | 0, h => (h, [])
  | n + 1, h =>
    if h.isBusy then
      let (h, sights) := h.turn
      let (h, later) := h.turns n
      (h, sights ++ later)
    else (h, [])

/-- How many turns it takes until nothing is left to do: a turn takes 16 frames off a connection
that has them, and a frame has four bytes and more. -/
def turnsNeeded (h : Host) : Nat :=
  (h.connections.values.map fun c => c.input.length / (4 * frameBatch)).foldl max 0 + 2

/-- Does all there is to do at this instant. -/
def settle (h : Host) : Host × Sights := h.turns h.turnsNeeded

/-- Bytes arrive on a connection. -/
def receive (h : Host) (c : Connection) (bytes : Bytes) : Host :=
  { h with connections := h.connections.insert c.id (c.receive bytes) }

/-- The other side of a connection stops sending. -/
def receiveEnd (h : Host) (c : Connection) : Host :=
  { h with connections := h.connections.insert c.id c.receiveEnd }

/-- The clock moves on; at each persist interval the records are written if need be. -/
def advance (h : Host) (ms : Nat) : Host :=
  let later := { h with clock := h.clock + ms }
  if h.clock / persistInterval < later.clock / persistInterval then
    { later with server := later.server.flush }
  else later

/-- Ends the server. -/
def shutdown (h : Host) : Host := { h with server := h.server.react .shutdown }

end Host

end Rendezvous
