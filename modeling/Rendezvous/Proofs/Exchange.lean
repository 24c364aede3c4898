import Rendezvous.Client
import Rendezvous.Connection
import Rendezvous.Frame
import Rendezvous.Server
import Rendezvous.Proofs.History

/-!
# A client, its connections and the server

A client makes any number of calls at once. Its requests travel in frames to the server's end of the
connection, wait in the mailbox of the relay and are reacted to one after the other; responses wait
in the queue of their connection and travel back. Each of these ways keeps the order of what is on
it, and between any two steps anything may happen that can: other clients send what they like, calls
time out, connections are lost, closed and dialed anew.

Each `Move` is a step that is not interrupted; `Exchange.step?` makes it if it can be made now. The
parts of an exchange that no move looks at record what has happened.

Ids of connections are given out by the server when it accepts them. Here the client knows them
when it dials: `mine` tells which ids its connections will have had when all is over.
-/

namespace Rendezvous

/-! ## Channels -/

/-- The frames under way on some connections, oldest first. -/
abbrev Channel := List (ConnectionId × Bytes)

/-- Takes the oldest frame of a connection. -/
def Channel.take? (c : ConnectionId) : Channel → Option (Bytes × Channel)
  | [] => none
  | (d, frame) :: rest =>
    if d = c then some (frame, rest)
    else (take? c rest).map fun found => (found.1, (d, frame) :: found.2)

theorem Channel.eq_of_take? {c : ConnectionId} {ch left : Channel} {frame : Bytes}
    (h : ch.take? c = some (frame, left)) :
    ∃ before after, ch = before ++ (c, frame) :: after ∧ left = before ++ after ∧
      ∀ e ∈ before, e.1 ≠ c := by
  induction ch generalizing left with
  | nil => cases h
  | cons e rest ih =>
    obtain ⟨d, first⟩ := e
    rw [take?] at h
    split at h
    · next same =>
      cases h
      exact ⟨[], rest, by rw [same]; rfl, rfl, nofun⟩
    · next other =>
      obtain ⟨found, hfound, e⟩ := Option.map_eq_some_iff.1 h
      cases e
      obtain ⟨before, after, hrest, hleft, none⟩ := ih hfound
      refine ⟨(d, first) :: before, after, by rw [hrest]; rfl, by rw [hleft]; rfl, ?_⟩
      intro e he
      rcases List.mem_cons.1 he with rfl | he
      · exact other
      · exact none e he

theorem Channel.mem_of_take? {c : ConnectionId} {ch left : Channel} {frame : Bytes}
    (h : ch.take? c = some (frame, left)) : (c, frame) ∈ ch := by
  obtain ⟨before, after, rfl, -, -⟩ := eq_of_take? h
  exact List.mem_append_right _ (List.mem_cons_self ..)

/-- What is left keeps its order. -/
theorem Channel.sublist_of_take? {c : ConnectionId} {ch left : Channel} {frame : Bytes}
    (h : ch.take? c = some (frame, left)) : left.Sublist ch := by
  obtain ⟨before, after, rfl, rfl, -⟩ := eq_of_take? h
  exact (List.sublist_cons_self ..).append_left before

theorem Channel.subset_of_take? {c : ConnectionId} {ch left : Channel} {frame : Bytes}
    (h : ch.take? c = some (frame, left)) : left ⊆ ch :=
  (sublist_of_take? h).subset

/-! ## The server's end -/

namespace Server

/-- Takes the oldest response out of a queue. -/
def takeOldest (s : Server) (q : QueueId) : Option (Response × Server) :=
  ((s.outbox? q).bind (·.waiting.head?)).map fun r =>
    (r, { s with outboxes := s.outboxes.modify q fun o => { o with waiting := o.waiting.tail } })

end Server

/-! ## The exchange -/

/-- A call that is over. -/
structure Return where
  call : Call
  /-- The response that it took. -/
  reply : Option Response
  outcome : Except ClientError Response
deriving DecidableEq

structure Exchange where
  client : Client := {}
  server : Server := {}
  /-- The connection that the client writes to. -/
  current : Option ConnectionId := none
  /-- Every connection that the client has dialed. -/
  dialed : List ConnectionId := []
  /-- The server's ends of all connections that it ever accepted. -/
  connections : Table ConnectionId Connection := .empty
  /-- What the relay has not reacted to yet, oldest first. -/
  mailbox : List Event := []
  /-- Frames on their way to the server. -/
  up : Channel := []
  /-- Frames on their way to clients. -/
  down : Channel := []
  /-- The calls that began, each with its request as it is sent. -/
  calls : List (Call × Request) := []
  /-- The requests that were written, each with the connection that it was written to. -/
  written : List (ConnectionId × Request) := []
  /-- What the relay has reacted to. -/
  handled : List Moment := []
  returns : List Return := []

/-- A step of the client, of the network, of a connection or of the relay. -/
inductive Move where
  /-- A call begins. -/
  | begin (now : Nat) (tokens : List String) (request : Request)
  /-- The call that waits longest for room in the client's queue gets some. -/
  | unblock
  /-- A call goes on, and is over. -/
  | finish (call : Call)
  | timeOut (call : Call)
  /-- The caller of a login notes its success. -/
  | noteLogin (peer : String)
  /-- The caller of a logout notes its success. -/
  | noteLogout
  | dial
  | dialFailed
  /-- The server answers, on a new connection. -/
  | dialed (c : ConnectionId)
  /-- The client writes its oldest request. -/
  | write
  /-- The client takes in a frame. One that gives the connection up may still be at it. -/
  | receive (c : ConnectionId)
  /-- The client loses its connection, or ends it. -/
  | lose
  /-- Another client sends a frame. -/
  | others (c : ConnectionId) (frame : Bytes)
  /-- The server accepts a connection. -/
  | accept (c : ConnectionId) (capacity : Nat)
  /-- The server's end of a connection takes a frame. -/
  | takeFrame (c : ConnectionId) (time : UInt64) (wording : String)
  /-- The server's end of a connection takes a response. -/
  | takeResponse (c : ConnectionId)
  /-- The server's end of a connection ends. -/
  | close (c : ConnectionId)
  /-- The relay reacts to what came first. -/
  | react
deriving DecidableEq

/-- The response that a call finds where it waits. -/
def Client.reply? (c : Client) (call : Call) : Option Response :=
  match c.correlator.waiter? call.waiter with
  | some (.delivered r) => some r
  | _ => none

/-- The result of a call whose reply has come. -/
def Response.outcome (r : Response) : Except ClientError Response :=
  if r.isOk then .ok r else .error (.remote r.error)

/-- The ways in which a call may be over without a timeout. -/
inductive Client.Finishes (c : Client) (call : Call) :
    Client × Option (Except ClientError Response) → Prop
  | replied {r : Response} (found : c.correlator.waiter? call.waiter = some (.delivered r)) :
      Finishes c call
        ({ c with correlator := c.correlator.dropWaiter call.waiter }, some r.outcome)
  | cancelled (found : c.correlator.waiter? call.waiter = some .closed) :
      Finishes c call (c.giveUp call, some (.error .connectionClosed))
  | waits : Finishes c call (c, none)

theorem Client.finishes (c : Client) (call : Call) : c.Finishes call (c.finish call) := by
  unfold finish
  split
  · exact .waits
  · split
    · next found => exact .replied found
    · next found => exact .cancelled found
    · exact .waits

/-- A call begins with the registration of its request. -/
theorem Client.of_begin {c c' : Client} {now : Nat} {tokens : List String} {q : Request}
    {call : Call} (began : c.begin now tokens q = .ok (c', call)) :
    ∃ k a, q.action? = .ok a ∧
      c.correlator.register now a tokens = some (k, call.token, call.waiter) ∧
      c' = { c with correlator := k }.enqueue call (c.address q call.token) := by
  unfold begin at began
  split at began
  · cases began
  · split at began
    · cases began
    · next a asked =>
      split at began
      · cases began
      · next registered =>
        cases began
        exact ⟨_, a, asked, registered, rfl⟩

/-- What becomes of the oldest request of a client. -/
inductive Client.Writes (c : Client) : Client × Option (Request × Bytes) → Prop
  | nothing : Writes c (c, none)
  | wrote {q : Request} {rest : List Request} {body : Bytes} (oldest : c.outbound = q :: rest)
      (encoded : q.encode = .ok body) : Writes c ({ c with outbound := rest }, some (q, body))
  | dropped {q : Request} {rest : List Request} (oldest : c.outbound = q :: rest) :
      Writes c
        ({ c with outbound := rest, correlator := c.correlator.abandon q.sequence }, none)

theorem Client.writes (c : Client) : c.Writes c.writeRequest := by
  unfold writeRequest
  split
  · exact .nothing
  · next oldest =>
    dsimp only
    split
    · next encoded => exact .wrote oldest encoded
    · exact .dropped oldest

namespace Exchange

/-- Nobody is connected yet. -/
def start (db : Database) (store : Option SnapshotStore) (files : Files) : Exchange :=
  { server := { relay := .idle db, store := store, files := files } }

/-- Whether a call has begun and is not over. -/
def isActive (x : Exchange) (call : Call) : Bool :=
  x.calls.any (·.1 = call) && x.returns.all (·.call ≠ call)

/-- The server's end of a connection, unless it has ended. -/
def connection? (x : Exchange) (c : ConnectionId) : Option Connection :=
  (x.connections.get? c).filter (!·.finished)

/-- What the server's end of a connection does. -/
def act (x : Exchange) (time : UInt64) (did : Connection × Effect) : Exchange :=
  let (c, effect) := did
  let x := { x with connections := x.connections.insert c.id c }
  match effect with
  | .wait => x
  | .submit q => { x with mailbox := x.mailbox ++ [.request c.id time q] }
  | .write frame => { x with down := x.down ++ [(c.id, frame)] }
  | .finish =>
    { x with mailbox := x.mailbox ++ [.closed c.id], server := x.server.abandon c.queue }

/-- Makes a move if it can be made. -/
def step? (mine : ConnectionId → Bool) (x : Exchange) (m : Move) : Option Exchange :=
  match m with
  | .begin now tokens q =>
    match x.client.begin now tokens q with
    | .ok (client, call) =>
      some { x with
        client := client
        calls := x.calls ++ [(call, x.client.address q call.token)] }
    | .error _ => none
  | .unblock => some { x with client := x.client.unblock }
  | .finish call =>
    if x.isActive call then
      match x.client.finish call with
      | (client, some outcome) =>
        some { x with
          client := client
          returns := x.returns ++ [⟨call, x.client.reply? call, outcome⟩] }
      | (_, none) => none
    else none
  | .timeOut call =>
    if x.isActive call then
      let (client, cause) := x.client.timeOut call
      some { x with client := client, returns := x.returns ++ [⟨call, none, .error cause⟩] }
    else none
  | .noteLogin peer => some { x with client := x.client.loggedIn peer }
  | .noteLogout => some { x with client := x.client.loggedOut }
  | .dial =>
    match x.client.dial with
    | .ok client => some { x with client := client }
    | .error _ => none
  | .dialFailed =>
    if x.client.status = .connecting then some { x with client := x.client.dialFailed } else none
  | .dialed c =>
    if x.client.status = .connecting ∧ mine c ∧ c ∉ x.dialed then
      some { x with
        client := x.client.dialed, current := some c, dialed := x.dialed ++ [c] }
    else none
  | .write =>
    x.current.bind fun c =>
      match x.client.writeRequest with
      | (client, some (q, body)) =>
        match Frame.write body with
        | .ok frame =>
          some { x with
            client := client, up := x.up ++ [(c, frame)], written := x.written ++ [(c, q)] }
        | .error _ => none
      | (client, none) => some { x with client := client }
  | .receive c =>
    match x.down.take? c with
    | some (frame, left) =>
      if mine c then
        match Frame.read frame with
        | (.ok body, _) => some { x with client := x.client.receive body, down := left }
        | (.error _, _) => none
      else none
    | none => none
  | .lose => some { x with client := x.client.lost, current := none }
  | .others c frame => if mine c then none else some { x with up := x.up ++ [(c, frame)] }
  | .accept c capacity =>
    if x.connections.contains c then none
    else
      let (server, queue) := x.server.addQueue capacity
      some { x with
        server := server
        connections := x.connections.insert c { id := c, queue := queue }
        mailbox := x.mailbox ++ [.opened c queue] }
  | .takeFrame c time wording =>
    match x.connection? c, x.up.take? c with
    | some conn, some (frame, left) =>
      some ({ x with up := left }.act time ((conn.receive frame).takeFrame wording))
    | _, _ => none
  | .takeResponse c =>
    (x.connection? c).bind fun conn =>
      (x.server.takeOldest conn.queue).map fun (r, server) =>
        { x with server := server }.act 0 (conn.takeResponse (some r))
  | .close c => (x.connection? c).map fun conn => x.act 0 conn.finish
  | .react =>
    match x.mailbox with
    | e :: rest =>
      some { x with
        mailbox := rest
        server := x.server.react e
        handled := x.handled ++ [⟨x.server.relay, e⟩] }
    | [] => none

/-- Makes moves one after the other. -/
def run? (mine : ConnectionId → Bool) (x : Exchange) (ms : List Move) : Option Exchange :=
  ms.foldlM (step? mine) x

/-! ## What a move does -/

/-- What a move does when it is made. -/
inductive Steps (mine : ConnectionId → Bool) (x : Exchange) : Move → Exchange → Prop
  | begin {now : Nat} {tokens : List String} {q : Request} {client : Client} {call : Call}
      (began : x.client.begin now tokens q = .ok (client, call)) :
      Steps mine x (.begin now tokens q) { x with
        client := client
        calls := x.calls ++ [(call, x.client.address q call.token)] }
  | unblock : Steps mine x .unblock { x with client := x.client.unblock }
  | finish {call : Call} {client : Client} {outcome : Except ClientError Response}
      (active : x.isActive call = true)
      (finished : x.client.finish call = (client, some outcome)) :
      Steps mine x (.finish call) { x with
        client := client
        returns := x.returns ++ [⟨call, x.client.reply? call, outcome⟩] }
  | timeOut {call : Call} (active : x.isActive call = true) :
      Steps mine x (.timeOut call) { x with
        client := x.client.giveUp call
        returns := x.returns ++ [⟨call, none, .error .requestTimeout⟩] }
  | noteLogin {peer : String} :
      Steps mine x (.noteLogin peer) { x with client := x.client.loggedIn peer }
  | noteLogout : Steps mine x .noteLogout { x with client := x.client.loggedOut }
  | dial : Steps mine x .dial { x with client := { x.client with status := .connecting } }
  | dialFailed : Steps mine x .dialFailed { x with client := x.client.dialFailed }
  | dialed {c : ConnectionId} (isMine : mine c = true) (new : c ∉ x.dialed) :
      Steps mine x (.dialed c) { x with
        client := x.client.dialed, current := some c, dialed := x.dialed ++ [c] }
  | write {c : ConnectionId} {q : Request} {rest : List Request} {body frame : Bytes}
      (current : x.current = some c) (oldest : x.client.outbound = q :: rest)
      (encoded : q.encode = .ok body) (framed : Frame.write body = .ok frame) :
      Steps mine x .write { x with
        client := { x.client with outbound := rest }
        up := x.up ++ [(c, frame)]
        written := x.written ++ [(c, q)] }
  | drop {q : Request} {rest : List Request} (oldest : x.client.outbound = q :: rest) :
      Steps mine x .write { x with
        client := { x.client with
          outbound := rest, correlator := x.client.correlator.abandon q.sequence } }
  | stay : Steps mine x .write x
  | receive {c : ConnectionId} {frame body rest : Bytes} {left : Channel}
      (isMine : mine c = true) (taken : x.down.take? c = some (frame, left))
      (read : Frame.read frame = (.ok body, rest)) :
      Steps mine x (.receive c) { x with client := x.client.receive body, down := left }
  | lose : Steps mine x .lose { x with client := x.client.lost, current := none }
  | others {c : ConnectionId} {frame : Bytes} (notMine : mine c = false) :
      Steps mine x (.others c frame) { x with up := x.up ++ [(c, frame)] }
  | accept {c : ConnectionId} {capacity : Nat} (new : x.connections.contains c = false) :
      Steps mine x (.accept c capacity) { x with
        server := (x.server.addQueue capacity).1
        connections := x.connections.insert c { id := c, queue := x.server.outboxes.size }
        mailbox := x.mailbox ++ [.opened c x.server.outboxes.size] }
  | takeFrame {c : ConnectionId} {time : UInt64} {wording : String} {conn : Connection}
      {frame : Bytes} {left : Channel} (isOpen : x.connection? c = some conn)
      (taken : x.up.take? c = some (frame, left)) :
      Steps mine x (.takeFrame c time wording)
        ({ x with up := left }.act time ((conn.receive frame).takeFrame wording))
  | takeResponse {c : ConnectionId} {conn : Connection} {r : Response} {server : Server}
      (isOpen : x.connection? c = some conn)
      (taken : x.server.takeOldest conn.queue = some (r, server)) :
      Steps mine x (.takeResponse c) ({ x with server := server }.act 0 (conn.writeResponse r))
  | close {c : ConnectionId} {conn : Connection} (isOpen : x.connection? c = some conn) :
      Steps mine x (.close c) (x.act 0 conn.finish)
  | react {e : Event} {rest : List Event} (first : x.mailbox = e :: rest) :
      Steps mine x .react { x with
        mailbox := rest
        server := x.server.react e
        handled := x.handled ++ [⟨x.server.relay, e⟩] }

variable {mine : ConnectionId → Bool} {x y : Exchange}

theorem steps_write (h : x.step? mine .write = some y) : x.Steps mine .write y := by
  obtain ⟨c, current, h⟩ := Option.bind_eq_some_iff.1 h
  have wrote := x.client.writes
  generalize x.client.writeRequest = found at wrote h
  cases wrote with
  | nothing =>
    cases h
    exact .stay
  | wrote oldest encoded =>
    dsimp only at h
    split at h
    · next framed =>
      cases h
      exact .write current oldest encoded framed
    · cases h
  | dropped oldest =>
    cases h
    exact .drop oldest

theorem steps_of_step? {m : Move} (h : x.step? mine m = some y) :
    x.Steps mine m y := by
  cases m with
  | write => exact steps_write h
  | begin now tokens q =>
    simp only [step?] at h
    split at h
    · next began =>
      cases h
      exact .begin began
    · cases h
  | unblock =>
    cases h
    exact .unblock
  | finish call =>
    simp only [step?] at h
    split at h
    · next active =>
      split at h
      · next finished =>
        cases h
        exact .finish active finished
      · cases h
    · cases h
  | timeOut call =>
    simp only [step?] at h
    split at h
    · next active =>
      cases h
      exact .timeOut active
    · cases h
  | noteLogin peer =>
    cases h
    exact .noteLogin
  | noteLogout =>
    cases h
    exact .noteLogout
  | dial =>
    simp only [step?] at h
    split at h
    · next dialing =>
      cases h
      unfold Client.dial at dialing
      split at dialing
      · cases dialing
      · cases dialing
        exact .dial
    · cases h
  | dialFailed =>
    simp only [step?] at h
    split at h
    · cases h
      exact .dialFailed
    · cases h
  | dialed c =>
    simp only [step?] at h
    split at h
    · next allowed =>
      cases h
      exact .dialed allowed.2.1 allowed.2.2
    · cases h
  | receive c =>
    simp only [step?] at h
    split at h
    · next taken =>
      split at h
      · next isMine =>
        split at h
        · next read =>
          cases h
          exact .receive isMine taken read
        · cases h
      · cases h
    · cases h
  | lose =>
    cases h
    exact .lose
  | others c frame =>
    simp only [step?] at h
    split at h
    · cases h
    · next notMine =>
      cases h
      exact .others (by simpa using notMine)
  | accept c capacity =>
    simp only [step?] at h
    split at h
    · cases h
    · next new =>
      cases h
      exact .accept (by simpa using new)
  | takeFrame c time wording =>
    simp only [step?] at h
    split at h
    · next isOpen taken =>
      cases h
      exact .takeFrame isOpen taken
    · cases h
  | takeResponse c =>
    obtain ⟨conn, isOpen, h⟩ := Option.bind_eq_some_iff.1 h
    obtain ⟨⟨r, server⟩, taken, rfl⟩ := Option.map_eq_some_iff.1 h
    exact .takeResponse isOpen taken
  | close c =>
    obtain ⟨conn, isOpen, rfl⟩ := Option.map_eq_some_iff.1 h
    exact .close isOpen
  | react =>
    simp only [step?] at h
    split at h
    · next first =>
      cases h
      exact .react first
    · cases h

/-- What holds at first and is kept by every step holds after every run. -/
theorem induction {P : Exchange → Prop} (start : P x)
    (step : ∀ x m y, P x → x.Steps mine m y → P y)
    {ms : List Move} (run : x.run? mine ms = some y) : P y := by
  induction ms generalizing x with
  | nil =>
    cases run
    exact start
  | cons m ms ih =>
    obtain ⟨z, first, rest⟩ := Option.bind_eq_some_iff.1 run
    exact ih (step x m z start (steps_of_step? first)) rest

end Exchange

end Rendezvous
