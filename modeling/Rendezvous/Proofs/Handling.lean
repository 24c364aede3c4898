import Rendezvous.Outbox
import Rendezvous.Proofs.Alignment
import Rendezvous.Proofs.Oversize

/-!
# What becomes of a stream

The relay's end of a connection has two parts. The one reads frames off the stream, and what it has
found waits in a channel of 16; the other takes what was found and the responses that the relay has
queued, in whatever order they come. Each frame that is taken is handed on to the relay or answered,
each response is written, and one of four things ends it: the stream, the relay, a response that is
too long for a frame, or a write that fails (`Taken.Ends`).

So the relay hears of the connection, then of its requests in the order of the stream, and last that
it is closed; and what is written are the responses and the answers, in the order in which they were
taken (`stream_is_served_in_order`). A frame that holds no request is answered and does no harm, but
only if the answer fits into a frame itself.
-/

namespace Rendezvous

/-! ## Where a stream of frames stops -/

namespace Frame

variable {s rest : Bytes}

/-- There is no further frame on a stream, and why: what stands there is none, or it has ended. -/
def Stops (s : Bytes) (ended : Bool) (cause : CodecError) : Prop :=
  (∃ rest, front s = .invalid cause rest) ∨
    front s = .incomplete ∧ ended = true ∧ cause = .stream true

theorem front_append_of_invalid {cause : CodecError} (h : front s = .invalid cause rest)
    (more : Bytes) : front (s ++ more) = .invalid cause (rest ++ more) := by
  unfold front at h
  split at h
  · dsimp only at h
    simp only [List.cons_append]
    unfold front
    dsimp only
    split at h
    · next long =>
      cases h
      rw [if_pos long]
    · next fits =>
      split at h
      · next empty =>
        cases h
        rw [if_neg fits, if_pos empty]
      · split at h <;> cases h
  · cases h

theorem Stops.append {cause : CodecError} (h : Stops s false cause) (more : Bytes) :
    Stops (s ++ more) false cause := by
  rcases h with ⟨rest, invalid⟩ | ⟨-, ended, -⟩
  · exact .inl ⟨_, front_append_of_invalid invalid more⟩
  · cases ended

theorem Stops.ended {ended : Bool} {cause : CodecError} (h : Stops s ended cause) :
    Stops s true cause :=
  h.imp_right fun ⟨incomplete, _, same⟩ => ⟨incomplete, rfl, same⟩

theorem Stops.read {ended : Bool} {cause : CodecError} (h : Stops s ended cause) :
    ∃ rest, read s = (.error cause, rest) := by
  unfold Frame.read
  rcases h with ⟨rest, invalid⟩ | ⟨incomplete, -, rfl⟩
  · exact ⟨rest, by rw [invalid]⟩
  · exact ⟨[], by rw [incomplete]⟩

end Frame

/-! ## Taking what was found -/

/-- A response as a frame. -/
def Response.frame (r : Response) : Except CodecError Bytes := r.encode.bind Frame.write

theorem Response.frame_eq_error {r : Response} (long : maxFrameSize < r.size) :
    r.frame = .error (.tooLarge r.size) := by
  unfold frame
  rw [encode_eq_error long]
  rfl

theorem Connection.writeResponse_of_ok {r : Response} {frame : Bytes} (framed : r.frame = .ok frame)
    (c : Connection) : c.writeResponse r = (c, .write frame) := by
  unfold Response.frame at framed
  unfold writeResponse
  rw [framed]

theorem Connection.writeResponse_of_error {r : Response} {e : CodecError}
    (framed : r.frame = .error e) (c : Connection) : c.writeResponse r = c.finish := by
  unfold Response.frame at framed
  unfold writeResponse
  rw [framed]

theorem Response.size_of_frame_eq_error {r : Response} {e : CodecError} (h : r.frame = .error e) :
    maxFrameSize < r.size := by
  refine Nat.lt_of_not_le fun fits => ?_
  rw [← length_compact_response] at fits
  have framed : r.frame = .ok (BigEndian.word32 r.document.compact.length ++
      r.document.compact) := by
    unfold frame
    rw [isCodec.encode_eq_ok_iff.2 ⟨fits, rfl⟩]
    exact Frame.write_eq_ok_iff.2 ⟨fits, rfl⟩
  rw [framed] at h
  cases h

namespace Connection

/-- Takes what was found next on the stream: a body, or why there is no further one. -/
def takeFound (c : Connection) (found : Except CodecError Bytes) (wording : String) :
    Connection × Effect :=
  match found with
  | .ok body =>
    match Request.decode body with
    | .ok q => (c, .submit q)
    | .error e => c.writeResponse (malformedReply body e wording)
  | .error _ => c.finish

/-- Looks for the next frame on the stream. Nothing is found while one is not whole. -/
def find? (c : Connection) : Option (Connection × Except CodecError Bytes) :=
  match Frame.front c.input with
  | .incomplete => if c.inputEnded then some (c, .error (.stream true)) else none
  | .invalid cause _ => some (c, .error cause)
  | .whole body rest => some ({ c with input := rest }, .ok body)

/-- To take a frame is to find it and to take what was found. -/
theorem takeFrame_eq (c : Connection) (wording : String) :
    c.takeFrame wording = match c.find? with
      | some (c, found) => c.takeFound found wording
      | none => (c, .wait) := by
  unfold takeFrame find?
  cases Frame.front c.input with
  | incomplete => cases c.inputEnded <;> rfl
  | invalid => rfl
  | whole => rfl

theorem find?_cases {c d : Connection} {item : Except CodecError Bytes}
    (h : c.find? = some (d, item)) :
    (∃ body, item = .ok body ∧ Frame.Fits body ∧ d = { c with input := d.input } ∧
      c.input = BigEndian.word32 body.length ++ body ++ d.input) ∨
    ∃ cause, item = .error cause ∧ d = c ∧ Frame.Stops c.input c.inputEnded cause := by
  unfold find? at h
  split at h
  · next incomplete =>
    split at h
    · next ended =>
      cases h
      exact .inr ⟨_, rfl, rfl, .inr ⟨incomplete, ended, rfl⟩⟩
    · cases h
  · next invalid =>
    cases h
    exact .inr ⟨_, rfl, rfl, .inl ⟨_, invalid⟩⟩
  · next whole =>
    cases h
    obtain ⟨fits, input⟩ := Frame.front_eq_whole whole
    exact .inl ⟨_, rfl, fits, rfl, input⟩

end Connection

/-- Something that a connection takes. -/
inductive Taken where
  /-- What was found on the stream, the time at which the relay hears of it, and what the JSON
  library says of it should it be no JSON. -/
  | found (found : Except CodecError Bytes) (time : UInt64) (wording : String)
  /-- What came from the queue; nothing if the relay has dropped it. -/
  | queued (r : Option Response)

namespace Taken

/-- What a connection does with it. -/
def take (c : Connection) : Taken → Connection × Effect
  | found item _ wording => c.takeFound item wording
  | queued r => c.takeResponse r

def time : Taken → UInt64
  | found _ time _ => time
  | queued _ => 0

def found? : Taken → Option (Except CodecError Bytes)
  | found item .. => some item
  | queued _ => none

def body? (t : Taken) : Option Bytes := t.found?.bind (·.toOption)

def queued? : Taken → Option Response
  | queued r => r
  | found .. => none

/-- The request that is handed on for it. -/
def request? (t : Taken) : Option Request := t.body?.bind fun body => (Request.decode body).toOption

/-- The response that is due for it: a queued one, or the answer to a body that is no request. -/
def response? : Taken → Option Response
  | queued r => r
  | found (.ok body) _ wording =>
    match Request.decode body with
    | .ok _ => none
    | .error e => some (malformedReply body e wording)
  | found (.error _) .. => none

/-- What is written for it. -/
def bytes (t : Taken) : Bytes := (t.response?.bind (·.frame.toOption)).getD []

/-- It is handed on, or what is due for it fits into a frame. -/
inductive Passes : Taken → Prop
  | request {t : Taken} {q : Request} (handedOn : t.request? = some q) : Passes t
  | response {t : Taken} {r : Response} {frame : Bytes} (due : t.response? = some r)
      (fits : r.frame = .ok frame) : Passes t

/-- How it can be the last one, whether a write has failed then, and what was still written. -/
inductive Ends : Taken → Bool → Bytes → Prop
  | stream (cause : CodecError) (time : UInt64) (wording : String) :
      Ends (found (.error cause) time wording) false []
  | dropped : Ends (queued none) false []
  | tooLong {t : Taken} {r : Response} {e : CodecError} (due : t.response? = some r)
      (long : r.frame = .error e) : Ends t false []
  | broken {t : Taken} {r : Response} {frame : Bytes} (due : t.response? = some r)
      (fits : r.frame = .ok frame) (n : Nat) : Ends t true (frame.take n)

/-- What a connection does with what it takes is told by what is due for it. -/
theorem take_eq (c : Connection) (t : Taken) :
    (∃ q, t.request? = some q ∧ t.response? = none ∧ t.take c = (c, .submit q)) ∨
    (∃ r, t.request? = none ∧ t.response? = some r ∧ t.take c = c.writeResponse r) ∨
    (t.request? = none ∧ t.response? = none ∧ t.take c = c.finish ∧ Ends t false []) := by
  cases t with
  | queued r =>
    cases r with
    | none => exact .inr (.inr ⟨rfl, rfl, rfl, .dropped⟩)
    | some r => exact .inr (.inl ⟨r, rfl, rfl, rfl⟩)
  | found item time wording =>
    cases item with
    | error cause => exact .inr (.inr ⟨rfl, rfl, rfl, .stream cause time wording⟩)
    | ok body =>
      cases decoded : Request.decode body with
      | ok q =>
        refine .inl ⟨q, ?_⟩
        simp [request?, body?, found?, response?, take, Connection.takeFound, decoded,
          Except.toOption]
      | error e =>
        refine .inr (.inl ⟨malformedReply body e wording, ?_⟩)
        simp [request?, body?, found?, response?, take, Connection.takeFound, decoded,
          Except.toOption]

end Taken

/-! ## A connection at work -/

/-- A connection and its channels, with what has been in them. -/
structure Handler where
  connection : Connection
  /-- What was found on the stream and not taken yet, oldest first. -/
  found : List (Except CodecError Bytes) := []
  /-- Whether frames are still looked for. -/
  reading : Bool := true
  outbox : Outbox
  /-- Whether the relay can still queue responses. -/
  held : Bool := true
  /-- All that has arrived on the stream. -/
  arrived : Bytes := []
  /-- The responses that have been queued, oldest first. -/
  accepted : List Response := []
  /-- What has been taken, oldest first. -/
  taken : List Taken := []
  /-- What the relay has heard, oldest first. -/
  sent : List Event
  /-- All that has been written to the stream. -/
  written : Bytes := []
  /-- Whether a write has failed. -/
  failed : Bool := false

namespace Handler

/-- How much of what was found can wait. -/
def channelCapacity : Nat := 16

/-- A connection that was accepted. The relay hears of it first. -/
def new (id : ConnectionId) (queue : QueueId) (capacity : Nat) : Handler where
  connection := { id := id, queue := queue }
  outbox := { capacity := capacity }
  sent := [.opened id queue]

/-- The bodies that have been taken off the stream. -/
def bodies (h : Handler) : List Bytes := h.taken.filterMap Taken.body?

def finish (h : Handler) : Handler :=
  { h with
    connection := h.connection.finish.1
    sent := h.sent ++ [.closed h.connection.id] }

/-- Takes something and does what is to be done with it. A write may fail, after some bytes. -/
def take (h : Handler) (t : Taken) (failsAfter : Option Nat) : Handler :=
  let taken := { h with taken := h.taken ++ [t] }
  match (t.take h.connection).2 with
  | .wait => taken
  | .submit q => { taken with sent := h.sent ++ [.request h.connection.id t.time q] }
  | .write frame =>
    match failsAfter with
    | none => { taken with written := h.written ++ frame }
    | some n => { taken with written := h.written ++ frame.take n, failed := true }.finish
  | .finish => taken.finish

/-- What can happen to a connection. -/
inductive Move where
  /-- Bytes arrive. -/
  | arrive (bytes : Bytes)
  /-- The other side stops sending. -/
  | arriveEnd
  /-- The next frame is looked for. -/
  | find
  /-- The relay queues a response. -/
  | push (r : Response)
  /-- The relay drops the connection. -/
  | drop
  /-- What was found is taken. -/
  | takeFound (time : UInt64) (wording : String) (failsAfter : Option Nat)
  /-- The queue is looked at. -/
  | takeQueued (failsAfter : Option Nat)

/-- Makes a move if it is possible. -/
def step? (h : Handler) : Move → Option Handler
  | .arrive bytes =>
    if h.connection.inputEnded then none
    else some { h with
      connection := h.connection.receive bytes
      arrived := h.arrived ++ bytes }
  | .arriveEnd => some { h with connection := h.connection.receiveEnd }
  | .find =>
    if h.reading ∧ h.found.length < channelCapacity then
      h.connection.find?.map fun (c, item) =>
        { h with connection := c, found := h.found ++ [item], reading := item.toOption.isSome }
    else none
  | .push r =>
    if h.held then
      some { h with
        outbox := h.outbox.push r
        accepted := h.accepted ++
          if h.outbox.receiving && h.outbox.waiting.length < h.outbox.capacity then [r] else [] }
    else none
  | .drop => some { h with held := false }
  | .takeFound time wording failsAfter =>
    match h.connection.finished, h.found with
    | false, item :: rest =>
      some ({ h with found := rest }.take (.found item time wording) failsAfter)
    | _, _ => none
  | .takeQueued failsAfter =>
    match h.connection.finished, h.outbox.waiting, h.held with
    | false, r :: rest, _ =>
      let left := { h with outbox := { h.outbox with waiting := rest } }
      some (left.take (.queued (some r)) failsAfter)
    | false, [], false => some (h.take (.queued none) failsAfter)
    | _, _, _ => none

/-- Makes moves one after the other. -/
def run? (h : Handler) (ms : List Move) : Option Handler := ms.foldlM step? h

variable {h k : Handler} {id : ConnectionId} {queue : QueueId} {capacity : Nat} {m : Move}
  {ms : List Move} {t : Taken} {failsAfter : Option Nat}

/-- Everything that a move can do. -/
inductive Steps (h : Handler) : Handler → Prop
  | arrive (goesOn : h.connection.inputEnded = false) (bytes : Bytes) :
      Steps h { h with connection := h.connection.receive bytes, arrived := h.arrived ++ bytes }
  | arriveEnd : Steps h { h with connection := h.connection.receiveEnd }
  | find {c : Connection} {item : Except CodecError Bytes} (reading : h.reading = true)
      (found : h.connection.find? = some (c, item)) :
      Steps h { h with connection := c, found := h.found ++ [item]
                       reading := item.toOption.isSome }
  | push (r : Response) :
      Steps h { h with
        outbox := h.outbox.push r
        accepted := h.accepted ++
          if h.outbox.receiving && h.outbox.waiting.length < h.outbox.capacity then [r] else [] }
  | drop : Steps h { h with held := false }
  | takeFound {item : Except CodecError Bytes} {rest : List (Except CodecError Bytes)}
      (running : h.connection.finished = false) (found : h.found = item :: rest) (time : UInt64)
      (wording : String) (failsAfter : Option Nat) :
      Steps h ({ h with found := rest }.take (.found item time wording) failsAfter)
  | takeQueued {r : Response} {rest : List Response} (running : h.connection.finished = false)
      (waiting : h.outbox.waiting = r :: rest) (failsAfter : Option Nat) :
      Steps h ({ h with outbox := { h.outbox with waiting := rest } }.take (.queued (some r))
        failsAfter)
  | takeDropped (running : h.connection.finished = false) (waiting : h.outbox.waiting = [])
      (dropped : h.held = false) (failsAfter : Option Nat) :
      Steps h (h.take (.queued none) failsAfter)

theorem steps_of_step? (made : h.step? m = some k) : h.Steps k := by
  cases m with
  | arrive bytes =>
    rw [step?] at made
    split at made
    · cases made
    · next goesOn =>
      cases made
      exact .arrive (Bool.not_eq_true _ ▸ goesOn) bytes
  | arriveEnd =>
    cases made
    exact .arriveEnd
  | find =>
    rw [step?] at made
    split at made
    · next ready =>
      obtain ⟨⟨c, item⟩, found, rfl⟩ := Option.map_eq_some_iff.1 made
      exact .find ready.1 found
    · cases made
  | push r =>
    rw [step?] at made
    split at made
    · cases made
      exact .push r
    · cases made
  | drop =>
    cases made
    exact .drop
  | takeFound time wording failsAfter =>
    rw [step?] at made
    split at made
    · next running found =>
      cases made
      exact .takeFound running found time wording failsAfter
    · cases made
  | takeQueued failsAfter =>
    rw [step?] at made
    split at made
    · next running waiting =>
      cases made
      exact .takeQueued running waiting failsAfter
    · next running waiting dropped =>
      cases made
      exact .takeDropped running waiting dropped failsAfter
    · cases made

/-- What holds at first and is kept by every move holds after every run. -/
theorem induction {P : Handler → Prop} (start : P h) (step : ∀ h k, P h → h.Steps k → P k)
    (run : h.run? ms = some k) : P k := by
  induction ms generalizing h with
  | nil =>
    cases run
    exact start
  | cons m ms ih =>
    obtain ⟨u, first, rest⟩ := Option.bind_eq_some_iff.1 run
    exact ih (step h u start (steps_of_step? first)) rest

/-- What is taken either passes, or it is the last one. -/
theorem take_cases (h : Handler) (t : Taken) (failsAfter : Option Nat) :
    t.Passes ∧ h.take t failsAfter =
      { h with
        taken := h.taken ++ [t]
        sent := h.sent ++ t.request?.toList.map (.request h.connection.id t.time)
        written := h.written ++ t.bytes } ∨
    ∃ failed rest, t.request? = none ∧ t.Ends failed rest ∧ h.take t failsAfter =
      finish { h with
        taken := h.taken ++ [t]
        written := h.written ++ rest
        failed := failed || h.failed } := by
  rcases t.take_eq h.connection with ⟨q, asked, none, taken⟩ | ⟨r, none, due, taken⟩ |
    ⟨none, -, taken, ends⟩
  · refine .inl ⟨.request asked, ?_⟩
    unfold take
    rw [taken]
    simp [asked, Taken.bytes, none]
  · cases framed : r.frame with
    | error e =>
      refine .inr ⟨false, [], none, .tooLong due framed, ?_⟩
      unfold take
      rw [taken, Connection.writeResponse_of_error framed]
      simp [Connection.finish]
    | ok frame =>
      unfold take
      rw [taken, Connection.writeResponse_of_ok framed]
      cases failsAfter with
      | none =>
        refine .inl ⟨.response due framed, ?_⟩
        simp [none, Taken.bytes, due, framed, Except.toOption]
      | some n =>
        exact .inr ⟨true, frame.take n, none, .broken due framed n, rfl⟩
  · refine .inr ⟨false, [], none, ends, ?_⟩
    unfold take
    rw [taken]
    simp [Connection.finish]

/-- Besides what is heard, written and over, only what has been taken changes. -/
theorem take_fields (h : Handler) (t : Taken) (failsAfter : Option Nat) :
    (h.take t failsAfter).taken = h.taken ++ [t] ∧
    (h.take t failsAfter).found = h.found ∧ (h.take t failsAfter).reading = h.reading ∧
    (h.take t failsAfter).outbox = h.outbox ∧ (h.take t failsAfter).held = h.held ∧
    (h.take t failsAfter).arrived = h.arrived ∧ (h.take t failsAfter).accepted = h.accepted ∧
    (h.take t failsAfter).connection.input = h.connection.input ∧
    (h.take t failsAfter).connection.inputEnded = h.connection.inputEnded := by
  rcases h.take_cases t failsAfter with ⟨-, after⟩ | ⟨failed, rest, -, -, after⟩ <;> rw [after] <;>
    exact ⟨rfl, rfl, rfl, rfl, rfl, rfl, rfl, rfl, rfl⟩

/-! ## The stream -/

/-- All that was found on the stream, in order. -/
def findings (h : Handler) : List (Except CodecError Bytes) :=
  h.taken.filterMap Taken.found? ++ h.found

/-- What has arrived is these bodies in frames and what was not looked at yet. They are what was
found, and last why there is no further one. -/
structure Reads (h : Handler) (bodies : List Bytes) : Prop where
  fit : ∀ body ∈ bodies, Frame.Fits body
  arrived : h.arrived = Frame.frames bodies ++ h.connection.input
  found : h.reading = true ∧ h.findings = bodies.map .ok ∨
    h.reading = false ∧ ∃ cause, h.findings = bodies.map .ok ++ [.error cause] ∧
      Frame.Stops h.connection.input h.connection.inputEnded cause

namespace Reads

variable {bodies : List Bytes}

theorem new : Reads (Handler.new id queue capacity) [] where
  fit := nofun
  arrived := rfl
  found := .inl ⟨rfl, rfl⟩

theorem congr (r : h.Reads bodies) (arrived : k.arrived = h.arrived)
    (input : k.connection.input = h.connection.input)
    (ended : k.connection.inputEnded = h.connection.inputEnded) (reading : k.reading = h.reading)
    (findings : k.findings = h.findings) : k.Reads bodies where
  fit := r.fit
  arrived := by rw [arrived, input, r.arrived]
  found := by
    rw [reading, findings, input, ended]
    exact r.found

theorem take (r : h.Reads bodies) {found : List (Except CodecError Bytes)}
    (taken : h.found = t.found?.toList ++ found) (outbox : Outbox) :
    ({ h with found := found, outbox := outbox }.take t failsAfter).Reads bodies := by
  obtain ⟨taken', found', reading, -, -, arrived, -, input, ended⟩ :=
    take_fields { h with found := found, outbox := outbox } t failsAfter
  refine r.congr arrived input ended reading ?_
  unfold findings
  rw [taken', found', taken]
  cases found? : t.found? <;> simp [found?]

theorem find (r : h.Reads bodies) {c : Connection} {item : Except CodecError Bytes}
    (reading : h.reading = true) (found : h.connection.find? = some (c, item)) :
    ∃ bodies, Reads { h with connection := c, found := h.found ++ [item]
                             reading := item.toOption.isSome } bodies := by
  have before : h.findings = bodies.map .ok := by
    rcases r.found with ⟨-, findings⟩ | ⟨stopped, -⟩
    · exact findings
    · exact absurd (reading.symm.trans stopped) nofun
  have after : h.taken.filterMap Taken.found? ++ (h.found ++ [item]) =
      bodies.map .ok ++ [item] := by
    rw [← before, ← List.append_assoc]
    rfl
  rcases Connection.find?_cases found with ⟨body, rfl, fits, -, input⟩ | ⟨cause, rfl, rfl, stops⟩
  · refine ⟨bodies ++ [body], fun other among => ?_, ?_, .inl ⟨rfl, ?_⟩⟩
    · rcases List.mem_append.1 among with old | new
      · exact r.fit other old
      · exact List.mem_singleton.1 new ▸ fits
    · show h.arrived = _ ++ c.input
      rw [r.arrived, input, Frame.frames_append]
      simp [Frame.frames]
    · rw [List.map_append]
      exact after
  · exact ⟨bodies, r.fit, r.arrived, .inr ⟨rfl, cause, after, stops⟩⟩

theorem step (r : h.Reads bodies) (made : h.Steps k) : ∃ bodies, k.Reads bodies := by
  cases made with
  | arrive goesOn bytes =>
    refine ⟨bodies, r.fit, ?_, ?_⟩
    · rw [r.arrived, List.append_assoc]
      rfl
    · refine r.found.imp_right fun ⟨reading, cause, findings, stops⟩ =>
        ⟨reading, cause, findings, ?_⟩
      show Frame.Stops (h.connection.input ++ bytes) h.connection.inputEnded cause
      rw [goesOn] at stops ⊢
      exact stops.append bytes
  | arriveEnd =>
    exact ⟨bodies, r.fit, r.arrived, r.found.imp_right fun ⟨reading, cause, findings, stops⟩ =>
      ⟨reading, cause, findings, stops.ended⟩⟩
  | find reading found => exact r.find reading found
  | push | drop => exact ⟨bodies, r.congr rfl rfl rfl rfl rfl⟩
  | takeFound _ found => exact ⟨bodies, r.take found h.outbox⟩
  | takeQueued => exact ⟨bodies, r.take (t := .queued _) rfl _⟩
  | takeDropped => exact ⟨bodies, r.take (t := .queued none) rfl h.outbox⟩

theorem bodies_eq (h : Handler) :
    h.bodies = (h.taken.filterMap Taken.found?).filterMap (·.toOption) := by
  rw [List.filterMap_filterMap]
  rfl

theorem isPrefix (r : h.Reads bodies) : h.bodies <+: bodies := by
  have findings : h.taken.filterMap Taken.found? <+: h.findings := List.prefix_append _ _
  have found : h.findings.filterMap (·.toOption) = bodies := by
    have whole : (bodies.map Except.ok).filterMap (Except.toOption (ε := CodecError)) = bodies := by
      rw [List.filterMap_map]
      exact List.filterMap_some
    rcases r.found with ⟨-, all⟩ | ⟨-, cause, all, -⟩
    · rw [all, whole]
    · rw [all, List.filterMap_append, whole]
      simp [Except.toOption]
  rw [bodies_eq, ← found]
  exact findings.filterMap _

/-- The bodies taken are the first ones of the stream. -/
theorem isPrefix_readAll (r : h.Reads bodies) : h.bodies <+: (Frame.readAll h.arrived).1 := by
  refine r.isPrefix.trans ?_
  rw [r.arrived]
  exact Frame.isPrefix_readAll r.fit _

/-- Once it is known why there is no further frame, all of them have been taken. -/
theorem eq_readAll (r : h.Reads bodies) {cause : CodecError} {time : UInt64} {wording : String}
    (last : .found (.error cause) time wording ∈ h.taken) :
    h.bodies = (Frame.readAll h.arrived).1 := by
  have among : .error cause ∈ h.taken.filterMap Taken.found? :=
    List.mem_filterMap.2 ⟨_, last, rfl⟩
  have notBody : .error cause ∉ bodies.map (Except.ok (ε := CodecError)) := by simp
  rcases r.found with ⟨-, all⟩ | ⟨-, cause', all, stops⟩
  · exact absurd (all ▸ List.mem_append_left _ among) notBody
  · obtain ⟨rest, stop⟩ := stops.read
    rw [r.arrived, Frame.readAll_of_read_error r.fit stop, bodies_eq]
    -- the reason is the last thing that was found, so nothing is left in the channel
    rcases List.eq_nil_or_concat h.found with empty | ⟨init, item, some⟩
    · rw [findings, empty, List.append_nil] at all
      rw [all, List.filterMap_append, List.filterMap_map]
      simp [Except.toOption, Function.comp_def]
    · rw [findings, some, List.concat_eq_append, ← List.append_assoc] at all
      obtain ⟨before, -⟩ := List.append_inj' all rfl
      exact absurd (before ▸ List.mem_append_left _ among) notBody

end Reads

/-! ## The queue -/

/-- What was queued has been taken in order or waits, and the queue is found gone only if it is. -/
structure Queues (h : Handler) : Prop where
  accepted : h.accepted = h.taken.filterMap Taken.queued? ++ h.outbox.waiting
  dropped : .queued none ∈ h.taken → h.held = false

namespace Queues

theorem new : (Handler.new id queue capacity).Queues where
  accepted := rfl
  dropped := nofun

theorem congr (q : h.Queues) (accepted : k.accepted = h.accepted) (taken : k.taken = h.taken)
    (outbox : k.outbox = h.outbox) (held : k.held = h.held) : k.Queues where
  accepted := by rw [accepted, taken, outbox, q.accepted]
  dropped := by
    rw [taken, held]
    exact q.dropped

theorem take (q : h.Queues) (found : List (Except CodecError Bytes)) (outbox : Outbox)
    (waiting : h.outbox.waiting = t.queued?.toList ++ outbox.waiting)
    (dropped : t = .queued none → h.held = false) :
    ({ h with found := found, outbox := outbox }.take t failsAfter).Queues := by
  obtain ⟨taken, -, -, outbox', held, -, accepted, -⟩ :=
    take_fields { h with found := found, outbox := outbox } t failsAfter
  refine ⟨?_, fun among => ?_⟩
  · rw [accepted, taken, outbox', q.accepted, waiting]
    cases queued? : t.queued? <;> simp [queued?]
  · rw [taken] at among
    rw [held]
    rcases List.mem_append.1 among with old | new
    · exact q.dropped old
    · exact dropped (List.mem_singleton.1 new).symm

theorem step (q : h.Queues) (made : h.Steps k) : k.Queues := by
  cases made with
  | arrive | arriveEnd | find => exact q.congr rfl rfl rfl rfl
  | push r =>
    refine ⟨?_, q.dropped⟩
    show h.accepted ++ _ = _ ++ (h.outbox.push r).waiting
    rw [Outbox.waiting_push, q.accepted, List.append_assoc]
  | drop => exact ⟨q.accepted, fun _ => rfl⟩
  | takeFound => exact q.take _ h.outbox rfl nofun
  | takeQueued _ waiting => exact q.take h.found _ waiting nofun
  | takeDropped _ _ dropped => exact q.take h.found h.outbox rfl fun _ => dropped

end Queues

/-! ## What is heard and written -/

/-- The requests that have been handed on, each with the time at which the relay heard of it. -/
def requests (h : Handler) : List (UInt64 × Request) :=
  h.taken.filterMap fun t => t.request?.map (t.time, ·)

theorem map_requests (h : Handler) :
    h.requests.map (·.2) = h.bodies.filterMap fun body => (Request.decode body).toOption := by
  unfold requests bodies
  rw [List.map_filterMap, List.filterMap_filterMap]
  congr
  funext t
  rw [Option.map_map]
  exact Option.map_id'

/-- What a connection has made of what it took. -/
structure Works (h : Handler) (id : ConnectionId) (queue : QueueId) : Prop where
  ident : h.connection.id = id
  sent : h.sent = .opened id queue :: h.requests.map (fun p => .request id p.1 p.2) ++
    if h.connection.finished then [.closed id] else []
  goesOn : h.connection.finished = false →
    h.failed = false ∧ (∀ t ∈ h.taken, t.Passes) ∧ h.written = h.taken.flatMap Taken.bytes
  ends : h.connection.finished = true → ∃ done last rest, h.taken = done ++ [last] ∧
    (∀ t ∈ done, t.Passes) ∧ last.Ends h.failed rest ∧ h.written = done.flatMap Taken.bytes ++ rest

namespace Works

theorem new : (Handler.new id queue capacity).Works id queue where
  ident := rfl
  sent := rfl
  goesOn _ := ⟨rfl, nofun, rfl⟩
  ends := nofun

theorem congr (w : h.Works id queue) (same : k.connection.id = h.connection.id)
    (finished : k.connection.finished = h.connection.finished) (sent : k.sent = h.sent)
    (taken : k.taken = h.taken) (written : k.written = h.written) (failed : k.failed = h.failed) :
    k.Works id queue where
  ident := same.trans w.ident
  sent := by
    rw [sent, finished, w.sent]
    unfold requests
    rw [taken]
  goesOn := by
    rw [finished, failed, taken, written]
    exact w.goesOn
  ends := by
    rw [finished, failed, taken, written]
    exact w.ends

theorem take (w : h.Works id queue) (running : h.connection.finished = false)
    (t : Taken) (failsAfter : Option Nat) : (h.take t failsAfter).Works id queue := by
  obtain ⟨whole, passed, written⟩ := w.goesOn running
  have sent := w.sent
  rw [running] at sent
  rcases h.take_cases t failsAfter with ⟨passes, after⟩ | ⟨failed, rest, none, ends, after⟩
  · rw [after]
    refine ⟨w.ident, ?_, fun _ => ⟨whole, ?_, ?_⟩, fun finished => ?_⟩
    · show h.sent ++ _ = _
      rw [sent, w.ident]
      simp only [running, requests]
      cases asked : t.request? <;> simp [asked]
    · intro u among
      rcases List.mem_append.1 among with old | new
      · exact passed u old
      · exact List.mem_singleton.1 new ▸ passes
    · show h.written ++ _ = _
      rw [written]
      simp
    · exact absurd (running.symm.trans finished) nofun
  · rw [after]
    refine ⟨w.ident, ?_, nofun, fun _ => ⟨h.taken, t, rest, rfl, passed, ?_, ?_⟩⟩
    · show h.sent ++ [.closed h.connection.id] = _
      rw [sent, w.ident]
      simp [requests, none, finish, Connection.finish]
    · show t.Ends (failed || h.failed) rest
      rw [whole, Bool.or_false]
      exact ends
    · show h.written ++ rest = _
      rw [written]

theorem step (w : h.Works id queue) (made : h.Steps k) : k.Works id queue := by
  cases made with
  | arrive | arriveEnd | push | drop => exact w.congr rfl rfl rfl rfl rfl rfl
  | find _ found =>
    rcases Connection.find?_cases found with ⟨_, -, -, input, -⟩ | ⟨_, -, rfl, -⟩
    · exact w.congr (by rw [input]) (by rw [input]) rfl rfl rfl rfl
    · exact w.congr rfl rfl rfl rfl rfl rfl
  | @takeFound _ rest running =>
    have taken : Works { h with found := rest } id queue := w.congr rfl rfl rfl rfl rfl rfl
    exact taken.take running _ _
  | @takeQueued _ rest running =>
    have taken : Works { h with outbox := { h.outbox with waiting := rest } } id queue :=
      w.congr rfl rfl rfl rfl rfl rfl
    exact taken.take running _ _
  | takeDropped running => exact w.take running _ _

end Works

/-- What has become of a stream, and of a queue. -/
structure Served (h : Handler) (id : ConnectionId) (queue : QueueId) : Prop where
  /-- The relay hears of the connection, of its requests and of its end, each once. -/
  heard : ∃ requests : List (UInt64 × Request),
    h.sent = .opened id queue :: requests.map (fun p => .request id p.1 p.2) ++
      (if h.connection.finished then [.closed id] else []) ∧
    requests.map (·.2) = h.bodies.filterMap fun body => (Request.decode body).toOption
  /-- The requests are in the first frames of the stream. -/
  inOrder : h.bodies <+: (Frame.readAll h.arrived).1
  /-- The responses taken are the first ones that were queued. -/
  queued : h.taken.filterMap Taken.queued? <+: h.accepted
  /-- While it is not over, all responses and answers that are due have been written. -/
  goesOn : h.connection.finished = false →
    (∀ t ∈ h.taken, t.Passes) ∧ h.written = h.taken.flatMap Taken.bytes
  /-- Once it is over, this holds of all that was taken but the last thing, which ended it. -/
  ends : h.connection.finished = true → ∃ done last rest, h.taken = done ++ [last] ∧
    (∀ t ∈ done, t.Passes) ∧ last.Ends h.failed rest ∧ h.written = done.flatMap Taken.bytes ++ rest
  /-- It is over before all frames were taken only if something went wrong. -/
  all : h.connection.finished = true → h.failed = false → h.held = true →
    (∀ t ∈ h.taken, ∀ r ∈ t.response?, r.size ≤ maxFrameSize) →
    h.bodies = (Frame.readAll h.arrived).1

/-- Whatever arrives, and in whatever order it is taken: the relay hears that the connection is
open, then of the requests in the frames taken, and last that it is closed; what is written are the
responses and answers in the order in which they were taken. All frames of the stream are taken
unless a response or an answer is too long, a write fails or the relay drops the connection. -/
theorem stream_is_served_in_order (run : (new id queue capacity).run? ms = some h) :
    h.Served id queue := by
  have works := induction (P := (·.Works id queue)) .new (fun _ _ w made => w.step made) run
  have queues := induction (P := Queues) .new (fun _ _ q made => q.step made) run
  obtain ⟨bodies, reads⟩ := induction (P := fun h => ∃ bodies, h.Reads bodies) ⟨[], .new⟩
    (fun _ _ ⟨_, r⟩ made => r.step made) run
  refine ⟨⟨h.requests, works.sent, h.map_requests⟩, reads.isPrefix_readAll, ?_,
    fun running => (works.goesOn running).2, works.ends, fun finished worked held fit => ?_⟩
  · rw [queues.accepted]
    exact List.prefix_append _ _
  · obtain ⟨done, last, rest, taken, -, ends, -⟩ := works.ends finished
    have among : last ∈ h.taken := taken ▸ List.mem_append_right _ (List.mem_singleton_self last)
    rw [worked] at ends
    cases ends with
    | stream => exact reads.eq_readAll among
    | dropped => exact absurd (held.symm.trans (queues.dropped among)) nofun
    | tooLong due long =>
      exact absurd (fit last among _ due) (Nat.not_le.2 (Response.size_of_frame_eq_error long))

/-- A request, a text that is none and the answer to the request. All goes well until the stream
ends. -/
def sampleMoves : List Move :=
  let frames := Frame.frames [(Request.ofAction .services).document.compact, Json.quote "hello"]
  [.arrive (frames.take 9), .arrive (frames.drop 9), .find, .takeFound 5 "" none, .find,
   .push (Response.reply ""), .takeQueued none, .takeFound 6 "" none, .arriveEnd, .find,
   .takeFound 7 "" none]

/-- The relay hears of the request, and both frames are taken. -/
theorem stream_is_served_in_order_sampleMoves : ∃ h, (new 7 3 64).run? sampleMoves = some h ∧
    h.sent = [.opened 7 3, .request 7 5 (.ofAction .services), .closed 7] ∧
    h.bodies = (Frame.readAll h.arrived).1 := by
  have ran : ((new 7 3 64).run? sampleMoves).any (fun h =>
      h.sent == [.opened 7 3, .request 7 5 (.ofAction .services), .closed 7] &&
      h.connection.finished && !h.failed && h.held &&
      h.taken.all fun t => t.response?.all fun r => r.size ≤ maxFrameSize) = true := by
    decide +kernel
  obtain ⟨h, run, after⟩ := (Option.any_eq_true ..).1 ran
  simp only [Bool.and_eq_true, beq_iff_eq, Bool.not_eq_true'] at after
  obtain ⟨⟨⟨⟨sent, finished⟩, worked⟩, held⟩, fit⟩ := after
  refine ⟨h, run, sent, (stream_is_served_in_order run).all finished worked held ?_⟩
  intro t among r due
  simpa [Option.all, show t.response? = some r from due] using List.all_eq_true.1 fit t among

end Handler

end Rendezvous
