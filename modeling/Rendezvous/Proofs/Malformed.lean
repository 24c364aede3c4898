import Rendezvous.Proofs.Handling

/-!
# Frames that hold no request

A frame that holds no request is answered by what is wrong with it, which repeats the value that
stands in the place of a request. So the answer may be longer than a frame allows where the frame
itself is not: then it is not written, and the connection ends (`bad_frame_ends_connection`).
-/

namespace Rendezvous

open Json (textSize contentSize)

/-! ## What is wrong with a text -/

theorem Json.wrongType_quote (expected t : String) (s : Bytes) :
    Json.wrongType expected (Json.quote t ++ s) =
      .mismatched (.type (.text t) expected) s.length := by
  rw [quote_append]
  unfold wrongType
  have digit : isDigit 0x22 = false := by decide
  simp [text_escaped, digit]

/-- What is wrong with a text as a request. -/
def textFault (t : String) : CodecError :=
  .json (.mismatched (.type (.text t) "struct Request") 0) (Json.quote t)

/-- A text alone is no request. -/
theorem Request.decode_quote (t : String) :
    Request.decode (Json.quote t) = .error (textFault t) := by
  have wrong := Json.wrongType_quote "struct Request" t []
  rw [List.append_nil] at wrong
  have read (fuel : Nat) : Json.readRecord "Request" Request.fields {} fuel (Json.quote t) =
      .error (.mismatched (.type (.text t) "struct Request") 0) := congrArg Except.error wrong
  unfold Request.decode decodeBody Json.decode
  rw [read]
  rfl

theorem quoted_longText (n : Nat) : Text.quoted (longText n) = "\"" ++ longText n ++ "\"" := by
  have plain : Text.quotedChar 'x' = ['x'] := by decide +kernel
  have all : (List.replicate n 'x').flatMap Text.quotedChar = List.replicate n 'x' := by
    rw [List.flatMap_replicate, plain]
    simp
  unfold Text.quoted longText
  rw [String.toList_ofList, all]
  apply String.ext
  simp

theorem message_mismatched (wording : String) (input : Bytes) (cause : Json.Mismatch)
    (behind : Nat) :
    ∃ place, (Json.Fault.mismatched cause behind).message wording input =
      cause.message ++ place := by
  unfold Json.Fault.message
  dsimp only
  exact ⟨_, by rw [String.append_assoc, String.append_assoc, String.append_assoc]⟩

theorem le_contentSize_left (s t : String) : contentSize s ≤ contentSize (s ++ t) :=
  Json.contentSize_append s t ▸ Nat.le_add_right ..

theorem le_contentSize_right (s t : String) : contentSize t ≤ contentSize (s ++ t) :=
  Json.contentSize_append s t ▸ Nat.le_add_left ..

theorem message_textFault (t wording : String) : ∃ place, (textFault t).message wording =
    "malformed payload: " ++ ("invalid type: " ++ ("string " ++ Text.quoted t) ++ ", expected " ++
      "struct Request" ++ place) := by
  obtain ⟨place, told⟩ :=
    message_mismatched wording (Json.quote t) (.type (.text t) "struct Request") 0
  exact ⟨place, congrArg ("malformed payload: " ++ ·) told⟩

/-- A fault repeats the text. -/
theorem contentSize_quoted_le (t wording : String) :
    contentSize (Text.quoted t) ≤ contentSize ((textFault t).message wording) := by
  obtain ⟨place, told⟩ := message_textFault t wording
  rw [told]
  calc contentSize (Text.quoted t)
      ≤ contentSize ("string " ++ Text.quoted t) := le_contentSize_right ..
    _ ≤ contentSize ("invalid type: " ++ ("string " ++ Text.quoted t)) := le_contentSize_right ..
    _ ≤ contentSize ("invalid type: " ++ ("string " ++ Text.quoted t) ++ ", expected ") :=
      le_contentSize_left ..
    _ ≤ contentSize ("invalid type: " ++ ("string " ++ Text.quoted t) ++ ", expected " ++
          "struct Request") := le_contentSize_left ..
    _ ≤ _ := le_contentSize_left ..
    _ ≤ _ := le_contentSize_right ..

theorem le_contentSize_quoted (n : Nat) : n ≤ contentSize (Text.quoted (longText n)) := by
  rw [quoted_longText, Json.contentSize_append, Json.contentSize_append, contentSize_longText]
  exact Nat.le_trans (Nat.le_add_left ..) (Nat.le_add_right ..)

theorem size_malformedReply (body : Bytes) (e : CodecError) (wording : String) :
    (malformedReply body e wording).size = 22 + textSize (echoedSequence body) +
      textSize ("invalid parameters: " ++ ("malformed request: " ++ e.message wording)) :=
  Relay.size_refusal { sequence := echoedSequence body }
    (.invalidParameters ("malformed request: " ++ e.message wording))

theorem lt_size_malformedReply {n : Nat} (h : 65512 ≤ n) (wording : String) :
    maxFrameSize <
      (malformedReply (Json.quote (longText n)) (textFault (longText n)) wording).size := by
  have known := Nat.le_trans (le_contentSize_quoted n) (contentSize_quoted_le (longText n) wording)
  rw [size_malformedReply, textSize, textSize, Json.contentSize_append, Json.contentSize_append,
    maxFrameSize]
  omega

/-- The refusal of an action that nobody knows repeats its name. -/
theorem lt_size_refusal {n : Nat} (h : 65494 < n) :
    maxFrameSize < (Relay.reply {} (.error (.unknownAction (longText n)))).size := by
  have sizes : textSize "" = 2 ∧ contentSize "unknown action: " = 16 := by decide
  rw [Relay.size_refusal]
  show _ < 22 + textSize "" + textSize ("unknown action: " ++ longText n)
  rw [sizes.1, textSize, Json.contentSize_append, contentSize_longText, sizes.2, maxFrameSize]
  omega

namespace Handler

variable {h k : Handler} {id : ConnectionId} {queue : QueueId} {capacity : Nat} {t : Taken}
  {body rest : Bytes} {e : CodecError} {r : Response} {time : UInt64} {wording : String}
  {failsAfter : Option Nat}

/-- What is due for it but too long for a frame ends a connection, and nothing is written. -/
theorem take_tooLong (due : t.response? = some r) (long : maxFrameSize < r.size) :
    h.take t failsAfter = finish { h with taken := h.taken ++ [t] } := by
  rcases t.take_eq h.connection with ⟨_, -, none, -⟩ | ⟨r', -, due', taken⟩ | ⟨-, none, -⟩
  · exact absurd (due.symm.trans none) nofun
  · cases Option.some.inj (due.symm.trans due')
    unfold take
    rw [taken, Connection.writeResponse_of_error (Response.frame_eq_error long)]
    rfl
  · exact absurd (due.symm.trans none) nofun

/-- A frame whose answer is too long ends a connection. What stands behind it is not taken. -/
theorem run?_bad_frame {s : Bytes} (front : Frame.front s = .whole body rest)
    (decoded : Request.decode body = .error e)
    (long : maxFrameSize < (malformedReply body e wording).size) :
    ∃ h, (new id queue capacity).run? [.arrive s, .find, .takeFound time wording none] = some h ∧
      h.arrived = s ∧ h.bodies = [body] ∧ h.sent = [.opened id queue, .closed id] ∧
      h.written = [] ∧ h.failed = false ∧ h.held = true := by
  let arrived : Handler := { new id queue capacity with
    connection := { id := id, queue := queue, input := s }, arrived := s }
  let seen : Handler := { arrived with
    connection := { id := id, queue := queue, input := rest }, found := [.ok body] }
  have found : arrived.connection.find? = some (seen.connection, .ok body) := by
    unfold Connection.find?
    simp only [arrived, seen, front]
  have find : arrived.step? .find = some seen := by
    unfold step?
    rw [if_pos ⟨rfl, show 0 < channelCapacity by decide⟩, found]
    rfl
  have due : (Taken.found (.ok body) time wording).response? =
      some (malformedReply body e wording) := by
    unfold Taken.response?
    simp only [decoded]
  refine ⟨{ seen with found := [] }.take (.found (.ok body) time wording) none, ?_, ?_⟩
  · unfold run?
    rw [List.foldlM_cons, show (new id queue capacity).step? (.arrive s) = some arrived from rfl]
    show ([Move.find, .takeFound time wording none].foldlM step? arrived : Option Handler) = _
    rw [List.foldlM_cons, find]
    rfl
  · rw [take_tooLong due long]
    exact ⟨rfl, rfl, rfl, rfl, rfl, rfl⟩

/-- A queued response that is too long ends a connection as well. -/
theorem run?_long_response {r : Response} (long : maxFrameSize < r.size) (room : 0 < capacity) :
    ∃ h, (new id queue capacity).run? [.push r, .takeQueued none] = some h ∧ h.accepted = [r] ∧
      h.taken = [.queued (some r)] ∧ h.sent = [.opened id queue, .closed id] ∧ h.written = [] ∧
      h.failed = false ∧ h.held = true := by
  let pushed : Handler := { new id queue capacity with
    outbox := { capacity := capacity, waiting := [r] }, accepted := [r] }
  have push : (new id queue capacity).step? (.push r) = some pushed := by
    unfold step?
    simp [new, pushed, Outbox.push, room]
  refine ⟨{ pushed with outbox := { capacity := capacity } }.take (.queued (some r)) none, ?_, ?_⟩
  · unfold run?
    rw [List.foldlM_cons, push]
    rfl
  · rw [take_tooLong rfl long]
    exact ⟨rfl, rfl, rfl, rfl, rfl, rfl⟩

/-- A frame of the largest size that holds a text alone, and a request behind it. Nothing is
written for the one, whatever the words of the JSON library are, and the relay does not hear of the
other; so it is with a queued response that is too long. -/
theorem bad_frame_ends_connection :
    (let bad := Json.quote (longText 65534)
     let next := (Request.ofAction .logout).document.compact
     let s := Frame.frames [bad, next]
     Frame.readAll s = ([bad, next], .stream true, []) ∧
       (∃ e, Request.decode bad = .error e) ∧ Request.decode next = .ok (.ofAction .logout) ∧
       ∀ wording, ∃ h, (new 1 0 64).run? [.arrive s, .find, .takeFound 0 wording none] = some h ∧
         h.arrived = s ∧ h.bodies = [bad] ∧ h.sent = [.opened 1 0, .closed 1] ∧ h.written = [] ∧
         h.failed = false ∧ h.held = true) ∧
    (let r := Relay.reply {} (.error (.unknownAction (longText 65496)))
     ∃ h, (new 1 0 64).run? [.push r, .takeQueued none] = some h ∧ h.accepted = [r] ∧
       h.taken = [.queued (some r)] ∧ h.sent = [.opened 1 0, .closed 1] ∧ h.written = [] ∧
       h.failed = false ∧ h.held = true) := by
  constructor
  · intro bad next s
    have length : bad.length = maxFrameSize :=
      (Json.length_quote _).trans (textSize_longText _)
    have fits : Frame.Fits bad := ⟨List.cons_ne_nil _ _, Nat.le_of_eq length⟩
    have nextFits : Frame.Fits next := by
      unfold Frame.Fits
      decide +kernel
    have front : Frame.front s = .whole bad (Frame.frames [next]) := Frame.front_frame fits _
    refine ⟨Frame.readAll_frames ?_, ⟨_, Request.decode_quote _⟩, Request.decode_compact _,
      fun wording => run?_bad_frame front (Request.decode_quote _)
        (lt_size_malformedReply (by decide) wording)⟩
    intro body among
    rcases List.mem_cons.1 among with rfl | among
    · exact fits
    · exact List.mem_singleton.1 among ▸ nextFits
  · intro r
    exact run?_long_response (lt_size_refusal (by decide)) (by decide)

end Handler

end Rendezvous
