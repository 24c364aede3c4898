import Rendezvous.Frame
import Rendezvous.Proofs.Bodies

/-!
# Messages arrive as they were sent

A frame is its body behind four bytes of length, so whoever reads a stream finds where each frame
ends. Frames written one after another are read in the same order, whatever follows them:

    each body has 1 to 65536 bytes →
      readUpTo (bodies.length + fuel) acc (frames bodies ++ rest) =
        readUpTo fuel (bodies.reverse ++ acc) rest                     (Frame.readUpTo_frames)

With `Request.decode_compact` and `Response.decode_compact`, any list of messages that fit into
frames is received as it was sent, and nothing is left over (`messages_arrive`).
-/

namespace Rendezvous

/-! ## Frames -/

namespace Frame

/-- A body that may stand in a frame. -/
def Fits (body : Bytes) : Prop := body ≠ [] ∧ body.length ≤ maxFrameSize

/-- Bodies as frames, one after another. -/
def frames (bodies : List Bytes) : Bytes :=
  bodies.flatMap fun body => BigEndian.word32 body.length ++ body

/-- Whatever follows a frame, its end is found. -/
theorem front_frame {body : Bytes} (h : Fits body) (rest : Bytes) :
    front (BigEndian.word32 body.length ++ body ++ rest) = .whole body rest := by
  obtain ⟨nonempty, fits⟩ := h
  have positive : 0 < body.length := List.length_pos_iff.2 nonempty
  have value : BigEndian.value (BigEndian.word32 body.length) = body.length := by
    rw [BigEndian.value_word32]
    unfold maxFrameSize at fits
    omega
  unfold BigEndian.word32 at value ⊢
  simp only [List.cons_append, List.nil_append]
  unfold front
  simp only [value, if_neg (Nat.not_lt.2 fits), if_neg (Nat.ne_of_gt positive), List.take_left,
    List.drop_left, if_true]

theorem read_frame {body : Bytes} (h : Fits body) (rest : Bytes) :
    read (BigEndian.word32 body.length ++ body ++ rest) = (.ok body, rest) := by
  unfold read
  rw [front_frame h]

/-- A stream of a single frame. -/
theorem front_of_write {body frame : Bytes} (h : Fits body) (written : write body = .ok frame) :
    front frame = .whole body [] := by
  obtain ⟨-, rfl⟩ := write_eq_ok_iff.1 written
  have found := front_frame h []
  rwa [List.append_nil] at found

theorem read_nil : read [] = (.error (.stream true), []) := rfl

/-- Frames are read one after another, and then what follows them. -/
theorem readUpTo_frames {bodies : List Bytes} (fit : ∀ body ∈ bodies, Fits body) (fuel : Nat)
    (acc : List Bytes) (rest : Bytes) :
    readUpTo (bodies.length + fuel) acc (frames bodies ++ rest) =
      readUpTo fuel (bodies.reverse ++ acc) rest := by
  induction bodies generalizing acc with
  | nil =>
    rw [List.length_nil, Nat.zero_add]
    rfl
  | cons body bodies ih =>
    have fuel_succ : (body :: bodies).length + fuel = bodies.length + fuel + 1 := by
      rw [List.length_cons]
      omega
    have stream : frames (body :: bodies) ++ rest =
        BigEndian.word32 body.length ++ body ++ (frames bodies ++ rest) := by
      simp [frames]
    rw [fuel_succ, stream, readUpTo, read_frame (fit body (List.mem_cons_self ..))]
    dsimp only
    rw [ih fun b hb => fit b (List.mem_cons_of_mem _ hb)]
    simp

theorem length_le_frames (bodies : List Bytes) : bodies.length ≤ (frames bodies).length := by
  induction bodies with
  | nil => exact Nat.le_refl 0
  | cons body bodies ih =>
    simp only [frames, List.flatMap_cons, List.length_append, BigEndian.length_word32,
      List.length_cons] at ih ⊢
    omega

/-- Nothing is read behind what is no frame. -/
theorem readAll_of_read_error {bodies : List Bytes} {s rest : Bytes} {cause : CodecError}
    (fit : ∀ body ∈ bodies, Fits body) (stop : read s = (.error cause, rest)) :
    readAll (frames bodies ++ s) = (bodies, cause, rest) := by
  have length := length_le_frames bodies
  obtain ⟨fuel, enough⟩ : ∃ fuel, (frames bodies ++ s).length + 1 = bodies.length + (fuel + 1) := by
    rw [List.length_append]
    exact ⟨(frames bodies).length + s.length - bodies.length, by omega⟩
  unfold readAll
  rw [enough, readUpTo_frames fit (fuel + 1) [] s, readUpTo, stop]
  simp

/-- Nothing is left of a stream of whole frames, and it ends where the last one does. -/
theorem readAll_frames {bodies : List Bytes} (fit : ∀ body ∈ bodies, Fits body) :
    readAll (frames bodies) = (bodies, .stream true, []) := by
  have all := readAll_of_read_error fit read_nil
  rwa [List.append_nil] at all

end Frame

/-! ## Messages -/

variable {α : Type} {encode : α → Except CodecError Bytes} {decode : Bytes → Except CodecError α}
  {document : α → Json.Document}

/-- Writes messages one after another as frames. -/
def writeMessages (encode : α → Except CodecError Bytes) (ms : List α) :
    Except CodecError Bytes := do
  let written ← ms.mapM fun m => (encode m).bind Frame.write
  return written.flatten

/-- Taking the messages off a stream, one frame for each, leaves some bytes of it. -/
inductive Receives (decode : Bytes → Except CodecError α) : Bytes → List α → Bytes → Prop
  | nil (s : Bytes) : Receives decode s [] s
  | cons {s rest left body : Bytes} {m : α} {ms : List α} (frame : Frame.read s = (.ok body, rest))
      (message : decode body = .ok m) (more : Receives decode rest ms left) :
      Receives decode s (m :: ms) left

/-- A kind of messages: each is encoded as the compact form of an object, and decoding that gives the
message. -/
structure IsCodec (encode : α → Except CodecError Bytes) (decode : Bytes → Except CodecError α)
    (document : α → Json.Document) : Prop where
  encode_eq : ∀ m, encode m = (document m).body
  nonempty : ∀ m, (document m).compact ≠ []
  decode_compact : ∀ m, decode (document m).compact = .ok m

theorem Request.isCodec : IsCodec Request.encode Request.decode Request.document where
  encode_eq _ := rfl
  nonempty _ := by
    rw [Request.document, Json.Document.compact]
    exact List.cons_ne_nil _ _
  decode_compact := Request.decode_compact

theorem Response.isCodec : IsCodec Response.encode Response.decode Response.document where
  encode_eq _ := rfl
  nonempty _ := by
    rw [Response.document, Json.Document.compact]
    exact List.cons_ne_nil _ _
  decode_compact := Response.decode_compact

/-- What becomes of messages: those that are too long for a frame are refused, and if none is, they
are all received in order, up to the end of the stream. -/
structure Arrive (encode : α → Except CodecError Bytes) (decode : Bytes → Except CodecError α)
    (document : α → Json.Document) (ms : List α) : Prop where
  refused_iff : ∀ m ∈ ms, ∀ e, encode m = .error e ↔
    maxFrameSize < (document m).compact.length ∧ e = .tooLarge (document m).compact.length
  received : (∀ m ∈ ms, ∃ body, encode m = .ok body) →
    ∃ s, writeMessages encode ms = .ok s ∧ Receives decode s ms [] ∧
      Frame.read [] = (.error (.stream true), []) ∧
      ∃ bodies, Frame.readAll s = (bodies, .stream true, []) ∧ bodies.map decode = ms.map .ok

namespace IsCodec

variable {m : α} {ms : List α}

theorem encode_eq_error_iff (h : IsCodec encode decode document) {e : CodecError} :
    encode m = .error e ↔
      maxFrameSize < (document m).compact.length ∧ e = .tooLarge (document m).compact.length := by
  rw [h.encode_eq]
  unfold Json.Document.body
  dsimp only
  split
  · next fits => simp [Nat.not_lt.2 fits]
  · next long => simp [Nat.lt_of_not_le long, eq_comm]

theorem encode_eq_ok_iff (h : IsCodec encode decode document) {body : Bytes} :
    encode m = .ok body ↔
      (document m).compact.length ≤ maxFrameSize ∧ body = (document m).compact := by
  rw [h.encode_eq]
  unfold Json.Document.body
  dsimp only
  split
  · next fits => simp [fits, eq_comm]
  · next long => simp [long]

theorem fits_of_encode (h : IsCodec encode decode document)
    (accepted : ∃ body, encode m = .ok body) : Frame.Fits (document m).compact := by
  obtain ⟨_, encoded⟩ := accepted
  exact ⟨h.nonempty m, (h.encode_eq_ok_iff.1 encoded).1⟩

/-- Messages that can be encoded are written as the frames of their compact forms. -/
theorem writeMessages_eq (h : IsCodec encode decode document)
    (accepted : ∀ m ∈ ms, ∃ body, encode m = .ok body) :
    writeMessages encode ms = .ok (Frame.frames (ms.map fun m => (document m).compact)) := by
  have written : (ms.mapM fun m => (encode m).bind Frame.write) = .ok
      (ms.map fun m => BigEndian.word32 (document m).compact.length ++ (document m).compact) := by
    induction ms with
    | nil => rfl
    | cons m ms ih =>
      obtain ⟨body, encoded⟩ := accepted m (List.mem_cons_self ..)
      obtain ⟨fits, rfl⟩ := h.encode_eq_ok_iff.1 encoded
      have first : (encode m).bind Frame.write =
          .ok (BigEndian.word32 (document m).compact.length ++ (document m).compact) := by
        rw [encoded]
        exact Frame.write_eq_ok_iff.2 ⟨fits, rfl⟩
      rw [List.mapM_cons, first, ih fun m hm => accepted m (List.mem_cons_of_mem _ hm)]
      rfl
  unfold writeMessages
  rw [written]
  show Except.ok _ = _
  rw [Frame.frames, List.flatMap_map, List.flatMap_def]

/-- Each frame is taken off the stream and decoded; what follows the frames is left. -/
theorem receives (h : IsCodec encode decode document)
    (fit : ∀ m ∈ ms, Frame.Fits (document m).compact) (rest : Bytes) :
    Receives decode (Frame.frames (ms.map fun m => (document m).compact) ++ rest) ms rest := by
  induction ms with
  | nil => exact .nil rest
  | cons m ms ih =>
    have frame := Frame.read_frame (fit m (List.mem_cons_self ..))
      (Frame.frames (ms.map fun m => (document m).compact) ++ rest)
    rw [List.append_assoc] at frame
    rw [List.map_cons, Frame.frames, List.flatMap_cons, List.append_assoc]
    rw [List.append_assoc]
    exact .cons frame (h.decode_compact m) (ih fun m hm => fit m (List.mem_cons_of_mem _ hm))

theorem arrive (h : IsCodec encode decode document) (ms : List α) :
    Arrive encode decode document ms where
  refused_iff _ _ _ := h.encode_eq_error_iff
  received := by
    intro accepted
    have fit : ∀ m ∈ ms, Frame.Fits (document m).compact :=
      fun m hm => h.fits_of_encode (accepted m hm)
    have received := h.receives fit []
    rw [List.append_nil] at received
    refine ⟨_, h.writeMessages_eq accepted, received, Frame.read_nil, _,
      Frame.readAll_frames ?_, ?_⟩
    · intro body hb
      obtain ⟨m, hm, rfl⟩ := List.mem_map.1 hb
      exact fit m hm
    · rw [List.map_map]
      exact List.map_congr_left fun m _ => h.decode_compact m

end IsCodec

/-- Requests and responses, whatever texts they hold and whatever they leave out: each is refused
exactly if its compact form is longer than a frame allows. If none is, writing them one after another
and reading the stream gives the same messages in the same order, no byte is left, and the next read
finds the end of the stream. -/
theorem messages_arrive :
    (∀ qs : List Request, Arrive Request.encode Request.decode Request.document qs) ∧
    (∀ rs : List Response, Arrive Response.encode Response.decode Response.document rs) :=
  ⟨Request.isCodec.arrive, Response.isCodec.arrive⟩

/-- Requests with escapes, text beyond ASCII and a field that is set to nothing. -/
def sampleRequests : List Request :=
  [{ sequence := "1", action := "login", fromId := "a\"b\\c\n\u0001", toId := some "" },
   { action := "é€😀", force := true, iceCandidate := some "candidate:1 1 udp" }]

/-- They are accepted, and received as they were sent. -/
theorem messages_arrive_sampleRequests :
    (∀ q ∈ sampleRequests, ∃ body, Request.encode q = .ok body) ∧
      ∃ s, writeMessages Request.encode sampleRequests = .ok s ∧
        Receives Request.decode s sampleRequests [] := by
  have accepted : ∀ q ∈ sampleRequests, ∃ body, Request.encode q = .ok body := by
    have fit : ∀ q ∈ sampleRequests, q.document.compact.length ≤ maxFrameSize := by
      decide +kernel
    exact fun q hq => ⟨_, Request.isCodec.encode_eq_ok_iff.2 ⟨fit q hq, rfl⟩⟩
  obtain ⟨s, written, received, -⟩ := (messages_arrive.1 sampleRequests).received accepted
  exact ⟨accepted, s, written, received⟩

end Rendezvous
