import Rendezvous.Proofs.Streams

/-!
# Reader and writer agree where frames end

Any bytes may stand on a stream. What is read off them up to the first failure is a list of bodies
that fit into frames, and these bytes are the ones that the bodies are written as (`exists_frames`).
What follows is no frame, for one of four reasons, each with its own failure (`Failing`):

    read s = (.ok body, rest) ↔
      Fits body ∧ s = BigEndian.word32 body.length ++ body ++ rest       (read_eq_ok_iff)
    read s = (.error cause, left) ↔ Failing s cause left                  (read_eq_error_iff)

Hence bodies are told from the bytes they are written as (`frames_inj`), and whatever frames stand
in front, reading goes on behind them as it would without them (`readAll_frames_append`).
-/

namespace Rendezvous.Frame

variable {s rest left body : Bytes} {bodies : List Bytes} {cause : CodecError} {n : Nat}

/-! ## One frame -/

theorem front_eq_whole (h : front s = .whole body rest) :
    Fits body ∧ s = BigEndian.word32 body.length ++ body ++ rest := by
  unfold front at h
  split at h
  · next a b c d tail =>
    dsimp only at h
    split at h
    · cases h
    · next fits =>
      split at h
      · cases h
      · next positive =>
        split at h
        · next whole =>
          cases h
          refine ⟨⟨fun none => positive ?_, by omega⟩, ?_⟩
          · rw [← whole, none, List.length_nil]
          · rw [whole, BigEndian.word32_value, List.append_assoc, List.take_append_drop]
            rfl
        · cases h
  · cases h

/-- A body is read exactly where its frame stands. -/
theorem read_eq_ok_iff :
    read s = (.ok body, rest) ↔ Fits body ∧ s = BigEndian.word32 body.length ++ body ++ rest := by
  constructor
  · intro found
    unfold read at found
    split at found
    · cases found
    · next whole =>
      cases found
      exact front_eq_whole whole
    · cases found
  · rintro ⟨fits, rfl⟩
    exact read_frame fits rest

/-- The length in front of a stream. -/
structure Announces (s : Bytes) (n : Nat) : Prop where
  header : 4 ≤ s.length
  length : BigEndian.value (s.take 4) = n

/-- Why no frame stands in front of a stream, and what is left of it by a read. -/
inductive Failing (s : Bytes) : CodecError → Bytes → Prop
  | empty (announced : Announces s 0) : Failing s .empty (s.drop 4)
  | tooLarge {n : Nat} (announced : Announces s n) (large : maxFrameSize < n) :
      Failing s (.tooLarge n) (s.drop 4)
  | short (missing : s.length < 4) : Failing s (.stream true) []
  | cut {n : Nat} (announced : Announces s n) (positive : 0 < n) (fits : n ≤ maxFrameSize)
      (missing : s.length < 4 + n) : Failing s (.stream true) []

theorem read_of_short (short : s.length < 4) : read s = (.error (.stream true), []) := by
  match s, short with
  | [], _ | [_], _ | [_, _], _ | [_, _, _], _ => rfl

theorem front_of_announces (h : Announces s n) :
    front s =
      if maxFrameSize < n then .invalid (.tooLarge n) (s.drop 4)
      else if n = 0 then .invalid .empty (s.drop 4)
      else if 4 + n ≤ s.length then .whole ((s.drop 4).take n) ((s.drop 4).drop n)
      else .incomplete := by
  obtain ⟨header, rfl⟩ := h
  match s, header with
  | a :: b :: c :: d :: tail, _ =>
    have whole : (tail.take (BigEndian.value [a, b, c, d])).length = BigEndian.value [a, b, c, d] ↔
        4 + BigEndian.value [a, b, c, d] ≤ (a :: b :: c :: d :: tail).length := by
      rw [List.length_take]
      simp only [List.length_cons]
      omega
    unfold front
    simp only [whole]
    rfl

/-- What a read does with the length in front of a stream. -/
theorem read_of_announces (h : Announces s n) :
    read s =
      if maxFrameSize < n then (.error (.tooLarge n), s.drop 4)
      else if n = 0 then (.error .empty, s.drop 4)
      else if 4 + n ≤ s.length then (.ok ((s.drop 4).take n), (s.drop 4).drop n)
      else (.error (.stream true), []) := by
  unfold read
  rw [front_of_announces h]
  by_cases large : maxFrameSize < n
  · simp only [if_pos large]
  · by_cases zero : n = 0
    · simp only [if_neg large, if_pos zero]
    · by_cases whole : 4 + n ≤ s.length
      · simp only [if_neg large, if_neg zero, if_pos whole]
      · simp only [if_neg large, if_neg zero, if_neg whole]

theorem read_eq_error_iff : read s = (.error cause, left) ↔ Failing s cause left := by
  constructor
  · intro failed
    by_cases short : s.length < 4
    · rw [read_of_short short] at failed
      cases failed
      exact .short short
    · have announced : Announces s (BigEndian.value (s.take 4)) := ⟨Nat.le_of_not_lt short, rfl⟩
      rw [read_of_announces announced] at failed
      split at failed
      · next large =>
        cases failed
        exact .tooLarge announced large
      · next fits =>
        split at failed
        · next zero =>
          cases failed
          rw [zero] at announced
          exact .empty announced
        · next positive =>
          split at failed
          · cases failed
          · next missing =>
            cases failed
            exact .cut announced (Nat.pos_of_ne_zero positive) (Nat.le_of_not_lt fits)
              (Nat.lt_of_not_le missing)
  · intro failing
    cases failing with
    | empty announced => rw [read_of_announces announced, if_neg (by decide), if_pos rfl]
    | tooLarge announced large => rw [read_of_announces announced, if_pos large]
    | short missing => exact read_of_short missing
    | cut announced positive fits missing =>
      rw [read_of_announces announced, if_neg (Nat.not_lt.2 fits), if_neg (Nat.ne_of_gt positive),
        if_neg (Nat.not_le.2 missing)]

/-! ## Streams -/

theorem frames_cons (body : Bytes) (bodies : List Bytes) :
    frames (body :: bodies) = BigEndian.word32 body.length ++ body ++ frames bodies :=
  List.flatMap_cons

theorem frames_append (bodies more : List Bytes) :
    frames (bodies ++ more) = frames bodies ++ frames more :=
  List.flatMap_append

/-- Each stream begins with frames, and behind them a read fails. -/
theorem exists_frames (s : Bytes) :
    ∃ bodies rest cause left, (∀ body ∈ bodies, Fits body) ∧ s = frames bodies ++ rest ∧
      read rest = (.error cause, left) := by
  match found : read s with
  | (.error cause, left) => exact ⟨[], s, cause, left, List.forall_mem_nil _, rfl, found⟩
  | (.ok body, behind) =>
    obtain ⟨fits, stream⟩ := read_eq_ok_iff.1 found
    -- Each frame takes its length at least, so there is a last one.
    have shorter : behind.length < s.length := by
      rw [stream]
      simp only [List.length_append, BigEndian.length_word32]
      omega
    obtain ⟨bodies, rest, cause, left, fit, same, stop⟩ := exists_frames behind
    refine ⟨body :: bodies, rest, cause, left, List.forall_mem_cons.2 ⟨fits, fit⟩, ?_, stop⟩
    rw [stream, same, frames_cons, List.append_assoc _ _ rest]
termination_by s.length

/-- Behind whole frames, reading goes on as if they had not been there. -/
theorem readAll_frames_append (fit : ∀ body ∈ bodies, Fits body) (rest : Bytes) :
    readAll (frames bodies ++ rest) = (bodies ++ (readAll rest).1, (readAll rest).2) := by
  -- The frames that the rest begins with make one list with those in front of them.
  obtain ⟨more, behind, cause, left, fits, rfl, stop⟩ := exists_frames rest
  have all : ∀ body ∈ bodies ++ more, Fits body := List.forall_mem_append.2 ⟨fit, fits⟩
  rw [← List.append_assoc, ← frames_append, readAll_of_read_error all stop,
    readAll_of_read_error fits stop]

/-- Whatever stands behind them, whole frames are read first. -/
theorem isPrefix_readAll (fit : ∀ body ∈ bodies, Fits body) (rest : Bytes) :
    bodies <+: (readAll (frames bodies ++ rest)).1 := by
  rw [readAll_frames_append fit]
  exact List.prefix_append ..

/-- Bodies are taken off a stream one by one where their frames stand. -/
theorem receives_iff :
    Receives .ok s bodies rest ↔ (∀ body ∈ bodies, Fits body) ∧ s = frames bodies ++ rest := by
  constructor
  · intro received
    induction received with
    | nil s => exact ⟨List.forall_mem_nil _, rfl⟩
    | cons frame message more ih =>
      cases message
      obtain ⟨fits, stream⟩ := read_eq_ok_iff.1 frame
      obtain ⟨fit, behind⟩ := ih
      refine ⟨List.forall_mem_cons.2 ⟨fits, fit⟩, ?_⟩
      rw [stream, behind, frames_cons, List.append_assoc _ (frames _)]
  · rintro ⟨fit, rfl⟩
    induction bodies with
    | nil => exact .nil rest
    | cons body bodies ih =>
      obtain ⟨fits, others⟩ := List.forall_mem_cons.1 fit
      rw [frames_cons, List.append_assoc _ _ rest]
      exact .cons (read_frame fits _) rfl (ih others)

/-! ## Writing -/

theorem writeMessages_cons (body : Bytes) (bodies : List Bytes) :
    writeMessages .ok (body :: bodies) =
      (write body).bind fun frame => (writeMessages .ok bodies).map (frame ++ ·) := by
  have first : (Except.ok body : Except CodecError Bytes).bind write = write body := rfl
  unfold writeMessages
  rw [List.mapM_cons, first]
  cases write body with
  | error e => rfl
  | ok frame => cases bodies.mapM fun body => (Except.ok body).bind write <;> rfl

/-- Bodies are refused if one of them is too long, and else written as frames. -/
theorem writeMessages_eq_ok_iff :
    writeMessages .ok bodies = .ok s ↔
      (∀ body ∈ bodies, body.length ≤ maxFrameSize) ∧ s = frames bodies := by
  induction bodies generalizing s with
  | nil =>
    constructor
    · intro written
      cases written
      exact ⟨List.forall_mem_nil _, rfl⟩
    · rintro ⟨-, rfl⟩
      rfl
  | cons body bodies ih =>
    rw [writeMessages_cons]
    constructor
    · intro written
      cases first : write body with
      | error e =>
        rw [first] at written
        cases written
      | ok frame =>
        cases others : writeMessages .ok bodies with
        | error e =>
          rw [first, others] at written
          cases written
        | ok behind =>
          rw [first, others] at written
          cases written
          obtain ⟨fits, rfl⟩ := write_eq_ok_iff.1 first
          obtain ⟨fit, rfl⟩ := ih.1 others
          exact ⟨List.forall_mem_cons.2 ⟨fits, fit⟩, (frames_cons body bodies).symm⟩
    · rintro ⟨fit, rfl⟩
      obtain ⟨fits, others⟩ := List.forall_mem_cons.1 fit
      rw [write_eq_ok_iff.2 ⟨fits, rfl⟩, ih.2 ⟨others, rfl⟩, frames_cons]
      rfl

/-- Frames of bodies, some of which may be empty, are frames of no other bodies. -/
theorem frames_inj {others : List Bytes} (fit : ∀ body ∈ bodies, body.length ≤ maxFrameSize)
    (fit' : ∀ body ∈ others, body.length ≤ maxFrameSize) (same : frames bodies = frames others) :
    bodies = others := by
  induction bodies generalizing others with
  | nil =>
    have none := length_le_frames others
    rw [← same] at none
    exact (List.eq_nil_of_length_eq_zero (Nat.le_zero.1 none)).symm
  | cons body bodies ih =>
    cases others with
    | nil =>
      have none := length_le_frames (body :: bodies)
      rw [same] at none
      exact absurd none (Nat.not_succ_le_zero _)
    | cons other others =>
      obtain ⟨fits, fitting⟩ := List.forall_mem_cons.1 fit
      obtain ⟨fits', fitting'⟩ := List.forall_mem_cons.1 fit'
      rw [frames_cons, frames_cons, List.append_assoc, List.append_assoc] at same
      obtain ⟨header, behind⟩ := List.append_inj same rfl
      -- No length wraps, so equal headers tell that the first bodies end at the same place.
      have length : body.length = other.length := by
        have value := congrArg BigEndian.value header
        rw [BigEndian.value_word32, BigEndian.value_word32] at value
        unfold maxFrameSize at fits fits'
        omega
      obtain ⟨rfl, more⟩ := List.append_inj behind length
      rw [ih fitting fitting' more]

/-! ## Whole streams -/

/-- What reading a stream up to the first failure gives: the bodies, what follows them, the failure
and what is left. -/
structure Aligned (s : Bytes) (bodies : List Bytes) (rest : Bytes) (cause : CodecError)
    (left : Bytes) : Prop where
  readAll_eq : readAll s = (bodies, cause, left)
  received : Receives .ok s bodies rest
  sizes : ∀ body ∈ bodies, 1 ≤ body.length ∧ body.length ≤ 65536
  written : ∃ sent, writeMessages .ok bodies = .ok sent ∧ s = sent ++ rest
  failed : read rest = (.error cause, left)
  empty_iff : cause = .empty ↔ Announces rest 0
  tooLarge_iff : ∀ n, cause = .tooLarge n ↔ Announces rest n ∧ 65536 < n
  ended_iff : cause = .stream true ↔
    rest.length < 4 ∨ ∃ n, Announces rest n ∧ 1 ≤ n ∧ n ≤ 65536 ∧ rest.length < 4 + n
  untouched : cause ≠ .stream true → left = rest.drop 4
  goesOn : ∀ more,
    readAll (s ++ more) = (bodies ++ (readAll (rest ++ more)).1, (readAll (rest ++ more)).2)
  begins : ∀ sent more, (∀ body ∈ sent, Fits body) → frames sent = s ++ more → bodies <+: sent

section
variable (failed : read s = (.error cause, left))
include failed

theorem eq_of_failing {other : CodecError} {behind : Bytes} (failing : Failing s other behind) :
    cause = other ∧ left = behind := by
  have same := failed.symm.trans (read_eq_error_iff.2 failing)
  cases same
  exact ⟨rfl, rfl⟩

theorem empty_iff : cause = .empty ↔ Announces s 0 := by
  constructor
  · rintro rfl
    cases read_eq_error_iff.1 failed with
    | empty announced => exact announced
  · exact fun announced => (eq_of_failing failed (.empty announced)).1

theorem tooLarge_iff : cause = .tooLarge n ↔ Announces s n ∧ maxFrameSize < n := by
  constructor
  · rintro rfl
    cases read_eq_error_iff.1 failed with
    | tooLarge announced large => exact ⟨announced, large⟩
  · exact fun ⟨announced, large⟩ => (eq_of_failing failed (.tooLarge announced large)).1

theorem ended_iff : cause = .stream true ↔
    s.length < 4 ∨ ∃ n, Announces s n ∧ 1 ≤ n ∧ n ≤ maxFrameSize ∧ s.length < 4 + n := by
  constructor
  · rintro rfl
    cases read_eq_error_iff.1 failed with
    | short missing => exact .inl missing
    | cut announced positive fits missing =>
      exact .inr ⟨_, announced, positive, fits, missing⟩
  · rintro (missing | ⟨n, announced, positive, fits, missing⟩)
    · exact (eq_of_failing failed (.short missing)).1
    · exact (eq_of_failing failed (.cut announced positive fits missing)).1

theorem left_eq_drop (notEnded : cause ≠ .stream true) : left = s.drop 4 := by
  cases read_eq_error_iff.1 failed with
  | empty | tooLarge => rfl
  | short | cut => exact absurd rfl notEnded

end

/-- Whatever bytes stand on a stream, hostile ones included: reading takes bodies of 1 to 65536
bytes off it that are written as the bytes taken, and then fails, for the reason that the next bytes
give; a length that announces no body is all that it takes then. Whatever more comes on the stream,
the same bodies are read first and reading goes on behind them; so from the beginning of what was
written the first bodies are read. And no bytes are written for two lists of bodies. -/
theorem streams_stay_aligned (s : Bytes) :
    (∃ bodies rest cause left, Aligned s bodies rest cause left) ∧
    ∀ bodies others, writeMessages .ok bodies = .ok s → writeMessages .ok others = .ok s →
      bodies = others := by
  constructor
  · obtain ⟨bodies, rest, cause, left, fit, rfl, failed⟩ := exists_frames s
    refine ⟨bodies, rest, cause, left, ?_⟩
    exact {
      readAll_eq := readAll_of_read_error fit failed
      received := receives_iff.2 ⟨fit, rfl⟩
      sizes := fun body listed =>
        ⟨List.length_pos_iff.2 (fit body listed).1, (fit body listed).2⟩
      written := ⟨frames bodies,
        writeMessages_eq_ok_iff.2 ⟨fun body listed => (fit body listed).2, rfl⟩, rfl⟩
      failed := failed
      empty_iff := empty_iff failed
      tooLarge_iff := fun _ => tooLarge_iff failed
      ended_iff := ended_iff failed
      untouched := left_eq_drop failed
      goesOn := by
        intro more
        rw [List.append_assoc, readAll_frames_append fit]
      begins := by
        intro sent more fits same
        have first := isPrefix_readAll fit (rest ++ more)
        rwa [← List.append_assoc, ← same, readAll_frames fits] at first }
  · intro bodies others written written'
    obtain ⟨fit, rfl⟩ := writeMessages_eq_ok_iff.1 written
    obtain ⟨fit', same⟩ := writeMessages_eq_ok_iff.1 written'
    exact frames_inj fit fit' same

/-- An empty body is written, although no reader takes it, and it stands for itself alone too. -/
theorem streams_stay_aligned_empty_body :
    writeMessages .ok [[65], []] = .ok [0, 0, 0, 1, 65, 0, 0, 0, 0] ∧
      ∀ others, writeMessages .ok others = .ok [0, 0, 0, 1, 65, 0, 0, 0, 0] →
        others = [[65], []] := by
  have written : writeMessages .ok [[65], []] = .ok [0, 0, 0, 1, 65, 0, 0, 0, 0] :=
    writeMessages_eq_ok_iff.2 ⟨by decide, by decide⟩
  exact ⟨written, fun others same =>
    (streams_stay_aligned [0, 0, 0, 1, 65, 0, 0, 0, 0]).2 others [[65], []] same written⟩

end Rendezvous.Frame
