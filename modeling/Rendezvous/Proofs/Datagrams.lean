import Rendezvous.Proofs.Attributes
import Rendezvous.Proofs.Packets

/-!
# Which datagrams are binding packets

Any bytes may arrive. Those in which a packet stands are told by their header and by the attributes
of their body (`Carries`), and of the others the first error that applies is reported (`Faulty`):

    parse s = .ok p ↔ Carries s p              (parse_eq_ok_iff)
    parse s = .error e ↔ Faulty s e            (parse_eq_error_iff)

The bytes behind the body do not matter (`parse_congr`). Reading looks at no place that is not
there, and goes at most once over the attributes: with every access checked and a bound on the
rounds, it gives the same (`parse?_eq`).
-/

namespace Rendezvous.Stun

/-! ## Parts of a datagram -/

/-- The type of a message. -/
def typeOf (s : Bytes) : Nat := BigEndian.value (slice s 0 2)

/-- How long the body of a message is, as its header says. -/
def lengthOf (s : Bytes) : Nat := BigEndian.value (slice s 2 4)

/-- So many bytes behind the header. -/
def bodyOf (s : Bytes) : Bytes := slice s headerLength (headerLength + lengthOf s)

/-- What tells STUN from other traffic: two bits that are clear, and the cookie. -/
structure Marked (s : Bytes) : Prop where
  top : s.headD 0 &&& 0xc0 = 0
  cookie : slice s 4 8 = [0x21, 0x12, 0xa4, 0x42]

/-- The binding packet that stands in a datagram. -/
structure Carries (s : Bytes) (p : BindingPacket) : Prop where
  header : headerLength ≤ s.length
  marked : Marked s
  type : typeOf s = p.kind.type
  whole : headerLength + lengthOf s ≤ s.length
  transactionId : p.transactionId.bytes = slice s 8 20
  username : ∃ as names, Spells as (bodyOf s) ∧ Names as names ∧ p.username = names.getLast?

/-- Why no binding packet stands in a datagram. Of several reasons this is the first. -/
inductive Faulty (s : Bytes) : StunError → Prop
  | tooShort (short : s.length < headerLength) : Faulty s (.tooShort s.length)
  | badCookie (header : headerLength ≤ s.length) (unmarked : ¬ Marked s) : Faulty s .badCookie
  | notBinding (header : headerLength ≤ s.length) (marked : Marked s)
      (other : ∀ kind : BindingKind, typeOf s ≠ kind.type) : Faulty s (.notBinding (typeOf s))
  | malformed (header : headerLength ≤ s.length) (marked : Marked s) (kind : BindingKind)
      (type : typeOf s = kind.type)
      (unreadable : headerLength + lengthOf s ≤ s.length →
        ∀ as names, Spells as (bodyOf s) → ¬ Names as names) : Faulty s .malformed

section
variable {s t : Bytes} {start stop : Nat} {kind : BindingKind} {p : BindingPacket} {e : StunError}

theorem length_slice (inside : stop ≤ s.length) : (slice s start stop).length = stop - start := by
  unfold slice
  rw [List.length_take, List.length_drop]
  omega

/-! ## The header -/

theorem top_clear_iff (b : UInt8) : b < 0x40 ↔ b &&& 0xc0 = 0 := by
  obtain ⟨⟨n⟩⟩ := b
  revert n
  decide +kernel

theorem value_eq_magicCookie_iff {bs : Bytes} (four : bs.length = 4) :
    BigEndian.value bs = magicCookie ↔ bs = [0x21, 0x12, 0xa4, 0x42] := by
  match bs, four with
  | [a, b, c, d], _ =>
    constructor
    · intro value
      rw [← BigEndian.word32_value a b c d, value]
      decide
    · intro bytes
      rw [bytes]
      decide

theorem isStun_iff : isStun s = true ↔ headerLength ≤ s.length ∧ Marked s := by
  unfold isStun
  simp only [Bool.and_eq_true, decide_eq_true_eq, beq_iff_eq, and_assoc]
  refine and_congr_right fun header => ?_
  have cookie : (slice s 4 8).length = 4 :=
    length_slice (Nat.le_trans (by decide : 8 ≤ headerLength) header)
  rw [top_clear_iff, value_eq_magicCookie_iff cookie]
  exact ⟨fun ⟨top, cookie⟩ => ⟨top, cookie⟩, fun h => ⟨h.top, h.cookie⟩⟩

theorem parse_of_short (short : s.length < headerLength) :
    parse s = .error (.tooShort s.length) := by
  unfold parse
  rw [dif_neg (Nat.not_le.2 short)]

theorem parse_of_unmarked (header : headerLength ≤ s.length) (unmarked : ¬ Marked s) :
    parse s = .error .badCookie := by
  unfold parse
  rw [dif_pos header, if_neg fun h => unmarked (isStun_iff.1 h).2]

theorem parse_of_other (header : headerLength ≤ s.length) (marked : Marked s)
    (other : ∀ kind : BindingKind, typeOf s ≠ kind.type) :
    parse s = .error (.notBinding (typeOf s)) := by
  unfold parse
  rw [dif_pos header, if_pos (isStun_iff.2 ⟨header, marked⟩)]
  exact (if_neg (other .request)).trans (if_neg (other .response))

theorem parse_of_type (header : headerLength ≤ s.length) (marked : Marked s)
    (type : typeOf s = kind.type) : parse s = parse.finish kind s header := by
  unfold parse
  rw [dif_pos header, if_pos (isStun_iff.2 ⟨header, marked⟩)]
  unfold typeOf at type
  dsimp only
  rw [type]
  cases kind <;> rfl

/-! ## The body -/

theorem length_bodyOf_iff (header : headerLength ≤ s.length) :
    (bodyOf s).length = lengthOf s ↔ headerLength + lengthOf s ≤ s.length := by
  unfold bodyOf slice
  rw [List.length_take, List.length_drop]
  omega

theorem finish_eq (header : headerLength ≤ s.length) :
    parse.finish kind s header =
      if (bodyOf s).length = lengthOf s then
        (username none (bodyOf s)).map fun name => ⟨kind, transactionId s header, name⟩
      else .error .malformed :=
  rfl

theorem transactionId_eq_iff {id : TransactionId} (header : headerLength ≤ s.length) :
    id = transactionId s header ↔ id.bytes = slice s 8 20 := by
  constructor
  · rintro rfl
    rfl
  · intro bytes
    cases id
    cases bytes
    rfl

theorem finish_eq_ok_iff (header : headerLength ≤ s.length) :
    parse.finish kind s header = .ok p ↔
      kind = p.kind ∧ headerLength + lengthOf s ≤ s.length ∧
        p.transactionId.bytes = slice s 8 20 ∧ username none (bodyOf s) = .ok p.username := by
  rw [finish_eq, ← transactionId_eq_iff header, ← length_bodyOf_iff header]
  obtain ⟨kind', id, name⟩ := p
  split
  · next whole =>
    cases username none (bodyOf s) with
    | error e => simp [Except.map]
    | ok found => simp [Except.map, whole, eq_comm]
  · next cut => simp [cut]

theorem finish_eq_error_iff (header : headerLength ≤ s.length) :
    parse.finish kind s header = .error e ↔
      e = .malformed ∧ (headerLength + lengthOf s ≤ s.length →
        ∀ name, username none (bodyOf s) ≠ .ok name) := by
  rw [finish_eq, ← length_bodyOf_iff header]
  split
  · next whole =>
    cases read : username none (bodyOf s) with
    | error cause =>
      obtain rfl := username_eq_error read
      simp [Except.map, eq_comm]
    | ok name => simp [Except.map, whole]
  · next cut => simp [cut, eq_comm]

theorem username_ne_ok_iff {body : Bytes} :
    (∀ name, username none body ≠ .ok name) ↔ ∀ as names, Spells as body → ¬ Names as names := by
  constructor
  · intro unread as names spells texts
    have read : username none body = .ok names.getLast? :=
      username_eq_ok_iff.2 ⟨as, names, spells, texts, Option.or_none.symm⟩
    exact unread _ read
  · intro unreadable name read
    obtain ⟨as, names, spells, texts, -⟩ := username_eq_ok_iff.1 read
    exact unreadable as names spells texts

/-! ## Packets and errors -/

theorem parse_of_carries (h : Carries s p) : parse s = .ok p := by
  obtain ⟨header, marked, type, whole, transactionId, name⟩ := h
  rw [parse_of_type header marked type, finish_eq_ok_iff]
  refine ⟨rfl, whole, transactionId, username_eq_ok_iff.2 ?_⟩
  simpa only [Option.or_none] using name

theorem parse_of_faulty (h : Faulty s e) : parse s = .error e := by
  cases h with
  | tooShort short => exact parse_of_short short
  | badCookie header unmarked => exact parse_of_unmarked header unmarked
  | notBinding header marked other => exact parse_of_other header marked other
  | malformed header marked kind type unreadable =>
    rw [parse_of_type header marked type, finish_eq_error_iff]
    exact ⟨rfl, fun whole => username_ne_ok_iff.2 (unreadable whole)⟩

/-- A packet stands in each datagram, or there is a reason why none does. -/
theorem carries_or_faulty (s : Bytes) : (∃ p, Carries s p) ∨ ∃ e, Faulty s e := by
  -- The cases are those of the header in the order of the errors, and last what the body holds.
  by_cases header : headerLength ≤ s.length
  · by_cases marked : Marked s
    · by_cases known : ∃ kind : BindingKind, typeOf s = kind.type
      · obtain ⟨kind, type⟩ := known
        cases read : parse.finish kind s header with
        | ok p =>
          obtain ⟨rfl, whole, transactionId, name⟩ := (finish_eq_ok_iff header).1 read
          refine .inl ⟨p, header, marked, type, whole, transactionId, ?_⟩
          simpa only [Option.or_none] using username_eq_ok_iff.1 name
        | error e =>
          have unread := ((finish_eq_error_iff header).1 read).2
          exact .inr ⟨_, .malformed header marked kind type fun whole =>
            username_ne_ok_iff.1 (unread whole)⟩
      · exact .inr ⟨_, .notBinding header marked (not_exists.1 known)⟩
    · exact .inr ⟨_, .badCookie header marked⟩
  · exact .inr ⟨_, .tooShort (Nat.lt_of_not_le header)⟩

theorem parse_eq_ok_iff : parse s = .ok p ↔ Carries s p := by
  refine ⟨fun read => ?_, parse_of_carries⟩
  obtain ⟨q, carries⟩ | ⟨e, faulty⟩ := carries_or_faulty s
  · obtain rfl : q = p := Except.ok.inj ((parse_of_carries carries).symm.trans read)
    exact carries
  · cases read.symm.trans (parse_of_faulty faulty)

theorem parse_eq_error_iff : parse s = .error e ↔ Faulty s e := by
  refine ⟨fun failed => ?_, parse_of_faulty⟩
  obtain ⟨p, carries⟩ | ⟨cause, faulty⟩ := carries_or_faulty s
  · cases failed.symm.trans (parse_of_carries carries)
  · obtain rfl : cause = e := Except.error.inj ((parse_of_faulty faulty).symm.trans failed)
    exact faulty

/-! ## Bytes behind the body -/

theorem headD_slice (s : Bytes) : (slice s 0 1).headD 0 = s.headD 0 := by
  cases s <;> rfl

/-- Two datagrams with the same header and the same body are read alike. -/
theorem parse_congr (header : headerLength ≤ s.length) (header' : headerLength ≤ t.length)
    (same : ∀ start stop, stop ≤ headerLength + lengthOf s →
      slice s start stop = slice t start stop) :
    parse s = parse t := by
  have inHeader : ∀ start stop, stop ≤ headerLength → slice s start stop = slice t start stop :=
    fun start stop inside => same start stop (Nat.le_trans inside (Nat.le_add_right ..))
  have first : s.headD 0 = t.headD 0 := by
    rw [← headD_slice, inHeader 0 1 (by decide), headD_slice]
  have stun : isStun s = isStun t := by
    unfold isStun
    rw [first, inHeader 4 8 (by decide), decide_eq_true header, decide_eq_true header']
  have length : lengthOf s = lengthOf t := congrArg BigEndian.value (inHeader 2 4 (by decide))
  have body : bodyOf s = bodyOf t := by
    unfold bodyOf
    rw [same _ _ (Nat.le_refl _), length]
  have id : transactionId s header = transactionId t header' :=
    (transactionId_eq_iff header').2 (inHeader 8 20 (by decide))
  have finish : ∀ kind, parse.finish kind s header = parse.finish kind t header' := by
    intro kind
    rw [finish_eq, finish_eq, body, length, id]
  unfold parse
  rw [dif_pos header, dif_pos header', stun, inHeader 0 2 (by decide)]
  simp only [finish]

theorem slice_take_append {n : Nat} (inside : stop ≤ n) (there : n ≤ s.length) (rest : Bytes) :
    slice (s.take n ++ rest) start stop = slice s start stop := by
  unfold slice
  by_cases ordered : start ≤ stop
  · have front : start ≤ (s.take n).length := by
      rw [List.length_take_of_le there]
      omega
    have enough : stop - start ≤ ((s.take n).drop start).length := by
      rw [List.length_drop, List.length_take_of_le there]
      omega
    rw [List.drop_append_of_le_length front, List.take_append_of_le_length enough, List.drop_take,
      List.take_take, Nat.min_eq_left (by omega)]
  · rw [Nat.sub_eq_zero_of_le (Nat.le_of_not_le ordered), List.take_zero, List.take_zero]

/-- What stands behind the body of a datagram may be anything. -/
theorem parse_take_append (whole : headerLength + lengthOf s ≤ s.length) (rest : Bytes) :
    parse (s.take (headerLength + lengthOf s) ++ rest) = parse s := by
  refine (parse_congr ?_ ?_ ?_).symm
  · exact Nat.le_trans (Nat.le_add_right ..) whole
  · rw [List.length_append, List.length_take_of_le whole, Nat.add_assoc]
    exact Nat.le_add_right ..
  · exact fun start stop inside => (slice_take_append inside whole rest).symm

end

/-! ## Reading with every access checked -/

/-- The bytes from `start` up to `stop`, which must all be there. -/
def slice? (s : Bytes) (start stop : Nat) : Option Bytes :=
  if start ≤ stop ∧ stop ≤ s.length then some (slice s start stop) else none

/-- The user name of a body, read in a number of rounds. There is none if a place that is looked at
is not there, or if the rounds do not suffice. -/
def username? : Nat → Option String → Bytes → Option (Except StunError (Option String))
  | 0, _, _ => none
  | rounds + 1, found, body =>
    if 4 ≤ body.length then do
      let type := BigEndian.value (← slice? body 0 2)
      let length := BigEndian.value (← slice? body 2 4)
      match slice? body 4 (4 + length) with
      | none => return .error .malformed
      | some value =>
        let rest := (slice? body (4 + padded length) body.length).getD []
        if type = usernameType then
          match Utf8.decode? value with
          | none => return .error .malformed
          | some name => username? rounds (some name) rest
        else username? rounds found rest
    else some (.ok found)

/-- Whether a datagram with a whole header looks like STUN. -/
def isStun? (s : Bytes) : Option Bool := do
  let first ← s[0]?
  if first &&& 0xc0 = 0 then
    return BigEndian.value (← slice? s 4 8) = magicCookie
  else return false

/-- The body of a message of known kind. -/
def finish? (rounds : Nat) (kind : BindingKind) (s : Bytes) :
    Option (Except StunError BindingPacket) := do
  let length := BigEndian.value (← slice? s 2 4)
  match slice? s headerLength (headerLength + length) with
  | none => return .error .malformed
  | some body =>
    let id ← slice? s 8 headerLength
    -- Twelve bytes are copied, neither more nor less.
    if twelve : id.length = 12 then
      let read ← username? rounds none body
      return read.map fun name => ⟨kind, ⟨id, twelve⟩, name⟩
    else none

/-- The binding packet in a datagram, with a bound on the rounds over its attributes. -/
def parse? (rounds : Nat) (s : Bytes) : Option (Except StunError BindingPacket) :=
  if s.length < headerLength then return .error (.tooShort s.length)
  else do
    if ← isStun? s then
      let type := BigEndian.value (← slice? s 0 2)
      if type = requestType then finish? rounds .request s
      else if type = responseType then finish? rounds .response s
      else return .error (.notBinding type)
    else return .error .badCookie

section
variable {s body : Bytes} {start stop rounds : Nat} {kind : BindingKind} {found : Option String}

theorem slice?_eq (ordered : start ≤ stop) (inside : stop ≤ s.length) :
    slice? s start stop = some (slice s start stop) :=
  if_pos ⟨ordered, inside⟩

theorem slice?_eq_none (outside : s.length < stop) : slice? s start stop = none :=
  if_neg fun h => Nat.not_le.2 outside h.2

section
variable {t₁ t₂ l₁ l₂ : UInt8} {rest : Bytes}

theorem slice?_value (n : Nat) :
    slice? (t₁ :: t₂ :: l₁ :: l₂ :: rest) 4 (4 + n) =
      if (rest.take n).length = n then some (rest.take n) else none := by
  have there : (rest.take n).length = n ↔ n ≤ rest.length := by
    rw [List.length_take]
    omega
  have inside : 4 + n ≤ (t₁ :: t₂ :: l₁ :: l₂ :: rest).length ↔ n ≤ rest.length := by
    simp only [List.length_cons]
    omega
  have field : slice (t₁ :: t₂ :: l₁ :: l₂ :: rest) 4 (4 + n) = rest.take n := by
    unfold slice
    rw [Nat.add_sub_cancel_left]
    rfl
  simp only [slice?, inside, there, field, Nat.le_add_right, true_and]

theorem slice?_rest (n : Nat) :
    (slice? (t₁ :: t₂ :: l₁ :: l₂ :: rest) (4 + n) (t₁ :: t₂ :: l₁ :: l₂ :: rest).length).getD [] =
      rest.drop n := by
  have length : (t₁ :: t₂ :: l₁ :: l₂ :: rest).length = 4 + rest.length := by
    simp only [List.length_cons]
    omega
  have behind : (t₁ :: t₂ :: l₁ :: l₂ :: rest).drop (4 + n) = rest.drop n := by
    rw [Nat.add_comm]
    rfl
  rw [length]
  unfold slice?
  split
  · unfold slice
    rw [behind, Nat.add_sub_add_left, Option.getD_some]
    exact List.take_of_length_le (Nat.le_of_eq List.length_drop)
  -- The padding is cut off, and nothing is left for another round.
  · next outside => exact (List.drop_eq_nil_of_le (by omega)).symm

/-- A round over an attribute. -/
theorem username?_cons :
    username? (rounds + 1) found (t₁ :: t₂ :: l₁ :: l₂ :: rest) =
      if (rest.take (BigEndian.value [l₁, l₂])).length = BigEndian.value [l₁, l₂] then
        if BigEndian.value [t₁, t₂] = usernameType then
          match Utf8.decode? (rest.take (BigEndian.value [l₁, l₂])) with
          | none => some (.error .malformed)
          | some name =>
            username? rounds (some name) (rest.drop (padded (BigEndian.value [l₁, l₂])))
        else username? rounds found (rest.drop (padded (BigEndian.value [l₁, l₂])))
      else some (.error .malformed) := by
  have long : 4 ≤ (t₁ :: t₂ :: l₁ :: l₂ :: rest).length := by simp
  have type : slice? (t₁ :: t₂ :: l₁ :: l₂ :: rest) 0 2 = some [t₁, t₂] :=
    slice?_eq (by decide) (Nat.le_trans (by decide) long)
  have length : slice? (t₁ :: t₂ :: l₁ :: l₂ :: rest) 2 4 = some [l₁, l₂] :=
    slice?_eq (by decide) long
  rw [username?, if_pos long]
  simp only [type, length, slice?_value, slice?_rest, Option.bind_eq_bind, Option.bind_some,
    Option.pure_def]
  by_cases whole : (rest.take (BigEndian.value [l₁, l₂])).length = BigEndian.value [l₁, l₂]
  · simp only [if_pos whole]
  · simp only [if_neg whole]

theorem rounds_left (enough : (t₁ :: t₂ :: l₁ :: l₂ :: rest).length / 4 < rounds + 1) (n : Nat) :
    (rest.drop n).length / 4 < rounds := by
  rw [List.length_drop]
  simp only [List.length_cons] at enough
  omega

end

/-- Each round takes at least four bytes off the body. -/
theorem username?_eq (enough : body.length / 4 < rounds) :
    username? rounds found body = some (username found body) := by
  induction rounds generalizing found body with
  | zero => exact absurd enough (Nat.not_lt_zero _)
  | succ rounds ih =>
    fun_cases username found body with
    | case1 t₁ t₂ l₁ l₂ rest length value short => rw [username?_cons, if_neg short]
    | case2 t₁ t₂ l₁ l₂ rest length value whole type text =>
      rw [username?_cons, if_pos (Decidable.not_not.1 whole), if_pos type, text]
    | case3 t₁ t₂ l₁ l₂ rest length value whole type name text =>
      rw [username?_cons, if_pos (Decidable.not_not.1 whole), if_pos type, text]
      exact ih (rounds_left enough _)
    | case4 t₁ t₂ l₁ l₂ rest length value whole type =>
      rw [username?_cons, if_pos (Decidable.not_not.1 whole), if_neg type]
      exact ih (rounds_left enough _)
    | case5 _ short => rw [username?, if_neg (Nat.not_le.2 (length_lt_four short))]

theorem isStun?_eq (header : headerLength ≤ s.length) : isStun? s = some (isStun s) := by
  have cookie : slice? s 4 8 = some (slice s 4 8) :=
    slice?_eq (by decide) (Nat.le_trans (by decide) header)
  match s, header with
  | first :: rest, header =>
    have top := top_clear_iff first
    simp only [isStun?, isStun, List.getElem?_cons_zero, cookie, Option.bind_eq_bind,
      Option.bind_some, Option.pure_def, List.headD_cons, decide_eq_true header, Bool.true_and, top]
    by_cases clear : first &&& 0xc0 = 0
    · rw [if_pos clear, decide_eq_true clear, Bool.true_and]
      rfl
    · rw [if_neg clear, decide_eq_false clear, Bool.false_and]

theorem finish?_eq (header : headerLength ≤ s.length) (enough : s.length / 4 ≤ rounds) :
    finish? rounds kind s = some (parse.finish kind s header) := by
  have length : slice? s 2 4 = some (slice s 2 4) :=
    slice?_eq (by decide) (Nat.le_trans (by decide) header)
  have id : slice? s 8 headerLength = some (slice s 8 20) := slice?_eq (by decide) header
  have twelve : (slice s 8 20).length = 12 := length_slice header
  rw [finish_eq]
  simp only [finish?, length, id, twelve, Option.bind_eq_bind, Option.bind_some, Option.pure_def]
  by_cases whole : headerLength + lengthOf s ≤ s.length
  · have body : slice? s headerLength (headerLength + BigEndian.value (slice s 2 4)) =
        some (bodyOf s) := slice?_eq (Nat.le_add_right ..) whole
    -- The header alone is worth five rounds.
    have rounds : (bodyOf s).length / 4 < rounds := by
      rw [(length_bodyOf_iff header).2 whole]
      unfold headerLength at *
      omega
    rw [body, if_pos ((length_bodyOf_iff header).2 whole)]
    simp [username?_eq rounds, transactionId]
  · have none : slice? s headerLength (headerLength + BigEndian.value (slice s 2 4)) = none :=
      slice?_eq_none (Nat.lt_of_not_le whole)
    rw [none, if_neg fun h => whole ((length_bodyOf_iff header).1 h)]

/-- No place outside of the datagram is looked at, and there is an end to the rounds. -/
theorem parse?_eq (enough : s.length / 4 ≤ rounds) : parse? rounds s = some (parse s) := by
  unfold parse? parse
  by_cases header : headerLength ≤ s.length
  · have type : slice? s 0 2 = some (slice s 0 2) :=
      slice?_eq (by decide) (Nat.le_trans (by decide) header)
    rw [if_neg (Nat.not_lt.2 header), dif_pos header, isStun?_eq header]
    simp only [type, finish?_eq header enough, Option.bind_eq_bind, Option.bind_some,
      Option.pure_def]
    split
    · split
      · rfl
      · split <;> rfl
    · rfl
  · rw [if_pos (Nat.lt_of_not_le header), dif_neg header]
    rfl

end

/-! ## Any bytes -/

/-- Whatever bytes arrive: a packet is read exactly if one stands in them, and else the first error
that applies is reported. What follows the body is never looked at. No access is outside of the
bytes, and a quarter as many rounds as there are bytes suffice. -/
theorem datagram_read (s : Bytes) :
    (∀ p, parse s = .ok p ↔ Carries s p) ∧ (∀ e, parse s = .error e ↔ Faulty s e) ∧
    (headerLength + lengthOf s ≤ s.length →
      ∀ rest, parse (s.take (headerLength + lengthOf s) ++ rest) = parse s) ∧
    parse? (s.length / 4) s = some (parse s) :=
  ⟨fun _ => parse_eq_ok_iff, fun _ => parse_eq_error_iff, parse_take_append,
    parse?_eq (Nat.le_refl _)⟩

/-- A response with an attribute of another type, two user names, of which the second is not filled
up, and two bytes behind the body. -/
def sampleDatagram : Bytes :=
  header responseType 22 ⟨List.replicate 12 1, rfl⟩ ++
    ([0x80, 0x22, 0, 1, 7, 0, 0, 0] ++ [0, 6, 0, 1, 97, 9, 9, 9] ++ [0, 6, 0, 2, 98, 99] ++ [0, 6])

/-- The second name is read, also if other bytes follow the body. -/
theorem datagram_read_sampleDatagram :
    parse sampleDatagram = .ok ⟨.response, ⟨List.replicate 12 1, rfl⟩, some "bc"⟩ ∧
      headerLength + lengthOf sampleDatagram ≤ sampleDatagram.length ∧
      parse (sampleDatagram.take (headerLength + lengthOf sampleDatagram) ++ [1, 2, 3]) =
        .ok ⟨.response, ⟨List.replicate 12 1, rfl⟩, some "bc"⟩ := by
  have carries : Carries sampleDatagram
      ⟨.response, ⟨List.replicate 12 1, rfl⟩, some "bc"⟩ := by
    refine ⟨by decide, ⟨by decide, by decide⟩, by decide, by decide, by decide, ?_⟩
    refine ⟨[⟨0x8022, [7], by decide, by decide⟩, ⟨6, [97], by decide, by decide⟩,
      ⟨6, [98, 99], by decide, by decide⟩], ["a", "bc"], ?_, rfl, rfl⟩
    exact @Spells.cons _ _ [0, 0, 0] _ rfl
      (@Spells.cons _ _ [9, 9, 9] _ rfl (@Spells.cut _ [] (by decide)))
  have whole : headerLength + lengthOf sampleDatagram ≤ sampleDatagram.length := by decide
  have read := ((datagram_read sampleDatagram).1 _).2 carries
  exact ⟨read, whole, ((datagram_read sampleDatagram).2.2.1 whole [1, 2, 3]).trans read⟩

end Rendezvous.Stun
