import Rendezvous.Proofs.Attributes

/-!
# Packets are read as they were built

The fields of a header stand at fixed places, so they are found whatever follows it
(`parse_header`): a packet that is built is read as one of its kind and under its id, if at all.

    parse (buildResponse id) = .ok ⟨.response, id, none⟩                      (parse_buildResponse)
    name.utf8ByteSize ≤ 65528 →
      parse (buildRequest id name) = .ok ⟨.request, id, some name⟩             (parse_buildRequest)

With a user name just longer than that, the length of the body wraps to zero, and the packet is
read as one without a user name (`parse_buildRequest_wrapped`). Whatever longer names are read as,
it is never the name that was written (`parse_buildRequest_ne`).
-/

namespace Rendezvous.Stun

/-- The type of the messages of a kind. -/
def BindingKind.type : BindingKind → Nat
  | request => requestType
  | response => responseType

/-! ## Headers -/

theorem slice_middle {front field back : Bytes} {start stop : Nat}
    (starts : front.length = start) (stops : start + field.length = stop) :
    slice (front ++ (field ++ back)) start stop = field := by
  unfold slice
  rw [← stops, ← starts, List.drop_left, Nat.add_sub_cancel_left, List.take_left]

section
variable (type n : Nat) (id : TransactionId) (rest : Bytes)

theorem slice_type : slice (header type n id ++ rest) 0 2 = BigEndian.word16 type := by
  have front : header type n id ++ rest =
      [] ++ (BigEndian.word16 type ++
        (BigEndian.word16 n ++ (BigEndian.word32 magicCookie ++ (id.bytes ++ rest)))) := by
    simp only [header, List.append_assoc, List.nil_append]
  rw [front]
  exact slice_middle rfl rfl

theorem slice_length : slice (header type n id ++ rest) 2 4 = BigEndian.word16 n := by
  simp only [header, List.append_assoc]
  exact slice_middle (BigEndian.length_word16 type) rfl

theorem slice_cookie :
    slice (header type n id ++ rest) 4 8 = BigEndian.word32 magicCookie := by
  have front : header type n id ++ rest =
      (BigEndian.word16 type ++ BigEndian.word16 n) ++
        (BigEndian.word32 magicCookie ++ (id.bytes ++ rest)) := by
    simp only [header, List.append_assoc]
  rw [front]
  exact slice_middle rfl rfl

theorem slice_id : slice (header type n id ++ rest) 8 20 = id.bytes := by
  have front : header type n id ++ rest =
      (BigEndian.word16 type ++ BigEndian.word16 n ++ BigEndian.word32 magicCookie) ++
        (id.bytes ++ rest) := by
    simp only [header, List.append_assoc]
  rw [front]
  refine slice_middle rfl ?_
  rw [id.length_eq]

theorem slice_body (length : Nat) :
    slice (header type n id ++ rest) headerLength (headerLength + length) = rest.take length := by
  unfold slice
  rw [← length_header type n id, List.drop_left, Nat.add_sub_cancel_left]

theorem headerLength_le : headerLength ≤ (header type n id ++ rest).length := by
  rw [List.length_append, length_header]
  exact Nat.le_add_right ..

theorem transactionId_header :
    transactionId (header type n id ++ rest) (headerLength_le type n id rest) = id := by
  have bytes := slice_id type n id rest
  unfold transactionId
  cases id
  congr

end

theorem isStun_header (kind : BindingKind) (n : Nat) (id : TransactionId) (rest : Bytes) :
    isStun (header kind.type n id ++ rest) = true := by
  have long := headerLength_le kind.type n id rest
  have first : (header kind.type n id ++ rest).headD 0 < 0x40 := by
    show UInt8.ofNat (kind.type / 0x100) < 0x40
    cases kind <;> decide
  have cookie : BigEndian.value (BigEndian.word32 magicCookie) = magicCookie := by decide
  unfold isStun
  rw [slice_cookie, cookie, decide_eq_true long, decide_eq_true first]
  rfl

/-- A packet with one of the two headers is read by its body alone. -/
theorem parse_header (kind : BindingKind) (n : Nat) (id : TransactionId) (rest : Bytes) :
    parse (header kind.type n id ++ rest) =
      if n % 0x10000 ≤ rest.length then
        (username none (rest.take (n % 0x10000))).map fun name => ⟨kind, id, name⟩
      else .error .malformed := by
  have finish : parse.finish kind (header kind.type n id ++ rest)
      (headerLength_le kind.type n id rest) =
      if n % 0x10000 ≤ rest.length then
        (username none (rest.take (n % 0x10000))).map fun name => ⟨kind, id, name⟩
      else .error .malformed := by
    unfold parse.finish
    dsimp only
    have whole : (rest.take (n % 0x10000)).length = n % 0x10000 ↔ n % 0x10000 ≤ rest.length := by
      rw [List.length_take]
      omega
    rw [slice_length, BigEndian.value_word16, slice_body, transactionId_header]
    simp only [whole]
    rfl
  unfold parse
  rw [dif_pos (headerLength_le ..), if_pos (isStun_header ..)]
  dsimp only
  rw [slice_type, BigEndian.value_word16]
  cases kind with
  | request => exact finish
  | response => exact finish

/-! ## Packets that are built -/

theorem username_nil (found : Option String) : username found [] = .ok found := by
  rw [username]
  simp

theorem buildResponse_eq (id : TransactionId) :
    buildResponse id = header BindingKind.response.type 0 id ++ [] :=
  (List.append_nil _).symm

theorem parse_buildResponse (id : TransactionId) :
    parse (buildResponse id) = .ok ⟨.response, id, none⟩ := by
  rw [buildResponse_eq, parse_header, if_pos (Nat.zero_le _), List.take_nil, username_nil]
  rfl

/-- What fills up a value of some length. -/
def padding (length : Nat) : Bytes := List.replicate (padded length - length) 0

theorem length_padding (length : Nat) : length + (padding length).length = padded length := by
  rw [padding, List.length_replicate]
  exact Nat.add_sub_cancel' (le_padded length)

/-- The attribute with the user name. -/
def usernameAttribute (name : String) : Bytes :=
  BigEndian.word16 usernameType ++ (BigEndian.word16 name.utf8ByteSize ++
    (Utf8.encode name ++ padding name.utf8ByteSize))

theorem buildRequest_eq (id : TransactionId) (name : String) :
    buildRequest id name =
      header BindingKind.request.type (4 + padded name.utf8ByteSize) id ++
        usernameAttribute name := by
  simp only [buildRequest, usernameAttribute, padding, Utf8.length_encode, List.append_assoc]
  rfl

theorem length_usernameAttribute (name : String) :
    (usernameAttribute name).length = 4 + padded name.utf8ByteSize := by
  have filled := length_padding name.utf8ByteSize
  simp only [usernameAttribute, List.length_append, BigEndian.length_word16, Utf8.length_encode]
  omega

theorem username_usernameAttribute (found : Option String) {name : String}
    (short : name.utf8ByteSize < 0x10000) :
    username found (usernameAttribute name) = .ok (some name) := by
  have type : BigEndian.value (BigEndian.word16 usernameType) = usernameType := by decide
  have length : BigEndian.value (BigEndian.word16 name.utf8ByteSize) = name.utf8ByteSize := by
    rw [BigEndian.value_word16, Nat.mod_eq_of_lt short]
  have value : (Utf8.encode name ++ padding name.utf8ByteSize).take name.utf8ByteSize =
      Utf8.encode name := by
    rw [← Utf8.length_encode, List.take_left]
  have rest : (Utf8.encode name ++ padding name.utf8ByteSize).drop
      (padded name.utf8ByteSize) = [] := by
    refine List.drop_eq_nil_of_le (Nat.le_of_eq ?_)
    rw [List.length_append, Utf8.length_encode, length_padding]
  simp only [BigEndian.word16] at type length
  simp only [usernameAttribute, BigEndian.word16, List.cons_append, List.nil_append]
  rw [username, length, type, value, rest]
  simp [Utf8.length_encode, Utf8.decode?_encode, username_nil]

theorem parse_buildRequest (id : TransactionId) {name : String}
    (short : name.utf8ByteSize ≤ 65528) :
    parse (buildRequest id name) = .ok ⟨.request, id, some name⟩ := by
  have body : (4 + padded name.utf8ByteSize) % 0x10000 = (usernameAttribute name).length := by
    rw [length_usernameAttribute]
    unfold padded
    omega
  rw [buildRequest_eq, parse_header, body, if_pos (Nat.le_refl _), List.take_length,
    username_usernameAttribute none (by omega)]
  rfl

/-- Of a user name that is a little longer, the body wraps to nothing. -/
theorem parse_buildRequest_wrapped (id : TransactionId) {name : String}
    (long : 65529 ≤ name.utf8ByteSize) (notLonger : name.utf8ByteSize ≤ 65532) :
    parse (buildRequest id name) = .ok ⟨.request, id, none⟩ := by
  have body : (4 + padded name.utf8ByteSize) % 0x10000 = 0 := by
    unfold padded
    omega
  rw [buildRequest_eq, parse_header, body, if_pos (Nat.zero_le _), List.take_zero, username_nil]
  rfl

/-- A body whose length wraps is too short for the user name that was written. -/
theorem parse_buildRequest_ne (id : TransactionId) {name : String}
    (long : 65528 < name.utf8ByteSize) :
    parse (buildRequest id name) ≠ .ok ⟨.request, id, some name⟩ := by
  have wrapped : (4 + padded name.utf8ByteSize) % 0x10000 < 4 + name.utf8ByteSize := by
    unfold padded
    omega
  rw [buildRequest_eq, parse_header]
  intro read
  split at read
  · cases found : username none
        ((usernameAttribute name).take ((4 + padded name.utf8ByteSize) % 0x10000)) with
    | error e =>
      rw [found] at read
      cases read
    | ok other =>
      rw [found] at read
      cases read
      have fits := length_username found
      rw [List.length_take] at fits
      omega
  · cases read

theorem isStun_buildRequest (id : TransactionId) (name : String) :
    isStun (buildRequest id name) = true := by
  rw [buildRequest_eq]
  exact isStun_header ..

theorem isStun_buildResponse (id : TransactionId) : isStun (buildResponse id) = true := by
  rw [buildResponse_eq]
  exact isStun_header ..

/-- The length of the body stands in the header, if it fits into its field. -/
theorem slice_length_buildRequest_eq_iff (id : TransactionId) (name : String) :
    BigEndian.value (slice (buildRequest id name) 2 4) + headerLength =
        (buildRequest id name).length ↔ name.utf8ByteSize ≤ 65528 := by
  rw [length_buildRequest, buildRequest_eq, slice_length, BigEndian.value_word16]
  unfold headerLength padded
  omega

/-- Under any transaction id, a user name of up to 65528 bytes is read as it was written, and a
longer one is not, as its length does not fit into the header. Responses are always read as they
were written. All packets that are built look like STUN, and their lengths are multiples of four. -/
theorem built_packets_read (id : TransactionId) (name : String) :
    (parse (buildRequest id name) = .ok ⟨.request, id, some name⟩ ↔ name.utf8ByteSize ≤ 65528) ∧
    (BigEndian.value (slice (buildRequest id name) 2 4) + headerLength =
      (buildRequest id name).length ↔ name.utf8ByteSize ≤ 65528) ∧
    parse (buildResponse id) = .ok ⟨.response, id, none⟩ ∧
    (isStun (buildRequest id name) = true ∧ isStun (buildResponse id) = true) ∧
    (buildRequest id name).length % 4 = 0 ∧ (buildResponse id).length % 4 = 0 := by
  have multiple : (headerLength + 4 + padded name.utf8ByteSize) % 4 = 0 := by
    unfold headerLength padded
    omega
  refine ⟨⟨fun read => ?_, parse_buildRequest id⟩, slice_length_buildRequest_eq_iff id name,
    parse_buildResponse id, ⟨isStun_buildRequest id name, isStun_buildResponse id⟩, ?_, ?_⟩
  · exact Nat.le_of_not_lt fun long => parse_buildRequest_ne id long read
  · rw [length_buildRequest, multiple]
  · rw [buildResponse, length_header]
    rfl

/-! ## Datagrams -/

theorem packet?_of_header (kind : BindingKind) (n : Nat) (id : TransactionId) (rest : Bytes) :
    BindingCodec.standard.packet? (header kind.type n id ++ rest) =
      (parse (header kind.type n id ++ rest)).toOption :=
  if_pos (isStun_header kind n id rest)

/-- Whatever follows a header, a packet is of its kind and has its id. -/
theorem of_packet?_header {kind : BindingKind} {n : Nat} {id : TransactionId} {rest : Bytes}
    {p : BindingPacket}
    (read : BindingCodec.standard.packet? (header kind.type n id ++ rest) = some p) :
    p.kind = kind ∧ p.transactionId = id := by
  rw [packet?_of_header, parse_header] at read
  split at read
  · cases found : username none (rest.take (n % 0x10000)) with
    | error e =>
      rw [found] at read
      cases read
    | ok name =>
      rw [found] at read
      cases read
      exact ⟨rfl, rfl⟩
  · cases read

theorem packet?_buildRequest (id : TransactionId) (name : String) :
    BindingCodec.standard.packet? (buildRequest id name) =
      (parse (buildRequest id name)).toOption := by
  rw [buildRequest_eq]
  exact packet?_of_header ..

theorem packet?_buildResponse (id : TransactionId) :
    BindingCodec.standard.packet? (buildResponse id) = some ⟨.response, id, none⟩ := by
  have read := packet?_of_header .response 0 id []
  rw [List.append_nil] at read
  exact read.trans (congrArg Except.toOption (parse_buildResponse id))

end Rendezvous.Stun
