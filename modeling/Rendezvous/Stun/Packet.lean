import Rendezvous.BigEndian
import Rendezvous.Text.Hex

/-!
# STUN binding packets

The two binding messages of RFC 5389 with an optional USERNAME attribute. A packet is a header of
20 bytes (type, length of the body, magic cookie, transaction id) and a body of attributes, each
padded to a multiple of four bytes. The 16-bit lengths wrap when a packet is built.
-/

namespace Rendezvous.Stun

def headerLength : Nat := 20

def magicCookie : Nat := 0x2112a442

def requestType : Nat := 0x0001

def responseType : Nat := 0x0101

def usernameType : Nat := 0x0006

/-- Twelve bytes that match a response with its request. -/
structure TransactionId where
  bytes : Bytes
  length_eq : bytes.length = 12
deriving DecidableEq

inductive BindingKind where
  | request
  | response
deriving DecidableEq, Repr

structure BindingPacket where
  kind : BindingKind
  transactionId : TransactionId
  username : Option String
deriving DecidableEq

/-- Why a datagram is no binding packet. -/
inductive StunError where
  | tooShort (length : Nat)
  | badCookie
  | notBinding (type : Nat)
  | malformed
deriving DecidableEq, Repr

def StunError.message : StunError → String
  | tooShort length => "packet too short: " ++ toString length ++ " bytes"
  | badCookie => "missing magic cookie"
  | notBinding type => "not a binding message: 0x" ++ Hex.encode (BigEndian.word16 type)
  | malformed => "malformed attribute"

/-! ## Reading -/

/-- The bytes from `start` up to `stop`. -/
def slice (s : Bytes) (start stop : Nat) : Bytes := (s.drop start).take (stop - start)

/-- Whether a datagram looks like STUN: long enough, the top two bits clear, the cookie in place. -/
def isStun (s : Bytes) : Bool :=
  headerLength ≤ s.length && (s.headD 0) < 0x40 && BigEndian.value (slice s 4 8) == magicCookie

/-- How many bytes a value takes with its padding. -/
def padded (length : Nat) : Nat := (length + 3) / 4 * 4

/-- The last USERNAME among the attributes of a body, or `found` if there is none. Fewer than four
bytes at the end are no attribute, and the padding of the last one may be cut short. -/
def username (found : Option String) (body : Bytes) : Except StunError (Option String) :=
  match body with
  | t₁ :: t₂ :: l₁ :: l₂ :: rest =>
    let length := BigEndian.value [l₁, l₂]
    let value := rest.take length
    if value.length ≠ length then .error .malformed
    else if BigEndian.value [t₁, t₂] = usernameType then
      match Utf8.decode? value with
      | none => .error .malformed
      | some name => username (some name) (rest.drop (padded length))
    else username found (rest.drop (padded length))
  | _ => .ok found
termination_by body.length
decreasing_by all_goals (simp only [List.length_drop, List.length_cons]; omega)

/-- The transaction id of a whole header. -/
def transactionId (s : Bytes) (h : headerLength ≤ s.length) : TransactionId where
  bytes := slice s 8 20
  length_eq := by
    have : 20 ≤ s.length := h
    simp only [slice, List.length_take, List.length_drop]
    omega

/-- The binding packet in a datagram. Of several errors the first of too short, no cookie, another
type and malformed attributes counts; bytes behind the body do not matter. -/
def parse (s : Bytes) : Except StunError BindingPacket :=
  if h : headerLength ≤ s.length then
    if isStun s then
      let type := BigEndian.value (slice s 0 2)
      if type = requestType then finish .request s h
      else if type = responseType then finish .response s h
      else .error (.notBinding type)
    else .error .badCookie
  else .error (.tooShort s.length)
where
  /-- Reads the body of a message of known kind. -/
  finish (kind : BindingKind) (s : Bytes) (h : headerLength ≤ s.length) :
      Except StunError BindingPacket :=
    let length := BigEndian.value (slice s 2 4)
    let body := slice s headerLength (headerLength + length)
    if body.length = length then do
      let name ← username none body
      return ⟨kind, transactionId s h, name⟩
    else .error .malformed

/-! ## Building -/

/-- A header with the low 16 bits of the body's length. -/
def header (type bodyLength : Nat) (id : TransactionId) : Bytes :=
  BigEndian.word16 type ++ BigEndian.word16 bodyLength ++ BigEndian.word32 magicCookie ++ id.bytes

/-- A binding request with a user name. -/
def buildRequest (id : TransactionId) (name : String) : Bytes :=
  let value := Utf8.encode name
  header requestType (4 + padded value.length) id ++
    BigEndian.word16 usernameType ++ BigEndian.word16 value.length ++ value ++
    List.replicate (padded value.length - value.length) 0

/-- A binding response. -/
def buildResponse (id : TransactionId) : Bytes := header responseType 0 id

/-! ## Codecs -/

/-- How binding packets are read and built. -/
structure BindingCodec where
  parse : Bytes → Except StunError BindingPacket
  buildRequest : TransactionId → String → Bytes
  buildResponse : TransactionId → Bytes

namespace BindingCodec

/-- The packets of RFC 5389, as they are read and built here. -/
def standard : BindingCodec := ⟨Stun.parse, Stun.buildRequest, Stun.buildResponse⟩

/-- The binding packet in a datagram that looks like STUN. -/
def packet? (codec : BindingCodec) (datagram : Bytes) : Option BindingPacket :=
  if isStun datagram then (codec.parse datagram).toOption else none

end BindingCodec

/-! ## Lemmas -/

theorem length_header (type bodyLength : Nat) (id : TransactionId) :
    (header type bodyLength id).length = headerLength := by
  simp [header, BigEndian.length_word16, BigEndian.length_word32, id.length_eq, headerLength]

theorem le_padded (length : Nat) : length ≤ padded length := by
  unfold padded
  omega

theorem length_buildRequest (id : TransactionId) (name : String) :
    (buildRequest id name).length = headerLength + 4 + padded name.utf8ByteSize := by
  have h := le_padded (Utf8.encode name).length
  simp only [buildRequest, List.length_append, length_header, BigEndian.length_word16,
    List.length_replicate]
  rw [← Utf8.length_encode]
  omega

end Rendezvous.Stun
