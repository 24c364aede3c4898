import Rendezvous.Database.Rules
import Rendezvous.Proofs.Checking
import Rendezvous.Proofs.Packets
import Rendezvous.Proofs.Rules

/-!
# Requests and their answers

Each end of a path has the other end's ids the other way round: the user name that one of them puts
into its requests is the one that the other expects. So the other one, once it is ready, answers every
request, and the answer makes the path ready, provided that

* neither id contains a colon: the user name must have exactly one, and an end whose own id or whose
  peer's id contains another one answers nothing at all;
* the user name and the body around it fit 16-bit lengths: the ids take at most 65527 bytes together
  (`requests_are_answered`).

Any id of ten bytes or more can be registered, so there are peers with a colon in one id, and peers
with longer ids, that never get an answer (`registered_peers_unanswered`).
-/

namespace Rendezvous.Stun

namespace Keepalive

variable {codec : BindingCodec} {k near far : Keepalive} {now : Nat}

/-! ## Who names whom -/

/-- Each of the two keepalives is that of the other one's peer. -/
structure IsPeerOf (far near : Keepalive) : Prop where
  localId : far.localId = near.remoteId
  remoteId : far.remoteId = near.localId

theorem isPeerOf_after (codec codec' : BindingCodec) (a b : String) (created created' : Nat)
    (past past' : List Turn) :
    ((new b a created').after codec' past').IsPeerOf ((new a b created).after codec past) := by
  obtain ⟨nearLocal, nearRemote⟩ := ids_after codec (new a b created) past
  obtain ⟨farLocal, farRemote⟩ := ids_after codec' (new b a created') past'
  exact ⟨farLocal.trans nearRemote.symm, farRemote.trans nearLocal.symm⟩

theorem IsPeerOf.username (h : far.IsPeerOf near) : near.ownUsername = far.expectedUsername := by
  rw [ownUsername, expectedUsername, h.localId, h.remoteId]

theorem count_colon_username (a b : String) :
    (a ++ ":" ++ b).toList.count ':' = a.toList.count ':' + b.toList.count ':' + 1 := by
  have one : (":" : String).toList.count ':' = 1 := by decide
  rw [String.toList_append, String.toList_append, List.count_append, List.count_append, one]
  omega

theorem utf8ByteSize_username (a b : String) :
    (a ++ ":" ++ b).utf8ByteSize = a.utf8ByteSize + b.utf8ByteSize + 1 := by
  have one : (":" : String).utf8ByteSize = 1 := by decide
  rw [String.utf8ByteSize_append, String.utf8ByteSize_append, one]
  omega

/-! ## What is answered -/

/-- With another colon in one of the ids no request has the right user name. -/
theorem no_response_of_colon (colon : ':' ∈ k.localId.toList ∨ ':' ∈ k.remoteId.toList)
    (i : Input) (id : TransactionId) : (k.step codec now i).2 ≠ some (.response id) := by
  intro sent
  obtain ⟨d, p, -, -, wanted, -⟩ := (sends_response_iff codec k now i id).1 sent
  have one := ((k.accepts_iff _).1 wanted.accepted).2
  rw [expectedUsername, count_colon_username] at one
  rcases colon with colon | colon <;> have := List.count_pos_iff.2 colon <;> omega

/-- Requests whose user name wraps are not answered. -/
theorem no_response_of_wrapped (long : 65529 ≤ near.ownUsername.utf8ByteSize)
    (notLonger : near.ownUsername.utf8ByteSize ≤ 65532) (request id : TransactionId) :
    (far.step .standard now (.receive (near.datagram .standard (.request request)))).2 ≠
      some (.response id) := by
  intro sent
  obtain ⟨d, p, arrives, read, wanted, -⟩ := (sends_response_iff ..).1 sent
  cases arrives
  replace read := (packet?_buildRequest request near.ownUsername).symm.trans read
  rw [parse_buildRequest_wrapped request long notLonger] at read
  cases read
  exact nomatch ((far.accepts_iff _).1 wanted.accepted).1

theorem answers_request (h : far.IsPeerOf near)
    (noColon : ':' ∉ far.localId.toList ∧ ':' ∉ far.remoteId.toList)
    (short : far.localId.utf8ByteSize + far.remoteId.utf8ByteSize ≤ 65527)
    (localReady : far.localReady = true) (now : Nat) (id : TransactionId) :
    (far.step .standard now (.receive (near.datagram .standard (.request id)))).2 =
      some (.response id) := by
  have one : far.expectedUsername.toList.count ':' = 1 := by
    rw [expectedUsername, count_colon_username, List.count_eq_zero_of_not_mem noColon.1,
      List.count_eq_zero_of_not_mem noColon.2]
  have fits : near.ownUsername.utf8ByteSize ≤ 65528 := by
    rw [h.username, expectedUsername, utf8ByteSize_username]
    omega
  have read : BindingCodec.standard.packet? (near.datagram .standard (.request id)) =
      some ⟨.request, id, some near.ownUsername⟩ :=
    (packet?_buildRequest id _).trans (congrArg Except.toOption (parse_buildRequest id fits))
  refine (sends_response_iff ..).2 ⟨_, _, rfl, read, ⟨rfl, ?_, localReady⟩, rfl⟩
  exact (far.accepts_iff _).2 ⟨congrArg some h.username, one⟩

/-! ## What an answer does -/

theorem ready_of_response (checking : near.state = .checking) {id : TransactionId}
    (known : id ∈ near.sent) (now : Nat) :
    (near.step .standard now (.receive (far.datagram .standard (.response id)))).1.state =
      .ready := by
  have isOpen : near.state.isTerminal = false := by
    rw [checking]
    rfl
  exact ((becomes_ready_iff ..).2
    ⟨_, _, rfl, packet?_buildResponse id, rfl, known, isOpen⟩).2

theorem mem_rtake_of_length_lt {α : Type} {n : Nat} (older : List α) (a : α) {newer : List α}
    (few : newer.length < n) : a ∈ (older ++ a :: newer).rtake n := by
  have before : (older ++ a :: newer).length - n ≤ older.length := by
    simp only [List.length_append, List.length_cons]
    omega
  rw [List.rtake, List.drop_append_of_le_length before]
  exact List.mem_append_right _ (List.mem_cons_self ..)

/-- A request is remembered until 32 further ones were sent. -/
theorem mem_sent_after (codec : BindingCodec) (a b : String) (created : Nat) (past : List Turn)
    {t : Turn} {id : TransactionId} {later : List Turn}
    (sent : (((new a b created).after codec past).turn codec t).2 = some (.request id))
    (few : ((((new a b created).after codec past).turn codec t).1.requested codec later).length <
      sentHistory) :
    id ∈ ((((new a b created).after codec past).turn codec t).1.after codec later).sent := by
  have split : (((new a b created).after codec past).turn codec t).1.after codec later =
      (new a b created).after codec (past ++ t :: later) :=
    (after_append past (t :: later)).symm
  rw [split, sent_after, requested_append, requested, sent]
  exact mem_rtake_of_length_lt _ id few

/-- A request that `near` just sent and that reaches `far` at any time is answered under its id; and
if the answer reaches `near` while it is checking, before 32 further requests, the path is ready. -/
structure IsAnswered (near : Keepalive) (id : TransactionId) (far : Keepalive) : Prop where
  answer : ∀ now, (far.step .standard now (.receive (near.datagram .standard (.request id)))).2 =
    some (.response id)
  ready : ∀ later now, (near.requested .standard later).length < 32 →
    (near.after .standard later).state = .checking →
      ((near.after .standard later).step .standard now
        (.receive (far.datagram .standard (.response id)))).1.state = .ready

end Keepalive

open Keepalive in
/-- With a colon in one of the ids of a path no end ever answers, whatever arrives. If neither has
one and together they take at most 65527 bytes, every request of the one end is answered by the
other one when it is ready. -/
theorem requests_are_answered (a b : String) :
    (':' ∈ a.toList ∨ ':' ∈ b.toList → ∀ created past t id,
      (((new b a created).after .standard past).turn .standard t).2 ≠ some (.response id)) ∧
    (':' ∉ a.toList → ':' ∉ b.toList → a.utf8ByteSize + b.utf8ByteSize ≤ 65527 →
      ∀ created past t id,
        (((new a b created).after .standard past).turn .standard t).2 = some (.request id) →
      ∀ created' past', ((new b a created').after .standard past').localReady = true →
        (((new a b created).after .standard past).turn .standard t).1.IsAnswered id
          ((new b a created').after .standard past')) := by
  constructor
  · intro colon created past t id
    obtain ⟨farLocal, farRemote⟩ := ids_after .standard (new b a created) past
    refine no_response_of_colon ?_ t.input id
    rw [farLocal, farRemote]
    exact colon.symm
  · intro noColon noColon' short created past t id sent created' past' localReady
    have h := isPeerOf_after .standard .standard a b created created' (past ++ [t]) past'
    rw [after_snoc] at h
    obtain ⟨farLocal, farRemote⟩ := ids_after .standard (new b a created') past'
    constructor
    · refine fun now => answers_request h ?_ ?_ localReady now id
      · rw [farLocal, farRemote]
        exact ⟨noColon', noColon⟩
      · rw [farLocal, farRemote]
        show b.utf8ByteSize + a.utf8ByteSize ≤ 65527
        omega
    · intro later now few checking
      exact ready_of_response checking (mem_sent_after .standard a b created past sent few) now

namespace Keepalive

/-- Starts checking. -/
def sampleStart : Turn := ⟨0, .start, true⟩

/-- Sends the first request. -/
def sampleWake : Turn := ⟨0, .wake 0 sampleId, true⟩

/-- Becomes ready to answer. -/
def sampleReady : Turn := ⟨0, .setLocalReady true, true⟩

end Keepalive

open Keepalive in
/-- An end whose peer has a colon in its id, and a request that is answered. -/
theorem requests_are_answered_sampleTurns :
    ((':' ∈ "alice:1234".toList ∨ ':' ∈ "bob1234567".toList) ∧
      ∀ created past t id, (((new "bob1234567" "alice:1234" created).after .standard past).turn
        .standard t).2 ≠ some (.response id)) ∧
    (((new "alice12345" "bob1234567" 0).after .standard [sampleStart]).turn
      .standard sampleWake).2 = some (.request sampleId) ∧
    (((new "alice12345" "bob1234567" 0).after .standard [sampleStart]).turn
      .standard sampleWake).1.IsAnswered sampleId
        ((new "bob1234567" "alice12345" 0).after .standard [sampleReady]) := by
  have colon : ':' ∈ "alice:1234".toList ∨ ':' ∈ "bob1234567".toList := .inl (by decide)
  refine ⟨⟨colon, (requests_are_answered "alice:1234" "bob1234567").1 colon⟩, rfl, ?_⟩
  exact (requests_are_answered "alice12345" "bob1234567").2 (by decide) (by decide) (by decide)
    0 [sampleStart] sampleWake sampleId rfl 0 [sampleReady] rfl

/-! ## Peers that cannot reach each other -/

/-- A digest and a salt with which both ids can be registered. -/
def CanRegister (a b : String) : Prop :=
  ∃ digest salt db db', Database.register {} a digest salt = .ok db ∧
    db.register b digest salt = .ok db'

theorem canRegister {a b : String} (long : Credential.minIdLength ≤ a.utf8ByteSize)
    (long' : Credential.minIdLength ≤ b.utf8ByteSize) (ne : a ≠ b) : CanRegister a b := by
  let digest := "00000000000000000000000000000000"
  let kept (id : String) : Peer :=
    { id := id, passwordDigest := Credential.saltedDigest digest "salt", salt := "salt" }
  have acceptable : Credential.isAcceptable digest "salt" = true := by decide
  have first : Database.register {} a digest "salt" = .ok (Database.insertPeer {} (kept a)) :=
    Database.register_eq_ok_iff.2 ⟨long, acceptable, rfl, rfl⟩
  have unknown : (Database.insertPeer {} (kept a)).hasPeer b = false := by
    have none : (Database.insertPeer {} (kept a)).peer? b = none := by
      rw [Database.peer?_insertPeer, if_neg ne.symm]
      rfl
    exact congrArg Option.isSome none
  exact ⟨digest, "salt", _, _, first,
    Database.register_eq_ok_iff.2 ⟨long', acceptable, unknown, rfl⟩⟩

/-- One character again and again. -/
def repeated (c : Char) (n : Nat) : String := .ofList (.replicate n c)

theorem utf8ByteSize_repeated {c : Char} (ascii : c.utf8Size = 1) (n : Nat) :
    (repeated c n).utf8ByteSize = n := by
  rw [← Utf8.length_encode, Utf8.encode_eq_flatMap, repeated, String.toList_ofList,
    List.flatMap_replicate]
  simp [ascii]

theorem repeated_ne {c d : Char} (ne : c ≠ d) (n : Nat) :
    repeated c (n + 1) ≠ repeated d (n + 1) := by
  intro same
  have lists := String.ofList_injective same
  rw [List.replicate_succ, List.replicate_succ] at lists
  exact ne (List.cons.inj lists).1

namespace Keepalive

/-- Both ids can be registered; but a request is sent that the other end never answers, although it
is ready. -/
structure IsUnanswered (a b : String) : Prop where
  canRegister : CanRegister a b
  sent : (((new a b 0).after .standard [sampleStart]).turn .standard sampleWake).2 =
    some (.request sampleId)
  localReady : ((new b a 0).after .standard [sampleReady]).localReady = true
  unanswered : ∀ now id, (((new b a 0).after .standard [sampleReady]).step .standard now
    (.receive (((new a b 0).after .standard [sampleStart, sampleWake]).datagram .standard
      (.request sampleId)))).2 ≠ some (.response id)

theorem isUnanswered_of_colon {a b : String} (canRegister : CanRegister a b)
    (colon : ':' ∈ a.toList ∨ ':' ∈ b.toList) : IsUnanswered a b where
  canRegister := canRegister
  sent := rfl
  localReady := rfl
  unanswered _ := no_response_of_colon colon.symm _

theorem isUnanswered_of_wrapped {a b : String} (canRegister : CanRegister a b)
    (long : 65528 ≤ a.utf8ByteSize + b.utf8ByteSize)
    (notLonger : a.utf8ByteSize + b.utf8ByteSize ≤ 65531) : IsUnanswered a b where
  canRegister := canRegister
  sent := rfl
  localReady := rfl
  unanswered := by
    have size := utf8ByteSize_username b a
    refine fun _ => no_response_of_wrapped ?_ ?_ _
    · show 65529 ≤ (b ++ ":" ++ a).utf8ByteSize
      omega
    · show (b ++ ":" ++ a).utf8ByteSize ≤ 65532
      omega

end Keepalive

open Keepalive in
/-- A colon in one id; and two ids of 32764 bytes. -/
theorem registered_peers_unanswered :
    IsUnanswered "alice:1234" "bob1234567" ∧
      IsUnanswered (repeated 'a' 32764) (repeated 'b' 32764) := by
  constructor
  · have different : "alice:1234" ≠ "bob1234567" := by decide
    exact isUnanswered_of_colon (canRegister (by decide) (by decide) different) (.inl (by decide))
  · have size : (repeated 'a' 32764).utf8ByteSize = 32764 := utf8ByteSize_repeated rfl 32764
    have size' : (repeated 'b' 32764).utf8ByteSize = 32764 := utf8ByteSize_repeated rfl 32764
    have different : repeated 'a' 32764 ≠ repeated 'b' 32764 := repeated_ne (by decide) 32763
    refine isUnanswered_of_wrapped (canRegister ?_ ?_ different) ?_ ?_ <;>
      simp only [size, size'] <;> decide

end Rendezvous.Stun
