import Rendezvous.Proofs.Bodies
import Rendezvous.Proofs.Forwarding
import Rendezvous.Proofs.Refusals
import Rendezvous.Proofs.Sizes

/-!
# Responses that are too long for a frame

The relay checks no lengths: a response is measured only when it is written, and one that is too
long ends the connection that should have got it. How long the responses to a request are can be
told from its outcome, so it can be told which requests end connections:

    Fresh es → ((∀ push ∈ (r.handle (.request c time q)).2, push fits) ↔
      replySize q o.result ≤ maxFrameSize ∧ eventSize caller b q ≤ maxFrameSize)
                                                                       (responses_fit_iff)

A refusal repeats a text of the request with some words before it, and a forwarded event adds the
ids of its sender; so a request that fills a frame can have a response that does not fit into one
(`frame_leads_to_oversized_responses`).
-/

namespace Rendezvous

open Json (textSize contentSize)

/-! ## The responses to a request -/

/-- How many bytes a reply takes. -/
def replySize (q : Request) : Except RelayError Response → Nat
  | .ok content =>
    13 + textSize q.sequence + listSize content.resultList + mapSize content.resultMap
  | .error e => 22 + textSize q.sequence + textSize e.message

/-- How many bytes the content of a forwarded event takes. -/
def carriedSize (q : Request) : Action → Nat
  | .iceCandidate => 32 + textSize (q.iceCandidate.getD "")
  | .iceAuth => 39 + textSize (q.iceUfrag.getD "") + textSize (q.icePwd.getD "")
  | _ => 0

/-- How many bytes an event takes that a request becomes at the other end of a session. -/
def eventSize (caller : String) (b : Action) (q : Request) : Nat :=
  51 + textSize b.name + textSize caller + textSize (q.serviceName.getD "") + carriedSize q b

namespace Relay

variable {r : Relay} {c : ConnectionId} {time : UInt64} {q : Request} {caller : String}
  {a b : Action} {o : Outcome} {push : Push}

theorem size_refusal (q : Request) (e : RelayError) :
    (reply q (.error e)).size = replySize q (.error e) := by
  have hm : e.message.isEmpty = false := by
    rw [Bool.eq_false_iff]
    exact fun h => e.message_ne_empty (String.isEmpty_iff.1 h)
  simp only [Response.size, reply, replySize, hm, listSize_nil, mapSize_empty]
  simp
  omega

theorem size_answer {content : Response} (event : content.event = "")
    (fromId : content.fromId = none) (serviceName : content.serviceName = none)
    (error : content.error = "") :
    (reply q (.ok content)).size = replySize q (.ok content) := by
  simp [Response.size, reply, replySize, event, fromId, serviceName, error]

/-- Whatever a request leads to, the size of its reply is told by the outcome. -/
theorem Leads.size_reply (l : r.Leads c time q o) :
    (reply q o.result).size = replySize q o.result := by
  cases l with
  | refused e => exact size_refusal q e
  | registered => exact size_answer rfl rfl rfl rfl
  | stayed => exact size_answer rfl rfl rfl rfl
  | tookOver =>
    unfold takeOver
    dsimp only
    split
    · exact size_answer rfl rfl rfl rfl
    · exact size_refusal q _
  | loggedOut => exact size_answer rfl rfl rfl rfl
  | edited => exact size_answer rfl rfl rfl rfl
  | answered _ _ h =>
    cases h with
    | services => exact size_answer rfl rfl rfl rfl
    | myServices => exact size_answer rfl rfl rfl rfl
    | showService => exact size_answer rfl rfl rfl rfl
  | relayed => exact size_answer rfl rfl rfl rfl

/-- The password stands before the user name fragment. -/
theorem entries_credentials (u w : String) :
    (Table.ofList [(Response.ufragKey, u), (Response.pwdKey, w)]).entries =
      [(Response.pwdKey, w), (Response.ufragKey, u)] := by
  have h : Response.pwdKey < Response.ufragKey := by decide
  simp only [Table.ofList, List.foldl_cons, List.foldl_nil, Table.insert, Table.empty, Table.put,
    if_pos h]

theorem Carries.mapSize_eq {content : Table String String} (h : Carries q b content) :
    mapSize content = carriedSize q b := by
  cases h with
  | @candidate x hx given =>
    have hc : textSize Response.candidateKey = 15 := by decide
    show 15 + (textSize Response.candidateKey + textSize x + 2 + 0) = 32 + _
    rw [hx, hc, Option.getD_some]
    omega
  | @credentials u w hu _ hw _ =>
    have hf : textSize Response.ufragKey = 11 := by decide
    have hp : textSize Response.pwdKey = 9 := by decide
    unfold mapSize
    rw [Table.isEmpty, entries_credentials]
    show 15 + (textSize Response.pwdKey + textSize w + 2 +
      (textSize Response.ufragKey + textSize u + 2 + 0)) = 39 + _ + _
    rw [hu, hw, hf, hp, Option.getD_some, Option.getD_some]
    omega
  | nothing noCandidate noCredentials =>
    unfold carriedSize
    split
    · exact absurd rfl noCandidate
    · exact absurd rfl noCredentials
    · rfl

theorem size_event (h : r.forward caller b q = .ok push) :
    push.response.size = eventSize caller b q := by
  obtain ⟨name, content, target, link, named, hc, -, -, rfl⟩ := forward_eq_ok_iff.1 h
  obtain ⟨named, -⟩ := Request.requireServiceName_eq_ok_iff.1 named
  have hm := (carries_of_payload hc).mapSize_eq
  have hb : b.name.isEmpty = false := by cases b <;> decide
  have hs : textSize "" = 2 := by decide
  have he : ("" : String).isEmpty = true := by decide
  simp only [Response.size, Response.ofEvent, eventSize, hm, hb, named, hs, he, listSize_nil,
    Option.elim_some, Option.getD_some, Bool.false_eq_true, if_false, if_true]
  omega

/-- A request for another action is not handed on. -/
theorem fits_of_not_relayed (asked : q.action? = .ok a) (unrelayed : a.relayedAs? = none) :
    ∀ caller a b, r.identities.get? c = some caller → q.action? = .ok a →
      a.relayedAs? = some b → o.result = .ok {} → eventSize caller b q ≤ maxFrameSize := by
  intro caller a' b _ asked' under
  rw [asked] at asked'
  cases asked'
  rw [unrelayed] at under
  cases under

theorem size_notice {peer : String} (h : push ∈ r.notices c peer) :
    push.response.size ≤ maxFrameSize := by
  rw [response_of_mem_notices h]
  decide

/-- What goes to other connections fits exactly if the event does that the request becomes. -/
theorem Leads.pushes_fit_iff (l : r.Leads c time q o) :
    (∀ push ∈ o.pushes, push.response.size ≤ maxFrameSize) ↔
      ∀ caller a b, r.identities.get? c = some caller → q.action? = .ok a →
        a.relayedAs? = some b → o.result = .ok {} → eventSize caller b q ≤ maxFrameSize := by
  have nothing : ∀ push ∈ ([] : List Push), push.response.size ≤ maxFrameSize := by
    intro push h
    cases h
  cases l with
  | @relayed caller a b push who asked under access h =>
    have hs := size_event h
    constructor
    · intro fit caller' a' b' who' asked' under' _
      rw [who] at who'
      rw [asked] at asked'
      cases who'
      cases asked'
      rw [under] at under'
      cases under'
      rw [← hs]
      exact fit push (List.mem_singleton_self _)
    · intro fit push' hp
      cases List.mem_singleton.1 hp
      rw [hs]
      exact fit caller a b who asked under rfl
  | refused e =>
    refine iff_of_true nothing ?_
    intro _ _ _ _ _ _ h
    cases h
  | tookOver asked =>
    refine iff_of_true (fun push h => ?_) (fits_of_not_relayed asked rfl)
    rw [pushes_takeOver] at h
    exact size_notice h
  | registered asked => exact iff_of_true nothing (fits_of_not_relayed asked rfl)
  | stayed asked => exact iff_of_true nothing (fits_of_not_relayed asked rfl)
  | loggedOut asked => exact iff_of_true nothing (fits_of_not_relayed asked rfl)
  | edited _ asked h =>
    exact iff_of_true nothing (fits_of_not_relayed asked (by cases h <;> rfl))
  | answered _ asked h =>
    exact iff_of_true nothing (fits_of_not_relayed asked (by cases h <;> rfl))

/-- The reply goes to the connection of the request, if that is open. -/
theorem Coherent.mem_pushes_iff {isOpen : ConnectionId → QueueId → Prop} (h : r.Coherent isOpen) :
    push ∈ (r.handle (.request c time q)).2 ↔ push ∈ (r.dispatch c time q).pushes ∨
      ∃ k, isOpen c k ∧ push = ⟨⟨c, k⟩, reply q (r.dispatch c time q).result⟩ := by
  have ho : (r.dispatch c time q).relay.Coherent isOpen := h.leads (leads_dispatch r c time q)
  show push ∈ _ ++ Option.toList _ ↔ _
  rw [List.mem_append, Option.mem_toList, Option.map_eq_some_iff]
  refine or_congr Iff.rfl ⟨?_, ?_⟩
  · rintro ⟨⟨c', k⟩, hl, rfl⟩
    obtain ⟨rfl, hk⟩ := ho.link?_eq_some_iff.1 hl
    exact ⟨k, hk, rfl⟩
  · rintro ⟨k, hk, rfl⟩
    exact ⟨⟨c, k⟩, ho.link?_eq_some_iff.2 ⟨rfl, hk⟩, rfl⟩

end Relay

/-- A request ends no connection exactly if its reply fits into a frame and, where it is handed on,
the event that it becomes. -/
theorem responses_fit_iff (db : Database) {es : List Event} (fresh : Fresh es) (c : ConnectionId)
    (time : UInt64) (q : Request) :
    let r := (Relay.idle db).after es
    let o := r.dispatch c time q
    let pushes := (r.handle (.request c time q)).2
    ((∀ push ∈ pushes, ∃ bytes, push.response.encode = .ok bytes) ↔
      (∀ k, StillOpen es c k → replySize q o.result ≤ maxFrameSize) ∧
      ∀ caller a b, r.identities.get? c = some caller → q.action? = .ok a →
        a.relayedAs? = some b → o.result = .ok {} → eventSize caller b q ≤ maxFrameSize) ∧
    ∀ push ∈ pushes, ∀ k : Connection, (k.takeResponse (some push.response)).2 = .finish ↔
      ¬ ∃ bytes, push.response.encode = .ok bytes := by
  intro r o pushes
  have h : r.Coherent (StillOpen es) := fresh.coherent db
  have l : r.Leads c time q o := Relay.leads_dispatch r c time q
  simp only [encode_eq_ok_iff, takeResponse_eq_finish_iff, Nat.not_le, ← l.pushes_fit_iff]
  refine ⟨⟨fun fit => ⟨?_, ?_⟩, ?_⟩, fun _ _ _ => trivial⟩
  · intro k hk
    rw [← l.size_reply]
    exact fit ⟨⟨c, k⟩, Relay.reply q o.result⟩ (h.mem_pushes_iff.2 (.inr ⟨k, hk, rfl⟩))
  · intro push hp
    exact fit push (h.mem_pushes_iff.2 (.inl hp))
  · rintro ⟨replyFits, pushesFit⟩ push hp
    rcases h.mem_pushes_iff.1 hp with hp | ⟨k, hk, rfl⟩
    · exact pushesFit push hp
    · rw [l.size_reply]
      exact replyFits k hk

/-- Carol asks for her services, and no connection ends. -/
theorem responses_fit_iff_sampleRun :
    let r := (Relay.idle sampleDatabase).after sampleRun
    let q := Request.ofAction .myServices
    Fresh sampleRun ∧ StillOpen sampleRun 2 1 ∧ replySize q (r.dispatch 2 0 q).result = 84 ∧
      ∀ push ∈ (r.handle (.request 2 0 q)).2, ∃ bytes, push.response.encode = .ok bytes := by
  intro r q
  have isOpen : StillOpen sampleRun 2 1 := ⟨sampleRun.take 1, sampleRun.drop 2, rfl, by decide⟩
  have size : replySize q (r.dispatch 2 0 q).result = 84 := by
    rw [show r = sampleRelay from after_sampleRun]
    decide +kernel
  refine ⟨fresh_sampleRun, isOpen, size, ?_⟩
  refine (responses_fit_iff sampleDatabase fresh_sampleRun 2 0 q).1.2 ⟨fun _ _ => ?_, ?_⟩
  · show replySize q (r.dispatch 2 0 q).result ≤ maxFrameSize
    rw [size]
    decide
  · exact Relay.fits_of_not_relayed (Request.action?_ofAction .myServices) rfl

/-! ## Requests that fill a frame -/

/-- A text of the given length. -/
def longText (n : Nat) : String := String.ofList (List.replicate n 'x')

theorem contentSize_longText (n : Nat) : contentSize (longText n) = n := by
  induction n with
  | zero => rfl
  | succ n ih =>
    have h : longText (n + 1) = String.ofList ['x'] ++ longText n := by
      rw [longText, longText, ← String.ofList_append]
      rfl
    have hx : contentSize (String.ofList ['x']) = 1 := by decide
    rw [h, Json.contentSize_append, ih, hx]
    omega

theorem textSize_longText (n : Nat) : textSize (longText n) = n + 2 := by
  rw [textSize, contentSize_longText]

/-- A request for an action that nobody knows. -/
def unknownRequest (n : Nat) : Request := { action := longText n }

/-- A request that hands on a candidate. -/
def candidateRequest (n : Nat) : Request :=
  { action := "ice-candidate", serviceName := some "ssh-box", iceCandidate := some (longText n) }

theorem length_unknownRequest (n : Nat) : (unknownRequest n).document.compact.length = 40 + n := by
  have h : (unknownRequest n).document = .object (kept "sequence" "" ++
      kept "action" (longText n) ++ kept "from_id" "") := rfl
  have sizes : textSize "sequence" = 10 ∧ textSize "action" = 8 ∧ textSize "from_id" = 9 ∧
      textSize "" = 2 := by decide
  rw [h, Json.Document.length_compact_object (by simp [kept])]
  simp only [membersSize_append, membersSize_kept, sizes, textSize_longText]
  omega

theorem length_candidateRequest (n : Nat) :
    (candidateRequest n).document.compact.length = 97 + n := by
  have h : (candidateRequest n).document = .object (kept "sequence" "" ++
      kept "action" "ice-candidate" ++ kept "from_id" "" ++ kept "service_name" "ssh-box" ++
      kept "ice_candidate" (longText n)) := rfl
  have sizes : textSize "sequence" = 10 ∧ textSize "action" = 8 ∧ textSize "from_id" = 9 ∧
      textSize "service_name" = 14 ∧ textSize "ice_candidate" = 15 ∧ textSize "" = 2 ∧
      textSize "ice-candidate" = 15 ∧ textSize "ssh-box" = 9 := by decide
  rw [h, Json.Document.length_compact_object (by simp [kept])]
  simp only [membersSize_append, membersSize_kept, sizes, textSize_longText]
  omega

/-- A long text names no action. -/
theorem ofName?_longText {n : Nat} (h : 18 < n) : Action.ofName? (longText n) = none := by
  cases ha : Action.ofName? (longText n) with
  | none => rfl
  | some a =>
    have hn := Action.name_of_ofName? ha
    have short : contentSize a.name ≤ 18 := by cases a <;> decide
    rw [hn, contentSize_longText] at short
    omega

/-- A response that is too long ends every connection that takes it. -/
theorem tooLarge_of_size {r : Response} {n : Nat} (size : r.size = n) (h : maxFrameSize < n) :
    r.encode = .error (.tooLarge n) ∧
      ∀ k : Connection, (k.takeResponse (some r)).2 = .finish := by
  subst size
  exact ⟨encode_eq_error h, fun k => takeResponse_eq_finish_iff.2 h⟩

namespace Relay

variable {r : Relay} {c : ConnectionId} {time : UInt64} {q : Request} {caller : String}
  {a : Action} {push : Push}

theorem result_of_unknown (h : Action.ofName? q.action = none) :
    (r.dispatch c time q).result = .error (.unknownAction q.action) := by
  have asked : q.action? = .error (.unknownAction q.action) := by
    simp only [Request.action?, h]
  unfold dispatch
  rw [asked]
  rfl

/-- A request that is handed on unchanged becomes one event. -/
theorem pushes_of_forward (who : r.identities.get? c = some caller) (asked : q.action? = .ok a)
    (handedOn : a.isRelayed = true) (h : r.forward caller a q = .ok push) :
    (r.dispatch c time q).pushes = [push] := by
  have served : r.dispatch c time q = r.relayed caller a q := by
    unfold dispatch
    rw [asked]
    cases a <;> first | (simp only [who]; rfl) | cases handedOn
  rw [served]
  unfold relayed
  rw [h]

theorem payload_candidate {x : String} (h : q.iceCandidate = some x) (given : x ≠ "") :
    payload .iceCandidate q = .ok (.ofList [(Response.candidateKey, x)]) := by
  show (required q.iceCandidate "ice candidate").bind _ = _
  rw [required_eq_ok_iff.2 ⟨h, given⟩]
  rfl

end Relay

/-- The refusal repeats the name behind some words. -/
theorem unknownRequest_ends_requester (db : Database) {es : List Event} (fresh : Fresh es)
    {c : ConnectionId} {k : QueueId} (isOpen : StillOpen es c k) {n : Nat} (h : 65494 < n) :
    ∃ push ∈ (((Relay.idle db).after es).handle (.request c 0 (unknownRequest n))).2,
      push.link = ⟨c, k⟩ ∧ push.response.encode = .error (.tooLarge (42 + n)) ∧
      ∀ k : Connection, (k.takeResponse (some push.response)).2 = .finish := by
  have unknown : Action.ofName? (unknownRequest n).action = none := ofName?_longText (by omega)
  have size : (Relay.reply (unknownRequest n) (.error (.unknownAction (longText n)))).size =
      42 + n := by
    have sizes : textSize "" = 2 ∧ contentSize "unknown action: " = 16 := by decide
    rw [Relay.size_refusal]
    show 22 + textSize "" + textSize ("unknown action: " ++ longText n) = _
    rw [sizes.1, textSize, Json.contentSize_append, contentSize_longText, sizes.2]
    omega
  have tooLong : maxFrameSize < 42 + n := by
    rw [maxFrameSize]
    omega
  refine ⟨_, (fresh.coherent db).mem_pushes_iff.2 (.inr ⟨k, isOpen, rfl⟩), rfl, ?_⟩
  rw [Relay.result_of_unknown unknown]
  exact tooLarge_of_size size tooLong

/-- Carol's candidate reaches Bob with her id and the name of the service. -/
theorem candidateRequest_ends_target {n : Nat} (h : 65415 < n) :
    ∃ push ∈ (((Relay.idle sampleDatabase).after sampleRun).handle
        (.request 2 0 (candidateRequest n))).2,
      push.link = ⟨3, 2⟩ ∧ push.response.encode = .error (.tooLarge (121 + n)) ∧
      ∀ k : Connection, (k.takeResponse (some push.response)).2 = .finish := by
  have coherent : sampleRelay.Coherent (StillOpen sampleRun) :=
    after_sampleRun ▸ fresh_sampleRun.coherent sampleDatabase
  have who : sampleRelay.identities.get? 2 = some "carol12345" := by decide
  have target : sampleRelay.db.forwardTarget "carol12345" "ssh-box" none = .ok "bob1234567" := by
    decide
  have online : sampleRelay.online.get? "bob1234567" = some ⟨3, 2⟩ := by decide
  have given : longText n ≠ "" := by
    intro e
    have hn := contentSize_longText n
    rw [e, show contentSize "" = 0 by decide] at hn
    omega
  obtain ⟨push, link, forwarded⟩ : ∃ push, push.link = ⟨3, 2⟩ ∧
      sampleRelay.forward "carol12345" .iceCandidate (candidateRequest n) = .ok push :=
    ⟨_, rfl, Relay.forward_eq_ok_iff.2 ⟨"ssh-box", _, "bob1234567", ⟨3, 2⟩, rfl,
      Relay.payload_candidate rfl given, target, online, rfl⟩⟩
  have pushed : push ∈ (sampleRelay.dispatch 2 0 (candidateRequest n)).pushes := by
    have asked : (candidateRequest n).action? = .ok .iceCandidate :=
      Request.action?_ofAction .iceCandidate
    rw [Relay.pushes_of_forward who asked rfl forwarded]
    exact List.mem_singleton_self push
  have size : push.response.size = 121 + n := by
    have sizes : textSize "ice-candidate" = 15 ∧ textSize "carol12345" = 12 ∧
        textSize "ssh-box" = 9 := by decide
    rw [Relay.size_event forwarded]
    show 51 + textSize "ice-candidate" + textSize "carol12345" + textSize "ssh-box" +
      (32 + textSize (longText n)) = _
    rw [textSize_longText, sizes.1, sizes.2.1, sizes.2.2]
    omega
  have tooLong : maxFrameSize < 121 + n := by
    rw [maxFrameSize]
    omega
  rw [after_sampleRun]
  exact ⟨push, coherent.mem_pushes_iff.2 (.inl pushed), link, tooLarge_of_size size tooLong⟩

/-- Two requests that each just fit into a frame: the one ends the connection that it came on, the
other that of the peer it is handed on to. -/
theorem frame_leads_to_oversized_responses :
    (let q := unknownRequest 65496
     let r := (Relay.idle {}).after [.opened 1 0]
     q.document.compact.length = maxFrameSize ∧ Request.decode q.document.compact = .ok q ∧
       Fresh [.opened 1 0] ∧
       ∃ push ∈ (r.handle (.request 1 0 q)).2, push.link = ⟨1, 0⟩ ∧
         push.response.encode = .error (.tooLarge 65538) ∧
         ∀ k : Connection, (k.takeResponse (some push.response)).2 = .finish) ∧
    (let q := candidateRequest 65439
     let r := (Relay.idle sampleDatabase).after sampleRun
     q.document.compact.length = maxFrameSize ∧ Request.decode q.document.compact = .ok q ∧
       Fresh sampleRun ∧
       ∃ push ∈ (r.handle (.request 2 0 q)).2, push.link = ⟨3, 2⟩ ∧
         push.response.encode = .error (.tooLarge 65560) ∧
         ∀ k : Connection, (k.takeResponse (some push.response)).2 = .finish) := by
  constructor
  · -- nothing has to be known of the records: an unknown action is refused before they are read
    intro q r
    have fresh : Fresh [.opened 1 0] := by
      unfold Fresh
      decide
    have isOpen : StillOpen [.opened 1 0] 1 0 := ⟨[], [], rfl, by decide⟩
    exact ⟨length_unknownRequest 65496, q.decode_compact, fresh,
      unknownRequest_ends_requester {} fresh isOpen (by decide)⟩
  · intro q r
    exact ⟨length_candidateRequest 65439, q.decode_compact, fresh_sampleRun,
      candidateRequest_ends_target (by decide)⟩

end Rendezvous
