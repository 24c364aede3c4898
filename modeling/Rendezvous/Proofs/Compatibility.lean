import Rendezvous.Proofs.Arrangements
import Rendezvous.Proofs.Bodies

/-!
# Messages of other clients

A client may write the members of a message in another order, spell them in another way, give values
that could be left out, or add members that nobody knows yet. It is understood all the same:

    BodyText ms body → Tells r.contents ms → (∃ m ∈ ms, m.Named "action") →
      (Request.decode body = .ok r ↔ ∀ m ∈ ms, ∃ k, m.Named k)     (messages_understood_iff)

and so is a response. Only the names have to be texts: where a value is passed over, an escape may
be half of a surrogate pair, but in a name it may not (`half_pair_in_name_refused`).
-/

namespace Rendezvous

open Json

variable {α : Type} {name : String} {seen : List String}

/-! ## Drafts -/

/-- The value of a field if it was noted, the one that a draft begins with otherwise. -/
def noted (seen : List String) (name : String) (value blank : α) : α :=
  bif seen.contains name then value else blank

theorem noted_eq {value blank : α} (h : name ∉ seen → value = blank) :
    noted seen name value blank = value := by
  unfold noted
  cases given : seen.contains name with
  | true => rfl
  | false => exact (h (by simpa using given)).symm

/-! ## Requests -/

/-- The fields of a request and what they hold. -/
def Request.contents (r : Request) : List (String × FieldValue) :=
  [("sequence", .text r.sequence),
   ("action", .text r.action),
   ("from_id", .text r.fromId),
   ("to_id", .optional r.toId),
   ("pwd_digest", .optional r.pwdDigest),
   ("salt", .optional r.salt),
   ("force", .flag r.force),
   ("service_name", .optional r.serviceName),
   ("service_pwd_digest", .optional r.servicePwdDigest),
   ("service_desc", .optional r.serviceDesc),
   ("service_salt", .optional r.serviceSalt),
   ("ice_candidate", .optional r.iceCandidate),
   ("ice_ufrag", .optional r.iceUfrag),
   ("ice_pwd", .optional r.icePwd)]

/-- The draft of a request in which some of its fields were noted. -/
def Request.upTo (r : Request) (seen : List String) : Request where
  sequence := noted seen "sequence" r.sequence ""
  action := noted seen "action" r.action ""
  fromId := noted seen "from_id" r.fromId ""
  toId := noted seen "to_id" r.toId none
  pwdDigest := noted seen "pwd_digest" r.pwdDigest none
  salt := noted seen "salt" r.salt none
  force := noted seen "force" r.force false
  serviceName := noted seen "service_name" r.serviceName none
  servicePwdDigest := noted seen "service_pwd_digest" r.servicePwdDigest none
  serviceDesc := noted seen "service_desc" r.serviceDesc none
  serviceSalt := noted seen "service_salt" r.serviceSalt none
  iceCandidate := noted seen "ice_candidate" r.iceCandidate none
  iceUfrag := noted seen "ice_ufrag" r.iceUfrag none
  icePwd := noted seen "ice_pwd" r.icePwd none

theorem Request.filled_contents (r : Request) : Filled r.upTo Request.fields r.contents := by
  have text {t : String} {v : Bytes} : FieldText (.text t) v → _ := FieldText.takes_text
  have optional {t : Option String} {v : Bytes} : FieldText (.optional t) v → _ :=
    FieldText.takes_optional
  refine .put text (.inr rfl) (fun _ => rfl) ?_
  refine .put text (.inl rfl) (fun _ => rfl) ?_
  refine .put text (.inr rfl) (fun _ => rfl) ?_
  refine .put optional (.inr rfl) (fun _ => rfl) ?_
  refine .put optional (.inr rfl) (fun _ => rfl) ?_
  refine .put optional (.inr rfl) (fun _ => rfl) ?_
  refine .put FieldText.takes_flag (.inr rfl) (fun _ => rfl) ?_
  refine .put optional (.inr rfl) (fun _ => rfl) ?_
  refine .put optional (.inr rfl) (fun _ => rfl) ?_
  refine .put optional (.inr rfl) (fun _ => rfl) ?_
  refine .put optional (.inr rfl) (fun _ => rfl) ?_
  refine .put optional (.inr rfl) (fun _ => rfl) ?_
  refine .put optional (.inr rfl) (fun _ => rfl) ?_
  refine .put optional (.inr rfl) (fun _ => rfl) ?_
  exact .nil

theorem Request.upTo_eq {r : Request}
    (h : ∀ c ∈ r.contents, c.1 ∉ seen → c.2.IsDefault) : r.upTo seen = r := by
  simp only [Request.contents, List.forall_mem_cons, FieldValue.IsDefault] at h
  obtain ⟨h₁, h₂, h₃, h₄, h₅, h₆, h₇, h₈, h₉, h₁₀, h₁₁, h₁₂, h₁₃, h₁₄, -⟩ := h
  unfold Request.upTo
  rw [noted_eq h₁, noted_eq h₂, noted_eq h₃, noted_eq h₄, noted_eq h₅, noted_eq h₆, noted_eq h₇,
    noted_eq h₈, noted_eq h₉, noted_eq h₁₀, noted_eq h₁₁, noted_eq h₁₂, noted_eq h₁₃, noted_eq h₁₄]

/-! ## Responses -/

/-- The fields of a response and what they hold. -/
def Response.contents (r : Response) : List (String × FieldValue) :=
  [("sequence", .text r.sequence),
   ("event", .text r.event),
   ("from_id", .optional r.fromId),
   ("service_name", .optional r.serviceName),
   ("result_list", .list r.resultList),
   ("result_map", .table r.resultMap),
   ("error", .text r.error)]

/-- The draft of a response in which some of its fields were noted. -/
def Response.upTo (r : Response) (seen : List String) : Response where
  sequence := noted seen "sequence" r.sequence ""
  event := noted seen "event" r.event ""
  fromId := noted seen "from_id" r.fromId none
  serviceName := noted seen "service_name" r.serviceName none
  resultList := noted seen "result_list" r.resultList []
  resultMap := noted seen "result_map" r.resultMap .empty
  error := noted seen "error" r.error ""

theorem Response.filled_contents (r : Response) : Filled r.upTo Response.fields r.contents := by
  refine .put FieldText.takes_text (.inr rfl) (fun _ => rfl) ?_
  refine .put FieldText.takes_text (.inr rfl) (fun _ => rfl) ?_
  refine .put FieldText.takes_optional (.inr rfl) (fun _ => rfl) ?_
  refine .put FieldText.takes_optional (.inr rfl) (fun _ => rfl) ?_
  refine .put FieldText.takes_list (.inr rfl) (fun _ => rfl) ?_
  refine .put FieldText.takes_table (.inr rfl) (fun _ => rfl) ?_
  refine .put FieldText.takes_text (.inr rfl) (fun _ => rfl) ?_
  exact .nil

theorem Response.upTo_eq {r : Response}
    (h : ∀ c ∈ r.contents, c.1 ∉ seen → c.2.IsDefault) : r.upTo seen = r := by
  simp only [Response.contents, List.forall_mem_cons, FieldValue.IsDefault] at h
  obtain ⟨h₁, h₂, h₃, h₄, h₅, h₆, h₇, -⟩ := h
  unfold Response.upTo
  rw [noted_eq h₁, noted_eq h₂, noted_eq h₃, noted_eq h₄, noted_eq h₅, noted_eq h₆, noted_eq h₇]

/-! ## Bodies -/

/-- An object of members, with blanks around it. -/
inductive BodyText (ms : List Member) : Bytes → Prop
  | mk {pad v pad' : Bytes} (before : Blank pad) (object : Enclosed .curly MemberText ms v)
      (behind : Blank pad') : BodyText ms (pad ++ (v ++ pad'))

theorem decodeBody_eq_ok_iff {read : Reader α} {a : α} {ms : List Member} {body : Bytes}
    (h : BodyText ms body) : decodeBody read body = .ok a ↔ decode read body = .ok a := by
  have nonempty : body.isEmpty = false := by
    obtain ⟨-, object, -⟩ := h
    cases object <;> simp
  unfold decodeBody
  rw [nonempty]
  cases decode read body <;> simp

/-- A request or a response is understood in any arrangement of its members, with members of unknown
names among them, exactly if all names are texts. -/
theorem messages_understood_iff :
    (∀ (r : Request) (ms : List Member) (body : Bytes), BodyText ms body → Tells r.contents ms →
      (∃ m ∈ ms, m.Named "action") →
        (Request.decode body = .ok r ↔ ∀ m ∈ ms, ∃ k, m.Named k)) ∧
    (∀ (r : Response) (ms : List Member) (body : Bytes), BodyText ms body → Tells r.contents ms →
      (Response.decode body = .ok r ↔ ∀ m ∈ ms, ∃ k, m.Named k)) := by
  constructor
  · intro r ms body h tells action
    have given : ∀ f ∈ Request.fields, f.required = true → ∃ m ∈ ms, m.Named f.name := by
      intro f hf required
      rwa [Request.name_of_required f hf required]
    refine (decodeBody_eq_ok_iff h).trans ?_
    obtain ⟨before, object, behind⟩ := h
    exact decode_record_iff r.filled_contents (fun _ => Request.upTo_eq) tells given object before
      behind
  · intro r ms body h tells
    have given : ∀ f ∈ Response.fields, f.required = true → ∃ m ∈ ms, m.Named f.name :=
      fun f hf required => absurd required (Response.not_required f hf)
    refine (decodeBody_eq_ok_iff h).trans ?_
    obtain ⟨before, object, behind⟩ := h
    exact decode_record_iff r.filled_contents (fun _ => Response.upTo_eq) tells given object before
      behind

/-- Members in another order, one that is unknown and one that could be left out. -/
theorem messages_understood_iff_reordered :
    Request.decode (Utf8.encode
        "\x7b\"later\":[\x7b\"a\":null\x7d],\n\"to_id\":null,\"action\":\"login\"\x7d") =
      .ok { action := "login" } ∧
    Response.decode (Utf8.encode "\x7b\"later\":true,\"result_list\":[\"ssh-box\"]\x7d") =
      .ok { resultList := ["ssh-box"] } := by
  constructor
  · let later : Member := ⟨Utf8.encode "later", Utf8.encode "[\x7b\"a\":null\x7d]"⟩
    let target : Member := ⟨Utf8.encode "to_id", Utf8.encode "null"⟩
    let action : Member := ⟨Utf8.encode "action", Utf8.encode "\"login\""⟩
    have unknown : later.Named "later" := spellsChars_encode rfl
    have to_id : target.Named "to_id" := spellsChars_encode rfl
    have named : action.Named "action" := spellsChars_encode rfl
    have nested : WellFormed .value later.value :=
      have key : TextContent (Utf8.encode "a") := (spellsChars_encode rfl).textContent
      .full (.last (.element blank_nil)
        (.full (.last (.key blank_nil key blank_nil blank_nil) .null blank_nil)) blank_nil)
    have unset : FieldText (.optional none) target.value := .missing
    have login : FieldText (.text "login") action.value := .text (spellsText_encode rfl)
    refine (messages_understood_iff.1 _ [later, target, action] _ ?_ ⟨?_, ?_, ?_⟩ ?_).2 ?_
    · exact .mk blank_nil (.full (.more (unknown.memberText blank_nil)
        (.more (to_id.memberText (blank_newline 0))
          (.last (named.memberText blank_nil))))) blank_nil
    · simp only [List.forall_mem_cons]
      refine ⟨unknown.carries ?_ fun _ => nested, to_id.carries ?_ ?_, named.carries ?_ ?_, nofun⟩
      · simp [Request.contents]
      · simpa [Request.contents] using unset
      · simp [Request.contents]
      · simpa [Request.contents] using login
      · simp [Request.contents]
    · simp only [List.pairwise_cons, List.forall_mem_cons]
      exact ⟨⟨unknown.apart to_id (by decide), unknown.apart named (by decide), nofun⟩,
        ⟨to_id.apart named (by decide), nofun⟩, nofun, .nil⟩
    · simp [Request.contents, FieldValue.IsDefault, named]
    · exact ⟨action, by simp, named⟩
    · simp only [List.forall_mem_cons]
      exact ⟨⟨_, unknown⟩, ⟨_, to_id⟩, ⟨_, named⟩, nofun⟩
  · let later : Member := ⟨Utf8.encode "later", flagBytes true⟩
    let list : Member := ⟨Utf8.encode "result_list", Utf8.encode "[\"ssh-box\"]"⟩
    have unknown : later.Named "later" := spellsChars_encode rfl
    have result_list : list.Named "result_list" := spellsChars_encode rfl
    have text : SpellsText "ssh-box" (Utf8.encode "\"ssh-box\"") := spellsText_encode rfl
    have element := ElementText.mk blank_nil text blank_nil
    have found : FieldText (.list ["ssh-box"]) list.value := .list (.full (.last element))
    refine (messages_understood_iff.2 _ [later, list] _ ?_ ⟨?_, ?_, ?_⟩).2 ?_
    · exact .mk blank_nil (.full (.more (unknown.memberText blank_nil)
        (.last (result_list.memberText blank_nil)))) blank_nil
    · simp only [List.forall_mem_cons]
      refine ⟨unknown.carries ?_ fun _ => .flag true, result_list.carries ?_ ?_, nofun⟩
      · simp [Response.contents]
      · simpa [Response.contents] using found
      · simp [Response.contents]
    · simp only [List.pairwise_cons, List.forall_mem_cons]
      exact ⟨⟨unknown.apart result_list (by decide), nofun⟩, nofun, .nil⟩
    · simp [Response.contents, FieldValue.IsDefault, result_list]
    · simp only [List.forall_mem_cons]
      exact ⟨⟨_, unknown⟩, ⟨_, result_list⟩, nofun⟩

/-- The name of an unknown member may not be just any name: with half of a surrogate pair in it, the
whole body is refused. -/
theorem half_pair_in_name_refused :
    ¬ ∀ (r : Request) (ms : List Member) (body : Bytes), BodyText ms body → Tells r.contents ms →
      (∃ m ∈ ms, m.Named "action") → Request.decode body = .ok r := by
  intro claim
  let action : Member := ⟨Utf8.encode "action", Utf8.encode "\"a\""⟩
  let half : Member := ⟨Utf8.encode "\\ud800", Utf8.encode "null"⟩
  let body := Utf8.encode "\x7b\"action\":\"a\",\"\\ud800\":null\x7d"
  have named : action.Named "action" := spellsChars_encode rfl
  have nameless (k : String) : ¬ half.Named k := fun h => nomatch h.text_eq []
  have zero : HexDigit 0 0x30 := .decimal (by decide)
  have unit : UnitEscape 0xd800 half.name :=
    .mk (.lower (n := 3) (by decide)) (.decimal (n := 8) (by decide)) zero zero
  have a : FieldText (.text "a") action.value := .text (spellsText_encode rfl)
  have text : BodyText [action, half] body :=
    .mk blank_nil (.full (.more (named.memberText blank_nil)
      (.last (.mk blank_nil (.unit unit .nil) blank_nil blank_nil blank_nil)))) blank_nil
  have tells : Tells (Request.contents { action := "a" }) [action, half] := by
    refine ⟨?_, ?_, ?_⟩
    · rw [List.forall_mem_cons, List.forall_mem_singleton]
      refine ⟨named.carries ?_ ?_, fun c _ h => absurd h (nameless c.1), fun _ => .null⟩
      · simpa [Request.contents] using a
      · simp [Request.contents]
    · rw [List.pairwise_pair]
      exact fun c _ both => nameless c.1 both.2
    · simp [Request.contents, named, FieldValue.IsDefault]
  have refused : Request.decode body = .error (.json .malformed body) := rfl
  rw [claim _ _ body text tells ⟨action, List.mem_cons_self .., named⟩] at refused
  cases refused

end Rendezvous
