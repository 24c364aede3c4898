import Rendezvous.Message.Encoding
import Rendezvous.Proofs.Layouts

/-!
# Messages are read as they were written

A request or a response leaves out what it does not carry, and the draft of the record has just that
value already. So what is read in the end is the message, whatever it leaves out:

    Request.decode q.document.compact = .ok q                          (Request.decode_compact)
    Response.decode r.document.compact = .ok r                         (Response.decode_compact)

No limit is needed for that; the limit is checked where frames are written and read.
-/

namespace Rendezvous

open Json (Document RecordField Written)

/-! ## Members -/

variable {σ : Type} {fields : List (RecordField σ)}

theorem written_kept (name value : String) {f : RecordField σ} {put : σ → String → σ} {draft : σ}
    (known : fields.find? (·.name == name) = some f)
    (text : f = .needed name Json.readText put ∨ f = .defaulted name Json.readText put) :
    Written fields (kept name value) draft (put draft value) :=
  .put (Json.reads_text value) known text (.nil _)

/-- A member that is left out stands for the value that the draft has anyway. -/
theorem written_keptSome (name : String) (value : Option String) {put : σ → Option String → σ}
    {draft : σ} (known : fields.find? (·.name == name) =
      some (.defaulted name (Json.readOptional Json.readText) put))
    (blank : put draft none = draft) :
    Written fields (keptSome name value) draft (put draft value) := by
  cases value with
  | none =>
    rw [blank]
    exact .nil draft
  | some v => exact .put (Json.reads_optional v) known (.inr rfl) (.nil _)

/-- A text that is left out is empty, as it is in the draft. -/
theorem written_keptNonempty (name value : String) {put : σ → String → σ} {draft : σ}
    (known : fields.find? (·.name == name) = some (.defaulted name Json.readText put))
    (blank : put draft "" = draft) :
    Written fields (keptNonempty name value) draft (put draft value) := by
  unfold keptNonempty
  split
  · next empty =>
    rw [String.isEmpty_iff.1 empty, blank]
    exact .nil draft
  · exact written_kept name value known (.inr rfl)

theorem keys_keptSome (name : String) (value : Option String) :
    ((keptSome name value).map Prod.fst).Sublist [name] := by
  cases value with
  | none => exact List.nil_sublist _
  | some v => exact List.Sublist.refl _

/-- A member that stands only under a condition. -/
theorem keys_unless (b : Bool) (name : String) (d : Document) :
    ((if b then [] else [(name, d)]).map Prod.fst).Sublist [name] := by
  cases b with
  | true => exact List.nil_sublist _
  | false => exact List.Sublist.refl _

/-! ## Requests -/

/-- The members of a request, those that are left out aside. -/
def Request.members (q : Request) : List (String × Document) :=
  kept "sequence" q.sequence ++ kept "action" q.action ++ kept "from_id" q.fromId ++
    keptSome "to_id" q.toId ++ keptSome "pwd_digest" q.pwdDigest ++ keptSome "salt" q.salt ++
    (if q.force then [("force", .flag true)] else []) ++
    keptSome "service_name" q.serviceName ++ keptSome "service_pwd_digest" q.servicePwdDigest ++
    keptSome "service_desc" q.serviceDesc ++ keptSome "service_salt" q.serviceSalt ++
    keptSome "ice_candidate" q.iceCandidate ++ keptSome "ice_ufrag" q.iceUfrag ++
    keptSome "ice_pwd" q.icePwd

theorem written_force (value : Bool) {draft : Request} (blank : draft.force = false) :
    Written Request.fields (if value then [("force", .flag true)] else []) draft
      { draft with force := value } := by
  cases value with
  | false =>
    have : { draft with force := false } = draft := by rw [← blank]
    rw [this]
    exact .nil draft
  | true => exact .put (Json.reads_flag true) rfl (.inr rfl) (.nil _)

/-- Reading the members of a request from the blank one gives the request. -/
theorem Request.written_members (q : Request) : Written Request.fields q.members {} q := by
  have h : Written Request.fields [] {} {} := .nil _
  have h := h.append (written_kept "sequence" q.sequence rfl (.inr rfl))
  have h := h.append (written_kept "action" q.action rfl (.inl rfl))
  have h := h.append (written_kept "from_id" q.fromId rfl (.inr rfl))
  have h := h.append (written_keptSome "to_id" q.toId rfl rfl)
  have h := h.append (written_keptSome "pwd_digest" q.pwdDigest rfl rfl)
  have h := h.append (written_keptSome "salt" q.salt rfl rfl)
  have h := h.append (written_force q.force rfl)
  have h := h.append (written_keptSome "service_name" q.serviceName rfl rfl)
  have h := h.append (written_keptSome "service_pwd_digest" q.servicePwdDigest rfl rfl)
  have h := h.append (written_keptSome "service_desc" q.serviceDesc rfl rfl)
  have h := h.append (written_keptSome "service_salt" q.serviceSalt rfl rfl)
  have h := h.append (written_keptSome "ice_candidate" q.iceCandidate rfl rfl)
  have h := h.append (written_keptSome "ice_ufrag" q.iceUfrag rfl rfl)
  have h := h.append (written_keptSome "ice_pwd" q.icePwd rfl rfl)
  exact h

/-- The members stand in the order of the fields. -/
theorem Request.keys_members (q : Request) :
    (q.members.map Prod.fst).Sublist (Request.fields.map RecordField.name) := by
  have force : ((if q.force then [("force", Document.flag true)] else []).map Prod.fst).Sublist
      ["force"] := by
    cases q.force with
    | false => exact List.nil_sublist _
    | true => exact List.Sublist.refl _
  have h := (List.Sublist.refl ["sequence", "action", "from_id"]).append
    (keys_keptSome "to_id" q.toId)
  have h := h.append (keys_keptSome "pwd_digest" q.pwdDigest)
  have h := h.append (keys_keptSome "salt" q.salt)
  have h := h.append force
  have h := h.append (keys_keptSome "service_name" q.serviceName)
  have h := h.append (keys_keptSome "service_pwd_digest" q.servicePwdDigest)
  have h := h.append (keys_keptSome "service_desc" q.serviceDesc)
  have h := h.append (keys_keptSome "service_salt" q.serviceSalt)
  have h := h.append (keys_keptSome "ice_candidate" q.iceCandidate)
  have h := h.append (keys_keptSome "ice_ufrag" q.iceUfrag)
  have h := h.append (keys_keptSome "ice_pwd" q.icePwd)
  simpa [Request.members, kept, Request.fields, RecordField.needed, RecordField.defaulted] using h

theorem Request.name_of_required :
    ∀ f ∈ Request.fields, f.required = true → f.name = "action" := by
  decide

/-- A request is read as it was written. -/
theorem Request.decode_compact (q : Request) :
    Request.decode q.document.compact = .ok q := by
  have once : (q.members.map Prod.fst).Nodup := q.keys_members.nodup (by decide)
  have given : ∀ f ∈ Request.fields, f.required = true → f.name ∈ q.members.map Prod.fst := by
    intro f hf hr
    rw [Request.name_of_required f hf hr]
    simp [Request.members, kept]
  have reads : Json.Reads (Json.readRecord "Request" Request.fields {}) q.document q :=
    Json.reads_record q.written_members once given
  have decoded := Json.decode_of_reads reads (.compact q.document)
  unfold Request.decode decodeBody
  rw [decoded]
  rfl

/-! ## Responses -/

/-- The members of a response, those that are left out aside. -/
def Response.members (r : Response) : List (String × Document) :=
  kept "sequence" r.sequence ++ keptNonempty "event" r.event ++ keptSome "from_id" r.fromId ++
    keptSome "service_name" r.serviceName ++
    (if r.resultList.isEmpty then [] else [("result_list", .list (r.resultList.map .text))]) ++
    (if r.resultMap.isEmpty then [] else [("result_map", tableDocument .text r.resultMap)]) ++
    keptNonempty "error" r.error

theorem written_resultList (value : List String) {draft : Response}
    (blank : draft.resultList = []) :
    Written Response.fields
      (if value.isEmpty then [] else [("result_list", .list (value.map .text))]) draft
      { draft with resultList := value } := by
  cases value with
  | nil =>
    have : { draft with resultList := [] } = draft := by rw [← blank]
    rw [this]
    exact .nil draft
  | cons s value => exact .put (Json.reads_list fun t _ => Json.reads_text t) rfl (.inr rfl) (.nil _)

theorem written_resultMap (value : Table String String) {draft : Response}
    (blank : draft.resultMap = .empty) :
    Written Response.fields
      (if value.isEmpty then [] else [("result_map", tableDocument .text value)]) draft
      { draft with resultMap := value } := by
  split
  · next empty =>
    have none : value = .empty := by
      obtain ⟨entries, sorted⟩ := value
      cases List.isEmpty_iff.1 empty
      rfl
    have : { draft with resultMap := value } = draft := by rw [none, ← blank]
    rw [this]
    exact .nil draft
  · exact .put (Json.reads_table fun e _ => Json.reads_text e.2) rfl (.inr rfl) (.nil _)

/-- Reading the members of a response from the blank one gives the response. -/
theorem Response.written_members (r : Response) : Written Response.fields r.members {} r := by
  have h : Written Response.fields [] {} {} := .nil _
  have h := h.append (written_kept "sequence" r.sequence rfl (.inr rfl))
  have h := h.append (written_keptNonempty "event" r.event rfl rfl)
  have h := h.append (written_keptSome "from_id" r.fromId rfl rfl)
  have h := h.append (written_keptSome "service_name" r.serviceName rfl rfl)
  have h := h.append (written_resultList r.resultList rfl)
  have h := h.append (written_resultMap r.resultMap rfl)
  have h := h.append (written_keptNonempty "error" r.error rfl rfl)
  exact h

theorem Response.nodup_members (r : Response) : (r.members.map Prod.fst).Nodup := by
  have nonempty : ∀ name value, ((keptNonempty name value).map Prod.fst).Sublist [name] :=
    fun name value => keys_unless value.isEmpty name (.text value)
  have h := (List.Sublist.refl ["sequence"]).append (nonempty "event" r.event)
  have h := h.append (keys_keptSome "from_id" r.fromId)
  have h := h.append (keys_keptSome "service_name" r.serviceName)
  have h := h.append
    (keys_unless r.resultList.isEmpty "result_list" (.list (r.resultList.map .text)))
  have h := h.append
    (keys_unless r.resultMap.isEmpty "result_map" (tableDocument .text r.resultMap))
  have h := h.append (nonempty "error" r.error)
  have keys : (r.members.map Prod.fst).Sublist (Response.fields.map RecordField.name) := by
    simpa [Response.members, kept, Response.fields, RecordField.defaulted] using h
  exact keys.nodup (by decide)

theorem Response.not_required : ∀ f ∈ Response.fields, f.required ≠ true := by
  decide

/-- A response is read as it was written. -/
theorem Response.decode_compact (r : Response) :
    Response.decode r.document.compact = .ok r := by
  have given : ∀ f ∈ Response.fields, f.required = true → f.name ∈ r.members.map Prod.fst :=
    fun f hf hr => absurd hr (Response.not_required f hf)
  have reads : Json.Reads (Json.readRecord "Response" Response.fields {}) r.document r :=
    Json.reads_record r.written_members r.nodup_members given
  have decoded := Json.decode_of_reads reads (.compact r.document)
  unfold Response.decode decodeBody
  rw [decoded]
  rfl

end Rendezvous
