import Rendezvous.Message.Request
import Rendezvous.Message.Response
import Rendezvous.Json.Document
import Rendezvous.Json.Record

/-!
# The bodies of frames

Requests and responses as JSON. Fields that are unset are left out, except for a sequence, the
action and the sender; a body is at most 64 KiB long.
-/

namespace Rendezvous

/-- The largest body of a frame, in bytes. -/
def maxFrameSize : Nat := 64 * 1024

/-- Why bytes are no frame, or their body no message. -/
inductive CodecError where
  | tooLarge (length : Nat)
  | empty
  | json (fault : Json.Fault) (body : Bytes)
  /-- The stream failed; `ended` if it came to its end. -/
  | stream (ended : Bool)
deriving DecidableEq, Repr

namespace CodecError

/-- Whether the other side closed the stream. -/
def isEnd : CodecError → Bool
  | stream ended => ended
  | _ => false

/-- The text of an error; `wording` is what the stream or the JSON library says of it if it comes
from there. -/
def message (e : CodecError) (wording : String := "") : String :=
  match e with
  | tooLarge length => "frame too large: " ++ toString length ++ " bytes (max 65536)"
  | empty => "empty frame"
  | json fault body => "malformed payload: " ++ fault.message wording body
  | stream _ => "I/O error: " ++ wording

end CodecError

open Json (Document RecordField)

/-! ## Writing -/

/-- A member that is always written. -/
def kept (name value : String) : List (String × Document) := [(name, .text value)]

/-- A member that is written if there is a value. -/
def keptSome (name : String) (value : Option String) : List (String × Document) :=
  match value with
  | some s => kept name s
  | none => []

/-- A member that is written unless it is empty. -/
def keptNonempty (name value : String) : List (String × Document) :=
  if value.isEmpty then [] else kept name value

def Request.document (r : Request) : Document :=
  .object <|
    kept "sequence" r.sequence ++
    kept "action" r.action ++
    kept "from_id" r.fromId ++
    keptSome "to_id" r.toId ++
    keptSome "pwd_digest" r.pwdDigest ++
    keptSome "salt" r.salt ++
    (if r.force then [("force", .flag true)] else []) ++
    keptSome "service_name" r.serviceName ++
    keptSome "service_pwd_digest" r.servicePwdDigest ++
    keptSome "service_desc" r.serviceDesc ++
    keptSome "service_salt" r.serviceSalt ++
    keptSome "ice_candidate" r.iceCandidate ++
    keptSome "ice_ufrag" r.iceUfrag ++
    keptSome "ice_pwd" r.icePwd

def Response.document (r : Response) : Document :=
  .object <|
    kept "sequence" r.sequence ++
    keptNonempty "event" r.event ++
    keptSome "from_id" r.fromId ++
    keptSome "service_name" r.serviceName ++
    (if r.resultList.isEmpty then [] else [("result_list", .list (r.resultList.map .text))]) ++
    (if r.resultMap.isEmpty then []
     else [("result_map", .object (r.resultMap.entries.map fun e => (e.1, .text e.2)))]) ++
    keptNonempty "error" r.error

/-- A document as the body of a frame. -/
def Json.Document.body (d : Document) : Except CodecError Bytes :=
  let bytes := d.compact
  if bytes.length ≤ maxFrameSize then .ok bytes else .error (.tooLarge bytes.length)

def Request.encode (r : Request) : Except CodecError Bytes := r.document.body

def Response.encode (r : Response) : Except CodecError Bytes := r.document.body

/-! ## Reading -/

def Request.fields : List (RecordField Request) :=
  [.defaulted "sequence" Json.readText fun r v => { r with sequence := v },
   .needed "action" Json.readText fun r v => { r with action := v },
   .defaulted "from_id" Json.readText fun r v => { r with fromId := v },
   .defaulted "to_id" (Json.readOptional Json.readText) fun r v => { r with toId := v },
   .defaulted "pwd_digest" (Json.readOptional Json.readText) fun r v => { r with pwdDigest := v },
   .defaulted "salt" (Json.readOptional Json.readText) fun r v => { r with salt := v },
   .defaulted "force" Json.readFlag fun r v => { r with force := v },
   .defaulted "service_name" (Json.readOptional Json.readText) fun r v =>
     { r with serviceName := v },
   .defaulted "service_pwd_digest" (Json.readOptional Json.readText) fun r v =>
     { r with servicePwdDigest := v },
   .defaulted "service_desc" (Json.readOptional Json.readText) fun r v =>
     { r with serviceDesc := v },
   .defaulted "service_salt" (Json.readOptional Json.readText) fun r v =>
     { r with serviceSalt := v },
   .defaulted "ice_candidate" (Json.readOptional Json.readText) fun r v =>
     { r with iceCandidate := v },
   .defaulted "ice_ufrag" (Json.readOptional Json.readText) fun r v => { r with iceUfrag := v },
   .defaulted "ice_pwd" (Json.readOptional Json.readText) fun r v => { r with icePwd := v }]

def Response.fields : List (RecordField Response) :=
  [.defaulted "sequence" Json.readText fun r v => { r with sequence := v },
   .defaulted "event" Json.readText fun r v => { r with event := v },
   .defaulted "from_id" (Json.readOptional Json.readText) fun r v => { r with fromId := v },
   .defaulted "service_name" (Json.readOptional Json.readText) fun r v =>
     { r with serviceName := v },
   .defaulted "result_list" (Json.readList Json.readText) fun r v => { r with resultList := v },
   .defaulted "result_map" (Json.readTable Json.readText) fun r v => { r with resultMap := v },
   .defaulted "error" Json.readText fun r v => { r with error := v }]

/-- The message in a body; a body may not be empty. -/
def decodeBody {α : Type} (read : Json.Reader α) (body : Bytes) : Except CodecError α :=
  if body.isEmpty then .error .empty
  else
    match Json.decode read body with
    | .ok a => .ok a
    | .error f => .error (.json f body)

def Request.decode (body : Bytes) : Except CodecError Request :=
  decodeBody (Json.readRecord "Request" Request.fields {}) body

def Response.decode (body : Bytes) : Except CodecError Response :=
  decodeBody (Json.readRecord "Response" Response.fields {}) body

end Rendezvous
