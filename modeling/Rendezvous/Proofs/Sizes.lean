import Mathlib.Algebra.GroupWithZero.Nat
import Rendezvous.Connection

/-!
# How long responses are

The number of bytes of a compact response, counted from its texts without writing it: a text takes
its bytes, more for those that are escaped, and two quotes; a member takes its key, its value, a
colon and a comma.

    r.document.compact.length = r.size                                 (length_compact_response)
    (∃ bytes, r.encode = .ok bytes) ↔ r.size ≤ maxFrameSize            (encode_eq_ok_iff)
-/

namespace Rendezvous

namespace Json

/-! ## Texts -/

/-- How many bytes one byte of a text becomes. -/
def escapedSize (b : UInt8) : Nat :=
  if b ∈ [0x22, 0x5c, 0x08, 0x0c, 0x0a, 0x0d, 0x09] then 2 else if b < 0x20 then 6 else 1

/-- How many bytes a text becomes, without its quotes. -/
def contentSize (s : String) : Nat := ((Utf8.encode s).map escapedSize).sum

/-- How many bytes a text becomes. -/
def textSize (s : String) : Nat := contentSize s + 2

theorem length_escapeByte (b : UInt8) : (escapeByte b).length = escapedSize b := by
  obtain ⟨⟨n⟩⟩ := b
  revert n
  decide +kernel

theorem length_quote (s : String) : (quote s).length = textSize s := by
  have h : ∀ bs : Bytes, (bs.flatMap escapeByte).length = (bs.map escapedSize).sum := by
    intro bs
    induction bs with
    | nil => rfl
    | cons b bs ih =>
      rw [List.flatMap_cons, List.length_append, length_escapeByte, ih]
      rfl
  unfold quote textSize contentSize
  rw [List.length_cons, List.length_append, h]
  rfl

theorem contentSize_append (s t : String) :
    contentSize (s ++ t) = contentSize s + contentSize t := by
  have h : Utf8.encode (s ++ t) = Utf8.encode s ++ Utf8.encode t := by
    simp [Utf8.encode]
  unfold contentSize
  rw [h, List.map_append, List.sum_append]

/-! ## Objects and lists -/

namespace Document

/-- How many bytes the members of an object take, each with a comma. -/
def membersSize (ms : List (String × Document)) : Nat :=
  (ms.map fun m => textSize m.1 + m.2.compact.length + 2).sum

/-- How many bytes the elements of a list take, each with a comma. -/
def itemsSize (ds : List Document) : Nat := (ds.map fun d => d.compact.length + 1).sum

theorem length_compactMembers (ms : List (String × Document)) :
    (compactMembers false ms).length = membersSize ms := by
  induction ms with
  | nil => simp [compactMembers, membersSize]
  | cons m ms ih =>
    obtain ⟨k, d⟩ := m
    rw [compactMembers, List.length_append, ih]
    simp only [Bool.false_eq_true, if_false, List.length_append, List.length_cons, List.length_nil,
      length_quote, membersSize, List.map_cons, List.sum_cons]
    omega

theorem length_compactItems (ds : List Document) :
    (compactItems false ds).length = itemsSize ds := by
  induction ds with
  | nil => simp [compactItems, itemsSize]
  | cons d ds ih =>
    rw [compactItems, List.length_append, ih]
    simp only [Bool.false_eq_true, if_false, List.length_append, List.length_cons, List.length_nil,
      itemsSize, List.map_cons, List.sum_cons]
    omega

/-- The first member has no comma, and there are two braces. -/
theorem length_compact_object {ms : List (String × Document)} (h : ms ≠ []) :
    (compact (.object ms)).length = membersSize ms + 1 := by
  cases ms with
  | nil => exact absurd rfl h
  | cons m ms =>
    obtain ⟨k, d⟩ := m
    rw [compact, compactMembers, List.length_cons, List.length_append, List.length_append,
      length_compactMembers]
    simp only [if_true, List.length_append, List.length_cons, List.length_nil, length_quote,
      membersSize, List.map_cons, List.sum_cons]
    omega

theorem length_compact_list {ds : List Document} (h : ds ≠ []) :
    (compact (.list ds)).length = itemsSize ds + 1 := by
  cases ds with
  | nil => exact absurd rfl h
  | cons d ds =>
    rw [compact, compactItems, List.length_cons, List.length_append, List.length_append,
      length_compactItems]
    simp only [if_true, List.length_append, List.length_cons, List.length_nil, itemsSize,
      List.map_cons, List.sum_cons]
    omega

end Document

end Json

open Json (textSize Document)

/-! ## Responses -/

/-- What a list of results adds to a response: nothing if it is empty. -/
def listSize (l : List String) : Nat :=
  if l.isEmpty then 0 else 16 + (l.map fun s => textSize s + 1).sum

/-- What a map of results adds to a response: nothing if it is empty. -/
def mapSize (t : Table String String) : Nat :=
  if t.isEmpty then 0 else 15 + (t.entries.map fun e => textSize e.1 + textSize e.2 + 2).sum

@[simp] theorem listSize_nil : listSize [] = 0 := by
  rfl

@[simp] theorem mapSize_empty : mapSize .empty = 0 := by
  rfl

/-- How many bytes a response takes. -/
def Response.size (r : Response) : Nat :=
  13 + textSize r.sequence +
    (if r.event.isEmpty then 0 else 9 + textSize r.event) +
    (r.fromId.elim 0 fun s => 11 + textSize s) +
    (r.serviceName.elim 0 fun s => 16 + textSize s) +
    listSize r.resultList + mapSize r.resultMap +
    (if r.error.isEmpty then 0 else 9 + textSize r.error)

theorem membersSize_append (l m : List (String × Document)) :
    Document.membersSize (l ++ m) = Document.membersSize l + Document.membersSize m := by
  simp [Document.membersSize]

theorem membersSize_kept (name value : String) :
    Document.membersSize (kept name value) = textSize name + 2 + textSize value := by
  simp only [kept, Document.membersSize, List.map_cons, List.map_nil, List.sum_cons, List.sum_nil,
    Document.compact, Json.length_quote]
  omega

theorem membersSize_keptSome (name : String) (value : Option String) :
    Document.membersSize (keptSome name value) =
      value.elim 0 fun s => textSize name + 2 + textSize s := by
  cases value with
  | none => rfl
  | some s => exact membersSize_kept name s

theorem membersSize_keptNonempty (name value : String) :
    Document.membersSize (keptNonempty name value) =
      if value.isEmpty then 0 else textSize name + 2 + textSize value := by
  unfold keptNonempty
  split
  · rfl
  · exact membersSize_kept name value

theorem membersSize_list (l : List String) :
    Document.membersSize
      (if l.isEmpty then [] else [("result_list", .list (l.map .text))]) = listSize l := by
  unfold listSize
  split
  · rfl
  · next h =>
    have hne : l.map Document.text ≠ [] := by simpa using h
    have hs : textSize "result_list" = 13 := by decide
    simp only [Document.membersSize, List.map_cons, List.map_nil, List.sum_cons, List.sum_nil,
      Document.length_compact_list hne, Document.itemsSize, List.map_map, hs]
    have he : (l.map ((fun d => d.compact.length + 1) ∘ Document.text)) =
        l.map fun s => textSize s + 1 := by
      simp [Document.compact, Json.length_quote]
    rw [he]
    omega

theorem membersSize_map (t : Table String String) :
    Document.membersSize
      (if t.isEmpty then []
       else [("result_map", .object (t.entries.map fun e => (e.1, .text e.2)))]) = mapSize t := by
  unfold mapSize
  split
  · rfl
  · next h =>
    have hne : (t.entries.map fun e => (e.1, Document.text e.2)) ≠ [] := by
      simpa [Table.isEmpty] using h
    have hs : textSize "result_map" = 12 := by decide
    simp only [Document.membersSize, List.map_cons, List.map_nil, List.sum_cons, List.sum_nil,
      Document.length_compact_object hne, List.map_map, hs]
    have he : (t.entries.map ((fun m => textSize m.1 + m.2.compact.length + 2) ∘
        fun e => (e.1, Document.text e.2))) =
        t.entries.map fun e => textSize e.1 + textSize e.2 + 2 := by
      simp [Document.compact, Json.length_quote]
    rw [he]
    omega

theorem length_compact_response (r : Response) : r.document.compact.length = r.size := by
  unfold Response.document Response.size
  rw [Document.length_compact_object (by simp [kept])]
  simp only [membersSize_append, membersSize_kept, membersSize_keptSome, membersSize_keptNonempty,
    membersSize_list, membersSize_map]
  have hs : textSize "sequence" = 10 := by decide
  have he : textSize "event" = 7 := by decide
  have hf : textSize "from_id" = 9 := by decide
  have hn : textSize "service_name" = 14 := by decide
  have hr : textSize "error" = 7 := by decide
  simp only [hs, he, hf, hn, hr, Nat.reduceAdd]
  omega

theorem encode_eq_ok_iff {r : Response} :
    (∃ bytes, r.encode = .ok bytes) ↔ r.size ≤ maxFrameSize := by
  unfold Response.encode Document.body
  dsimp only
  rw [length_compact_response]
  split
  · next h => simp [h]
  · next h => simp [h]

theorem encode_eq_error {r : Response} (h : maxFrameSize < r.size) :
    r.encode = .error (.tooLarge r.size) := by
  unfold Response.encode Document.body
  dsimp only
  rw [length_compact_response, if_neg (Nat.not_le.2 h)]

/-- A connection that has to write a response ends exactly if the response is too long. -/
theorem takeResponse_eq_finish_iff {k : Connection} {r : Response} :
    (k.takeResponse (some r)).2 = .finish ↔ maxFrameSize < r.size := by
  have hl := length_compact_response r
  show (k.writeResponse r).2 = .finish ↔ _
  unfold Connection.writeResponse Response.encode Document.body
  dsimp only
  rw [hl]
  by_cases h : r.size ≤ maxFrameSize
  · simp [Except.bind, Frame.write, hl, h, Nat.not_lt.2 h]
  · simp [if_neg h, Except.bind, Connection.finish, Nat.lt_of_not_le h]

end Rendezvous
