import Rendezvous.Stun.Packet

/-!
# Attributes of a packet

The body of a packet is a list of attributes (`Spells`): the type and the length of a value, the
value, and bytes that fill it up to a multiple of four, of which the end of the body may cut off
some. Less than an attribute may be left over. The user name of a packet is the last one of the
body, and reading succeeds for the bodies that are such a list and for no other:

    username found body = .ok name ↔
      ∃ as names, Spells as body ∧ Names as names ∧ name = names.getLast?.or found
                                                                        (username_eq_ok_iff)
-/

namespace Rendezvous.Stun

/-! ## Attributes -/

/-- A type and a value that fit into fields of 16 bits. -/
@[ext]
structure Attribute where
  type : Nat
  value : Bytes
  type_lt : type < 0x10000
  length_lt : value.length < 0x10000

namespace Attribute

/-- The bytes of an attribute up to the end of its value. -/
def bytes (a : Attribute) : Bytes :=
  BigEndian.word16 a.type ++ (BigEndian.word16 a.value.length ++ a.value)

/-- How many bytes are missing to a multiple of four. -/
def gap (a : Attribute) : Nat := (4 - a.value.length % 4) % 4

theorem length_add_gap (a : Attribute) : a.value.length + a.gap = padded a.value.length := by
  unfold gap padded
  omega

theorem length_bytes (a : Attribute) : a.bytes.length = 4 + a.value.length := by
  simp only [bytes, List.length_append, BigEndian.length_word16]
  omega

end Attribute

/-- A body is a list of attributes. The end of the body may cut off bytes that fill up the last
one, and less than four bytes are left over. -/
inductive Spells : List Attribute → Bytes → Prop
  | nil {rest : Bytes} (short : rest.length < 4) : Spells [] rest
  | cons (a : Attribute) {as : List Attribute} {fill rest : Bytes} (filled : fill.length = a.gap)
      (more : Spells as rest) : Spells (a :: as) (a.bytes ++ (fill ++ rest))
  | cut (a : Attribute) {fill : Bytes} (short : fill.length < a.gap) :
      Spells [a] (a.bytes ++ fill)

/-- The user names in a list of attributes, each a text. -/
def Names (as : List Attribute) (names : List String) : Prop :=
  (as.filter (·.type = usernameType)).map (·.value) = names.map Utf8.encode

/-! ## The first attribute of a body -/

section
variable {a : Attribute} {as : List Attribute} {names : List String} {t₁ t₂ l₁ l₂ : UInt8}
  {body rest tail : Bytes} {found name : Option String}

theorem length_lt_four (short : ∀ t₁ t₂ l₁ l₂ rest, body = t₁ :: t₂ :: l₁ :: l₂ :: rest → False) :
    body.length < 4 := by
  match body, short with
  | [], _ | [_], _ | [_, _], _ | [_, _, _], _ => simp
  | t₁ :: t₂ :: l₁ :: l₂ :: rest, short => exact absurd rfl (short t₁ t₂ l₁ l₂ rest)

namespace Attribute

/-- The first four bytes of an attribute tell its type and the length of its value. -/
theorem bytes_append_eq_iff :
    a.bytes ++ tail = t₁ :: t₂ :: l₁ :: l₂ :: rest ↔
      a.type = BigEndian.value [t₁, t₂] ∧ a.value.length = BigEndian.value [l₁, l₂] ∧
        a.value ++ tail = rest := by
  have fields : a.bytes ++ tail = BigEndian.word16 a.type ++
      (BigEndian.word16 a.value.length ++ (a.value ++ tail)) := by
    simp only [bytes, List.append_assoc]
  have header : t₁ :: t₂ :: l₁ :: l₂ :: rest = [t₁, t₂] ++ ([l₁, l₂] ++ rest) := rfl
  rw [fields, header]
  constructor
  · intro same
    obtain ⟨type, behind⟩ := List.append_inj same rfl
    obtain ⟨length, value⟩ := List.append_inj behind rfl
    exact ⟨(BigEndian.word16_eq_iff a.type_lt).1 type,
      (BigEndian.word16_eq_iff a.length_lt).1 length, value⟩
  · rintro ⟨type, length, rfl⟩
    rw [(BigEndian.word16_eq_iff a.type_lt).2 type, (BigEndian.word16_eq_iff a.length_lt).2 length]

/-- The attribute at the front of a body that has the whole of its value. -/
def first (t₁ t₂ l₁ l₂ : UInt8) (rest : Bytes)
    (whole : (rest.take (BigEndian.value [l₁, l₂])).length = BigEndian.value [l₁, l₂]) :
    Attribute where
  type := BigEndian.value [t₁, t₂]
  value := rest.take (BigEndian.value [l₁, l₂])
  type_lt := BigEndian.value_pair_lt t₁ t₂
  length_lt := by
    rw [whole]
    exact BigEndian.value_pair_lt l₁ l₂

theorem bytes_first (t₁ t₂ : UInt8)
    (whole : (rest.take (BigEndian.value [l₁, l₂])).length = BigEndian.value [l₁, l₂]) :
    (first t₁ t₂ l₁ l₂ rest whole).bytes ++ rest.drop (BigEndian.value [l₁, l₂]) =
      t₁ :: t₂ :: l₁ :: l₂ :: rest :=
  bytes_append_eq_iff.2 ⟨rfl, whole, List.take_append_drop _ _⟩

/-- The bytes at the front of a body belong to no other attribute. -/
theorem eq_first (same : a.bytes ++ tail = t₁ :: t₂ :: l₁ :: l₂ :: rest) :
    ∃ whole, a = first t₁ t₂ l₁ l₂ rest whole := by
  obtain ⟨type, length, rfl⟩ := bytes_append_eq_iff.1 same
  have value : (a.value ++ tail).take (BigEndian.value [l₁, l₂]) = a.value := by
    rw [← length, List.take_left]
  refine ⟨by rw [value, length], Attribute.ext type value.symm⟩

/-- What follows a value and its full padding. -/
theorem drop_padded {fill : Bytes} (filled : fill.length = a.gap) :
    (a.value ++ (fill ++ rest)).drop (padded a.value.length) = rest := by
  have length : padded a.value.length = (a.value ++ fill).length := by
    rw [List.length_append, filled, a.length_add_gap]
  rw [length, ← List.append_assoc, List.drop_left]

end Attribute

theorem spells_of_short (short : body.length < 4) : Spells as body ↔ as = [] := by
  constructor
  · intro h
    cases h with
    | nil => rfl
    | cons a =>
      rw [List.length_append, a.length_bytes] at short
      omega
    | cut a =>
      rw [List.length_append, a.length_bytes] at short
      omega
  · rintro rfl
    exact .nil short

/-- The first attribute is told from the first bytes of the body, and the others from what follows
its value and what fills that up. -/
theorem spells_iff :
    Spells as (t₁ :: t₂ :: l₁ :: l₂ :: rest) ↔ ∃ whole more,
      as = Attribute.first t₁ t₂ l₁ l₂ rest whole :: more ∧
        Spells more (rest.drop (padded (BigEndian.value [l₁, l₂]))) := by
  constructor
  · intro h
    generalize same : t₁ :: t₂ :: l₁ :: l₂ :: rest = body at h
    cases h with
    | nil short =>
      subst same
      simp only [List.length_cons] at short
      omega
    | @cons a more fill tail filled spells =>
      obtain ⟨whole, first⟩ := Attribute.eq_first same.symm
      obtain ⟨-, length, rfl⟩ := Attribute.bytes_append_eq_iff.1 same.symm
      refine ⟨whole, more, congrArg (· :: more) first, ?_⟩
      rwa [← length, Attribute.drop_padded filled]
    | @cut a fill short =>
      obtain ⟨whole, first⟩ := Attribute.eq_first same.symm
      obtain ⟨-, length, rfl⟩ := Attribute.bytes_append_eq_iff.1 same.symm
      have missing : (a.value ++ fill).length ≤ padded a.value.length := by
        rw [List.length_append, ← a.length_add_gap]
        omega
      refine ⟨whole, [], congrArg ([·]) first, ?_⟩
      rw [← length, List.drop_eq_nil_of_le missing]
      exact .nil (Nat.zero_lt_succ 3)
  · rintro ⟨whole, more, rfl, spells⟩
    generalize hfirst : Attribute.first t₁ t₂ l₁ l₂ rest whole = a
    have same := Attribute.bytes_first t₁ t₂ whole
    rw [hfirst] at same
    obtain ⟨-, length, value⟩ := Attribute.bytes_append_eq_iff.1 same
    generalize rest.drop (BigEndian.value [l₁, l₂]) = tail at same value
    rw [← same]
    rw [← length, ← value] at spells
    -- What fills up the value is all there, or the body ends within it.
    by_cases filled : a.gap ≤ tail.length
    · have fill : (tail.take a.gap).length = a.gap := List.length_take_of_le filled
      rw [← List.take_append_drop a.gap tail, Attribute.drop_padded fill] at spells
      have spelled := Spells.cons a fill spells
      rwa [List.take_append_drop] at spelled
    · have missing : (a.value ++ tail).length ≤ padded a.value.length := by
        rw [List.length_append, ← a.length_add_gap]
        omega
      rw [List.drop_eq_nil_of_le missing] at spells
      rw [(spells_of_short (by decide)).1 spells]
      exact .cut a (Nat.lt_of_not_le filled)

/-! ## User names -/

theorem names_cons_of_username (type : a.type = usernameType) :
    Names (a :: as) names ↔
      ∃ name more, names = name :: more ∧ Utf8.decode? a.value = some name ∧ Names as more := by
  unfold Names
  rw [List.filter_cons_of_pos (by simpa using type), List.map_cons]
  constructor
  · intro h
    obtain ⟨name, more, rfl, value, others⟩ := List.map_eq_cons_iff.1 h.symm
    exact ⟨name, more, rfl, value ▸ Utf8.decode?_encode name, others.symm⟩
  · rintro ⟨name, more, rfl, value, others⟩
    rw [List.map_cons, Utf8.encode_of_decode? value, others]

theorem names_cons_of_other (type : a.type ≠ usernameType) :
    Names (a :: as) names ↔ Names as names := by
  unfold Names
  rw [List.filter_cons_of_neg (by simpa using type)]

theorem getLast?_cons_or (name : String) (names : List String) (found : Option String) :
    (name :: names).getLast?.or found = names.getLast?.or (some name) := by
  rw [List.getLast?_cons]
  cases names.getLast? <;> rfl

/-- The last user name is read off a body that is a list of attributes whose user names are texts,
and nothing is read off another body. -/
theorem username_eq_ok_iff :
    username found body = .ok name ↔
      ∃ as names, Spells as body ∧ Names as names ∧ name = names.getLast?.or found := by
  fun_induction username found body with
  | case1 found t₁ t₂ l₁ l₂ rest length value short =>
    constructor
    · intro h
      cases h
    · rintro ⟨as, names, spells, -⟩
      obtain ⟨whole, -⟩ := spells_iff.1 spells
      exact absurd whole short
  | case2 found t₁ t₂ l₁ l₂ rest length value whole type text =>
    constructor
    · intro h
      cases h
    · rintro ⟨as, names, spells, texts, -⟩
      obtain ⟨whole, more, rfl, -⟩ := spells_iff.1 spells
      obtain ⟨name, -, -, decoded, -⟩ := (names_cons_of_username type).1 texts
      cases text.symm.trans decoded
  | case3 found t₁ t₂ l₁ l₂ rest length value whole type last text ih =>
    rw [ih]
    constructor
    · rintro ⟨as, names, spells, texts, rfl⟩
      refine ⟨_, last :: names, spells_iff.2 ⟨Decidable.not_not.1 whole, as, rfl, spells⟩, ?_,
        (getLast?_cons_or last names found).symm⟩
      exact (names_cons_of_username type).2 ⟨last, names, rfl, text, texts⟩
    · rintro ⟨as, names, spells, texts, rfl⟩
      obtain ⟨whole, more, rfl, behind⟩ := spells_iff.1 spells
      obtain ⟨name, names, rfl, decoded, others⟩ := (names_cons_of_username type).1 texts
      obtain rfl : name = last := Option.some.inj (decoded.symm.trans text)
      exact ⟨more, names, behind, others, getLast?_cons_or name names found⟩
  | case4 found t₁ t₂ l₁ l₂ rest length value whole type ih =>
    rw [ih]
    constructor
    · rintro ⟨as, names, spells, texts, last⟩
      exact ⟨_, names, spells_iff.2 ⟨Decidable.not_not.1 whole, as, rfl, spells⟩,
        (names_cons_of_other type).2 texts, last⟩
    · rintro ⟨as, names, spells, texts, last⟩
      obtain ⟨whole, more, rfl, behind⟩ := spells_iff.1 spells
      exact ⟨more, names, behind, (names_cons_of_other type).1 texts, last⟩
  | case5 found body short =>
    have length := length_lt_four short
    constructor
    · intro h
      cases h
      exact ⟨[], [], .nil length, rfl, rfl⟩
    · rintro ⟨as, names, spells, texts, rfl⟩
      rw [(spells_of_short length).1 spells] at texts
      obtain rfl : names = [] := List.map_eq_nil_iff.1 texts.symm
      rfl

theorem username_eq_error {e : StunError} (failed : username found body = .error e) :
    e = .malformed := by
  fun_induction username found body with
  | case1 => exact (Except.error.inj failed).symm
  | case2 => exact (Except.error.inj failed).symm
  | case3 found t₁ t₂ l₁ l₂ rest length value whole type last text ih => exact ih failed
  | case4 found t₁ t₂ l₁ l₂ rest length value whole type ih => exact ih failed
  | case5 => cases failed

/-- An attribute takes no more bytes than the body it stands in. -/
theorem Spells.length_le (h : Spells as body) (mem : a ∈ as) :
    4 + a.value.length ≤ body.length := by
  induction h with
  | nil => cases mem
  | cons b filled more ih =>
    rw [List.length_append, List.length_append, b.length_bytes]
    cases mem with
    | head => omega
    | tail _ later =>
      have := ih later
      omega
  | cut b short =>
    rw [List.length_append, b.length_bytes]
    obtain rfl := List.mem_singleton.1 mem
    omega

/-- A user name is shorter than the body it is read off. -/
theorem length_username {text : String} (read : username none body = .ok (some text)) :
    4 + text.utf8ByteSize ≤ body.length := by
  obtain ⟨as, names, spells, texts, last⟩ := username_eq_ok_iff.1 read
  rw [Option.or_none] at last
  have mem : Utf8.encode text ∈ names.map Utf8.encode :=
    List.mem_map_of_mem (List.mem_of_getLast? last.symm)
  rw [← texts] at mem
  obtain ⟨a, listed, value⟩ := List.mem_map.1 mem
  have fits := spells.length_le (List.mem_filter.1 listed).1
  rwa [value, Utf8.length_encode] at fits

end

end Rendezvous.Stun
