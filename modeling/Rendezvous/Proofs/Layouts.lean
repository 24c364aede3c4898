import Rendezvous.Database.Snapshot
import Rendezvous.Proofs.Decimals
import Rendezvous.Proofs.Texts

/-!
# Documents are read as they were written

A document is written compactly, or laid out at some level of indentation (`Form`). Blanks aside,
both have the same members in the same order, and one proof covers both. `Reads read d a` says that
a reader takes the document for a value, whatever blanks stand before it:

    Reads read d a → Form d v → decode read v = .ok a                  (decode_of_reads)

It holds of texts, flags and numbers, and of lists, tables and records if it holds of what is in
them. The members of a record are read in the order in which they were written, and each puts its value into
the draft of the record (`Written`).
-/

namespace Rendezvous.Json

variable {α σ : Type} {pad gap close s v w : Bytes} {first : Bool} {whole fuel : Nat}

/-! ## Blanks -/

def Blank (pad : Bytes) : Prop := ∀ b ∈ pad, isBlank b = true

theorem blank_nil : Blank [] := fun _ h => nomatch h

theorem blank_space : Blank [0x20] := by
  intro b hb
  rw [List.mem_singleton.1 hb]
  rfl

theorem blank_newline (level : Nat) : Blank (Document.newline level) := by
  intro b hb
  rcases List.mem_cons.1 hb with rfl | hb
  · rfl
  · rw [List.eq_of_mem_replicate hb]
    rfl

theorem skipBlanks_append (h : Blank pad) (s : Bytes) : skipBlanks (pad ++ s) = skipBlanks s :=
  List.dropWhile_append_of_pos h

theorem follows_nil : Follows [] := fun _ h => nomatch h

theorem follows_comma (s : Bytes) : Follows (0x2c :: s) := by
  rintro _ ⟨⟩
  decide

theorem follows_brace (s : Bytes) : Follows (0x7d :: s) := by
  rintro _ ⟨⟩
  decide

theorem follows_bracket (s : Bytes) : Follows (0x5d :: s) := by
  rintro _ ⟨⟩
  decide

theorem follows_append (h : Blank pad) (hs : Follows s) : Follows (pad ++ s) := by
  cases pad with
  | nil => exact hs
  | cons b pad =>
    rintro _ ⟨⟩
    have hb := h b (List.mem_cons_self ..)
    simp only [isBlank, Bool.or_eq_true, beq_iff_eq] at hb
    rcases hb with ((rfl | rfl) | rfl) | rfl
    all_goals decide

theorem nextKey_append (h : Blank pad) (s : Bytes) :
    nextKey first (pad ++ s) = nextKey first s := by
  unfold nextKey
  rw [skipBlanks_append h]

theorem nextKey_comma (h : Blank pad) (s : Bytes) :
    nextKey false (0x2c :: (pad ++ s)) = nextKey false (0x2c :: s) := by
  have comma : ∀ s, skipBlanks (0x2c :: s) = 0x2c :: s := fun _ => rfl
  unfold nextKey
  rw [comma, comma]
  dsimp only
  rw [skipBlanks_append h]
  rfl

/-- The key of the next member, at the beginning of an object or behind another member. -/
theorem nextKey_text (hp : Blank pad) (s : Bytes) :
    nextKey first ((if first then [] else [0x2c]) ++ pad ++ 0x22 :: s) =
      (text s).map fun r => (some r.1, r.2) := by
  rw [List.append_assoc]
  cases first with
  | true => exact (nextKey_append hp _).trans (nextKey_first s)
  | false => exact (nextKey_comma hp _).trans (nextKey_later s)

theorem nextKey_quote (hp : Blank pad) (k : String) (s : Bytes) :
    nextKey first ((if first then [] else [0x2c]) ++ pad ++ quote k ++ s) = .ok (some k, s) := by
  rw [List.append_assoc, quote_append, nextKey_text hp, text_escaped]
  rfl

theorem nextKey_brace (h : Blank pad) (s : Bytes) :
    nextKey first (pad ++ 0x7d :: s) = .ok (none, s) := by
  unfold nextKey
  rw [skipBlanks_append h]
  exact nextKey_end first s

/-! ## Forms -/

/-- The ways in which a document is written. -/
inductive Form : Document → Bytes → Prop
  | compact (d : Document) : Form d d.compact
  | indented (level : Nat) (d : Document) : Form d (d.indented level)

/-- The members of an object as they are written, with blanks before each key and behind its
colon. -/
inductive MemberForms (pad gap : Bytes) : Bool → List (String × Document) → Bytes → Prop
  | nil (first : Bool) : MemberForms pad gap first [] []
  | cons (first : Bool) (k : String) {d : Document} {ms : List (String × Document)} {v w : Bytes}
      (form : Form d v) (more : MemberForms pad gap false ms w) :
      MemberForms pad gap first ((k, d) :: ms)
        ((if first then [] else [0x2c]) ++ pad ++ quote k ++ (0x3a :: (gap ++ (v ++ w))))

/-- The elements of a list as they are written, with blanks before each. -/
inductive ItemForms (pad : Bytes) : Bool → List Document → Bytes → Prop
  | nil (first : Bool) : ItemForms pad first [] []
  | cons (first : Bool) {d : Document} {ds : List Document} {v w : Bytes} (form : Form d v)
      (more : ItemForms pad false ds w) :
      ItemForms pad first (d :: ds) ((if first then [] else [0x2c]) ++ pad ++ (v ++ w))

theorem Form.text {t : String} (h : Form (.text t) v) : v = quote t := by
  cases h <;> rfl

theorem Form.flag {b : Bool} (h : Form (.flag b) v) : v = flagBytes b := by
  cases h <;> rfl

theorem Form.natural {n : Nat} (h : Form (.natural n) v) : v = decimal n := by
  cases h <;> rfl

/-- A digit is nothing else that means something in a document. -/
theorem of_isDigit {b : UInt8} (h : isDigit b = true) :
    b ≠ 0x2b ∧ b ≠ 0x2d ∧ b ≠ 0x22 ∧ b ≠ 0x6e ∧ b ≠ 0x74 ∧ b ≠ 0x66 ∧ b ≠ 0x5b ∧ b ≠ 0x5d ∧
      b ≠ 0x7b ∧ b ≠ 0x7d ∧ isBlank b = false := by
  obtain ⟨⟨n⟩⟩ := b
  revert n
  decide +kernel

/-- A document begins with neither a blank nor the bracket at the end of a list. -/
theorem Form.head {d : Document} (h : Form d v) :
    ∃ b rest, v = b :: rest ∧ isBlank b = false ∧ b ≠ 0x5d := by
  have digits : ∀ n, ∃ b rest, decimal n = b :: rest ∧ isBlank b = false ∧ b ≠ 0x5d := by
    intro n
    obtain ⟨b, rest, hd, digit⟩ := head_decimal n
    obtain ⟨-, -, -, -, -, -, -, bracket, -, -, bare⟩ := of_isDigit digit
    exact ⟨b, rest, hd, bare, bracket⟩
  have flags : ∀ b, ∃ c rest, flagBytes b = c :: rest ∧ isBlank c = false ∧ c ≠ 0x5d := by
    intro b
    cases b
    · exact ⟨0x66, _, rfl, by decide⟩
    · exact ⟨0x74, _, rfl, by decide⟩
  cases h with
  | compact =>
    cases d with
    | text => exact ⟨0x22, _, rfl, by decide⟩
    | flag b => exact flags b
    | natural n => exact digits n
    | list => exact ⟨0x5b, _, rfl, by decide⟩
    | object => exact ⟨0x7b, _, rfl, by decide⟩
  | indented =>
    cases d with
    | text => exact ⟨0x22, _, rfl, by decide⟩
    | flag b => exact flags b
    | natural n => exact digits n
    | list ds => cases ds <;> exact ⟨0x5b, _, rfl, by decide⟩
    | object ms => cases ms <;> exact ⟨0x7b, _, rfl, by decide⟩

theorem memberForms_compact (first : Bool) (ms : List (String × Document)) :
    MemberForms [] [] first ms (Document.compactMembers first ms) := by
  induction ms generalizing first with
  | nil => exact .nil first
  | cons m ms ih =>
    obtain ⟨k, d⟩ := m
    simpa [Document.compactMembers] using MemberForms.cons first k (.compact d) (ih false)

theorem memberForms_indented (level : Nat) (first : Bool) (ms : List (String × Document)) :
    MemberForms (Document.newline level) [0x20] first ms
      (Document.indentedMembers level first ms) := by
  induction ms generalizing first with
  | nil => exact .nil first
  | cons m ms ih =>
    obtain ⟨k, d⟩ := m
    simpa [Document.indentedMembers] using MemberForms.cons first k (.indented level d) (ih false)

theorem itemForms_compact (first : Bool) (ds : List Document) :
    ItemForms [] first ds (Document.compactItems first ds) := by
  induction ds generalizing first with
  | nil => exact .nil first
  | cons d ds ih => simpa [Document.compactItems] using ItemForms.cons first (.compact d) (ih false)

theorem itemForms_indented (level : Nat) (first : Bool) (ds : List Document) :
    ItemForms (Document.newline level) first ds (Document.indentedItems level first ds) := by
  induction ds generalizing first with
  | nil => exact .nil first
  | cons d ds ih =>
    simpa [Document.indentedItems] using ItemForms.cons first (.indented level d) (ih false)

/-- Both forms of a list are its elements between brackets. -/
theorem Form.list {ds : List Document} (h : Form (.list ds) v) :
    ∃ pad close w, Blank pad ∧ Blank close ∧ ItemForms pad true ds w ∧
      v = 0x5b :: (w ++ (close ++ [0x5d])) := by
  cases h with
  | compact => exact ⟨[], [], _, blank_nil, blank_nil, itemForms_compact true ds, rfl⟩
  | indented level =>
    cases ds with
    | nil => exact ⟨[], [], _, blank_nil, blank_nil, .nil true, rfl⟩
    | cons d ds =>
      refine ⟨_, _, _, blank_newline _, blank_newline level,
        itemForms_indented (level + 1) true (d :: ds), ?_⟩
      simp [Document.indented]

/-- Both forms of an object are its members between braces. -/
theorem Form.object {ms : List (String × Document)} (h : Form (.object ms) v) :
    ∃ pad gap close w, Blank pad ∧ Blank gap ∧ Blank close ∧ MemberForms pad gap true ms w ∧
      v = 0x7b :: (w ++ (close ++ [0x7d])) := by
  cases h with
  | compact =>
    exact ⟨[], [], [], _, blank_nil, blank_nil, blank_nil, memberForms_compact true ms, rfl⟩
  | indented level =>
    cases ms with
    | nil => exact ⟨[], [], [], _, blank_nil, blank_nil, blank_nil, .nil true, rfl⟩
    | cons m ms =>
      refine ⟨_, _, _, _, blank_newline _, blank_space, blank_newline level,
        memberForms_indented (level + 1) true (m :: ms), ?_⟩
      simp [Document.indented]

namespace MemberForms

variable {ms : List (String × Document)}

theorem length_le (h : MemberForms pad gap first ms w) : ms.length ≤ w.length := by
  induction h with
  | nil => exact Nat.le_refl 0
  | cons first k form more ih =>
    simp only [List.length_append, List.length_cons]
    omega

/-- Behind a value stands a comma, or blanks and the brace at the end of the object. -/
theorem follows (h : MemberForms pad gap false ms w) (hc : Blank close) (s : Bytes) :
    Follows (w ++ (close ++ 0x7d :: s)) := by
  cases h with
  | nil =>
    rw [List.nil_append]
    exact follows_append hc (follows_brace s)
  | cons => exact follows_comma _

end MemberForms

namespace ItemForms

variable {ds : List Document}

theorem length_le (h : ItemForms pad first ds w) : ds.length ≤ w.length := by
  induction h with
  | nil => exact Nat.le_refl 0
  | cons first form more ih =>
    obtain ⟨b, rest, rfl, -⟩ := form.head
    simp only [List.length_append, List.length_cons]
    omega

/-- Behind an element stands a comma, or blanks and the bracket at the end of the list. -/
theorem follows (h : ItemForms pad false ds w) (hc : Blank close) (s : Bytes) :
    Follows (w ++ (close ++ 0x5d :: s)) := by
  cases h with
  | nil =>
    rw [List.nil_append]
    exact follows_append hc (follows_bracket s)
  | cons => exact follows_comma _

end ItemForms

/-! ## What readers take a document for -/

/-- A reader takes a document, in each of its forms, for a value. -/
def Reads (read : Reader α) (d : Document) (a : α) : Prop :=
  ∀ ⦃v whole pad s⦄, Form d v → v.length ≤ whole → Blank pad → Follows s →
    read whole (pad ++ (v ++ s)) = .ok (a, s)

theorem reads_text (t : String) : Reads readText (.text t) t := by
  intro v whole pad s form _ hp _
  have bare : readText whole (quote t ++ s) = .ok (t, s) := readText_quote t s
  rw [form.text]
  unfold readText at bare ⊢
  rwa [skipBlanks_append hp]

theorem reads_optional (t : String) : Reads (readOptional readText) (.text t) (some t) := by
  intro v whole pad s form _ hp _
  have bare : readOptional readText whole (quote t ++ s) = .ok (some t, s) :=
    readOptional_quote t s
  rw [form.text]
  unfold readOptional at bare ⊢
  rwa [skipBlanks_append hp]

theorem reads_flag (b : Bool) : Reads readFlag (.flag b) b := by
  intro v whole pad s form _ hp _
  rw [form.flag]
  unfold readFlag
  rw [skipBlanks_append hp]
  cases b <;> rfl

theorem reads_word (n : UInt64) : Reads readWord (.natural n.toNat) n := by
  intro v whole pad s form _ hp hs
  have bare : readWord whole (decimal n.toNat ++ s) = .ok (n, s) := readWord_decimal n hs
  rw [form.natural]
  unfold readWord at bare ⊢
  rwa [skipBlanks_append hp]

/-! ## Lists -/

/-- The next element, at the beginning of a list or behind another element, is found by its first
byte. -/
theorem nextElement_cons {b : UInt8} (hp : Blank pad) (bare : isBlank b = false)
    (bracket : b ≠ 0x5d) (s : Bytes) :
    nextElement first ((if first then [] else [0x2c]) ++ pad ++ b :: s) = .ok (some (b :: s)) := by
  have skipped : skipBlanks (pad ++ b :: s) = b :: s := by
    rw [skipBlanks_append hp]
    simp [skipBlanks, bare]
  rw [List.append_assoc]
  cases first with
  | true =>
    show nextElement true (pad ++ _) = _
    unfold nextElement
    simp only [skipped, if_neg bracket, if_true]
  | false =>
    have comma : ∀ s, skipBlanks (0x2c :: s) = 0x2c :: s := fun _ => rfl
    show nextElement false (0x2c :: (pad ++ _)) = _
    unfold nextElement
    rw [comma]
    simp [skipped, bracket]

theorem nextElement_form {d : Document} (hp : Blank pad) (h : Form d v) (s : Bytes) :
    nextElement first ((if first then [] else [0x2c]) ++ pad ++ (v ++ s)) =
      .ok (some (v ++ s)) := by
  obtain ⟨b, rest, rfl, bare, bracket⟩ := h.head
  exact nextElement_cons hp bare bracket (rest ++ s)

theorem nextElement_bracket (h : Blank pad) (s : Bytes) :
    nextElement first (pad ++ 0x5d :: s) = .ok none := by
  unfold nextElement
  rw [skipBlanks_append h]
  rfl

theorem endList_bracket (h : Blank pad) (s : Bytes) : endList (pad ++ 0x5d :: s) = .ok s := by
  unfold endList
  rw [skipBlanks_append h]
  rfl

/-- Elements are read as they were written, one after the other. -/
theorem elements_of_forms {read : Reader α} {write : α → Document} (hp : Blank pad)
    (hc : Blank close) {xs : List α} (each : ∀ x ∈ xs, Reads read (write x) x) (acc : List α)
    (h : ItemForms pad acc.isEmpty (xs.map write) w) (fits : w.length ≤ whole)
    (enough : xs.length < fuel) (s : Bytes) :
    elements read whole fuel acc (w ++ (close ++ 0x5d :: s)) = .ok (acc.reverse ++ xs, s) := by
  induction xs generalizing acc fuel w with
  | nil =>
    cases fuel with
    | zero => cases enough
    | succ fuel =>
      cases h
      rw [elements, List.nil_append, nextElement_bracket hc, List.append_nil]
      show (endList _).bind _ = _
      rw [endList_bracket hc]
      rfl
  | cons x xs ih =>
    cases fuel with
    | zero => cases enough
    | succ fuel =>
      rw [List.map_cons] at h
      cases h with
      | @cons _ _ _ v w form more =>
        simp only [List.length_append] at fits
        have value := each x (List.mem_cons_self ..) form (show v.length ≤ whole by omega)
          blank_nil (more.follows hc s)
        have rest := ih (fun y hy => each y (List.mem_cons_of_mem _ hy)) (x :: acc) more
          (by omega) (Nat.lt_of_succ_lt_succ enough)
        rw [List.nil_append] at value
        rw [elements, List.append_assoc, List.append_assoc v, nextElement_form hp form]
        simp only [bind, Except.bind, value, rest, List.reverse_cons, List.append_assoc,
          List.singleton_append]

/-- A list is read as it was written. -/
theorem reads_list {read : Reader α} {write : α → Document} {xs : List α}
    (each : ∀ x ∈ xs, Reads read (write x) x) :
    Reads (readList read) (.list (xs.map write)) xs := by
  intro v whole pad s form fits hp _
  obtain ⟨_, close, w, hp', hc, items, rfl⟩ := form.list
  have length := items.length_le
  simp only [List.length_map, List.length_cons, List.length_append] at length fits
  have read_items := elements_of_forms hp' hc each [] items
    (show w.length ≤ whole by omega) (show xs.length < whole by omega) s
  unfold readList
  rw [skipBlanks_append hp]
  show elements read whole whole [] (w ++ (close ++ [0x5d]) ++ s) = _
  rw [List.append_assoc, List.append_assoc]
  exact read_items

/-! ## Tables -/

/-- Entries are read as they were written and inserted one after the other. -/
theorem tableEntries_of_forms {read : Reader α} {write : α → Document}
    (hp : Blank pad) (hg : Blank gap) (hc : Blank close) {entries : List (String × α)}
    (each : ∀ e ∈ entries, Reads read (write e.2) e.2)
    (h : MemberForms pad gap first (entries.map fun e => (e.1, write e.2)) w)
    (fits : w.length ≤ whole) (enough : entries.length < fuel) (t : Table String α) (s : Bytes) :
    tableEntries read whole fuel first t (w ++ (close ++ 0x7d :: s)) =
      .ok (entries.foldl (fun t e => t.insert e.1 e.2) t, s) := by
  induction entries generalizing first fuel t w with
  | nil =>
    cases fuel with
    | zero => cases enough
    | succ fuel =>
      cases h
      rw [tableEntries, List.nil_append, nextKey_brace hc]
      rfl
  | cons e entries ih =>
    cases fuel with
    | zero => cases enough
    | succ fuel =>
      cases h with
      | @cons _ k d _ v w form more =>
        simp only [List.length_append, List.length_cons] at fits
        have value := each e (List.mem_cons_self ..) form (show v.length ≤ whole by omega) hg
          (more.follows hc s)
        have rest := ih (fun e he => each e (List.mem_cons_of_mem _ he)) more
          (by omega) (Nat.lt_of_succ_lt_succ enough) (t.insert e.1 e.2)
        rw [tableEntries, List.append_assoc, nextKey_quote hp]
        simp only [bind, Except.bind, List.cons_append, List.append_assoc, colon_cons, value, rest,
          List.foldl_cons]

/-- A table is read as it was written, whatever its keys are. -/
theorem reads_table {read : Reader α} {write : α → Document} {t : Table String α}
    (each : ∀ e ∈ t.entries, Reads read (write e.2) e.2) :
    Reads (readTable read) (tableDocument write t) t := by
  intro v whole pad s form fits hp _
  obtain ⟨_, _, close, w, hp', hg, hc, members, rfl⟩ := form.object
  have length := members.length_le
  simp only [List.length_map, List.length_cons, List.length_append] at length fits
  have entries := tableEntries_of_forms hp' hg hc each members (show w.length ≤ whole by omega)
    (show t.entries.length < whole by omega) .empty s
  unfold readTable
  rw [skipBlanks_append hp]
  show tableEntries read whole whole true .empty (w ++ (close ++ [0x7d]) ++ s) = _
  rw [List.append_assoc, List.append_assoc]
  exact entries.trans (congrArg (fun t => Except.ok (t, s)) t.ofList_entries)

/-! ## Records -/

variable {fields : List (RecordField σ)} {ms ms' : List (String × Document)}
  {draft next last blank : σ}

/-- Reading the members from one draft gives another draft. -/
inductive Written (fields : List (RecordField σ)) : List (String × Document) → σ → σ → Prop
  | nil (draft : σ) : Written fields [] draft draft
  | cons {k : String} {d : Document} {ms : List (String × Document)} {f : RecordField σ}
      {draft next last : σ} (known : fields.find? (·.name == k) = some f)
      (read : Reads (f.read draft) d next) (more : Written fields ms next last) :
      Written fields ((k, d) :: ms) draft last

/-- A field puts what its reader takes the document for into the draft. -/
theorem Written.put {k : String} {d : Document} {f : RecordField σ} {read : Reader α} {a : α}
    {put : σ → α → σ} (h : Reads read d a) (known : fields.find? (·.name == k) = some f)
    (field : f = .needed k read put ∨ f = .defaulted k read put)
    (more : Written fields ms (put draft a) last) : Written fields ((k, d) :: ms) draft last := by
  refine .cons known (fun v whole pad s form fits hp hs => ?_) more
  have value := h form fits hp hs
  rcases field with rfl | rfl
  all_goals
    show (read whole _).bind _ = _
    rw [value]
    rfl

theorem Written.append (h : Written fields ms draft next) (h' : Written fields ms' next last) :
    Written fields (ms ++ ms') draft last := by
  induction h with
  | nil => exact h'
  | cons known read _ ih => exact .cons known read (ih h')

/-- Members are read as they were written, each name once. -/
theorem members_of_written (h : Written fields ms draft last) (hp : Blank pad) (hg : Blank gap)
    (hc : Blank close) (forms : MemberForms pad gap first ms w) (fits : w.length ≤ whole)
    (enough : ms.length < fuel) (once : (ms.map Prod.fst).Nodup) {seen : List String}
    (new : ∀ k ∈ ms.map Prod.fst, k ∉ seen) (s : Bytes) :
    members fields whole fuel first seen draft (w ++ (close ++ 0x7d :: s)) =
      .ok ((ms.map Prod.fst).reverse ++ seen, last, s) := by
  induction h generalizing fuel first seen w with
  | nil draft =>
    cases fuel with
    | zero => cases enough
    | succ fuel =>
      cases forms
      rw [members, List.nil_append, nextKey_brace hc]
      rfl
  | @cons k d ms f draft next last known read _ ih =>
    cases fuel with
    | zero => cases enough
    | succ fuel =>
      cases forms with
      | @cons _ _ _ _ v w form more =>
        rw [List.map_cons, List.nodup_cons] at once
        -- a key that was seen before would be refused before its value is looked at
        have hk : seen.contains k = false := by
          simpa using new k (List.mem_cons_self ..)
        have new' : ∀ k' ∈ ms.map Prod.fst, k' ∉ k :: seen := by
          intro k' hk' hs'
          rcases List.mem_cons.1 hs' with rfl | hs'
          · exact once.1 hk'
          · exact new k' (List.mem_cons_of_mem _ hk') hs'
        simp only [List.length_append, List.length_cons] at fits
        have value := read form (show v.length ≤ whole by omega) hg (more.follows hc s)
        have rest := ih more (by omega) (Nat.lt_of_succ_lt_succ enough) once.2 new'
        rw [members, List.append_assoc, nextKey_quote hp]
        simp only [bind, Except.bind, known, hk, Bool.false_eq_true, if_false, List.cons_append,
          List.append_assoc, colon_cons, value, rest, List.map_cons, List.reverse_cons,
          List.nil_append]

/-- A record is read as its members were written, if the required ones are there. -/
theorem reads_record {name : String} (h : Written fields ms blank last)
    (once : (ms.map Prod.fst).Nodup)
    (given : ∀ f ∈ fields, f.required = true → f.name ∈ ms.map Prod.fst) :
    Reads (readRecord name fields blank) (.object ms) last := by
  intro v whole pad s form fits hp _
  obtain ⟨_, _, close, w, hp', hg, hc, forms, rfl⟩ := form.object
  have length := forms.length_le
  simp only [List.length_cons, List.length_append] at fits
  have hm := members_of_written h hp' hg hc forms (show w.length ≤ whole by omega)
    (show ms.length < whole by omega) once (fun _ _ => List.not_mem_nil) s
  have complete : (fields.find? fun f =>
      f.required && !((ms.map Prod.fst).reverse ++ []).contains f.name) = none := by
    rw [List.find?_eq_none]
    intro f hf
    cases hr : f.required with
    | false => simp
    | true => simpa using given f hf hr
  unfold readRecord
  rw [skipBlanks_append hp]
  show (members fields whole whole true [] blank (w ++ (close ++ [0x7d]) ++ s)).bind _ = _
  rw [List.append_assoc, List.append_assoc]
  show (members fields whole whole true [] blank (w ++ (close ++ 0x7d :: s))).bind _ = _
  rw [hm]
  simp only [Except.bind, complete]
  rfl

/-- A record of which nothing is left out is read as it was written. -/
theorem reads_whole_record {name : String} (h : Written fields ms blank last)
    (all : ms.map Prod.fst = fields.map (·.name)) (once : (fields.map (·.name)).Nodup) :
    Reads (readRecord name fields blank) (.object ms) last := by
  refine reads_record h (all ▸ once) fun f hf _ => ?_
  rw [all]
  exact List.mem_map_of_mem hf

/-! ## Whole inputs -/

theorem decode_of_reads {read : Reader α} {d : Document} {a : α} (h : Reads read d a)
    (form : Form d v) : decode read v = .ok a := by
  have whole := h form (Nat.le_succ v.length) blank_nil follows_nil
  rw [List.nil_append, List.append_nil] at whole
  unfold decode
  rw [whole]
  rfl

end Rendezvous.Json
