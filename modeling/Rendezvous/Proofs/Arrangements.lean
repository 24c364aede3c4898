import Rendezvous.Proofs.Names

/-!
# Records in any arrangement

The members of an object may stand in any order, with blanks around everything in them, and their
names and texts may be spelled in any way. A loop over them takes one turn for each (`Turns`), and
what it has to show for it at the end is a record: a member that is known is noted in the draft, any
other is passed over.

    Tells contents ms → Enclosed .curly MemberText ms v → Takes (readRecord ..) v a  (takes_record)

What a draft holds is told by the names that were noted so far, in whatever order they were
(`Filled`). Lists and tables of texts are read in the same way.
-/

namespace Rendezvous.Json

variable {α σ : Type} {pad s v w : Bytes} {first : Bool} {whole fuel : Nat} {k : String}

/-! ## Lists and objects as they are written -/

/-- Items with commas between them. -/
inductive Separated (item : α → Bytes → Prop) : List α → Bytes → Prop
  | last {a : α} {v : Bytes} (one : item a v) : Separated item [a] v
  | more {a : α} {as : List α} {v w : Bytes} (one : item a v) (others : Separated item as w) :
      Separated item (a :: as) (v ++ 0x2c :: w)

/-- Items between two brackets. -/
inductive Enclosed (bracket : Bracket) (item : α → Bytes → Prop) : List α → Bytes → Prop
  | empty {pad : Bytes} (blank : Blank pad) :
      Enclosed bracket item [] (bracket.opening :: (pad ++ [bracket.closing]))
  | full {as : List α} {w : Bytes} (inside : Separated item as w) :
      Enclosed bracket item as (bracket.opening :: (w ++ [bracket.closing]))

/-- A text in a list. -/
inductive ElementText (t : String) : Bytes → Prop
  | mk {pad v pad' : Bytes} (before : Blank pad) (text : SpellsText t v) (behind : Blank pad') :
      ElementText t (pad ++ (v ++ pad'))

/-- A member of an object: what stands between the quotes of its name, and its value. -/
structure Member where
  name : Bytes
  value : Bytes

inductive MemberText (m : Member) : Bytes → Prop
  | mk {pad gap gap' pad' : Bytes} (before : Blank pad) (content : TextContent m.name)
      (colon : Blank gap) (value : Blank gap') (behind : Blank pad') :
      MemberText m
        (pad ++ 0x22 :: (m.name ++ 0x22 :: (gap ++ 0x3a :: (gap' ++ (m.value ++ pad')))))

/-- The name of a member is some spelling of a text. -/
def Member.Named (m : Member) (k : String) : Prop := SpellsChars k.toList m.name

/-- A text under a key. -/
inductive EntryText (e : String × String) : Bytes → Prop
  | mk {m : Member} {w : Bytes} (member : MemberText m w) (key : m.Named e.1)
      (text : SpellsText e.2 m.value) : EntryText e w

/-! ## Names -/

theorem Member.Named.text_eq {m : Member} (h : m.Named k) (s : Bytes) :
    text (m.name ++ 0x22 :: s) = .ok (k, s) :=
  text_spellsChars h s

/-- What is spelled is one text. -/
theorem Member.Named.unique {m : Member} {k' : String} (h : m.Named k) (h' : m.Named k') :
    k = k' := by
  have same := (h.text_eq []).symm.trans (h'.text_eq [])
  simpa using same

/-- A member with a name that is spelled somehow, blanks only in front of it. -/
theorem Member.Named.memberText {m : Member} (h : m.Named k) (hp : Blank pad) :
    MemberText m (pad ++ 0x22 :: (m.name ++ 0x22 :: ([] ++ 0x3a :: ([] ++ (m.value ++ []))))) :=
  .mk hp h.textContent blank_nil blank_nil blank_nil

/-! ## Loops over items -/

/-- A loop takes one turn for each item, whatever blanks stand around it. `opened` tells from the
state of the loop whether nothing was read so far, so that no comma is due; `left` tells of a state
which items are still to be read. -/
structure Turns {β τ : Type} (loop : Nat → τ → Bytes → β) (opened : τ → Bool)
    (item : α → Bytes → Prop) (limit : Nat) (left : τ → List α → Prop) : Prop where
  blanks : ∀ ⦃pad⦄, Blank pad → ∀ fuel t s, loop fuel t (pad ++ s) = loop fuel t s
  turn : ∀ ⦃a as v t⦄, left t (a :: as) → item a v → v.length ≤ limit →
    ∃ t', left t' as ∧ opened t' = false ∧ ∀ fuel s, Follows s →
      loop (fuel + 1) t ((if opened t then [] else [0x2c]) ++ (v ++ s)) = loop fuel t' s

theorem Separated.length_le {item : α → Bytes → Prop} {as : List α} (h : Separated item as w) :
    as.length ≤ w.length + 1 := by
  induction h with
  | last => exact Nat.le_add_left ..
  | more _ _ ih =>
    simp only [List.length_cons, List.length_append]
    omega

namespace Turns

variable {β τ : Type} {loop : Nat → τ → Bytes → β} {opened : τ → Bool} {item : α → Bytes → Prop}
  {limit : Nat} {left : τ → List α → Prop} {bracket : Bracket} {as : List α} {t : τ}

/-- Items are read one after the other. -/
theorem separated (h : Turns loop opened item limit left) (items : Separated item as w)
    (fits : w.length ≤ limit) (start : left t as) (enough : as.length ≤ fuel) (hs : Follows s) :
    ∃ n t', left t' [] ∧
      loop (fuel + 1) t ((if opened t then [] else [0x2c]) ++ (w ++ s)) = loop (n + 1) t' s := by
  induction items generalizing fuel t with
  | last one =>
    obtain ⟨n, rfl⟩ := Nat.exists_eq_add_of_le' enough
    obtain ⟨t', done, -, read⟩ := h.turn start one fits
    exact ⟨n, t', done, read (n + 1) s hs⟩
  | @more a as v w one others ih =>
    simp only [List.length_cons, List.length_append] at fits enough
    obtain ⟨n, rfl⟩ := Nat.exists_eq_add_of_le' (Nat.le_of_add_left_le enough)
    -- the blanks behind an item were taken with it, so the comma is next
    obtain ⟨t', later, comma, read⟩ := h.turn start one (by omega)
    obtain ⟨n', t'', done, run⟩ := ih (by omega) later (show as.length ≤ n by omega)
    refine ⟨n', t'', done, ?_⟩
    rw [List.append_assoc v, List.cons_append, read (n + 1) _ (follows_comma (w ++ s)), ← run,
      comma]
    rfl

/-- Behind an opening bracket all items are read, up to the closing one. -/
theorem enclosed (h : Turns loop opened item limit left) (items : Enclosed bracket item as v)
    (fits : v.length ≤ limit) (start : left t as) (fresh : opened t = true)
    (enough : v.length ≤ fuel) (s : Bytes) :
    ∃ inner, v = bracket.opening :: inner ∧ ∃ n t', left t' [] ∧
      loop fuel t (inner ++ s) = loop (n + 1) t' (bracket.closing :: s) := by
  obtain ⟨fuel, rfl⟩ : ∃ n, fuel = n + 1 := by
    cases items <;> exact Nat.exists_eq_add_of_le' (Nat.le_trans (Nat.le_add_left 1 _) enough)
  cases items with
  | empty blank =>
    refine ⟨_, rfl, fuel, t, start, ?_⟩
    rw [List.append_assoc]
    exact h.blanks blank ..
  | @full _ w inside =>
    have length := inside.length_le
    simp only [List.length_cons, List.length_append] at fits enough
    obtain ⟨n, t', done, run⟩ := h.separated inside (by omega) start
      (show as.length ≤ fuel by omega) (bracket.follows_closing s)
    refine ⟨_, rfl, n, t', done, ?_⟩
    rw [← run, fresh, List.append_assoc]
    rfl

end Turns

/-! ## Lists -/

theorem nextElement_append (h : Blank pad) (s : Bytes) :
    nextElement first (pad ++ s) = nextElement first s := by
  unfold nextElement
  rw [skipBlanks_append h]

theorem endList_append (h : Blank pad) (s : Bytes) : endList (pad ++ s) = endList s := by
  unfold endList
  rw [skipBlanks_append h]

theorem elements_append {read : Reader α} {acc : List α} (h : Blank pad) (s : Bytes) :
    elements read whole fuel acc (pad ++ s) = elements read whole fuel acc s := by
  cases fuel with
  | zero => rfl
  | succ fuel => rw [elements, elements, nextElement_append h, endList_append h]

theorem elements_end {read : Reader α} (acc : List α) (s : Bytes) :
    elements read whole (fuel + 1) acc (0x5d :: s) = .ok (acc.reverse, s) := by
  have next : nextElement acc.isEmpty (0x5d :: s) = .ok none := nextElement_bracket blank_nil s
  rw [elements, next]
  rfl

/-- A text in a list is read with the blanks around it. -/
theorem elements_step {t : String} {acc : List String} (h : ElementText t w)
    (fits : w.length ≤ whole) (s : Bytes) :
    elements readText whole (fuel + 1) acc ((if acc.isEmpty then [] else [0x2c]) ++ (w ++ s)) =
      elements readText whole fuel (t :: acc) s := by
  obtain @⟨pad, v, pad', before, text, behind⟩ := h
  simp only [List.length_append] at fits
  have value : readText whole (v ++ (pad' ++ s)) = .ok (t, pad' ++ s) :=
    takes_text text (show v.length ≤ whole by omega) blank_nil
  have next : nextElement acc.isEmpty ((if acc.isEmpty then [] else [0x2c]) ++ pad ++
      (v ++ (pad' ++ s))) = .ok (some (v ++ (pad' ++ s))) := by
    obtain ⟨content⟩ := text
    exact nextElement_cons before (by decide) (by decide) _
  rw [elements, List.append_assoc pad, List.append_assoc v, ← List.append_assoc _ pad, next]
  simp only [bind, Except.bind, value]
  exact elements_append behind s

theorem turns_elements (ts : List String) :
    Turns (elements readText whole) List.isEmpty ElementText whole
      (fun acc left => acc.reverse ++ left = ts) where
  blanks _ hp _ _ s := elements_append hp s
  turn t _ _ acc start text fits := by
    refine ⟨t :: acc, ?_, rfl, fun _ s _ => elements_step text fits s⟩
    rw [← start, List.reverse_cons, List.append_assoc]
    rfl

theorem takes_list {ts : List String} (h : Enclosed .square ElementText ts v) :
    Takes (readList readText) v ts := by
  intro whole pad s fits hp
  obtain ⟨inner, rfl, n, acc, all, run⟩ :=
    (turns_elements ts).enclosed h fits (t := []) rfl rfl fits s
  unfold readList
  rw [skipBlanks_append hp]
  show elements readText whole whole [] (inner ++ s) = _
  rw [run]
  rw [List.append_nil] at all
  exact all ▸ elements_end acc s

/-! ## Tables -/

theorem colon_append (h : Blank pad) (s : Bytes) : colon (pad ++ 0x3a :: s) = .ok s := by
  unfold colon
  rw [skipBlanks_append h]
  rfl

/-- A member is read up to its value. -/
theorem MemberText.read {m : Member} (h : MemberText m w) (named : m.Named k) (first : Bool)
    (s : Bytes) :
    ∃ gap pad behind, Blank gap ∧ Blank pad ∧
      nextKey first ((if first then [] else [0x2c]) ++ (w ++ s)) = .ok (some k, behind) ∧
      colon behind = .ok (gap ++ (m.value ++ (pad ++ s))) := by
  obtain @⟨pad, gap, gap', pad', before, content, colon, value, behind⟩ := h
  refine ⟨gap', pad', _, value, behind, ?_, colon_append colon _⟩
  simp only [List.append_assoc, List.cons_append]
  rw [← List.append_assoc _ pad, nextKey_text before, named.text_eq]
  rfl

/-- If the key of a member is read, its name is a text. -/
theorem MemberText.exists_named {m : Member} (h : MemberText m w) {key : Option String × Bytes}
    (read : nextKey first ((if first then [] else [0x2c]) ++ (w ++ s)) = .ok key) :
    ∃ k, m.Named k := by
  obtain @⟨pad, gap, gap', pad', before, content, colon, value, behind⟩ := h
  simp only [List.append_assoc, List.cons_append] at read
  rw [← List.append_assoc _ pad, nextKey_text before] at read
  cases name : text (m.name ++ 0x22 :: (gap ++ 0x3a :: (gap' ++ (m.value ++ (pad' ++ s))))) with
  | error =>
    rw [name] at read
    cases read
  | ok made => exact ⟨made.1, spellsChars_of_text content name⟩

theorem MemberText.length_le {m : Member} (h : MemberText m w) :
    m.value.length ≤ w.length := by
  obtain ⟨⟩ := h
  simp only [List.length_append, List.length_cons]
  omega

theorem tableEntries_append {read : Reader α} {t : Table String α} (h : Blank pad) (s : Bytes) :
    tableEntries read whole fuel first t (pad ++ s) = tableEntries read whole fuel first t s := by
  cases fuel with
  | zero => rfl
  | succ fuel => rw [tableEntries, tableEntries, nextKey_append h]

theorem tableEntries_step {e : String × String} {t : Table String String} (h : EntryText e w)
    (fits : w.length ≤ whole) (s : Bytes) :
    tableEntries readText whole (fuel + 1) first t ((if first then [] else [0x2c]) ++ (w ++ s)) =
      tableEntries readText whole fuel false (t.insert e.1 e.2) s := by
  obtain ⟨member, key, text⟩ := h
  obtain ⟨gap, pad, behind, hg, hp, next, colon⟩ := member.read key first s
  have value := takes_text text (s := pad ++ s) (Nat.le_trans member.length_le fits) hg
  rw [tableEntries]
  simp only [bind, Except.bind, next, colon, value]
  exact tableEntries_append hp s

theorem tableEntries_end {read : Reader α} (t : Table String α) (s : Bytes) :
    tableEntries read whole (fuel + 1) first t (0x7d :: s) = .ok (t, s) := by
  rw [tableEntries, nextKey_end]
  rfl

theorem turns_tableEntries (es : List (String × String)) :
    Turns (fun fuel (t : Bool × Table String String) => tableEntries readText whole fuel t.1 t.2)
      Prod.fst EntryText whole
      (fun t left => left.foldl (fun t e => t.insert e.1 e.2) t.2 = Table.ofList es) where
  blanks _ hp _ _ s := tableEntries_append hp s
  turn e _ _ t start text fits :=
    ⟨(false, t.2.insert e.1 e.2), start, rfl, fun _ s _ => tableEntries_step text fits s⟩

theorem takes_table {es : List (String × String)} (h : Enclosed .curly EntryText es v) :
    Takes (readTable readText) v (Table.ofList es) := by
  intro whole pad s fits hp
  obtain ⟨inner, rfl, n, t, all, run⟩ :=
    (turns_tableEntries es).enclosed h fits (t := (true, .empty)) rfl rfl fits s
  unfold readTable
  rw [skipBlanks_append hp]
  show tableEntries readText whole whole true .empty (inner ++ s) = _
  rw [run]
  exact all ▸ tableEntries_end t.2 s

/-! ## Values of fields -/

/-- The value of a field of a record. -/
inductive FieldValue where
  | text (t : String)
  | optional (t : Option String)
  | flag (b : Bool)
  | list (ts : List String)
  | table (t : Table String String)

/-- How the value of a field may be written. -/
inductive FieldText : FieldValue → Bytes → Prop
  | text {t : String} {v : Bytes} (text : SpellsText t v) : FieldText (.text t) v
  | missing : FieldText (.optional none) [0x6e, 0x75, 0x6c, 0x6c]
  | given {t : String} {v : Bytes} (text : SpellsText t v) : FieldText (.optional (some t)) v
  | flag (b : Bool) : FieldText (.flag b) (flagBytes b)
  | list {ts : List String} {v : Bytes} (elements : Enclosed .square ElementText ts v) :
      FieldText (.list ts) v
  | table {es : List (String × String)} {v : Bytes} (entries : Enclosed .curly EntryText es v) :
      FieldText (.table (.ofList es)) v

/-- What a field holds if it is not given. -/
def FieldValue.IsDefault : FieldValue → Prop
  | .text t => t = ""
  | .optional t => t = none
  | .flag b => b = false
  | .list ts => ts = []
  | .table t => t = .empty

theorem FieldText.takes_text {t : String} (h : FieldText (.text t) v) : Takes readText v t := by
  cases h with
  | text text => exact Json.takes_text text

theorem FieldText.takes_optional {t : Option String} (h : FieldText (.optional t) v) :
    Takes (readOptional readText) v t := by
  cases h with
  | missing => exact takes_null
  | given text => exact takes_some text

theorem FieldText.takes_flag {b : Bool} (h : FieldText (.flag b) v) : Takes readFlag v b := by
  cases h with
  | flag => exact Json.takes_flag b

theorem FieldText.takes_list {ts : List String} (h : FieldText (.list ts) v) :
    Takes (readList readText) v ts := by
  cases h with
  | list elements => exact Json.takes_list elements

theorem FieldText.takes_table {t : Table String String} (h : FieldText (.table t) v) :
    Takes (readTable readText) v t := by
  cases h with
  | table entries => exact Json.takes_table entries

/-! ## Records -/

variable {fields : List (RecordField σ)} {contents : List (String × FieldValue)}
  {upTo : List String → σ} {seen : List String} {m : Member} {ms : List Member}

/-- `upTo seen` is the draft in which the fields `seen` were noted: each field takes its value, in
any way in which it may be written, and notes it whatever was noted before. -/
inductive Filled (upTo : List String → σ) :
    List (RecordField σ) → List (String × FieldValue) → Prop
  | nil : Filled upTo [] []
  | cons {f : RecordField σ} {c : String × FieldValue} {fields : List (RecordField σ)}
      {contents : List (String × FieldValue)} (name : f.name = c.1)
      (note : ∀ seen v, FieldText c.2 v → Takes (f.read (upTo seen)) v (upTo (c.1 :: seen)))
      (more : Filled upTo fields contents) : Filled upTo (f :: fields) (c :: contents)

/-- A field notes what its reader takes. -/
theorem Filled.put {c : FieldValue} {f : RecordField σ} {read : Reader α} {a : α}
    {put : σ → α → σ} (takes : ∀ {v}, FieldText c v → Takes read v a)
    (field : f = .needed k read put ∨ f = .defaulted k read put)
    (stored : ∀ seen, put (upTo seen) a = upTo (k :: seen)) (more : Filled upTo fields contents) :
    Filled upTo (f :: fields) ((k, c) :: contents) := by
  refine .cons (by rcases field with rfl | rfl <;> rfl) (fun seen v text whole pad s fits hp => ?_)
    more
  have value := takes text fits hp (s := s)
  rw [← stored]
  rcases field with rfl | rfl
  all_goals
    show (read whole _).bind _ = _
    rw [value]
    rfl

/-- A name is that of a field or of none. -/
theorem Filled.find? (h : Filled upTo fields contents) (k : String) :
    (∃ f, ∃ c ∈ contents, c.1 = k ∧ fields.find? (·.name == k) = some f ∧
      ∀ seen v, FieldText c.2 v → Takes (f.read (upTo seen)) v (upTo (k :: seen))) ∨
    (∀ c ∈ contents, c.1 ≠ k) ∧ fields.find? (·.name == k) = none := by
  induction h with
  | nil => exact .inr ⟨by simp, rfl⟩
  | @cons f c fields contents name note more ih =>
    by_cases here : c.1 = k
    · subst here
      exact .inl ⟨f, c, List.mem_cons_self .., rfl, by simp [name], note⟩
    · have other : (f.name == k) = false := by simpa [name] using here
      rw [List.find?_cons, other]
      rcases ih with ⟨f', c', hc, found⟩ | ⟨unknown, none⟩
      · exact .inl ⟨f', c', List.mem_cons_of_mem _ hc, found⟩
      · exact .inr ⟨List.forall_mem_cons.2 ⟨here, unknown⟩, none⟩

theorem Filled.exists_content (h : Filled upTo fields contents) {f : RecordField σ}
    (hf : f ∈ fields) : ∃ c ∈ contents, c.1 = f.name := by
  induction h with
  | nil => cases hf
  | cons name _ _ ih =>
    rcases List.mem_cons.1 hf with rfl | hf
    · exact ⟨_, List.mem_cons_self .., name.symm⟩
    · obtain ⟨c, hc, name⟩ := ih hf
      exact ⟨c, List.mem_cons_of_mem _ hc, name⟩

/-- A member gives the value of its field, or it is unknown and its value is of any kind. -/
def Member.Carries (m : Member) (contents : List (String × FieldValue)) : Prop :=
  (∀ c ∈ contents, m.Named c.1 → FieldText c.2 m.value) ∧
    ((∀ c ∈ contents, ¬ m.Named c.1) → WellFormed .value m.value)

/-- The members give each field at most once, and all that do not have their defaults. -/
structure Tells (contents : List (String × FieldValue)) (ms : List Member) : Prop where
  carries : ∀ m ∈ ms, m.Carries contents
  once : ms.Pairwise fun m m' => ∀ c ∈ contents, ¬ (m.Named c.1 ∧ m'.Named c.1)
  rest : ∀ c ∈ contents, (∀ m ∈ ms, ¬ m.Named c.1) → c.2.IsDefault

theorem Member.Named.carries (h : m.Named k)
    (known : ∀ c ∈ contents, c.1 = k → FieldText c.2 m.value)
    (unknown : (∀ c ∈ contents, c.1 ≠ k) → WellFormed .value m.value) : m.Carries contents :=
  ⟨fun c hc named => known c hc (named.unique h),
    fun none => unknown fun c hc same => none c hc (same ▸ h)⟩

theorem Member.Named.apart {m' : Member} {k' : String} (h : m.Named k) (h' : m'.Named k')
    (other : k ≠ k') : ∀ c ∈ contents, ¬ (m.Named c.1 ∧ m'.Named c.1) :=
  fun _ _ both => other ((h.unique both.1).trans (both.2.unique h'))

theorem members_append {draft : σ} (h : Blank pad) (s : Bytes) :
    members fields whole fuel first seen draft (pad ++ s) =
      members fields whole fuel first seen draft s := by
  cases fuel with
  | zero => rfl
  | succ fuel => rw [members, members, nextKey_append h]

theorem members_end {draft : σ} (s : Bytes) :
    members fields whole (fuel + 1) first seen draft (0x7d :: s) = .ok (seen, draft, s) := by
  rw [members, nextKey_end]
  rfl

/-- A member that is known is noted, any other is passed over. -/
theorem members_step (filled : Filled upTo fields contents) (text : MemberText m w)
    (fits : w.length ≤ whole) (named : m.Named k) (carries : m.Carries contents)
    (new : ∀ c ∈ contents, m.Named c.1 → c.1 ∉ seen) :
    ∃ seen', (∀ c ∈ contents, c.1 ∈ seen' ↔ c.1 ∈ seen ∨ m.Named c.1) ∧ ∀ first fuel s, Follows s →
      members fields whole (fuel + 1) first seen (upTo seen)
          ((if first then [] else [0x2c]) ++ (w ++ s)) =
        members fields whole fuel false seen' (upTo seen') s := by
  have fits := Nat.le_trans text.length_le fits
  rcases filled.find? k with ⟨f, c, hc, rfl, known, note⟩ | ⟨unknown, none⟩
  · have unseen : seen.contains c.1 = false := by simpa using new c hc named
    refine ⟨c.1 :: seen, fun c' _ => ?_, fun first fuel s _ => ?_⟩
    · have same : m.Named c'.1 ↔ c'.1 = c.1 := ⟨fun h => h.unique named, fun h => h ▸ named⟩
      rw [List.mem_cons, same, or_comm]
    · obtain ⟨gap, pad, behind, hg, hp, next, colon⟩ := text.read named first s
      have value := note seen _ (carries.1 c hc named) fits hg (s := pad ++ s)
      rw [members]
      simp only [bind, Except.bind, next, known, unseen, colon, value]
      exact members_append hp s
  · have other : ∀ c ∈ contents, ¬ m.Named c.1 := fun c hc h => unknown c hc (h.unique named)
    refine ⟨seen, fun c hc => by simp [other c hc], fun first fuel s hs => ?_⟩
    obtain ⟨gap, pad, behind, hg, hp, next, colon⟩ := text.read named first s
    have skipped := skipValue_wellFormed (carries.2 other) hg fits (follows_append hp hs)
    rw [members]
    simp only [bind, Except.bind, next, none, colon, skipped]
    exact members_append hp s

/-- The members that are left give no field twice and none of those that were seen, and all
members together are those that were seen and those that are left. -/
structure Remaining (contents : List (String × FieldValue)) (ms : List Member)
    (seen : List String) (left : List Member) : Prop where
  carries : ∀ m ∈ left, m.Carries contents
  once : left.Pairwise fun m m' => ∀ c ∈ contents, ¬ (m.Named c.1 ∧ m'.Named c.1)
  new : ∀ m ∈ left, ∀ c ∈ contents, m.Named c.1 → c.1 ∉ seen
  all : ∀ c ∈ contents, (c.1 ∈ seen ∨ ∃ m ∈ left, m.Named c.1) ↔ ∃ m ∈ ms, m.Named c.1

theorem Tells.remaining (h : Tells contents ms) : Remaining contents ms [] ms where
  carries := h.carries
  once := h.once
  new _ _ _ _ _ := List.not_mem_nil
  all _ _ := by simp

theorem Remaining.next {left : List Member} {seen' : List String}
    (h : Remaining contents ms seen (m :: left))
    (seen_iff : ∀ c ∈ contents, c.1 ∈ seen' ↔ c.1 ∈ seen ∨ m.Named c.1) :
    Remaining contents ms seen' left where
  carries := (List.forall_mem_cons.1 h.carries).2
  once := (List.pairwise_cons.1 h.once).2
  new m' hm c hc named := by
    rw [seen_iff c hc]
    rintro (before | same)
    · exact h.new m' (List.mem_cons_of_mem _ hm) c hc named before
    · exact (List.pairwise_cons.1 h.once).1 m' hm c hc ⟨same, named⟩
  all c hc := by
    rw [seen_iff c hc, ← h.all c hc]
    simp only [List.mem_cons, exists_eq_or_imp, or_assoc]

theorem turns_members (filled : Filled upTo fields contents) (ms : List Member) :
    Turns (fun fuel (t : Bool × List String) => members fields whole fuel t.1 t.2 (upTo t.2))
      Prod.fst MemberText whole
      (fun t left => (∀ m ∈ left, ∃ k, m.Named k) ∧ Remaining contents ms t.2 left) where
  blanks _ hp _ _ s := members_append hp s
  turn m left w t start text fits := by
    obtain ⟨named, start⟩ := start
    obtain ⟨⟨k, here⟩, named⟩ := List.forall_mem_cons.1 named
    obtain ⟨seen', seen_iff, read⟩ := members_step filled text fits here
      (start.carries m (List.mem_cons_self ..)) (start.new m (List.mem_cons_self ..))
    exact ⟨(false, seen'), ⟨named, start.next seen_iff⟩, rfl, read t.1⟩

theorem MemberText.exists_named_of_members (h : MemberText m w) {draft : σ}
    {x : List String × σ × Bytes}
    (read : members fields whole fuel first seen draft
      ((if first then [] else [0x2c]) ++ (w ++ s)) = .ok x) : ∃ k, m.Named k := by
  cases fuel with
  | zero => cases read
  | succ fuel =>
    rw [members] at read
    cases key : nextKey first ((if first then [] else [0x2c]) ++ (w ++ s)) with
    | error =>
      rw [key] at read
      cases read
    | ok => exact h.exists_named key

/-- If members are read to their end, all their names are texts. -/
theorem named_of_members (filled : Filled upTo fields contents) {left : List Member}
    (items : Separated MemberText left w) (fits : w.length ≤ whole)
    (start : Remaining contents ms seen left) {x : List String × σ × Bytes}
    (read : members fields whole fuel first seen (upTo seen)
      ((if first then [] else [0x2c]) ++ (w ++ s)) = .ok x) :
    ∀ m ∈ left, ∃ k, m.Named k := by
  induction items generalizing fuel first seen with
  | last one =>
    rw [List.forall_mem_singleton]
    exact one.exists_named_of_members read
  | @more m left v w one others ih =>
    simp only [List.length_append, List.length_cons] at fits
    rw [List.append_assoc] at read
    obtain ⟨k, here⟩ := one.exists_named_of_members read
    obtain ⟨seen', seen_iff, step⟩ := members_step filled one (show v.length ≤ whole by omega) here
      (start.carries m (List.mem_cons_self ..)) (start.new m (List.mem_cons_self ..))
    cases fuel with
    | zero => cases read
    | succ fuel =>
      rw [List.cons_append, step first fuel _ (follows_comma (w ++ s))] at read
      have later : members fields whole fuel false seen' (upTo seen')
          ((if false then [] else [0x2c]) ++ (w ++ s)) = .ok x := read
      exact List.forall_mem_cons.2 ⟨⟨k, here⟩, ih (by omega) (start.next seen_iff) later⟩

/-- A record is read from its members in any arrangement. -/
theorem takes_record {name : String} {a : σ} (filled : Filled upTo fields contents)
    (whole_of : ∀ seen, (∀ c ∈ contents, c.1 ∉ seen → c.2.IsDefault) → upTo seen = a)
    (named : ∀ m ∈ ms, ∃ k, m.Named k) (tells : Tells contents ms)
    (given : ∀ f ∈ fields, f.required = true → ∃ m ∈ ms, m.Named f.name)
    (h : Enclosed .curly MemberText ms v) : Takes (readRecord name fields (upTo [])) v a := by
  intro whole pad s fits hp
  obtain ⟨inner, rfl, n, ⟨_, seen⟩, ⟨-, done⟩, run⟩ :=
    (turns_members filled ms).enclosed h fits (t := (true, [])) ⟨named, tells.remaining⟩ rfl fits s
  have noted : ∀ c ∈ contents, c.1 ∈ seen ↔ ∃ m ∈ ms, m.Named c.1 := by
    intro c hc
    simpa using done.all c hc
  have complete : (fields.find? fun f => f.required && !seen.contains f.name) = none := by
    rw [List.find?_eq_none]
    intro f hf
    cases required : f.required with
    | false => simp
    | true =>
      obtain ⟨c, hc, name⟩ := filled.exists_content hf
      simpa [← name] using (noted c hc).2 (name ▸ given f hf required)
  unfold readRecord
  rw [skipBlanks_append hp]
  show (members fields whole whole true [] (upTo []) (inner ++ s)).bind _ = _
  have run := run.trans (members_end s)
  dsimp only at run
  rw [run]
  simp only [Except.bind, complete]
  rw [whole_of seen fun c hc unseen => tells.rest c hc fun m hm named =>
    unseen ((noted c hc).2 ⟨m, hm, named⟩)]
  rfl

/-- If a record is read from its members, all their names are texts. -/
theorem named_of_record {name : String} (filled : Filled upTo fields contents)
    (tells : Tells contents ms) (h : Enclosed .curly MemberText ms v) (fits : v.length ≤ whole)
    (hp : Blank pad) {x : σ × Bytes}
    (read : readRecord name fields (upTo []) whole (pad ++ (v ++ s)) = .ok x) :
    ∀ m ∈ ms, ∃ k, m.Named k := by
  cases h with
  | empty => exact List.forall_mem_nil _
  | @full _ w inside =>
    simp only [List.length_append, List.length_cons] at fits
    unfold readRecord at read
    rw [skipBlanks_append hp] at read
    change (members fields whole whole true [] (upTo []) (w ++ [0x7d] ++ s)).bind _ = _ at read
    rw [List.append_assoc] at read
    cases done : members fields whole whole true [] (upTo []) (w ++ ([0x7d] ++ s)) with
    | error =>
      rw [done] at read
      cases read
    | ok => exact named_of_members filled inside (by omega) tells.remaining done

/-! ## Whole inputs -/

/-- A value that makes up the whole input is read with the blanks around it. -/
theorem decode_of_takes {read : Reader α} {a : α} {pad' : Bytes} (h : Takes read v a)
    (before : Blank pad) (behind : Blank pad') : decode read (pad ++ (v ++ pad')) = .ok a := by
  have fits : v.length ≤ (pad ++ (v ++ pad')).length + 1 := by
    simp only [List.length_append]
    omega
  have empty : skipBlanks pad' = [] := by
    have skipped := skipBlanks_append behind []
    rwa [List.append_nil] at skipped
  unfold decode
  rw [h fits before]
  simp only [bind, Except.bind, empty]
  rfl

/-- A record in any arrangement is read exactly if all names in it are texts. -/
theorem decode_record_iff {name : String} {a : σ} {pad' : Bytes}
    (filled : Filled upTo fields contents)
    (whole_of : ∀ seen, (∀ c ∈ contents, c.1 ∉ seen → c.2.IsDefault) → upTo seen = a)
    (tells : Tells contents ms)
    (given : ∀ f ∈ fields, f.required = true → ∃ m ∈ ms, m.Named f.name)
    (h : Enclosed .curly MemberText ms v) (before : Blank pad) (behind : Blank pad') :
    decode (readRecord name fields (upTo [])) (pad ++ (v ++ pad')) = .ok a ↔
      ∀ m ∈ ms, ∃ k, m.Named k := by
  constructor
  · intro decoded
    have fits : v.length ≤ (pad ++ (v ++ pad')).length + 1 := by
      simp only [List.length_append]
      omega
    unfold decode at decoded
    cases read : readRecord name fields (upTo []) ((pad ++ (v ++ pad')).length + 1)
        (pad ++ (v ++ pad')) with
    | error =>
      rw [read] at decoded
      cases decoded
    | ok => exact named_of_record filled tells h fits before read
  · intro named
    exact decode_of_takes (takes_record filled whole_of named tells given h) before behind

end Rendezvous.Json
