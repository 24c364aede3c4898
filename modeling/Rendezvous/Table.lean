/-!
# Sorted tables

A `Table κ α` is a list of entries whose keys strictly increase; the order is a proof field, so
every table has one written form. Its view is `get?`:

    (t.insert k v).get? j = if j = k then some v else t.get? j     (get?_insert)
    (t.erase k).get? j = if j = k then none else t.get? j          (get?_erase)
    (t.map f).get? k = (t.get? k).map f                            (get?_map)
    (∀ k, s.get? k = t.get? k) → s = t                             (ext_get?)
-/

namespace Rendezvous

/-- A strict order that tells any two keys apart. -/
class Key (κ : Type) [LT κ] : Prop where
  irrefl : ∀ a : κ, ¬ a < a
  trans : ∀ a b c : κ, a < b → b < c → a < c
  connex : ∀ a b : κ, ¬ a < b → a ≠ b → b < a

instance {κ : Type} [LT κ] [LE κ] [Std.LawfulOrderLT κ] [Std.IsLinearOrder κ] : Key κ where
  irrefl a := Std.Irrefl.irrefl (r := (· < · : κ → κ → Prop)) a
  trans _ _ _ h₁ h₂ := Trans.trans h₁ h₂
  connex a b h₁ h₂ := Classical.byContradiction fun h₃ =>
    h₂ (Std.Trichotomous.trichotomous (r := (· < · : κ → κ → Prop)) a b h₁ h₃)

/-- Entries in strictly increasing order of their keys. -/
structure Table (κ α : Type) [LT κ] where
  entries : List (κ × α)
  sorted : entries.Pairwise fun a b => a.1 < b.1
deriving DecidableEq

namespace Table

variable {κ α β : Type} [LT κ]

/-! ## Algorithm -/

def empty : Table κ α := ⟨[], .nil⟩

instance : Inhabited (Table κ α) := ⟨empty⟩

instance : EmptyCollection (Table κ α) := ⟨empty⟩

def keys (t : Table κ α) : List κ := t.entries.map (·.1)

def values (t : Table κ α) : List α := t.entries.map (·.2)

def size (t : Table κ α) : Nat := t.entries.length

def isEmpty (t : Table κ α) : Bool := t.entries.isEmpty

/-- The value under a key. -/
def get? [DecidableEq κ] (t : Table κ α) (k : κ) : Option α := t.entries.lookup k

def contains [DecidableEq κ] (t : Table κ α) (k : κ) : Bool := (t.get? k).isSome

/-- Puts an entry at its place, over an entry of the same key. -/
def put [DecidableEq κ] [DecidableLT κ] (k : κ) (v : α) : List (κ × α) → List (κ × α)
  | [] => [(k, v)]
  | (j, w) :: rest =>
    if k < j then (k, v) :: (j, w) :: rest
    else if k = j then (k, v) :: rest
    else (j, w) :: put k v rest

theorem mem_put [DecidableEq κ] [DecidableLT κ] {k : κ} {v : α} {e : κ × α} :
    ∀ {l : List (κ × α)}, e ∈ put k v l → e = (k, v) ∨ e ∈ l
  | [], h => by simpa [put] using h
  | (j, w) :: rest, h => by
    rw [put] at h
    split at h
    · simpa using h
    · split at h
      · rcases List.mem_cons.1 h with h | h
        · exact .inl h
        · exact .inr (List.mem_cons_of_mem _ h)
      · rcases List.mem_cons.1 h with h | h
        · exact .inr (h ▸ List.mem_cons_self ..)
        · rcases mem_put h with h | h
          · exact .inl h
          · exact .inr (List.mem_cons_of_mem _ h)

theorem sorted_put [DecidableEq κ] [DecidableLT κ] [Key κ] (k : κ) (v : α) :
    ∀ {l : List (κ × α)}, (l.Pairwise fun a b => a.1 < b.1) →
      (put k v l).Pairwise fun a b => a.1 < b.1
  | [], _ => by simp [put]
  | (j, w) :: rest, h => by
    obtain ⟨h₁, h₂⟩ := List.pairwise_cons.1 h
    rw [put]
    split
    · next hk =>
      refine List.pairwise_cons.2 ⟨fun e he => ?_, h⟩
      rcases List.mem_cons.1 he with rfl | he
      · exact hk
      · exact Key.trans _ _ _ hk (h₁ e he)
    · next hk =>
      split
      · next hj => exact List.pairwise_cons.2 ⟨fun e he => hj ▸ h₁ e he, h₂⟩
      · next hj =>
        refine List.pairwise_cons.2 ⟨fun e he => ?_, sorted_put k v h₂⟩
        rcases mem_put he with rfl | he
        · exact Key.connex _ _ hk hj
        · exact h₁ e he

/-- Sets the value under a key. -/
def insert [DecidableEq κ] [DecidableLT κ] [Key κ] (t : Table κ α) (k : κ) (v : α) : Table κ α :=
  ⟨put k v t.entries, sorted_put k v t.sorted⟩

/-- Forgets a key. -/
def erase [DecidableEq κ] (t : Table κ α) (k : κ) : Table κ α :=
  ⟨t.entries.filter (·.1 ≠ k), t.sorted.filter _⟩

/-- Changes every value. -/
def map (f : α → β) (t : Table κ α) : Table κ β :=
  ⟨t.entries.map fun e => (e.1, f e.2), t.sorted.map _ fun _ _ h => h⟩

/-- Changes the value under a key, if there is one. -/
def modify [DecidableEq κ] (t : Table κ α) (k : κ) (f : α → α) : Table κ α :=
  ⟨t.entries.map fun e => (e.1, if e.1 = k then f e.2 else e.2), t.sorted.map _ fun _ _ h => h⟩

/-- Inserts entries one after the other; the last of several with one key stays. -/
def ofList [DecidableEq κ] [DecidableLT κ] [Key κ] (l : List (κ × α)) : Table κ α :=
  l.foldl (fun t e => t.insert e.1 e.2) empty

/-! ## Lemmas -/

omit [LT κ] in
theorem lookup_cons [DecidableEq κ] (j : κ) (e : κ × α) (l : List (κ × α)) :
    (e :: l).lookup j = if j = e.1 then some e.2 else l.lookup j := by
  obtain ⟨k, v⟩ := e
  by_cases h : j = k
  · simp [h]
  · have hb : (j == k) = false := by simpa using h
    simp [List.lookup_cons, hb, h]

theorem lookup_put [DecidableEq κ] [DecidableLT κ] (k j : κ) (v : α) (l : List (κ × α)) :
    (put k v l).lookup j = if j = k then some v else l.lookup j := by
  induction l with
  | nil => simp [put, lookup_cons]
  | cons e rest ih =>
    rw [put]
    split
    · simp [lookup_cons]
    · split
      · next hi => by_cases h : j = k <;> simp [lookup_cons, ← hi, h]
      · next hi =>
        by_cases h : j = e.1
        · have hk : ¬ j = k := fun e' => hi (e'.symm.trans h)
          simp [lookup_cons, h, show ¬ e.1 = k from fun e' => hi e'.symm]
        · simp [lookup_cons, h, ih]

theorem get?_empty [DecidableEq κ] (k : κ) : (empty : Table κ α).get? k = none := rfl

theorem get?_insert [DecidableEq κ] [DecidableLT κ] [Key κ] (t : Table κ α) (k j : κ) (v : α) :
    (t.insert k v).get? j = if j = k then some v else t.get? j :=
  lookup_put k j v t.entries

theorem get?_insert_self [DecidableEq κ] [DecidableLT κ] [Key κ] (t : Table κ α) (k : κ) (v : α) :
    (t.insert k v).get? k = some v := by
  simp [get?_insert]

omit [LT κ] in
theorem lookup_filter_ne [DecidableEq κ] (k j : κ) (l : List (κ × α)) :
    (l.filter (·.1 ≠ k)).lookup j = if j = k then none else l.lookup j := by
  induction l with
  | nil => simp
  | cons e rest ih =>
    by_cases hi : e.1 = k
    · rw [List.filter_cons_of_neg (by simpa using hi), ih, lookup_cons]
      by_cases h : j = k <;> simp [h, hi]
    · rw [List.filter_cons_of_pos (by simpa using hi), lookup_cons, lookup_cons, ih]
      by_cases h : j = e.1
      · subst h; simp [hi]
      · simp [h]

theorem get?_erase [DecidableEq κ] (t : Table κ α) (k j : κ) :
    (t.erase k).get? j = if j = k then none else t.get? j :=
  lookup_filter_ne k j t.entries

omit [LT κ] in
theorem lookup_map [DecidableEq κ] (f : κ → α → β) (j : κ) (l : List (κ × α)) :
    (l.map fun e => (e.1, f e.1 e.2)).lookup j = (l.lookup j).map (f j) := by
  induction l with
  | nil => rfl
  | cons e rest ih =>
    rw [List.map_cons, lookup_cons, lookup_cons, ih]
    by_cases h : j = e.1
    · subst h; simp
    · simp [h]

theorem get?_map [DecidableEq κ] (f : α → β) (t : Table κ α) (k : κ) :
    (t.map f).get? k = (t.get? k).map f :=
  lookup_map (fun _ => f) k t.entries

theorem get?_modify [DecidableEq κ] (t : Table κ α) (k j : κ) (f : α → α) :
    (t.modify k f).get? j = if j = k then (t.get? j).map f else t.get? j := by
  refine (lookup_map (fun i v => if i = k then f v else v) j t.entries).trans ?_
  by_cases h : j = k <;> simp [h, get?]

omit [LT κ] in
theorem mem_of_lookup [DecidableEq κ] {k : κ} {v : α} :
    ∀ {l : List (κ × α)}, l.lookup k = some v → (k, v) ∈ l
  | [], h => by simp at h
  | e :: rest, h => by
    rw [lookup_cons] at h
    split at h
    · next hk => subst hk; cases h; exact List.mem_cons_self ..
    · exact List.mem_cons_of_mem _ (mem_of_lookup h)

theorem lookup_of_mem [DecidableEq κ] [Key κ] {k : κ} {v : α} :
    ∀ {l : List (κ × α)}, (l.Pairwise fun a b => a.1 < b.1) → (k, v) ∈ l → l.lookup k = some v
  | e :: rest, hl, h => by
    obtain ⟨h₁, h₂⟩ := List.pairwise_cons.1 hl
    rw [lookup_cons]
    rcases List.mem_cons.1 h with rfl | h
    · simp
    · have hk : k ≠ e.1 := fun e' => Key.irrefl k (by simpa [← e'] using h₁ _ h)
      rw [if_neg hk, lookup_of_mem h₂ h]

theorem get?_eq_some_iff [DecidableEq κ] [Key κ] {t : Table κ α} {k : κ} {v : α} :
    t.get? k = some v ↔ (k, v) ∈ t.entries :=
  ⟨mem_of_lookup, lookup_of_mem t.sorted⟩

theorem sorted_keys (t : Table κ α) : t.keys.Pairwise (· < ·) := t.sorted.map _ fun _ _ h => h

/-- No key stands twice. -/
theorem nodup_keys [Key κ] (t : Table κ α) : t.keys.Nodup := by
  refine t.sorted_keys.imp fun {a b} h => ?_
  rintro rfl
  exact Key.irrefl a h

theorem mem_keys_iff [DecidableEq κ] [Key κ] {t : Table κ α} {k : κ} :
    k ∈ t.keys ↔ ∃ v, t.get? k = some v := by
  simp [keys, get?_eq_some_iff]

omit [LT κ] in
theorem mem_keys_of_lookup [DecidableEq κ] {k : κ} {v : α} {l : List (κ × α)}
    (h : l.lookup k = some v) : k ∈ l.map (·.1) :=
  List.mem_map_of_mem (mem_of_lookup h)

omit [LT κ] in
/-- Where no key stands twice, each entry is found. -/
theorem lookup_eq_some_iff [DecidableEq κ] {k : κ} {v : α} {l : List (κ × α)}
    (h : (l.map (·.1)).Nodup) : l.lookup k = some v ↔ (k, v) ∈ l := by
  refine ⟨mem_of_lookup, fun hm => ?_⟩
  induction l with
  | nil => cases hm
  | cons e rest ih =>
    obtain ⟨new, h⟩ := List.nodup_cons.1 h
    rw [lookup_cons]
    rcases List.mem_cons.1 hm with rfl | hm
    · simp
    · have hk : k ≠ e.1 := by
        rintro rfl
        exact new (List.mem_map.2 ⟨_, hm, rfl⟩)
      rw [if_neg hk, ih h hm]

theorem get?_foldl_insert [DecidableEq κ] [DecidableLT κ] [Key κ] {l : List (κ × α)}
    (h : (l.map (·.1)).Nodup) (t : Table κ α) (k : κ) :
    (l.foldl (fun t e => t.insert e.1 e.2) t).get? k = (l.lookup k).or (t.get? k) := by
  induction l generalizing t with
  | nil => rfl
  | cons e rest ih =>
    obtain ⟨new, h⟩ := List.nodup_cons.1 h
    rw [List.foldl_cons, ih h, get?_insert, lookup_cons]
    split
    · next hk =>
      have : rest.lookup k = none := by
        cases hl : rest.lookup k with
        | none => rfl
        | some v =>
          rw [hk] at hl
          exact absurd (mem_keys_of_lookup hl) new
      rw [this]
      rfl
    · rfl

/-- Entries under different keys are all kept. -/
theorem get?_ofList [DecidableEq κ] [DecidableLT κ] [Key κ] {l : List (κ × α)}
    (h : (l.map (·.1)).Nodup) (k : κ) : (ofList l).get? k = l.lookup k := by
  rw [ofList, get?_foldl_insert h, get?_empty, Option.or_none]

/-- Two sorted lists with the same members are the same list. -/
theorem eq_of_mem_iff [Key κ] : ∀ {l m : List (κ × α)}, (l.Pairwise fun a b => a.1 < b.1) →
    (m.Pairwise fun a b => a.1 < b.1) → (∀ e, e ∈ l ↔ e ∈ m) → l = m
  | [], [], _, _, _ => rfl
  | [], e :: m, _, _, h => absurd ((h e).2 (List.mem_cons_self ..)) (by simp)
  | e :: l, [], _, _, h => absurd ((h e).1 (List.mem_cons_self ..)) (by simp)
  | a :: l, b :: m, hl, hm, h => by
    obtain ⟨hl₁, hl₂⟩ := List.pairwise_cons.1 hl
    obtain ⟨hm₁, hm₂⟩ := List.pairwise_cons.1 hm
    have hab : a = b := by
      rcases List.mem_cons.1 ((h a).1 (List.mem_cons_self ..)) with e | ha
      · exact e
      · rcases List.mem_cons.1 ((h b).2 (List.mem_cons_self ..)) with e | hb
        · exact e.symm
        · exact absurd (Key.trans _ _ _ (hm₁ a ha) (hl₁ b hb)) (Key.irrefl _)
    subst hab
    refine congrArg (a :: ·) (eq_of_mem_iff hl₂ hm₂ fun e => ?_)
    constructor
    · intro he
      rcases List.mem_cons.1 ((h e).1 (List.mem_cons_of_mem _ he)) with rfl | he'
      · exact absurd (hl₁ _ he) (Key.irrefl _)
      · exact he'
    · intro he
      rcases List.mem_cons.1 ((h e).2 (List.mem_cons_of_mem _ he)) with rfl | he'
      · exact absurd (hm₁ _ he) (Key.irrefl _)
      · exact he'

/-- A table is its view. -/
theorem ext_get? [DecidableEq κ] [Key κ] {s t : Table κ α} (h : ∀ k, s.get? k = t.get? k) :
    s = t := by
  have e : s.entries = t.entries := eq_of_mem_iff s.sorted t.sorted fun ⟨k, v⟩ => by
    rw [← get?_eq_some_iff, ← get?_eq_some_iff, h]
  cases s; cases t; cases e; rfl

/-- A table is made from its entries. -/
theorem ofList_entries [DecidableEq κ] [DecidableLT κ] [Key κ] (t : Table κ α) :
    ofList t.entries = t := by
  apply ext_get?
  intro k
  exact get?_ofList t.nodup_keys k

theorem size_modify [DecidableEq κ] (t : Table κ α) (k : κ) (f : α → α) :
    (t.modify k f).size = t.size := List.length_map _

theorem keys_modify [DecidableEq κ] (t : Table κ α) (k : κ) (f : α → α) :
    (t.modify k f).keys = t.keys := by
  simp [modify, keys, Function.comp_def]

/-! ## Changed values -/

theorem map_insert [DecidableEq κ] [DecidableLT κ] [Key κ] (f : α → β) (t : Table κ α) (k : κ) (v : α) :
    (t.insert k v).map f = (t.map f).insert k (f v) := by
  apply ext_get?
  intro j
  rw [get?_map, get?_insert, get?_insert, get?_map]
  split <;> rfl

theorem map_erase [DecidableEq κ] [Key κ] (f : α → β) (t : Table κ α) (k : κ) :
    (t.erase k).map f = (t.map f).erase k := by
  apply ext_get?
  intro j
  rw [get?_map, get?_erase, get?_erase, get?_map]
  split <;> rfl

theorem map_modify [DecidableEq κ] [Key κ] {f : α → β} {g : α → α} {g' : β → β} (h : ∀ v, f (g v) = g' (f v))
    (t : Table κ α) (k : κ) : (t.modify k g).map f = (t.map f).modify k g' := by
  apply ext_get?
  intro j
  rw [get?_map, get?_modify, get?_modify, get?_map]
  split
  · rw [Option.map_map, Option.map_map]
    exact congrArg (fun f => Option.map f (t.get? j)) (funext h)
  · rfl

theorem contains_map [DecidableEq κ] (f : α → β) (t : Table κ α) (k : κ) :
    (t.map f).contains k = t.contains k := by
  unfold contains
  rw [get?_map, Option.isSome_map]

theorem map_map {γ : Type} (g : β → γ) (f : α → β) (t : Table κ α) :
    (t.map f).map g = t.map (g ∘ f) := by
  unfold map
  simp only [List.map_map]
  rfl

theorem values_map (f : α → β) (t : Table κ α) : (t.map f).values = t.values.map f := by
  unfold values map
  simp only [List.map_map]
  rfl

/-! ## Numbering -/

/-- Every key is below the size, so that the size is a key for one more value. -/
def Numbered (t : Table Nat α) : Prop := ∀ k v, t.get? k = some v → k < t.size

theorem length_le_put (k : Nat) (v : α) (l : List (Nat × α)) : l.length ≤ (put k v l).length := by
  induction l with
  | nil => exact Nat.zero_le _
  | cons e rest ih =>
    obtain ⟨j, w⟩ := e
    rw [put]
    split
    · exact Nat.le_succ _
    · split
      · exact Nat.le_refl _
      · exact Nat.succ_le_succ ih

/-- A key above all others is put last. -/
theorem put_of_forall_lt {k : Nat} (v : α) {l : List (Nat × α)} (above : ∀ e ∈ l, e.1 < k) :
    put k v l = l ++ [(k, v)] := by
  induction l with
  | nil => rfl
  | cons e rest ih =>
    obtain ⟨j, w⟩ := e
    have hj : j < k := above (j, w) (List.mem_cons_self ..)
    rw [put, if_neg (Nat.lt_asymm hj), if_neg (Nat.ne_of_gt hj),
      ih fun e he => above e (List.mem_cons_of_mem _ he)]
    rfl

namespace Numbered

variable {t : Table Nat α}

theorem empty : (Table.empty : Table Nat α).Numbered := fun _ _ h => nomatch h

theorem size_insert (h : t.Numbered) (v : α) : (t.insert t.size v).size = t.size + 1 := by
  have above : ∀ e ∈ t.entries, e.1 < t.size := fun e he => h _ _ (get?_eq_some_iff.2 he)
  unfold insert size at *
  dsimp only
  rw [put_of_forall_lt v above, List.length_append]
  rfl

theorem keys_insert_size (h : t.Numbered) (v : α) :
    (t.insert t.size v).keys = t.keys ++ [t.size] := by
  have above : ∀ e ∈ t.entries, e.1 < t.size := fun e he => h _ _ (get?_eq_some_iff.2 he)
  unfold Table.insert keys
  dsimp only
  rw [put_of_forall_lt v above, List.map_append]
  rfl

/-- One more value is numbered. -/
theorem insert_size (h : t.Numbered) (v : α) : (t.insert t.size v).Numbered := by
  intro k w hw
  rw [h.size_insert]
  rw [get?_insert] at hw
  split at hw
  · next e =>
    rw [e]
    exact Nat.lt_succ_self _
  · exact Nat.lt_succ_of_lt (h _ _ hw)

/-- A value may be replaced. -/
theorem insert (h : t.Numbered) {k : Nat} (hk : k < t.size) (v : α) : (t.insert k v).Numbered := by
  intro j w hw
  refine Nat.lt_of_lt_of_le ?_ (length_le_put k v t.entries)
  rw [get?_insert] at hw
  split at hw
  · next e =>
    rw [e]
    exact hk
  · exact h _ _ hw

theorem modify (h : t.Numbered) (k : Nat) (f : α → α) : (t.modify k f).Numbered := by
  intro j w hw
  rw [size_modify]
  rw [get?_modify] at hw
  split at hw
  · obtain ⟨_, hv, -⟩ := Option.map_eq_some_iff.1 hw
    exact h _ _ hv
  · exact h _ _ hw

end Numbered

end Table

end Rendezvous
