import Rendezvous.Proofs.Writes

/-!
# Where paths lead

A path that can be read has a last name (`Path.exists_last`), or it leads to a directory. Pieces in
front of the name lead to a folder, and pieces behind it stay (`Ends`). So what is read there
depends on what stands under the name in that folder and on nothing else:

    fs.Ends above folder name rest →
      fs.read (above ++ name :: rest) = check … then fs.readAt (folder ++ [name]) rest.isEmpty
                                                                       (Ends.read)

A path with an extension put on leads to the same folder (`ends_of_write`), and to the same name if
the path has that extension already (`hasExtension_iff`, `stem_dot`).
-/

namespace Rendezvous

/-! ## Names and extensions -/

namespace Path

variable {above rest : Path} {name e : String}

/-- The last name of a path is some text with an extension behind it. -/
def HasExtension (p : Path) (e : String) : Prop :=
  ∃ above stem rest, p = above ++ (stem ++ "." ++ e) :: rest ∧ stem ≠ "" ∧
    ∀ piece ∈ rest, stays piece = true

/-- A path goes nowhere, or it has a last name, which may be the one of the directory above. -/
theorem exists_last (p : Path) : (∀ piece ∈ p, stays piece = true) ∨
    ∃ above name rest, p = above ++ name :: rest ∧ stays name = false ∧
      ∀ piece ∈ rest, stays piece = true := by
  induction p with
  | nil => exact .inl fun _ h => nomatch h
  | cons piece p ih =>
    rcases ih with stay | ⟨above, name, rest, rfl, named, stay⟩
    · cases named : stays piece with
      | true => exact .inl (List.forall_mem_cons.2 ⟨named, stay⟩)
      | false => exact .inr ⟨[], piece, p, rfl, named, stay⟩
    · exact .inr ⟨piece :: above, name, rest, rfl, named, stay⟩

theorem dropWhile_reverse (named : stays name = false) (stay : ∀ piece ∈ rest, stays piece = true) :
    (above ++ name :: rest).reverse.dropWhile stays = name :: above.reverse := by
  have stay' : ∀ piece ∈ rest.reverse, stays piece = true := fun piece h =>
    stay piece (List.mem_reverse.1 h)
  rw [List.reverse_append, List.reverse_cons, List.append_assoc, List.dropWhile_append_of_pos stay']
  simp [named]

/-- The last name takes the extension, and what stays behind it is dropped. -/
theorem withExtension_name (named : stays name = false) (below : name ≠ "..")
    (stay : ∀ piece ∈ rest, stays piece = true) :
    (above ++ name :: rest).withExtension e = above ++
      [if (stem name).2 && (stem name).1 == "." && rest.isEmpty then ".."
       else (stem name).1 ++ "." ++ e] := by
  have ends : stays ((above ++ name :: rest).getLast?.getD "") = !rest.isEmpty := by
    rcases List.eq_nil_or_concat rest with rfl | ⟨others, piece, rfl⟩
    · simpa using named
    · have behind : above ++ name :: others.concat piece = above ++ name :: others ++ [piece] := by
        simp
      rw [behind, List.getLast?_concat, Option.getD_some, stay piece (by simp),
        List.concat_eq_append]
      cases others <;> rfl
  unfold withExtension
  rw [dropWhile_reverse named stay]
  split
  · next nothing => cases nothing
  · next up =>
    cases up
    exact absurd rfl below
  · next same =>
    cases same
    rw [ends, List.reverse_reverse]
    simp

/-- A path that ends in the directory above keeps its text. -/
theorem withExtension_up (stay : ∀ piece ∈ rest, stays piece = true) :
    (above ++ ".." :: rest).withExtension e = above ++ ".." :: rest := by
  unfold withExtension
  rw [dropWhile_reverse (by decide) stay]
  rfl

theorem withExtension_nowhere {p : Path} (stay : ∀ piece ∈ p, stays piece = true) :
    p.withExtension e = p := by
  have none : (p.reverse ++ []).dropWhile stays = [] :=
    List.dropWhile_append_of_pos fun piece h => stay piece (List.mem_reverse.1 h)
  rw [List.append_nil] at none
  unfold withExtension
  rw [none]

/-- Without its extension a name still has something. -/
theorem stem_ne_empty (named : stays name = false) : (stem name).1 ≠ "" := by
  unfold stem
  split
  · rintro rfl
    exact absurd named (by decide)
  · next before nonempty =>
    intro empty
    exact nonempty (by simpa using congrArg String.toList empty)

/-- What stands before the last dot is the name without its extension. -/
theorem stem_dot {s : String} (nonempty : s ≠ "") (plain : '.' ∉ e.toList) :
    stem (s ++ "." ++ e) = (s, true) := by
  have front : ((s ++ "." ++ e).toList.reverse.dropWhile (· ≠ '.')).tail.reverse = s.toList := by
    have skipped : ∀ c ∈ e.toList.reverse, decide (c ≠ '.') = true := by
      intro c h
      rw [decide_eq_true_eq]
      rintro rfl
      exact plain (List.mem_reverse.1 h)
    rw [String.toList_append, String.toList_append, List.reverse_append,
      List.dropWhile_append_of_pos skipped]
    simp
  unfold stem
  rw [front]
  split
  · next empty => exact absurd (String.toList_eq_nil_iff.1 empty) nonempty
  · rw [String.ofList_toList]

/-- A name with an extension is a name like any other. -/
theorem named_of_extension {s : String} (before : s ≠ "") (nonempty : e ≠ "") :
    stays (s ++ "." ++ e) = false ∧ s ++ "." ++ e ≠ ".." := by
  have length : 3 ≤ (s ++ "." ++ e).length := by
    have := Nat.pos_of_ne_zero (mt String.length_eq_zero_iff.1 before)
    have := Nat.pos_of_ne_zero (mt String.length_eq_zero_iff.1 nonempty)
    simp only [String.length_append]
    show 3 ≤ s.length + 1 + e.length
    omega
  have short : ∀ t : String, t.length < 3 → s ++ "." ++ e ≠ t := by
    rintro _ short rfl
    exact absurd length (Nat.not_le.2 short)
  refine ⟨?_, short ".." (by decide)⟩
  unfold stays
  rw [Bool.or_eq_false_iff, String.isEmpty_eq_false_iff, beq_eq_false_iff_ne]
  exact ⟨short "" (by decide), short "." (by decide)⟩

theorem hasExtension_iff (named : stays name = false) (stay : ∀ piece ∈ rest, stays piece = true)
    (nonempty : e ≠ "") :
    (above ++ name :: rest).HasExtension e ↔ ∃ s, s ≠ "" ∧ name = s ++ "." ++ e := by
  constructor
  · rintro ⟨above', s, rest', same, before, stay'⟩
    have reversed : (above ++ name :: rest).reverse.dropWhile stays = name :: above.reverse :=
      dropWhile_reverse named stay
    rw [same, dropWhile_reverse (named_of_extension before nonempty).1 stay'] at reversed
    exact ⟨s, before, (List.cons.inj reversed).1.symm⟩
  · rintro ⟨s, before, rfl⟩
    exact ⟨above, s, rest, rfl, before, stay⟩

end Path

/-! ## Where a file is read and written -/

namespace Files

variable {fs fs' : Files} {p above rest : Path} {name piece e : String} {content : Bytes}
  {k l folder : Location}

theorem step_cases (h : fs.step k piece = .ok l) : fs.node? k = some .directory ∧
    (l = k ∨ l = k.dropLast ∨ l = k ++ [piece]) := by
  unfold step at h
  split at h
  · cases h
  · cases h
  · next directory =>
    refine ⟨directory, ?_⟩
    split at h
    · exact .inl (Except.ok.inj h).symm
    split at h
    · exact .inr (.inl (Except.ok.inj h).symm)
    split at h
    · cases h
    · exact .inr (.inr (Except.ok.inj h).symm)

theorem step_name (directory : fs.node? folder = some .directory)
    (named : Path.stays name = false) (below : name ≠ "..") :
    fs.step folder name =
      if longestName < name.utf8ByteSize then .error .tooLong else .ok (folder ++ [name]) := by
  unfold step
  rw [directory]
  simp [named, below]

/-- Pieces that stay need a directory to stay in. -/
theorem foldlM_stays (stay : ∀ piece ∈ rest, Path.stays piece = true) (l : Location) :
    rest.foldlM fs.step l =
      if rest.isEmpty then .ok l
      else
        match fs.node? l with
        | some .directory => .ok l
        | some (.file _) => .error .notDirectory
        | none => .error .notFound := by
  induction rest with
  | nil => rfl
  | cons piece rest ih =>
    rw [List.forall_mem_cons] at stay
    rw [List.foldlM_cons, step]
    cases node : fs.node? l with
    | none => rfl
    | some n =>
      cases n with
      | file => rfl
      | directory =>
        rw [if_pos stay.1]
        show rest.foldlM fs.step l = _
        rw [ih stay.2, node]
        split <;> rfl

/-- All directories above a place exist. -/
def Hangs (fs : Files) (l : Location) : Prop :=
  ∀ k, k <+: l → k ≠ l → fs.node? k = some .directory

theorem Hangs.step (hangs : fs.Hangs k) (h : fs.step k piece = .ok l) : fs.Hangs l := by
  obtain ⟨directory, rfl | rfl | rfl⟩ := step_cases h
  · exact hangs
  · intro j before other
    refine hangs j (before.trans k.dropLast_prefix) ?_
    rintro rfl
    exact other (before.eq_of_length_le (by simp))
  · intro j before other
    rcases List.prefix_concat_iff.1 before with whole | before
    · exact absurd whole other
    · by_cases same : j = k
      · rwa [same]
      · exact hangs j before same

theorem Hangs.foldlM (hangs : fs.Hangs k) (h : p.foldlM fs.step k = .ok l) : fs.Hangs l := by
  induction p generalizing k with
  | nil => cases h; exact hangs
  | cons piece p ih =>
    rw [List.foldlM_cons] at h
    obtain ⟨_, one, more⟩ := bind_eq_ok_iff.1 h
    exact ih (hangs.step one) more

theorem hangs_nil : fs.Hangs [] := fun _ before other => absurd (List.prefix_nil.1 before) other

/-- A path that has no last name, or the one of the directory above, leads to a directory. -/
theorem directory_of_up (stay : ∀ piece ∈ rest, Path.stays piece = true)
    (h : (above ++ ".." :: rest).foldlM fs.step [] = .ok l) : fs.node? l = some .directory := by
  rw [List.foldlM_append] at h
  obtain ⟨k, walked, h⟩ := bind_eq_ok_iff.1 h
  rw [List.foldlM_cons] at h
  obtain ⟨l', up, h⟩ := bind_eq_ok_iff.1 h
  obtain ⟨directory, -⟩ := step_cases up
  have parent : l' = k.dropLast := by
    unfold step at up
    rw [directory] at up
    exact (Except.ok.inj up).symm
  rw [foldlM_stays stay] at h
  have same : l = l' := by
    split at h
    · exact (Except.ok.inj h).symm
    · split at h
      · exact (Except.ok.inj h).symm
      · cases h
      · cases h
  rw [same, parent]
  by_cases root : k = []
  · rw [root]
    rfl
  · refine (hangs_nil.foldlM walked) k.dropLast k.dropLast_prefix fun same => ?_
    have := congrArg List.length same
    have := List.length_pos_iff.2 root
    simp only [List.length_dropLast] at *
    omega

theorem directory_of_stays (stay : ∀ piece ∈ p, Path.stays piece = true)
    (h : p.foldlM fs.step [] = .ok l) : fs.node? l = some .directory := by
  rw [foldlM_stays stay] at h
  split at h
  · cases h
    rfl
  · split at h
    · cases h
      rfl
    · cases h
    · cases h

/-- How a path ends: some pieces lead to a folder, a name in it follows, and then pieces that
stay. -/
structure Ends (fs : Files) (above : Path) (folder : Location) (name : String) (rest : Path) :
    Prop where
  walked : above.foldlM fs.step [] = .ok folder
  directory : fs.node? folder = some .directory
  named : Path.stays name = false
  below : name ≠ ".."
  stay : ∀ piece ∈ rest, Path.stays piece = true

/-- What is read at a place. Only a directory can be followed further. -/
def readAt (fs : Files) (l : Location) (last : Bool) : Except FileError Bytes :=
  match fs.node? l with
  | some (.file content) => if last then .ok content else .error .notDirectory
  | some .directory => .error .isDirectory
  | none => .error .notFound

theorem Ends.kept (h : fs.Ends above folder name rest)
    (kept : ∀ k, fs.node? k = some .directory → fs'.node? k = some .directory) :
    fs'.Ends above folder name rest :=
  { h with
    walked := foldlM_step_of_directories kept h.walked
    directory := kept _ h.directory }

theorem Ends.foldlM (h : fs.Ends above folder name rest) :
    (above ++ name :: rest).foldlM fs.step [] =
      if longestName < name.utf8ByteSize then .error .tooLong
      else rest.foldlM fs.step (folder ++ [name]) := by
  rw [List.foldlM_append, h.walked]
  show (name :: rest).foldlM fs.step folder = _
  rw [List.foldlM_cons, step_name h.directory h.named h.below]
  split <;> rfl

theorem Ends.read (h : fs.Ends above folder name rest) :
    fs.read (above ++ name :: rest) = (check (above ++ name :: rest)).bind fun _ =>
      if longestName < name.utf8ByteSize then .error .tooLong
      else fs.readAt (folder ++ [name]) rest.isEmpty := by
  unfold Files.read locate
  rw [h.foldlM, foldlM_stays h.stay]
  cases check (above ++ name :: rest) with
  | error => rfl
  | ok =>
    show (ite _ _ _ : Except FileError Location) >>= _ = ite _ _ _
    split
    · rfl
    · unfold readAt
      cases node : fs.node? (folder ++ [name]) with
      | none =>
        cases rest.isEmpty with
        | true =>
          simp only [bind, Except.bind, if_true, node]
          rfl
        | false => rfl
      | some n => cases n <;> cases rest.isEmpty <;> simp [bind, Except.bind, node] <;> rfl

/-- A path with an extension put on leads to a file only by a last name of its own, and to one in
the same folder. -/
theorem ends_of_write (h : fs.write (p.withExtension e) content = .ok fs') :
    ∃ above folder name rest, p = above ++ name :: rest ∧ fs.Ends above folder name rest ∧
      p.withExtension e = above ++ [(Path.stem name).1 ++ "." ++ e] := by
  obtain ⟨l, located, free, -⟩ := node?_of_write h
  obtain ⟨_, -, located⟩ := bind_eq_ok_iff.1 located
  rcases p.exists_last with stay | ⟨above, name, rest, rfl, named, stay⟩
  · rw [Path.withExtension_nowhere stay] at located
    exact absurd (directory_of_stays stay located) free
  · by_cases below : name = ".."
    · subst below
      rw [Path.withExtension_up stay] at located
      exact absurd (directory_of_up stay located) free
    · rw [Path.withExtension_name named below stay] at located ⊢
      split at located
      · exact absurd (directory_of_up (fun _ h => absurd h List.not_mem_nil) located) free
      · next plain =>
        rw [if_neg plain]
        rw [List.foldlM_append] at located
        obtain ⟨folder, walked, last⟩ := bind_eq_ok_iff.1 located
        rw [List.foldlM_cons] at last
        obtain ⟨_, last, -⟩ := bind_eq_ok_iff.1 last
        exact ⟨above, folder, name, rest, rfl,
          ⟨walked, (step_cases last).1, named, below, stay⟩, rfl⟩

/-- What is written beside a file is written in its folder, and nothing else changes. -/
theorem Ends.node?_of_write {last : String} (ends : fs.Ends above folder name rest)
    (named : Path.stays last = false) (below : last ≠ "..")
    (h : fs.write (above ++ [last]) content = .ok fs') :
    fs.node? (folder ++ [last]) ≠ some .directory ∧
      ∀ k, fs'.node? k =
        if k = folder ++ [last] then some (.file content) else fs.node? k := by
  obtain ⟨l, located, free, written⟩ := Files.node?_of_write h
  obtain ⟨_, -, located⟩ := bind_eq_ok_iff.1 located
  have beside : fs.Ends above folder last [] :=
    { ends with named := named, below := below, stay := fun _ h => absurd h List.not_mem_nil }
  rw [beside.foldlM] at located
  split at located
  · cases located
  · cases located
    exact ⟨free, written⟩

theorem check_ne_notFound (p : Path) : check p ≠ .error .notFound := by
  unfold check
  split
  · nofun
  split
  · nofun
  · nofun

/-- A path to a file or to nothing can be followed, and it leads to a file by its name alone. -/
theorem Ends.of_loadable (ends : fs.Ends above folder name rest)
    (loadable : (∃ old, fs.read (above ++ name :: rest) = .ok old) ∨
      fs.read (above ++ name :: rest) = .error .notFound) :
    check (above ++ name :: rest) = .ok () ∧ ¬ longestName < name.utf8ByteSize ∧
      (rest.isEmpty = true ∨ fs.read (above ++ name :: rest) = .error .notFound) := by
  rw [ends.read] at loadable ⊢
  cases checked : check (above ++ name :: rest) with
  | error e =>
    rw [checked] at loadable
    rcases loadable with ⟨old, found⟩ | missing
    · cases found
    · cases missing
      exact absurd checked (check_ne_notFound _)
  | ok =>
    simp only [checked, Except.bind] at loadable ⊢
    split at loadable
    · rcases loadable with ⟨old, found⟩ | missing
      · cases found
      · cases missing
    · next short =>
      refine ⟨trivial, short, ?_⟩
      rw [if_neg short]
      rcases loadable with ⟨old, found⟩ | missing
      · unfold readAt at found
        split at found
        · split at found
          · next last => exact .inl last
          · cases found
        · cases found
        · cases found
      · exact .inr missing

/-- A path to a file that was just written. -/
theorem Ends.read_of_write (ends : fs.Ends above folder name rest)
    (h : fs.write (above ++ [name]) content = .ok fs') :
    fs'.read (above ++ name :: rest) = (check (above ++ name :: rest)).bind fun _ =>
      if longestName < name.utf8ByteSize then .error .tooLong
      else if rest.isEmpty then .ok content else .error .notDirectory := by
  obtain ⟨-, node⟩ := ends.node?_of_write ends.named ends.below h
  rw [(ends.kept fun _ => directory_of_write h).read]
  unfold readAt
  rw [node, if_pos rfl]

/-- Whether a file can be written does not depend on its content. -/
theorem write_of_write (h : fs.write p content = .ok fs') (other : Bytes) :
    ∃ fs'', fs.write p other = .ok fs'' := by
  obtain ⟨l, located, free, -⟩ := node?_of_write h
  refine ⟨{ entries := fs.entries.insert l (.file other) }, bind_eq_ok_iff.2 ⟨l, located, ?_⟩⟩
  cases node : fs.node? l with
  | none => rfl
  | some n =>
    cases n with
    | file => rfl
    | directory => exact absurd node free

end Files

end Rendezvous
