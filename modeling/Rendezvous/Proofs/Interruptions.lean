import Rendezvous.Proofs.Paths

/-!
# Interrupted writes

Replacing a snapshot may fail at any point, and the program may stop at any point of it. Writing the
temporary file may leave the first bytes of the new content there, none at the least; renaming it
happens or does not. `Leaves` says what may be left behind, and it is what every disk leaves that
stops halfway but does nothing else (`leaves_iff`).

The snapshot then holds what it held before or what was to be written, unless its own last name ends
in `.tmp`: then it is the temporary file that is written first (`Clashes`).

    (∀ content fs', store.Leaves fs content fs' →
      fs'.read store.path = fs.read store.path ∨ fs'.read store.path = .ok content) ↔
        ¬ store.Clashes fs                               (snapshot_kept_or_replaced_iff)
-/

namespace Rendezvous

/-! ## What an interrupted write leaves -/

namespace SnapshotStore

variable {store : SnapshotStore} {fs fs' : Files} {content : Bytes} {db : Database}

/-- What replacing a snapshot may leave behind if it succeeds, fails or is stopped: nothing has
happened yet, the temporary file has its content up to some byte, or it has all of it and is
renamed. -/
inductive Leaves (store : SnapshotStore) (fs : Files) (content : Bytes) : Files → Prop
  | untouched : Leaves store fs content fs
  | partly {fs' : Files} (n : Nat) (written : fs.write store.temporary (content.take n) = .ok fs') :
      Leaves store fs content fs'
  | renamed {whole fs' : Files} (written : fs.write store.temporary content = .ok whole)
      (renamed : whole.rename store.temporary store.path = .ok fs') : Leaves store fs content fs'

/-- The temporary file is the snapshot: the last name of the path has the extension of temporary
files already. It can be written, and the snapshot is a file or there is none. -/
structure Clashes (store : SnapshotStore) (fs : Files) : Prop where
  extension : store.path.HasExtension "tmp"
  writable : ∃ fs', fs.write store.temporary [] = .ok fs'
  loadable : (∃ old, fs.read store.path = .ok old) ∨ fs.read store.path = .error .notFound

/-! ### Disks that stop halfway -/

/-- A disk that may stop at any point and does nothing else: a file that is written has the first
bytes of its content, and a file is renamed or not. -/
structure Halts (d : Disk) : Prop where
  write : ∀ {fs fs' p content outcome}, d.write fs p content = (fs', outcome) →
    (fs' = fs ∧ outcome ≠ .ok ()) ∨
      ∃ n, fs.write p (content.take n) = .ok fs' ∧ (outcome = .ok () → content.take n = content)
  rename : ∀ {fs fs' source target outcome}, d.rename fs source target = (fs', outcome) →
    (fs' = fs ∧ outcome ≠ .ok ()) ∨ fs.rename source target = .ok fs'

/-- The disk that stops when so many bytes are written, or before the file is opened. -/
def haltingDisk (reached : Option Nat) : Disk where
  write fs p content :=
    match reached with
    | none => (fs, .error .notFound)
    | some n =>
      match fs.write p (content.take n) with
      | .ok fs' => (fs', .error .notFound)
      | .error e => (fs, .error e)
  rename fs _ _ := (fs, .error .notFound)
  faithful _ h := by cases h

theorem halts_haltingDisk (reached : Option Nat) : Halts (haltingDisk reached) where
  write {fs fs' p content outcome} h := by
    cases reached with
    | none =>
      cases h
      exact .inl ⟨rfl, nofun⟩
    | some n =>
      cases written : fs.write p (content.take n) with
      | ok =>
        simp only [haltingDisk, written] at h
        cases h
        exact .inr ⟨n, written, nofun⟩
      | error =>
        simp only [haltingDisk, written] at h
        cases h
        exact .inl ⟨rfl, nofun⟩
  rename h := by
    cases h
    exact .inl ⟨rfl, nofun⟩

theorem halts_disk : Halts Files.disk where
  write {fs fs' p content outcome} h := by
    cases written : fs.write p content with
    | ok =>
      simp only [Files.disk, written, Files.attempt] at h
      cases h
      exact .inr ⟨content.length, by rw [List.take_length, written], fun _ => List.take_length⟩
    | error =>
      simp only [Files.disk, written, Files.attempt] at h
      cases h
      exact .inl ⟨rfl, by simp⟩
  rename {fs fs' source target outcome} h := by
    cases renamed : fs.rename source target with
    | ok =>
      simp only [Files.disk, renamed, Files.attempt] at h
      cases h
      exact .inr rfl
    | error =>
      simp only [Files.disk, renamed, Files.attempt] at h
      cases h
      exact .inl ⟨rfl, by simp⟩

/-- What may be left behind is what some disk leaves that may stop at any point. -/
theorem leaves_iff : store.Leaves fs content fs' ↔
    ∃ d, Halts d ∧ (store.writeOn d fs content).1 = fs' := by
  constructor
  · intro leaves
    cases leaves with
    | untouched => exact ⟨haltingDisk none, halts_haltingDisk none, rfl⟩
    | partly n written =>
      refine ⟨haltingDisk (some n), halts_haltingDisk _, ?_⟩
      unfold writeOn
      simp only [haltingDisk, written]
    | renamed written renamed =>
      refine ⟨Files.disk, halts_disk, ?_⟩
      rw [writeOn_disk]
      unfold write
      simp only [written, renamed]
  · rintro ⟨d, halts, rfl⟩
    unfold writeOn
    split
    · next whole e step =>
      rcases halts.write step with ⟨rfl, -⟩ | ⟨n, written, -⟩
      · exact .untouched
      · exact .partly n written
    · next whole step =>
      rcases halts.write step with ⟨-, failed⟩ | ⟨n, written, all⟩
      · exact absurd rfl failed
      · have settled : ∀ {fs' outcome}, d.rename whole store.temporary store.path = (fs', outcome) →
            store.Leaves fs content fs' := by
          intro fs' outcome step'
          rcases halts.rename step' with ⟨rfl, -⟩ | renamed
          · exact .partly n written
          · exact .renamed (all rfl ▸ written) renamed
        split
        · next step' => exact settled step'
        · next step' => exact settled step'

/-! ### The snapshot afterwards -/

/-- Writing the temporary file changes the snapshot only if they are the same file. -/
theorem clashes_of_read_ne {part : Bytes} (written : fs.write store.temporary part = .ok fs')
    (changed : fs'.read store.path ≠ fs.read store.path) : store.Clashes fs := by
  obtain ⟨above, folder, name, rest, path, ends, text⟩ := Files.ends_of_write written
  obtain ⟨named, below⟩ :=
    Path.named_of_extension (Path.stem_ne_empty ends.named) (show "tmp" ≠ "" by decide)
  have beside : fs.write (above ++ [(Path.stem name).1 ++ "." ++ "tmp"]) part = .ok fs' :=
    text ▸ written
  obtain ⟨free, node⟩ := ends.node?_of_write named below beside
  rw [path] at changed
  by_cases same : (Path.stem name).1 ++ "." ++ "tmp" = name
  · rw [same] at beside free
    have extension : store.path.HasExtension "tmp" := by
      rw [path, Path.hasExtension_iff ends.named ends.stay (by decide)]
      exact ⟨_, Path.stem_ne_empty ends.named, same.symm⟩
    refine ⟨extension, Files.write_of_write written [], ?_⟩
    rw [ends.read_of_write beside, ends.read] at changed
    rw [path, ends.read]
    cases checked : Files.check (above ++ name :: rest) with
    | error e => simp [checked, Except.bind] at changed
    | ok =>
      rw [checked] at changed
      by_cases long : Files.longestName < name.utf8ByteSize
      · simp [long, Except.bind] at changed
      · simp only [Except.bind, if_neg long] at changed ⊢
        unfold Files.readAt at changed ⊢
        cases found : fs.node? (folder ++ [name]) with
        | none => exact .inr rfl
        | some n =>
          cases n with
          | directory => exact absurd found free
          | file old =>
            rw [found] at changed
            cases last : rest.isEmpty with
            | true => exact .inl ⟨old, rfl⟩
            | false => simp [last] at changed
  · have untouched : fs'.node? (folder ++ [name]) = fs.node? (folder ++ [name]) := by
      rw [node, if_neg]
      simpa using Ne.symm same
    rw [(ends.kept fun _ => Files.directory_of_write written).read, ends.read] at changed
    unfold Files.readAt at changed
    rw [untouched] at changed
    exact absurd rfl changed

/-- What is written is read as the snapshot if they are the same file; but if the path goes on
behind its name, there was no snapshot and now there can be none. -/
theorem Clashes.read_of_write (h : store.Clashes fs) :
    (∀ part fs', fs.write store.temporary part = .ok fs' → fs'.read store.path = .ok part) ∨
      fs.read store.path = .error .notFound ∧
        ∀ part fs', fs.write store.temporary part = .ok fs' →
          fs'.read store.path = .error .notDirectory := by
  obtain ⟨fs₀, empty⟩ := h.writable
  obtain ⟨above, folder, name, rest, path, ends, text⟩ := Files.ends_of_write empty
  have same : (Path.stem name).1 ++ "." ++ "tmp" = name := by
    have extension := h.extension
    rw [path, Path.hasExtension_iff ends.named ends.stay (by decide)] at extension
    obtain ⟨s, before, rfl⟩ := extension
    rw [Path.stem_dot before (by decide)]
  have text : store.temporary = above ++ [name] := same ▸ text
  have loadable := h.loadable
  rw [path] at loadable
  obtain ⟨checked, short, last⟩ := ends.of_loadable loadable
  have after {part fs'} (written : fs.write (above ++ [name]) part = .ok fs') :
      fs'.read (above ++ name :: rest) =
        if rest.isEmpty then .ok part else .error .notDirectory := by
    rw [ends.read_of_write written, checked]
    simp only [Except.bind, if_neg short]
  rw [text, path]
  by_cases empty : rest.isEmpty = true
  · simp only [empty] at after
    exact .inl fun part fs' written => after written
  · simp only [empty] at after
    exact .inr ⟨last.resolve_left empty, fun part fs' written => after written⟩

/-- The snapshot holds what it held before or what was to be written. -/
theorem Leaves.kept_or_replaced (h : store.Leaves fs content fs') (apart : ¬ store.Clashes fs) :
    fs'.read store.path = fs.read store.path ∨ fs'.read store.path = .ok content := by
  cases h with
  | untouched => exact .inl rfl
  | partly n written =>
    by_cases same : fs'.read store.path = fs.read store.path
    · exact .inl same
    · exact absurd (clashes_of_read_ne written same) apart
  | renamed written renamed =>
    obtain ⟨moved, source, target⟩ := Files.read_of_rename renamed
    rw [Files.read_of_write written] at source
    cases source
    exact .inr target

/-- Otherwise it holds neither if writing is stopped before the first byte or right behind it. -/
theorem Clashes.torn (h : store.Clashes fs) (long : 2 ≤ content.length) :
    ∃ n fs', n ≤ 1 ∧ store.Leaves fs content fs' ∧ fs'.read store.path ≠ fs.read store.path ∧
      (fs'.read store.path = .ok (content.take n) ∨
        fs'.read store.path = .error .notDirectory) := by
  obtain ⟨_, writable⟩ := h.writable
  have stopped (n : Nat) : ∃ fs', fs.write store.temporary (content.take n) = .ok fs' :=
    Files.write_of_write writable _
  obtain ⟨fs₀, first⟩ := stopped 0
  rcases h.read_of_write with written | ⟨missing, blocked⟩
  · by_cases empty : fs.read store.path = .ok []
    · obtain ⟨fs₁, second⟩ := stopped 1
      have other : content.take 1 ≠ [] := by
        intro none
        have := congrArg List.length none
        simp only [List.length_take, List.length_nil] at this
        omega
      refine ⟨1, fs₁, Nat.le_refl 1, .partly 1 second, ?_, .inl (written _ _ second)⟩
      rw [written _ _ second, empty]
      exact fun same => other (Except.ok.inj same)
    · refine ⟨0, fs₀, Nat.zero_le 1, .partly 0 first, ?_, .inl (written _ _ first)⟩
      rw [written _ _ first]
      exact Ne.symm empty
  · refine ⟨0, fs₀, Nat.zero_le 1, .partly 0 first, ?_, .inr (blocked _ _ first)⟩
    rw [missing, blocked _ _ first]
    nofun

theorem load_of_read_eq (same : fs'.read store.path = fs.read store.path) :
    store.load fs' = store.load fs := by
  unfold load
  rw [same]

theorem load_of_read_snapshot (whole : fs.read store.path = .ok db.snapshot) :
    store.load fs = .ok db := by
  unfold load
  rw [whole]
  dsimp only
  rw [restore_snapshot]

/-- A snapshot begins with a brace, and that is not all. -/
theorem snapshot_eq (db : Database) : ∃ b rest, db.snapshot = 0x7b :: b :: rest :=
  ⟨_, _, rfl⟩

/-- Stopped before its second byte, a snapshot that is written in place is neither the old one nor
the new one, and it is no database. -/
theorem Clashes.neither_remains (h : store.Clashes fs) (db : Database) :
    ∃ fs', store.Leaves fs db.snapshot fs' ∧ fs'.read store.path ≠ fs.read store.path ∧
      fs'.read store.path ≠ .ok db.snapshot ∧ ∃ e, store.load fs' = .error e := by
  obtain ⟨b, rest, text⟩ := snapshot_eq db
  have long : 2 ≤ db.snapshot.length := by
    rw [text]
    simp
  obtain ⟨n, fs', few, leaves, changed, part | blocked⟩ := h.torn long
  · refine ⟨fs', leaves, changed, ?_, ?_⟩
    · rw [part, text]
      intro whole
      have := congrArg List.length (Except.ok.inj whole)
      simp only [List.length_take, List.length_cons] at this
      omega
    · refine ⟨.corrupt .ended, ?_⟩
      unfold load
      rw [part, text]
      match n, few with
      | 0, _ => rfl
      | 1, _ => rfl
  · refine ⟨fs', leaves, changed, ?_, .io .notDirectory, ?_⟩
    · rw [blocked]
      nofun
    · unfold load
      rw [blocked]

end SnapshotStore

open SnapshotStore in
/-- Replacing a snapshot, whatever the path is, whatever stood there and wherever it is stopped,
leaves the snapshot as it was or as it is to be, exactly if the temporary file is not the snapshot
itself. Then the old database is loaded or the new one; otherwise there is a point, for every new
database, at which neither is in the file and loading fails. -/
theorem snapshot_kept_or_replaced_iff (store : SnapshotStore) (fs : Files) :
    ((∀ content fs', store.Leaves fs content fs' →
        fs'.read store.path = fs.read store.path ∨ fs'.read store.path = .ok content) ↔
      ¬ store.Clashes fs) ∧
    (¬ store.Clashes fs → ∀ (db : Database) fs', store.Leaves fs db.snapshot fs' →
      store.load fs' = store.load fs ∨ store.load fs' = .ok db) ∧
    (store.Clashes fs → ∀ db : Database, ∃ fs', store.Leaves fs db.snapshot fs' ∧
      fs'.read store.path ≠ fs.read store.path ∧ fs'.read store.path ≠ .ok db.snapshot ∧
      ∃ e, store.load fs' = .error e) := by
  refine ⟨⟨?_, ?_⟩, ?_, fun clashes => clashes.neither_remains⟩
  · intro whole clashes
    obtain ⟨fs', leaves, changed, other, -⟩ := clashes.neither_remains {}
    rcases whole _ fs' leaves with same | replaced
    · exact changed same
    · exact other replaced
  · intro apart content fs' leaves
    exact leaves.kept_or_replaced apart
  · intro apart db fs' leaves
    rcases leaves.kept_or_replaced apart with same | replaced
    · exact .inl (load_of_read_eq same)
    · exact .inr (load_of_read_snapshot replaced)

theorem exists_write_of_toBool {fs : Files} {p : Path} {content : Bytes}
    (done : (fs.write p content).toBool = true) : ∃ fs', fs.write p content = .ok fs' := by
  cases outcome : fs.write p content with
  | ok fs' => exact ⟨fs', rfl⟩
  | error =>
    rw [outcome] at done
    cases done

/-- The file tree with one snapshot at the root. -/
def folderOf (name : String) (db : Database) : Files :=
  { entries := ⟨[([name], .file db.snapshot)], List.pairwise_singleton ..⟩ }

/-- A database with somebody in it. -/
def settledDatabase : Database :=
  { peers := .ofList [("bob1234567", { id := "bob1234567", passwordDigest := "d", salt := "s" })] }

open SnapshotStore in
/-- A snapshot in `db.json` survives every interruption; in `db.tmp` it does not. -/
theorem snapshot_kept_or_replaced_iff_folderOf :
    (let store : SnapshotStore := ⟨["", "db.json"]⟩
     let fs := folderOf "db.json" settledDatabase
     ¬ store.Clashes fs ∧ ∀ (db : Database) fs', store.Leaves fs db.snapshot fs' →
       store.load fs' = store.load fs ∨ store.load fs' = .ok db) ∧
    (let store : SnapshotStore := ⟨["", "db.tmp"]⟩
     let fs := folderOf "db.tmp" settledDatabase
     store.Clashes fs ∧ ∀ db : Database, ∃ fs', store.Leaves fs db.snapshot fs' ∧
       fs'.read store.path ≠ fs.read store.path ∧ fs'.read store.path ≠ .ok db.snapshot ∧
       ∃ e, store.load fs' = .error e) := by
  constructor
  · intro store fs
    have apart : ¬ store.Clashes fs := by
      rintro ⟨extension, -, -⟩
      have path : store.path = [""] ++ "db.json" :: [] := rfl
      rw [path, Path.hasExtension_iff (by decide) (by simp) (by decide)] at extension
      obtain ⟨s, -, same⟩ := extension
      have := congrArg (fun t : String => t.toList.reverse.head?) same
      simp at this
    exact ⟨apart, (snapshot_kept_or_replaced_iff store fs).2.1 apart⟩
  · intro store fs
    have clashes : store.Clashes fs :=
      { extension := ⟨[""], "db", [], rfl, by decide, by simp⟩
        writable := exists_write_of_toBool (by decide +kernel)
        loadable := .inl ⟨settledDatabase.snapshot, rfl⟩ }
    exact ⟨clashes, (snapshot_kept_or_replaced_iff store fs).2.2 clashes⟩

open SnapshotStore in
/-- Stopped after its temporary file is emptied, a store at `db.tmp` has lost the old snapshot and
has no new one. One at `db.tmp/`, where there was nothing to load and nothing can be saved, makes a
file in trying to, and from then on loading fails. -/
theorem interrupted_write_loses_snapshot :
    (let store : SnapshotStore := ⟨["", "db.tmp"]⟩
     let fs := folderOf "db.tmp" settledDatabase
     store.load fs = .ok settledDatabase ∧
       ∃ fs', store.Leaves fs ({} : Database).snapshot fs' ∧
         fs'.read store.path = .ok [] ∧ store.load fs' = .error (.corrupt .ended)) ∧
    (let store : SnapshotStore := ⟨["", "db.tmp", ""]⟩
     let fs := (store.save {} settledDatabase).1
     store.load {} = .ok {} ∧ store.Leaves {} settledDatabase.snapshot fs ∧
       store.load fs = .error (.io .notDirectory)) := by
  constructor
  · intro store fs
    obtain ⟨fs', written⟩ : ∃ fs', fs.write store.temporary [] = .ok fs' :=
      exists_write_of_toBool (by decide +kernel)
    have itself : store.temporary = store.path := by decide +kernel
    have read : fs'.read store.path = .ok [] := itself ▸ Files.read_of_write written
    refine ⟨load_of_read_snapshot rfl, fs', .partly 0 written, read, ?_⟩
    unfold load
    rw [read]
    rfl
  · intro store fs
    have read : fs.read store.path = .error .notDirectory := by
      have evaluated : (match fs.read store.path with
          | .ok _ => none
          | .error e => some e) = some FileError.notDirectory := by decide +kernel
      cases outcome : fs.read store.path with
      | ok => simp [outcome] at evaluated
      | error => simpa [outcome] using evaluated
    refine ⟨rfl, leaves_iff.2 ⟨Files.disk, halts_disk, by rw [writeOn_disk]; rfl⟩, ?_⟩
    unfold load
    rw [read]

end Rendezvous
