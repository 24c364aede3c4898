import Rendezvous.Proofs.Rules
import Rendezvous.Proofs.Snapshots
import Rendezvous.Storage.SnapshotStore

/-!
# Snapshots in files

A snapshot is written in two steps: to a temporary file, which is then renamed. A `Disk` does the
steps, and each may fail and leave behind whatever it likes. All that is asked of it is that a file
that was written and renamed has the content that was written; the tree of files is such a disk
(`Files.disk`). So a snapshot that was written is loaded again, on every disk:

    store.writeOn d fs db.snapshot = (fs', .ok ()) → store.load fs' = .ok db
                                                                       (load_of_writeOn)
-/

namespace Rendezvous

/-! ## Files -/

namespace Files

variable {fs fs' : Files} {p source target : Path} {content : Bytes} {l : Location}

/-- Where pieces lead does not change as long as no directory is lost. -/
theorem foldlM_step_of_directories (kept : ∀ k, fs.node? k = some .directory →
    fs'.node? k = some .directory) {k : Location} (h : p.foldlM fs.step k = .ok l) :
    p.foldlM fs'.step k = .ok l := by
  have step : ∀ k piece k', fs.step k piece = .ok k' → fs'.step k piece = .ok k' := by
    intro k piece k' h
    unfold Files.step at h ⊢
    split at h
    · cases h
    · cases h
    · next directory =>
      rw [kept k directory]
      exact h
  induction p generalizing k with
  | nil => exact h
  | cons piece p ih =>
    rw [List.foldlM_cons, bind_eq_ok_iff] at h ⊢
    obtain ⟨k', hk, h⟩ := h
    exact ⟨k', step k piece k' hk, ih h⟩

theorem locate_of_directories (kept : ∀ k, fs.node? k = some .directory →
    fs'.node? k = some .directory) (h : fs.locate p = .ok l) : fs'.locate p = .ok l := by
  unfold locate at h ⊢
  rw [bind_eq_ok_iff] at h ⊢
  obtain ⟨_, checked, h⟩ := h
  exact ⟨_, checked, foldlM_step_of_directories kept h⟩

/-- A file is written to where its path leads, and nothing else changes. -/
theorem node?_of_write (h : fs.write p content = .ok fs') :
    ∃ l, fs.locate p = .ok l ∧ fs.node? l ≠ some .directory ∧
      ∀ k, fs'.node? k = if k = l then some (.file content) else fs.node? k := by
  obtain ⟨l, located, h⟩ := bind_eq_ok_iff.1 h
  refine ⟨l, located, ?_⟩
  split at h
  · cases h
  · next free =>
    cases h
    refine ⟨free, fun k => ?_⟩
    unfold node? at free ⊢
    rw [Table.get?_insert]
    by_cases root : k.isEmpty = true
    · have other : k ≠ l := by
        rintro rfl
        exact free (if_pos root)
      rw [if_pos root, if_pos root, if_neg other]
    · rw [if_neg root, if_neg root]

theorem directory_of_write (h : fs.write p content = .ok fs') {k : Location}
    (hk : fs.node? k = some .directory) : fs'.node? k = some .directory := by
  obtain ⟨l, -, free, written⟩ := node?_of_write h
  rw [written, if_neg, hk]
  rintro rfl
  exact free hk

/-- What is written is read again. -/
theorem read_of_write (h : fs.write p content = .ok fs') : fs'.read p = .ok content := by
  obtain ⟨l, located, -, written⟩ := node?_of_write h
  unfold read
  refine bind_eq_ok_iff.2 ⟨l, locate_of_directories (fun _ => directory_of_write h) located, ?_⟩
  rw [written, if_pos rfl]
  rfl

/-- What is renamed is read under the new name. -/
theorem read_of_rename (h : fs.rename source target = .ok fs') :
    ∃ content, fs.read source = .ok content ∧ fs'.read target = .ok content := by
  obtain ⟨content, hs, h⟩ := bind_eq_ok_iff.1 h
  obtain ⟨_, -, h⟩ := bind_eq_ok_iff.1 h
  exact ⟨content, hs, read_of_write h⟩

end Files

/-! ## Disks -/

/-- How the two steps of writing a snapshot are done. Either may fail, whatever it leaves behind. -/
structure Disk where
  write : Files → Path → Bytes → Files × Except FileError Unit
  rename : Files → Path → Path → Files × Except FileError Unit
  /-- What was written and renamed is in the file. -/
  faithful : ∀ {fs fs' fs'' source target content}, write fs source content = (fs', .ok ()) →
    rename fs' source target = (fs'', .ok ()) → fs''.read target = .ok content

/-- The files after a step, and how it went; a step that fails changes nothing. -/
def Files.attempt (fs : Files) (x : Except FileError Files) : Files × Except FileError Unit :=
  match x with
  | .ok fs => (fs, .ok ())
  | .error e => (fs, .error e)

theorem Files.attempt_eq_ok_iff {fs fs' : Files} {x : Except FileError Files} :
    fs.attempt x = (fs', .ok ()) ↔ x = .ok fs' := by
  cases x with
  | ok fs => simp [attempt]
  | error e => simp [attempt]

/-- The tree of files does the steps. -/
def Files.disk : Disk where
  write fs p content := fs.attempt (fs.write p content)
  rename fs source target := fs.attempt (fs.rename source target)
  faithful hw hr := by
    have written := read_of_write (attempt_eq_ok_iff.1 hw)
    obtain ⟨content, hs, renamed⟩ := read_of_rename (attempt_eq_ok_iff.1 hr)
    rw [written] at hs
    cases hs
    exact renamed

namespace SnapshotStore

variable {d : Disk} {store : SnapshotStore} {fs fs' : Files} {content : Bytes} {db : Database}

/-- Replaces the snapshot by the steps of a disk. -/
def writeOn (d : Disk) (store : SnapshotStore) (fs : Files) (content : Bytes) :
    Files × Except StoreError Unit :=
  match d.write fs store.temporary content with
  | (fs, .error e) => (fs, .error (.io e))
  | (fs, .ok ()) =>
    match d.rename fs store.temporary store.path with
    | (fs, .error e) => (fs, .error (.io e))
    | (fs, .ok ()) => (fs, .ok ())

theorem writeOn_disk (store : SnapshotStore) (fs : Files) (content : Bytes) :
    store.writeOn Files.disk fs content = store.write fs content := by
  unfold writeOn write Files.disk Files.attempt
  dsimp only
  cases fs.write store.temporary content with
  | error e => rfl
  | ok fs =>
    dsimp only
    cases fs.rename store.temporary store.path <;> rfl

theorem read_of_writeOn (h : store.writeOn d fs content = (fs', .ok ())) :
    fs'.read store.path = .ok content := by
  unfold writeOn at h
  split at h
  · cases h
  · next written =>
    split at h
    · cases h
    · next renamed =>
      cases h
      exact d.faithful written renamed

/-- A snapshot that was written is loaded again. -/
theorem load_of_writeOn (h : store.writeOn d fs db.snapshot = (fs', .ok ())) :
    store.load fs' = .ok db := by
  unfold load
  rw [read_of_writeOn h]
  dsimp only
  rw [restore_snapshot]

end SnapshotStore

/-- Every database is restored from its snapshot, whatever its texts, keys and numbers are; and once
saving it has succeeded, it is what the store loads, on the tree of files and on every disk. -/
theorem saved_database_is_loaded (db : Database) :
    Database.restore db.snapshot = .ok db ∧
    (∀ (store : SnapshotStore) (fs fs' : Files),
      store.save fs db = (fs', .ok ()) → store.load fs' = .ok db) ∧
    ∀ (d : Disk) (store : SnapshotStore) (fs fs' : Files),
      store.writeOn d fs db.snapshot = (fs', .ok ()) → store.load fs' = .ok db := by
  refine ⟨restore_snapshot db, fun store fs fs' saved => ?_, fun d store fs fs' written => ?_⟩
  · rw [SnapshotStore.save, ← SnapshotStore.writeOn_disk] at saved
    exact SnapshotStore.load_of_writeOn saved
  · exact SnapshotStore.load_of_writeOn written

/-- Records under keys that are not theirs, with texts to escape, the largest number, and
memberships in services that do not exist. -/
def oddDatabase : Database where
  peers := .ofList
    [("", { id := "é€😀", passwordDigest := "\"\\/", salt := "\u0000\u001f\t\r\n",
            memberships := .ofList [("a\"b", true), ("😀", false), ("", true)] }),
     ("\u007f", { id := "", passwordDigest := "", salt := "" })]
  services := .ofList
    [("box\n", { name := "other", owner := "nobody", passwordDigest := "d", salt := "s",
                 description := "\u0008\u000c", enabled := true,
                 createdAt := 18446744073709551615 })]

/-- It is saved over a file that holds no snapshot, and loaded again. -/
theorem saved_database_is_loaded_oddDatabase :
    let store : SnapshotStore := ⟨["data", "db.json"]⟩
    let folder : Files := (({} : Files).makeDirectory ["data"]).1
    let fs : Files := (folder.write ["data", "db.json"] [0x7b]).toOption.getD folder
    ∃ fs', store.save fs oddDatabase = (fs', .ok ()) ∧ store.load fs' = .ok oddDatabase ∧
      store.load fs = .error (.corrupt .ended) := by
  intro store folder fs
  have saved : (store.save fs oddDatabase).2 = .ok () := by
    have evaluated : (store.save fs oddDatabase).2.toBool = true := by decide +kernel
    cases outcome : (store.save fs oddDatabase).2 with
    | ok _ => rfl
    | error _ =>
      rw [outcome] at evaluated
      cases evaluated
  refine ⟨(store.save fs oddDatabase).1, Prod.ext rfl saved, ?_, ?_⟩
  · exact (saved_database_is_loaded oddDatabase).2.1 store fs _ (Prod.ext rfl saved)
  · rfl

end Rendezvous
