import Rendezvous.Database.Snapshot
import Rendezvous.Storage.Files

/-!
# The snapshot file

A store keeps the latest snapshot in one file. It writes to a temporary file beside it first and
then renames that over the snapshot, so that a write that fails leaves the old snapshot in place.
-/

namespace Rendezvous

structure SnapshotStore where
  path : Path
deriving DecidableEq

/-- Why a snapshot cannot be loaded or saved. -/
inductive StoreError where
  | io (cause : FileError)
  | corrupt (fault : Json.Fault)
deriving DecidableEq, Repr

namespace SnapshotStore

/-- Where a snapshot is written before it is renamed: at the same path with the extension `tmp`. -/
def temporary (s : SnapshotStore) : Path := s.path.withExtension "tmp"

/-- The database in the file; without a file, an empty one. -/
def load (s : SnapshotStore) (fs : Files) : Except StoreError Database :=
  match fs.read s.path with
  | .ok content =>
    match Database.restore content with
    | .ok db => .ok db
    | .error f => .error (.corrupt f)
  | .error .notFound => .ok {}
  | .error e => .error (.io e)

/-- Replaces the snapshot. If the second step fails, the temporary file stays behind. -/
def write (s : SnapshotStore) (fs : Files) (content : Bytes) : Files × Except StoreError Unit :=
  match fs.write s.temporary content with
  | .error e => (fs, .error (.io e))
  | .ok fs =>
    match fs.rename s.temporary s.path with
    | .error e => (fs, .error (.io e))
    | .ok fs => (fs, .ok ())

def save (s : SnapshotStore) (fs : Files) (db : Database) : Files × Except StoreError Unit :=
  s.write fs db.snapshot

end SnapshotStore

end Rendezvous
