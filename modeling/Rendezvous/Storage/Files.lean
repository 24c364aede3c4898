import Rendezvous.Storage.Path
import Rendezvous.Table
import Rendezvous.Text.Utf8

/-!
# A tree of files

Files and directories below a root, as far as keeping a snapshot depends on them. Every directory
above an entry is an entry of its own. A path is followed piece by piece: each piece but the last
has to lead to a directory that exists.
-/

namespace Rendezvous

/-- Where an entry stands: the names from the root down to it. -/
abbrev Location := List String

inductive Node where
  | file (content : Bytes)
  | directory
deriving DecidableEq

/-- Why an operation on files fails. -/
inductive FileError where
  | notFound
  | notDirectory
  | isDirectory
  /-- The path or one of its names is too long. -/
  | tooLong
  /-- No entry can be meant. -/
  | invalidPath
deriving DecidableEq, Repr

structure Files where
  entries : Table Location Node := .empty
deriving DecidableEq

namespace Files

/-! ## Algorithm -/

instance : Inhabited Files := ⟨{}⟩

/-- The most bytes that a name has. -/
def longestName : Nat := 255

/-- The most bytes that a path has. -/
def longestPath : Nat := 4095

/-- What stands at a location; the root is a directory. -/
def node? (fs : Files) (l : Location) : Option Node :=
  if l.isEmpty then some .directory else fs.entries.get? l

/-- Where a piece leads from a directory. Nothing has to stand there. -/
def step (fs : Files) (l : Location) (piece : String) : Except FileError Location :=
  match fs.node? l with
  | none => .error .notFound
  | some (.file _) => .error .notDirectory
  | some .directory =>
    if Path.stays piece then .ok l
    else if piece == ".." then .ok l.dropLast
    else if longestName < piece.utf8ByteSize then .error .tooLong
    else .ok (l ++ [piece])

/-- A path that can be followed at all: it has no null character and is not too long. -/
def check (p : Path) : Except FileError Unit :=
  if p.any (·.toList.contains '\x00') then .error .invalidPath
  else if longestPath < p.byteSize then .error .tooLong
  else .ok ()

/-- Where a path leads, from the root. -/
def locate (fs : Files) (p : Path) : Except FileError Location := do
  check p
  p.foldlM fs.step []

/-- The content of a file. -/
def read (fs : Files) (p : Path) : Except FileError Bytes := do
  match fs.node? (← fs.locate p) with
  | some (.file content) => return content
  | some .directory => throw .isDirectory
  | none => throw .notFound

/-- Creates a file or replaces its content. -/
def write (fs : Files) (p : Path) (content : Bytes) : Except FileError Files := do
  let l ← fs.locate p
  match fs.node? l with
  | some .directory => throw .isDirectory
  | _ => return { entries := fs.entries.insert l (.file content) }

/-- Removes a file. -/
def remove (fs : Files) (p : Path) : Except FileError Files := do
  let _ ← fs.read p
  return { entries := fs.entries.erase (← fs.locate p) }

/-- Moves a file over another one or to a free place. -/
def rename (fs : Files) (source target : Path) : Except FileError Files := do
  let content ← fs.read source
  (← fs.remove source).write target content

/-- Follows the pieces from a directory and creates each directory that is missing. Nothing can be
created under the name that it would have inside itself, as in `a/.`. -/
def makeFrom (fs : Files) (l : Location) : Path → Files × Except FileError Unit
  | [] => (fs, .ok ())
  | piece :: rest =>
    match fs.step l piece with
    | .error e => (fs, .error e)
    | .ok l =>
      match fs.node? l with
      | some .directory => fs.makeFrom l rest
      | some (.file _) => (fs, .error .notDirectory)
      | none =>
        if rest.contains "." && rest.all Path.stays then (fs, .error .notFound)
        else ({ entries := fs.entries.insert l .directory } : Files).makeFrom l rest

/-- Creates a directory and those above it. If that fails, the ones made before stay. -/
def makeDirectory (fs : Files) (p : Path) : Files × Except FileError Unit :=
  match check p with
  | .error e => (fs, .error e)
  | .ok () => fs.makeFrom [] p

/-- The files without the entries at some locations. -/
def without (fs : Files) (gone : Location → Bool) : Files :=
  { entries := ⟨fs.entries.entries.filter fun e => !gone e.1, fs.entries.sorted.filter _⟩ }

/-- Removes a directory with everything in it. Emptying comes first; then the path is followed once
more, and it may have led through what is gone by now. So a directory cannot be removed from inside:
what is in it goes, and it stays. -/
def removeDirectory (fs : Files) (p : Path) : Files × Except FileError Unit :=
  match fs.locate p with
  | .error e => (fs, .error e)
  | .ok l =>
    match fs.node? l with
    | none => (fs, .error .notFound)
    | some (.file _) => (fs, .error .notDirectory)
    | some .directory =>
      let emptied := fs.without fun k => l.isPrefixOf k && l != k
      match emptied.locate p with
      | .error _ => (emptied, .ok ())
      | .ok _ =>
        if (p.reverse.find? (!·.isEmpty)).all (fun last => last == "." || last == "..") then
          (emptied, .error .invalidPath)
        else (emptied.without (· == l), .ok ())

/-- The paths of all entries below a directory, sorted; a directory ends in a slash. -/
def listing (fs : Files) (p : Path) : List String :=
  match fs.locate p with
  | .error _ => []
  | .ok l =>
    let inside := fs.entries.entries.filter fun e => l.isPrefixOf e.1 && l != e.1
    let names := inside.map fun e =>
      "/".intercalate (e.1.drop l.length) ++ if e.2 = .directory then "/" else ""
    names.mergeSort fun a b => a ≤ b

end Files

end Rendezvous
