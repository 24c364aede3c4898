/-!
# Paths

A path is the list of its pieces as they are written between slashes. Nothing is dropped: an empty
piece and `.` stay in the directory reached so far, `..` goes to the one above it, and any other
piece is a name. So `db/` can only be a directory, while `db` may be a file.
-/

namespace Rendezvous

/-- The pieces of a path in order; one that begins with a slash has an empty piece first. -/
abbrev Path := List String

namespace Path

/-! ## Algorithm -/

def ofText (s : String) : Path := s.splitOn "/"

/-- The number of bytes of the path as it is written. -/
def byteSize (p : Path) : Nat :=
  p.foldl (fun n piece => n + piece.utf8ByteSize) (p.length - 1)

/-- A path that begins with a slash stands for itself, any other one is below the directory. -/
def below (directory p : Path) : Path :=
  if 1 < p.length && p.head? == some "" then p else directory ++ p

/-- A piece that stays where it is. -/
def stays (piece : String) : Bool := piece.isEmpty || piece == "."

/-- A name without its extension, which begins at the last dot unless that is the first character;
also whether there is one. -/
def stem (name : String) : String × Bool :=
  match (name.toList.reverse.dropWhile (· ≠ '.')).tail.reverse with
  | [] => (name, false)
  | before => (String.ofList before, true)

/-- The path with another extension. Pieces after its last name are dropped, and a path that has no
last name keeps its text.

The old extension goes before the new one is put on. Taking it off `..x` leaves `..`, which is not
a name any more; so it ends there if nothing follows the name. -/
def withExtension (p : Path) (extension : String) : Path :=
  match p.reverse.dropWhile stays with
  | [] => p
  | ".." :: _ => p
  | name :: above =>
    let (stem, extended) := stem name
    let last := if extended && stem == "." && !stays (p.getLast?.getD "") then ".."
      else stem ++ "." ++ extension
    above.reverse ++ [last]

/-- The last name of a path takes the new extension, whatever follows it; a path that ends in the
directory above has no name to take one. -/
example :
    withExtension ["", "a", "db.json"] "tmp" = ["", "a", "db.tmp"] ∧
      withExtension ["a.b.json", ".", ""] "tmp" = ["a.b.tmp"] ∧
      withExtension ["a", ".db"] "tmp" = ["a", ".db.tmp"] ∧
      withExtension ["a", ".."] "tmp" = ["a", ".."] ∧
      withExtension ["a", "..x"] "tmp" = ["a", ".."] ∧
      withExtension ["a", "..x", ""] "tmp" = ["a", "..tmp"] ∧
      withExtension ["..."] "tmp" = ["...tmp"] := by
  decide +kernel

end Path

end Rendezvous
