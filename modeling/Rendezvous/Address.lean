/-!
# Addresses

An address is a host and the number of a socket there: `127.0.0.1:9527`, or `[::1]:9527` with
the host in brackets and perhaps a scope behind a percent sign. Numbers are plain runs of digits;
a part of a dotted quad has no leading zero, and two colons stand for groups that are left out.
-/

namespace Rendezvous

inductive Address where
  /-- The four parts of the host, and the socket. -/
  | ipv4 (host : List Nat) (socket : Nat)
  /-- The eight groups of the host, its scope, and the socket. -/
  | ipv6 (host : List Nat) (scope socket : Nat)
deriving DecidableEq, Repr

namespace Address

/-! ## Algorithm -/

/-- What is read off the front of a text, and the rest. -/
abbrev Parse (α : Type) := List Char → Option (α × List Char)

def digit? (radix : Nat) (c : Char) : Option Nat :=
  let n := c.toNat
  let value :=
    if 48 ≤ n && n ≤ 57 then some (n - 48)
    else if 97 ≤ n && n ≤ 102 then some (n - 87)
    else if 65 ≤ n && n ≤ 70 then some (n - 55)
    else none
  value.filter (· < radix)

/-- A run of digits whose value is at most `limit`. What is beyond the limit is not told apart. -/
def number (radix limit : Nat) : Parse Nat := fun s =>
  let digits := s.takeWhile fun c => (digit? radix c).isSome
  let value := (digits.filterMap (digit? radix)).foldl
    (fun n d => min (radix * n + d) (limit + 1)) 0
  if digits.isEmpty || limit < value then none else some (value, s.drop digits.length)

/-- A run of at most `length` digits. -/
def shortNumber (radix length limit : Nat) : Parse Nat := fun s =>
  (number radix limit s).filter fun r => s.length - r.2.length ≤ length

/-- Passes over a given character. -/
def char (c : Char) (s : List Char) : Option (List Char) :=
  match s with
  | d :: rest => if d = c then some rest else none
  | [] => none

/-- Passes over a separator, which does not stand before the first of several things. -/
def separator (c : Char) (first : Bool) (s : List Char) : Option (List Char) :=
  if first then some s else char c s

/-- A part of a dotted quad. -/
def part : Parse Nat := fun s =>
  match s with
  | '0' :: c :: _ => if (digit? 10 c).isSome then none else shortNumber 10 3 255 s
  | _ => shortNumber 10 3 255 s

/-- Four numbers with dots between them. -/
def dotted : Parse (List Nat) := fun s => do
  let (a, s) ← part s
  let (b, s) ← part (← char '.' s)
  let (c, s) ← part (← char '.' s)
  let (d, s) ← part (← char '.' s)
  return ([a, b, c, d], s)

/-- A dotted quad as two groups. -/
def dottedGroups : Parse (List Nat) := fun s => do
  let (parts, s) ← dotted s
  match parts with
  | [a, b, c, d] => return ([256 * a + b, 256 * c + d], s)
  | _ => none

/-- At most `room` groups with colons between them, and whether the last two are a dotted quad. -/
def someGroups : Nat → Bool → List Char → List Nat × Bool × List Char
  | 0, _, s => ([], false, s)
  | room + 1, first, s =>
    let quad := if room = 0 then none else (separator ':' first s).bind dottedGroups
    match quad with
    | some (gs, rest) => (gs, true, rest)
    | none =>
      match (separator ':' first s).bind (shortNumber 16 4 65535) with
      | none => ([], false, s)
      | some (g, rest) =>
        let (gs, quad, rest) := someGroups room false rest
        (g :: gs, quad, rest)

/-- Eight groups, of which a run of zeros may be written as two colons. -/
def allGroups : Parse (List Nat) := fun s => do
  let (before, quad, s) := someGroups 8 true s
  if before.length = 8 then return (before, s)
  if quad then none
  let s ← char ':' (← char ':' s)
  let (after, _, s) := someGroups (7 - before.length) true s
  return (before ++ List.replicate (8 - before.length - after.length) 0 ++ after, s)

/-- The number of a socket behind a colon. -/
def socket : Parse Nat := fun s => do number 10 65535 (← char ':' s)

/-- A scope behind a percent sign; there need not be one. -/
def scope : List Char → Nat × List Char := fun s =>
  (((char '%' s).bind (number 10 4294967295)).getD (0, s))

def parseQuad : Parse Address := fun s => do
  let (host, s) ← dotted s
  let (socket, s) ← socket s
  return (.ipv4 host socket, s)

def parseGroups : Parse Address := fun s => do
  let (host, s) ← allGroups (← char '[' s)
  let (scope, s) := scope s
  let (socket, s) ← socket (← char ']' s)
  return (.ipv6 host scope socket, s)

/-- The address that a text consists of. -/
def ofText? (text : String) : Option Address :=
  match (parseQuad text.toList).orElse fun _ => parseGroups text.toList with
  | some (address, []) => some address
  | _ => none

example :
    ofText? "127.0.0.1:00080" = some (.ipv4 [127, 0, 0, 1] 80) ∧
      ofText? "[::ffff:1.2.3.4%2]:65535" =
        some (.ipv6 [0, 0, 0, 0, 0, 65535, 258, 772] 2 65535) ∧
      ofText? "127.0.0.01:80" = none ∧ ofText? "127.0.0.1:65536" = none ∧
      ofText? "::1:80" = none ∧ ofText? "[1:2:3:4:5:6:7::]:0" =
        some (.ipv6 [1, 2, 3, 4, 5, 6, 7, 0] 0 0) := by
  decide +kernel

end Address

end Rendezvous
