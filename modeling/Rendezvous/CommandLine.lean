import Rendezvous.Address

/-!
# The command line

One word says what to run, options follow. An option has a long name and perhaps a short one; it
may be given once, its value behind it, behind an equals sign, or right behind the short name.
What comes first decides: a word that is wrong is an error unless help was asked for before it.
-/

namespace Rendezvous.CommandLine

/-! ## Options -/

/-- An option; its value is checked as soon as it is read. -/
structure OptionSpec where
  name : String
  short : Option Char := none
  /-- Whether a value is right; an option without values has none. -/
  value : Option (String → Bool) := none

/-- What a list of words gives. -/
inductive Given where
  | help
  /-- The options in order, each with its value. -/
  | options (values : List (String × String))
deriving DecidableEq, Repr

/-- One option with its value is put before those that follow. -/
def Given.cons (name value : String) : Given → Given
  | help => help
  | options vs => options ((name, value) :: vs)

/-- What one word says. -/
inductive Word where
  | help
  /-- An option that has no value. -/
  | flag (name : String)
  /-- An option together with its value. -/
  | valued (spec : OptionSpec) (value : String)
  /-- An option whose value is the next word. -/
  | awaiting (spec : OptionSpec)
  /-- Options are over. -/
  | done

/-- A word that starts with two dashes. -/
def longWord (specs : List OptionSpec) (text : List Char) : Option Word :=
  let name := String.ofList (text.takeWhile (· ≠ '='))
  let value := text.dropWhile (· ≠ '=')
  if name = "help" then if value.isEmpty then some .help else none
  else do
    let spec ← specs.find? (·.name == name)
    match spec.value, value with
    | none, [] => some (.flag name)
    | none, _ => none
    | some _, [] => some (.awaiting spec)
    | some _, _ :: value => some (.valued spec (String.ofList value))

/-- A word that starts with one dash. -/
def shortWord (specs : List OptionSpec) (text : List Char) : Option Word :=
  match text with
  | [] => none
  | 'h' :: _ => some .help
  | c :: value => do
    let spec ← specs.find? (·.short == some c)
    match spec.value, value with
    | none, [] => some (.flag spec.name)
    | none, _ => none
    | some _, [] => some (.awaiting spec)
    | some _, '=' :: value => some (.valued spec (String.ofList value))
    | some _, value => some (.valued spec (String.ofList value))

def word (specs : List OptionSpec) (text : String) : Option Word :=
  match text.toList with
  | ['-', '-'] => some .done
  | '-' :: '-' :: rest => longWord specs rest
  | '-' :: rest => shortWord specs rest
  | _ => none

/-- Whether a word may be the value of the option before it. -/
def mayBeValue (text : String) : Bool :=
  match text.toList with
  | ['-'] => true
  | '-' :: _ => false
  | _ => true

/-- Reads options, none of them in `seen`; nothing if a word is wrong. -/
def options (specs : List OptionSpec) (seen : List String) : List String → Option Given
  | [] => some (.options [])
  | text :: rest =>
    match word specs text with
    | none => none
    | some .help => some .help
    | some .done => if rest.isEmpty then some (.options []) else none
    | some (.flag name) =>
      if seen.contains name then none
      else (options specs (name :: seen) rest).map (Given.cons name "")
    | some (.valued spec value) =>
      if seen.contains spec.name || !spec.value.all (· value) then none
      else (options specs (spec.name :: seen) rest).map (Given.cons spec.name value)
    | some (.awaiting spec) =>
      match rest with
      | [] => none
      | value :: rest =>
        if seen.contains spec.name || !mayBeValue value || !spec.value.all (· value) then none
        else (options specs (spec.name :: seen) rest).map (Given.cons spec.name value)

/-! ## What to run -/

structure ServerOptions where
  listen : Address := .ipv4 [0, 0, 0, 0] 9527
  /-- The snapshot file; without one the records are kept in memory only. -/
  database : Option String := some "rendezvous.json"
  /-- Seconds between attempts to write. -/
  persistInterval : Nat := 10
deriving DecidableEq, Repr

structure ClientOptions where
  server : Address := .ipv4 [127, 0, 0, 1] 9527
  /-- Whether the client starts without dialing. -/
  offline : Bool := false
deriving DecidableEq, Repr

inductive Invocation where
  | help
  | server (options : ServerOptions)
  | client (options : ClientOptions)
deriving DecidableEq, Repr

/-- A number of at most 64 bits, perhaps behind a plus sign. -/
def natural? (text : String) : Option Nat :=
  let digits := match text.toList with
    | '+' :: rest => rest
    | digits => digits
  match Address.number 10 (UInt64.size - 1) digits with
  | some (n, []) => some n
  | _ => none

def isAddress (text : String) : Bool := (Address.ofText? text).isSome

def serverSpecs : List OptionSpec :=
  [{ name := "listen", short := some 'l', value := some isAddress },
   { name := "db", value := some fun text => !text.isEmpty },
   { name := "no-persist" },
   { name := "persist-interval", value := some fun text => (natural? text).isSome }]

def clientSpecs : List OptionSpec :=
  [{ name := "server", short := some 's', value := some isAddress },
   { name := "offline" }]

def serverOptions (values : List (String × String)) : ServerOptions :=
  let base : ServerOptions := {}
  { listen := ((values.lookup "listen").bind Address.ofText?).getD base.listen
    database :=
      if (values.lookup "no-persist").isSome then none
      else ((values.lookup "db").map some).getD base.database
    persistInterval :=
      max 1 (((values.lookup "persist-interval").bind natural?).getD base.persistInterval) }

def clientOptions (values : List (String × String)) : ClientOptions :=
  let base : ClientOptions := {}
  { server := ((values.lookup "server").bind Address.ofText?).getD base.server
    offline := (values.lookup "offline").isSome }

/-- The words that say what to run. -/
def subcommands : List String := ["server", "client", "help"]

/-- What a command line asks for; nothing if it is wrong. -/
def parse : List String → Option Invocation
  | "server" :: rest =>
    (options serverSpecs [] rest).map fun given =>
      match given with
      | .help => .help
      | .options values => .server (serverOptions values)
  | "client" :: rest =>
    (options clientSpecs [] rest).map fun given =>
      match given with
      | .help => .help
      | .options values => .client (clientOptions values)
  | ["help"] => some .help
  | ["help", topic] => if subcommands.contains topic then some .help else none
  | text :: _ =>
    match word [] text with
    | some .help => some .help
    | _ => none
  | [] => none

/-- How the program ends where there is no network: a server cannot start. -/
def exitCode (arguments : List String) : Nat :=
  match parse arguments with
  | none => 2
  | some (.server _) => 1
  | some _ => 0

end Rendezvous.CommandLine
