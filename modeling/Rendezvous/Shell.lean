import Rendezvous.Client.Command
import Rendezvous.Text.Words

/-!
# The shell

A person types commands, one a line, and reads what they print. This shell has no relay in reach,
so no request leaves it and nothing is drawn for one.
-/

namespace Rendezvous.Shell

/-- What a person may type. -/
def help : List String :=
  ["commands:",
   "  status",
   "  connect <addr>",
   "  disconnect",
   "  register <id> <pwd>",
   "  login <id> <pwd> [force]",
   "  logout",
   "  services",
   "  myservices",
   "  show-service <name>",
   "  create-service <name> <pwd> <description>",
   "  remove-service <name> <pwd>",
   "  enable-service <name> <pwd>",
   "  disable-service <name> <pwd>",
   "  join-service <name> <pwd>",
   "  leave-service <name> [pwd]",
   "  connect-service <name> <pwd>",
   "  disconnect-service <name> <pwd>",
   "  help",
   "  exit | quit"]

/-- What a line leads to. -/
inductive Reaction where
  /-- Prints lines and goes on with a client. -/
  | goOn (client : Client) (printed : List String)
  | leave
deriving DecidableEq

/-- The lines that the outcome of a command prints. -/
def printed (outcome : Except ClientError (List String)) : List String :=
  match outcome with
  | .ok lines => lines
  | .error e => ["error: " ++ e.message]

/-- Reacts to a line. -/
def react (c : Client) (line : String) : Reaction :=
  match Text.words line with
  | [] => .goOn c []
  | "exit" :: _ | "quit" :: _ => .leave
  | "help" :: _ => .goOn c help
  | command :: params =>
    let (c, outcome) := c.executeUnanswered 0 [] "" command params
    .goOn c (printed outcome)

/-- All that is printed for lines typed one after the other. -/
def printedFor (c : Client) : List String → List String
  | [] => []
  | line :: rest =>
    match react c line with
    | .goOn c lines => lines ++ printedFor c rest
    | .leave => []

/-- All that is printed in a session. -/
def session (input : String) : List String := help ++ printedFor {} (Text.lines input)

end Rendezvous.Shell
