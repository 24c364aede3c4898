import Rendezvous.CommandLine
import Rendezvous.Shell

/-!
# The program

Runs the shell on standard input. There is no network here: a server cannot listen, and a client
reaches no relay.
-/

open Rendezvous

/-- How the program is called. -/
def usage : List String :=
  ["Rendezvous and signaling relay for peers behind NAT",
   "",
   "Usage: rendezvous <COMMAND>",
   "",
   "Commands:",
   "  server  Run the signal server",
   "  client  Run an interactive client shell",
   "  help    Print this message or the help of the given subcommand(s)",
   "",
   "Options:",
   "  -h, --help  Print help"]

partial def shellLoop (input : IO.FS.Stream) (c : Client) : IO Unit := do
  let line ← input.getLine
  if line.isEmpty then return
  match Shell.react c line with
  | .leave => return
  | .goOn c lines =>
    lines.forM IO.println
    shellLoop input c

def main (arguments : List String) : IO UInt32 := do
  match CommandLine.parse arguments with
  | none => usage.forM IO.eprintln
  | some .help => usage.forM IO.println
  | some (.server _) => IO.eprintln "Error: no network to listen on"
  | some (.client _) =>
    Shell.help.forM IO.println
    shellLoop (← IO.getStdin) {}
  return (CommandLine.exitCode arguments).toUInt32
