import Rendezvous.Address
import Rendezvous.Client
import Rendezvous.Client.Requests
import Rendezvous.Database.Snapshot

/-!
# Commands

What a person types, one word for the command and one for each parameter. A command is understood
or refused before anything is sent; then it is done at once, dials, or sends a request and says
how its reply is shown.
-/

namespace Rendezvous

/-- A command that is understood. -/
inductive Command where
  | status
  | connect (address : Address)
  | disconnect
  | register (id pwd : String)
  | login (id pwd : String) (force : Bool)
  | logout
  | services
  | myServices
  | showService (name : String)
  | createService (name pwd description : String)
  | leaveService (name : String) (pwd : Option String)
  /-- One of the actions that need no more than a service and its password. -/
  | onService (action : Action) (name pwd : String)
deriving DecidableEq, Repr

namespace Command

/-! ## Understanding -/

/-- The refusal of a wrong number of parameters. -/
def wrongCount (command expected : String) (params : List String) : RelayError :=
  .invalidParameters
    (command ++ " takes " ++ expected ++ " parameter(s), got " ++ toString params.length)

/-- Understands the parameters of an action. Actions between the two ends of a session are no
commands. -/
def ofAction (a : Action) (params : List String) : Except RelayError Command :=
  match a with
  | .register =>
    match params with
    | [id, pwd] => .ok (.register id pwd)
    | _ => .error (wrongCount a.name "2" params)
  | .login =>
    match params with
    | [id, pwd] => .ok (.login id pwd false)
    | [id, pwd, "force"] => .ok (.login id pwd true)
    | [_, _, other] =>
      .error (.invalidParameters ("expected \"force\", got " ++ Text.quoted other))
    | _ => .error (wrongCount a.name "2-3" params)
  | .logout =>
    match params with
    | [] => .ok .logout
    | _ => .error (wrongCount a.name "0" params)
  | .services =>
    match params with
    | [] => .ok .services
    | _ => .error (wrongCount a.name "0" params)
  | .myServices =>
    match params with
    | [] => .ok .myServices
    | _ => .error (wrongCount a.name "0" params)
  | .showService =>
    match params with
    | [name] => .ok (.showService name)
    | _ => .error (wrongCount a.name "1" params)
  | .createService =>
    match params with
    | [name, pwd, description] => .ok (.createService name pwd description)
    | _ => .error (wrongCount a.name "3" params)
  | .leaveService =>
    match params with
    | [name] => .ok (.leaveService name none)
    | [name, pwd] => .ok (.leaveService name (some pwd))
    | _ => .error (wrongCount a.name "1-2" params)
  | .removeService | .enableService | .disableService | .joinService | .connectService
  | .disconnectService =>
    match params with
    | [name, pwd] => .ok (.onService a name pwd)
    | _ => .error (wrongCount a.name "2" params)
  | .iceOpen | .iceClose | .iceOpenAck | .iceCloseAck | .iceAuth | .iceCandidate =>
    .error (.unknownAction a.name)

/-- Understands a command. -/
def ofWords (command : String) (params : List String) : Except RelayError Command :=
  match command with
  | "status" =>
    match params with
    | [] => .ok .status
    | _ => .error (wrongCount command "0" params)
  | "connect" =>
    match params with
    | [text] =>
      match Address.ofText? text with
      | some address => .ok (.connect address)
      | none =>
        .error (.invalidParameters
          ("bad address " ++ Text.quoted text ++ ": invalid socket address syntax"))
    | _ => .error (wrongCount command "1" params)
  | "disconnect" =>
    match params with
    | [] => .ok .disconnect
    | _ => .error (wrongCount command "0" params)
  | _ =>
    match Action.ofName? command with
    | some a => ofAction a params
    | none => .error (.unknownAction command)

/-! ## Requests and replies -/

/-- The request of a command that needs the relay. -/
def request? (salt : String) : Command → Option Request
  | status | connect _ | disconnect => none
  | register id pwd => some (.register id pwd salt)
  | login id pwd force => some (.login id pwd force)
  | logout => some (.ofAction .logout)
  | services => some (.ofAction .services)
  | myServices => some (.ofAction .myServices)
  | showService name => some (.showService name)
  | createService name pwd description => some (.createService name pwd description salt)
  | leaveService name pwd => some (.aboutService .leaveService name pwd)
  | onService a name pwd => some (.aboutService a name (some pwd))

/-- The service that a reply shows. -/
def shownService (reply : Response) : Except ClientError ServiceInfo :=
  match reply.resultList with
  | [] => .error (.refused (.invalidParameters "empty show-service reply"))
  | text :: _ =>
    let body := Utf8.encode text
    match Json.decode ServiceInfo.read body with
    | .ok info => .ok info
    | .error f => .error (.codec (.json f body))

/-- The lines that a successful reply is shown as. -/
def output (command : Command) (reply : Response) : Except ClientError (List String) :=
  match command with
  | services =>
    .ok (reply.resultList.map fun name =>
      name ++ " (owner: " ++ (reply.get? name).getD "unknown" ++ ")")
  | myServices => .ok reply.resultList
  | showService _ =>
    (shownService reply).map fun info => info.toTable.entries.map fun e => e.1 ++ ": " ++ e.2
  | _ => .ok ["ok"]

/-- The client after a command has succeeded. -/
def completed (command : Command) (c : Client) : Client :=
  match command with
  | login id _ _ => c.loggedIn id
  | logout => c.loggedOut
  | _ => c

end Command

/-! ## Commands without a relay -/

/-- The lines that tell where a client stands. -/
def Client.statusLines (c : Client) : List String :=
  ("network: " ++ c.status.name) :: (c.session.map ("logged in as: " ++ ·)).toList

/-- Makes a call to which nobody replies. -/
def Client.callUnanswered (c : Client) (now : Nat) (tokens : List String) (q : Request) :
    Client × ClientError :=
  match c.begin now tokens q with
  | .error e => (c, e)
  | .ok (c, call) => c.timeOut call

/-- Dials where nobody answers. -/
def Client.dialUnanswered (c : Client) : Client × ClientError :=
  match c.dial with
  | .error e => (c, e)
  | .ok c => (c.dialFailed, .notConnected)

/-- Carries out a command without a relay in reach. -/
def Client.executeUnanswered (c : Client) (now : Nat) (tokens : List String) (salt : String)
    (command : String) (params : List String) : Client × Except ClientError (List String) :=
  match Command.ofWords command params with
  | .error e => (c, .error (.refused e))
  | .ok .status => (c, .ok c.statusLines)
  | .ok (.connect _) =>
    let (c, e) := c.dialUnanswered
    (c, .error e)
  | .ok .disconnect => (c.disconnect, .ok ["ok"])
  | .ok command =>
    match command.request? salt with
    | none => (c, .ok [])
    | some q =>
      let (c, e) := c.callUnanswered now tokens q
      (c, .error e)

end Rendezvous
