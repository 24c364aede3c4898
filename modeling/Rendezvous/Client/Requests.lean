import Rendezvous.Credential
import Rendezvous.Endpoint
import Rendezvous.Message.Request

/-!
# The requests of a client

One request for each thing that a client may want of the relay. Passwords leave the client as
digests only; salts are drawn by the caller.
-/

namespace Rendezvous.Request

def register (id pwd salt : String) : Request :=
  { ofAction .register with
    fromId := id, pwdDigest := some (Credential.digestPassword pwd), salt := some salt }

def login (id pwd : String) (force : Bool) : Request :=
  { ofAction .login with
    fromId := id, pwdDigest := some (Credential.digestPassword pwd), force := force }

def showService (name : String) : Request := { ofAction .showService with serviceName := some name }

/-- A request about a service, perhaps with the service's password. -/
def aboutService (a : Action) (name : String) (pwd : Option String) : Request :=
  { ofAction a with
    serviceName := some name, servicePwdDigest := pwd.map Credential.digestPassword }

def createService (name pwd description salt : String) : Request :=
  { aboutService .createService name (some pwd) with
    serviceSalt := some salt, serviceDesc := some description }

/-- Tells the other end of a session something that needs no more words than its action. -/
def forward (a : Action) (service : String) (toId : Option String) : Except RelayError Request :=
  if a.isRelayed then .ok { aboutService a service none with toId := toId }
  else .error (.invalidParameters (a.name ++ " is not relayable"))

/-- Tells the other end of a session the credentials of this one. -/
def ofAuth (service : String) (toId : Option String) (ufrag pwd : String) : Request :=
  { aboutService .iceAuth service none with
    toId := toId, iceUfrag := some ufrag, icePwd := some pwd }

/-- Tells the other end of a session one more way to reach this one. -/
def ofCandidate (service : String) (toId : Option String) (candidate : String) : Request :=
  { aboutService .iceCandidate service none with toId := toId, iceCandidate := some candidate }

/-- The request that carries a signal to the other end of its session. -/
def ofSignal : Signal → Except RelayError Request
  | .forward a key => forward a key.service (some key.peer)
  | .auth key ufrag pwd => .ok (ofAuth key.service (some key.peer) ufrag pwd)
  | .candidate key candidate => .ok (ofCandidate key.service (some key.peer) candidate)

end Rendezvous.Request
