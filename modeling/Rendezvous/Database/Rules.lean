import Rendezvous.Credential
import Rendezvous.Database
import Rendezvous.RelayError

/-!
# Who may do what

Each operation checks its caller against the records and either refuses or gives the database
after it. Whether a peer is online is not known here.
-/

namespace Rendezvous

/-- How a peer stands to a service that it owns or has joined. -/
inductive Relation where
  | owner
  | joined
  | left
deriving DecidableEq, Repr

def Relation.name : Relation → String
  | owner => "owner"
  | joined => "joined"
  | left => "left"

/-- What everybody may know of a service. -/
structure ServiceInfo where
  name : String := ""
  owner : String := ""
  description : String := ""
  enabled : Bool := false
  createdAt : UInt64 := 0
  /-- Enabled, and its owner is online. -/
  active : Bool := false
deriving DecidableEq

/-- The view as texts under their names. -/
def ServiceInfo.toTable (i : ServiceInfo) : Table String String :=
  .ofList
    [("name", i.name), ("owner", i.owner), ("description", i.description),
     ("enabled", toString i.enabled), ("created_at", toString i.createdAt.toNat),
     ("active", toString i.active)]

namespace Database

/-! ## Look-ups that can be refused -/

def findService (db : Database) (name : String) : Except RelayError Service :=
  match db.service? name with
  | some s => .ok s
  | none => .error (.serviceNotFound name)

/-- A service whose password the caller knows. -/
def unlockService (db : Database) (name pwdDigest : String) : Except RelayError Service := do
  let s ← db.findService name
  if Credential.verifies pwdDigest s.salt s.passwordDigest then return s
  else throw .wrongPassword

/-- A service whose password the caller knows and that it owns. -/
def unlockOwned (db : Database) (caller name pwdDigest : String) : Except RelayError Service := do
  let s ← db.unlockService name pwdDigest
  if s.isOwner caller then return s else throw (.serviceNotOwner caller)

/-- A service that the caller does not own. -/
def findForeign (db : Database) (caller name : String) : Except RelayError Service := do
  let s ← db.findService name
  if s.isOwner caller then throw (.serviceIsOwner caller) else return s

/-! ## Peers -/

/-- Registers a peer with its salted digest. -/
def register (db : Database) (id pwdDigest salt : String) : Except RelayError Database :=
  if id.utf8ByteSize < Credential.minIdLength then .error (.invalidId id)
  else if !Credential.isAcceptable pwdDigest salt then .error .invalidPassword
  else if db.hasPeer id then .error (.peerExists id)
  else
    .ok (db.insertPeer
      { id := id, passwordDigest := Credential.saltedDigest pwdDigest salt, salt := salt })

/-- Checks a login against the kept credential. -/
def authenticate (db : Database) (id pwdDigest : String) : Except RelayError Unit :=
  match db.peer? id with
  | none => .error (.peerNotFound id)
  | some p =>
    if Credential.verifies pwdDigest p.salt p.passwordDigest then .ok () else .error .wrongPassword

/-! ## Owners -/

/-- Creates a service, which is disabled at first. -/
def create (db : Database) (now : UInt64) (owner name pwdDigest salt description : String) :
    Except RelayError Database :=
  if name.isEmpty then .error (.invalidServiceName name)
  else if !Credential.isAcceptable pwdDigest salt then .error .invalidPassword
  else if db.hasService name then .error (.serviceExists name)
  else
    .ok (db.insertService
      { name := name, owner := owner, passwordDigest := Credential.saltedDigest pwdDigest salt,
        salt := salt, description := description, createdAt := now })

/-- Removes a service of the caller, with every membership in it. -/
def remove (db : Database) (caller name pwdDigest : String) :
    Except RelayError (Service × Database) := do
  let s ← db.unlockOwned caller name pwdDigest
  return (s, db.eraseService name)

/-- Switches a service of the caller on or off. -/
def setEnabled (db : Database) (caller name pwdDigest : String) (enabled : Bool) :
    Except RelayError Database := do
  let _ ← db.unlockOwned caller name pwdDigest
  return { db with services := db.services.modify name fun s => { s with enabled := enabled } }

/-! ## Members -/

def setMembership (db : Database) (caller name : String) (joined : Bool) :
    Except RelayError Database :=
  if db.hasPeer caller then
    .ok { db with
      peers := db.peers.modify caller fun p =>
        { p with memberships := p.memberships.insert name joined } }
  else .error (.peerNotFound caller)

/-- Joins a service. Owners never join their own, whatever password they give. -/
def join (db : Database) (caller name pwdDigest : String) : Except RelayError Database := do
  let _ ← db.findForeign caller name
  let _ ← db.unlockService name pwdDigest
  db.setMembership caller name true

/-- Leaves a service. A password is checked if one is given; the entry is kept. -/
def leave (db : Database) (caller name : String) (pwdDigest : Option String) :
    Except RelayError Database := do
  let _ ← db.findForeign caller name
  match pwdDigest.filter (!·.isEmpty) with
  | some pwd => let _ ← db.unlockService name pwd
  | none => pure ()
  if (db.peer? caller).any (·.memberships.contains name) then db.setMembership caller name false
  else throw (.serviceNotJoined name)

/-! ## Sessions -/

/-- Checks that a member may open or close a session with the owner. -/
def checkAccess (db : Database) (caller name pwdDigest : String) : Except RelayError Unit := do
  let _ ← db.findForeign caller name
  if !db.isMember caller name then throw (.serviceNotJoined name)
  let _ ← db.unlockService name pwdDigest

/-- Who gets a forwarded message: the owner names a peer, a member always talks to the owner. -/
def forwardTarget (db : Database) (caller name : String) (toId : Option String) :
    Except RelayError String := do
  let s ← db.findService name
  if s.isOwner caller then
    match toId.filter (!·.isEmpty) with
    | none => throw (.invalidParameters "missing target peer")
    | some target => if db.hasPeer target then return target else throw (.peerNotFound target)
  else if db.isMember caller name then return s.owner
  else throw (.serviceNotJoined name)

/-! ## Views -/

/-- The names of all services, and the owner of each. -/
def listServices (db : Database) : List String × Table String String :=
  (db.services.values.map (·.name),
   .ofList (db.services.values.map fun s => (s.name, s.owner)))

/-- The services that the caller owns, then those that it has joined or left. -/
def servicesOf (db : Database) (caller : String) : List (String × Relation) :=
  (db.services.values.filter (·.isOwner caller)).map (fun s => (s.name, Relation.owner)) ++
    match db.peer? caller with
    | some p => p.memberships.entries.map fun e => (e.1, if e.2 then Relation.joined else .left)
    | none => []

def serviceInfo (db : Database) (name : String) (ownerOnline : Bool) :
    Except RelayError ServiceInfo := do
  let s ← db.findService name
  return { name := s.name, owner := s.owner, description := s.description, enabled := s.enabled,
           createdAt := s.createdAt, active := s.enabled && ownerOnline }

end Database

end Rendezvous
