import Rendezvous.Table

/-!
# Peers and services

The records that outlive a run of the relay. Peers are kept under their ids and services under
their names; a peer also records which services it has joined, and keeps the entry when it leaves.
-/

namespace Rendezvous

/-- A registered identity. -/
structure Peer where
  id : String
  /-- The salted digest of the client's digest. -/
  passwordDigest : String
  salt : String
  /-- For each service joined so far, whether the peer is still a member. -/
  memberships : Table String Bool := .empty
deriving DecidableEq

/-- A rendezvous point that one peer owns. -/
structure Service where
  name : String
  owner : String
  passwordDigest : String
  salt : String
  description : String := ""
  enabled : Bool := false
  /-- Milliseconds since the epoch. -/
  createdAt : UInt64
deriving DecidableEq

/-- All records. -/
structure Database where
  peers : Table String Peer := .empty
  services : Table String Service := .empty
deriving DecidableEq

def Peer.isMember (p : Peer) (service : String) : Bool := (p.memberships.get? service).getD false

def Service.isOwner (s : Service) (id : String) : Bool := s.owner == id

namespace Database

/-! ## Algorithm -/

instance : Inhabited Database := ⟨{}⟩

def peer? (db : Database) (id : String) : Option Peer := db.peers.get? id

def service? (db : Database) (name : String) : Option Service := db.services.get? name

def hasPeer (db : Database) (id : String) : Bool := db.peers.contains id

def hasService (db : Database) (name : String) : Bool := db.services.contains name

/-- Puts a peer under its own id. -/
def insertPeer (db : Database) (p : Peer) : Database := { db with peers := db.peers.insert p.id p }

/-- Puts a service under its own name. -/
def insertService (db : Database) (s : Service) : Database :=
  { db with services := db.services.insert s.name s }

/-- Forgets a service and every membership in it; nothing changes if there is none. -/
def eraseService (db : Database) (name : String) : Database :=
  if db.hasService name then
    { peers := db.peers.map fun p => { p with memberships := p.memberships.erase name }
      services := db.services.erase name }
  else db

/-- Whether a peer is a member of a service. -/
def isMember (db : Database) (peer service : String) : Bool :=
  (db.peer? peer).any (·.isMember service)

/-! ## Lemmas -/

theorem peer?_insertPeer (db : Database) (p : Peer) (id : String) :
    (db.insertPeer p).peer? id = if id = p.id then some p else db.peer? id :=
  Table.get?_insert ..

theorem service?_insertService (db : Database) (s : Service) (name : String) :
    (db.insertService s).service? name = if name = s.name then some s else db.service? name :=
  Table.get?_insert ..

theorem service?_eraseService (db : Database) (erased name : String) :
    (db.eraseService erased).service? name = if name = erased then none else db.service? name := by
  unfold eraseService
  split
  · exact Table.get?_erase ..
  · next h =>
    have h' : db.service? erased = none := by
      simpa [hasService, Table.contains, service?] using h
    by_cases e : name = erased <;> simp [e, h']

end Database

end Rendezvous
