import Rendezvous.Database.Rules
import Rendezvous.Json.Document
import Rendezvous.Json.Record

/-!
# Snapshots

The whole database as laid-out JSON, and back. Snapshots by other hands may order and omit fields
as any record; the key of a table need not be the id or name in the record under it.
-/

namespace Rendezvous

open Json (Document RecordField)

/-! ## Writing -/

/-- A table as an object. -/
def tableDocument {α : Type} (write : α → Document) (t : Table String α) : Document :=
  .object (t.entries.map fun e => (e.1, write e.2))

def Peer.document (p : Peer) : Document :=
  .object
    [("id", .text p.id), ("password_digest", .text p.passwordDigest), ("salt", .text p.salt),
     ("memberships", tableDocument .flag p.memberships)]

def Service.document (s : Service) : Document :=
  .object
    [("name", .text s.name), ("owner", .text s.owner), ("password_digest", .text s.passwordDigest),
     ("salt", .text s.salt), ("description", .text s.description), ("enabled", .flag s.enabled),
     ("created_at", .natural s.createdAt.toNat)]

def ServiceInfo.document (i : ServiceInfo) : Document :=
  .object
    [("name", .text i.name), ("owner", .text i.owner), ("description", .text i.description),
     ("enabled", .flag i.enabled), ("created_at", .natural i.createdAt.toNat),
     ("active", .flag i.active)]

def Database.document (db : Database) : Document :=
  .object
    [("peers", tableDocument Peer.document db.peers),
     ("services", tableDocument Service.document db.services)]

/-- The snapshot of a database. -/
def Database.snapshot (db : Database) : Bytes := db.document.pretty

/-! ## Reading -/

def Peer.fields : List (RecordField Peer) :=
  [.needed "id" Json.readText fun p v => { p with id := v },
   .needed "password_digest" Json.readText fun p v => { p with passwordDigest := v },
   .needed "salt" Json.readText fun p v => { p with salt := v },
   .defaulted "memberships" (Json.readTable Json.readFlag) fun p v => { p with memberships := v }]

def Service.fields : List (RecordField Service) :=
  [.needed "name" Json.readText fun s v => { s with name := v },
   .needed "owner" Json.readText fun s v => { s with owner := v },
   .needed "password_digest" Json.readText fun s v => { s with passwordDigest := v },
   .needed "salt" Json.readText fun s v => { s with salt := v },
   .defaulted "description" Json.readText fun s v => { s with description := v },
   .defaulted "enabled" Json.readFlag fun s v => { s with enabled := v },
   .needed "created_at" Json.readWord fun s v => { s with createdAt := v }]

def ServiceInfo.fields : List (RecordField ServiceInfo) :=
  [.needed "name" Json.readText fun i v => { i with name := v },
   .needed "owner" Json.readText fun i v => { i with owner := v },
   .needed "description" Json.readText fun i v => { i with description := v },
   .needed "enabled" Json.readFlag fun i v => { i with enabled := v },
   .needed "created_at" Json.readWord fun i v => { i with createdAt := v },
   .needed "active" Json.readFlag fun i v => { i with active := v }]

def Peer.read : Json.Reader Peer :=
  Json.readRecord "Peer" Peer.fields { id := "", passwordDigest := "", salt := "" }

def Service.read : Json.Reader Service :=
  Json.readRecord "Service" Service.fields
    { name := "", owner := "", passwordDigest := "", salt := "", createdAt := 0 }

def ServiceInfo.read : Json.Reader ServiceInfo :=
  Json.readRecord "ServiceInfo" ServiceInfo.fields {}

def Database.fields : List (RecordField Database) :=
  [.defaulted "peers" (Json.readTable Peer.read) fun db v => { db with peers := v },
   .defaulted "services" (Json.readTable Service.read) fun db v => { db with services := v }]

/-- The database of a snapshot. -/
def Database.restore (snapshot : Bytes) : Except Json.Fault Database :=
  Json.decode (Json.readRecord "SessionDatabase" Database.fields {}) snapshot

end Rendezvous
