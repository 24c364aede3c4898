import Rendezvous.Proofs.Layouts

/-!
# Snapshots are restored as they were taken

Every database is restored from its snapshot, whatever its texts and keys are:

    Database.restore db.snapshot = .ok db                              (restore_snapshot)
-/

namespace Rendezvous

open Json (Reads)

theorem Peer.reads (p : Peer) : Reads Peer.read p.document p := by
  have memberships : Reads (Json.readTable Json.readFlag)
      (tableDocument .flag p.memberships) p.memberships :=
    Json.reads_table fun e _ => Json.reads_flag e.2
  refine Json.reads_whole_record ?_ rfl (by decide)
  refine .put (Json.reads_text p.id) rfl (.inl rfl) ?_
  refine .put (Json.reads_text p.passwordDigest) rfl (.inl rfl) ?_
  refine .put (Json.reads_text p.salt) rfl (.inl rfl) ?_
  refine .put memberships rfl (.inr rfl) ?_
  exact .nil p

theorem Service.reads (s : Service) : Reads Service.read s.document s := by
  refine Json.reads_whole_record ?_ rfl (by decide)
  refine .put (Json.reads_text s.name) rfl (.inl rfl) ?_
  refine .put (Json.reads_text s.owner) rfl (.inl rfl) ?_
  refine .put (Json.reads_text s.passwordDigest) rfl (.inl rfl) ?_
  refine .put (Json.reads_text s.salt) rfl (.inl rfl) ?_
  refine .put (Json.reads_text s.description) rfl (.inr rfl) ?_
  refine .put (Json.reads_flag s.enabled) rfl (.inr rfl) ?_
  refine .put (Json.reads_word s.createdAt) rfl (.inl rfl) ?_
  exact .nil s

theorem Database.reads (db : Database) :
    Reads (Json.readRecord "SessionDatabase" Database.fields {}) db.document db := by
  have peers : Reads (Json.readTable Peer.read) (tableDocument Peer.document db.peers) db.peers :=
    Json.reads_table fun e _ => e.2.reads
  have services : Reads (Json.readTable Service.read)
      (tableDocument Service.document db.services) db.services :=
    Json.reads_table fun e _ => e.2.reads
  refine Json.reads_whole_record ?_ rfl (by decide)
  refine .put peers rfl (.inr rfl) ?_
  refine .put services rfl (.inr rfl) ?_
  exact .nil db

/-- Every database is restored from its snapshot. -/
theorem restore_snapshot (db : Database) : Database.restore db.snapshot = .ok db :=
  Json.decode_of_reads db.reads (.indented 0 db.document)

end Rendezvous
