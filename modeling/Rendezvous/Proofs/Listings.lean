import Rendezvous.Proofs.WellFormed

/-!
# What peers are shown of the services

The list of all services and the list of a peer's own services are read off the records. As the
records fit together, no service is named twice, and list and map of a reply tell the same:

    db.WellFormed → (r.servicesReply).ListsAll db                      (listsAll_servicesReply)
    db.WellFormed → (r.ownServicesReply p).ListsOwn db p               (listsOwn_ownServicesReply)
-/

namespace Rendezvous

namespace Response

/-- A reply names every service once, in the order of the bytes of their names, and its owner. -/
structure ListsAll (reply : Response) (db : Database) : Prop where
  increasing : reply.resultList.Pairwise fun a b => Utf8.encode a < Utf8.encode b
  complete : ∀ name, name ∈ reply.resultList ↔ ∃ s, db.service? name = some s
  owners : ∀ name, reply.resultMap.get? name = (db.service? name).map (·.owner)

/-- A reply names the services that a peer owns, has joined or has left, each once and with the
same word in the list and in the map. -/
structure ListsOwn (reply : Response) (db : Database) (peer : String)
    (found : List (String × Relation)) : Prop where
  lines : reply.resultList = found.map fun e => e.1 ++ " (" ++ e.2.name ++ ")"
  once : (found.map (·.1)).Nodup
  owner : ∀ name, (name, .owner) ∈ found ↔ ∃ s, db.service? name = some s ∧ s.owner = peer
  joined : ∀ name, (name, .joined) ∈ found ↔ db.membership? peer name = some true
  left : ∀ name, (name, .left) ∈ found ↔ db.membership? peer name = some false
  words : ∀ name word, reply.resultMap.get? name = some word ↔
    ∃ relation, (name, relation) ∈ found ∧ word = relation.name

end Response

namespace Database.WellFormed

variable {db : Database} {name peer : String} {s : Service}

/-! ## All services -/

/-- Services are listed by the names they stand under. -/
theorem names_eq_keys (h : db.WellFormed) : db.services.values.map (·.name) = db.services.keys := by
  unfold Table.values Table.keys
  rw [List.map_map]
  apply List.map_congr_left
  intro e he
  have hs : db.service? e.1 = some e.2 := Table.get?_eq_some_iff.2 he
  exact (h.service hs).1

theorem mem_values_iff (h : db.WellFormed) :
    s ∈ db.services.values ↔ db.service? s.name = some s := by
  unfold Table.values
  rw [List.mem_map]
  constructor
  · rintro ⟨⟨name, s⟩, he, rfl⟩
    have hs : db.service? name = some s := Table.get?_eq_some_iff.2 he
    rwa [(h.service hs).1]
  · intro hs
    exact ⟨(s.name, s), Table.get?_eq_some_iff.1 hs, rfl⟩

/-- A table of something known of each service. -/
theorem get?_ofList_services {α : Type} (h : db.WellFormed) (f : Service → α) (name : String) :
    (Table.ofList (db.services.values.map fun s => (s.name, f s))).get? name =
      (db.service? name).map f := by
  have entries : db.services.values.map (fun s => (s.name, f s)) =
      db.services.entries.map fun e => (e.1, f e.2) := by
    unfold Table.values
    rw [List.map_map]
    apply List.map_congr_left
    intro e he
    have hs : db.service? e.1 = some e.2 := Table.get?_eq_some_iff.2 he
    simp [(h.service hs).1]
  rw [entries, Table.get?_ofList]
  · exact Table.lookup_map (fun _ => f) name db.services.entries
  · rw [List.map_map]
    exact db.services.nodup_keys

theorem listsAll_servicesReply {r : Relay} (h : r.db.WellFormed) :
    r.servicesReply.ListsAll r.db where
  increasing := by
    show (r.db.services.values.map (·.name)).Pairwise _
    rw [h.names_eq_keys]
    exact r.db.services.sorted_keys.imp Utf8.encode_lt_encode
  complete name := by
    show name ∈ r.db.services.values.map (·.name) ↔ _
    rw [h.names_eq_keys]
    exact Table.mem_keys_iff
  owners name := h.get?_ofList_services (·.owner) name

/-! ## The services of one peer -/

/-- The services that a peer owns, as they are listed. -/
def ownedBy (db : Database) (peer : String) : List (String × Relation) :=
  (db.services.values.filter (·.isOwner peer)).map fun s => (s.name, .owner)

/-- The services that a peer has joined or left, as they are listed. -/
def enteredBy (db : Database) (peer : String) : List (String × Relation) :=
  match db.peer? peer with
  | some p => p.memberships.entries.map fun e => (e.1, if e.2 then .joined else .left)
  | none => []

theorem servicesOf_eq (db : Database) (peer : String) :
    db.servicesOf peer = ownedBy db peer ++ enteredBy db peer := by
  rfl

theorem mem_ownedBy_iff (h : db.WellFormed) {relation : Relation} :
    (name, relation) ∈ ownedBy db peer ↔
      relation = .owner ∧ ∃ s, db.service? name = some s ∧ s.owner = peer := by
  unfold ownedBy
  rw [List.mem_map]
  constructor
  · rintro ⟨s, hs, e⟩
    obtain ⟨hs, owner⟩ := List.mem_filter.1 hs
    cases e
    exact ⟨rfl, s, h.mem_values_iff.1 hs, by simpa [Service.isOwner] using owner⟩
  · rintro ⟨rfl, s, hs, owner⟩
    have named := (h.service hs).1
    refine ⟨s, List.mem_filter.2 ⟨h.mem_values_iff.2 (named ▸ hs), ?_⟩, by rw [named]⟩
    simpa [Service.isOwner] using owner

theorem mem_enteredBy_iff {relation : Relation} :
    (name, relation) ∈ enteredBy db peer ↔
      ∃ joined, db.membership? peer name = some joined ∧
        relation = if joined then .joined else .left := by
  unfold enteredBy membership?
  cases db.peer? peer with
  | none => simp
  | some p =>
    simp only [List.mem_map, Option.bind_some, Table.get?_eq_some_iff]
    constructor
    · rintro ⟨⟨n, joined⟩, he, e⟩
      cases e
      exact ⟨joined, he, rfl⟩
    · rintro ⟨joined, he, rfl⟩
      exact ⟨(name, joined), he, rfl⟩

/-- A service is listed as an own one, or as one that the peer has an entry for. -/
theorem mem_servicesOf_iff (h : db.WellFormed) {relation : Relation} :
    (name, relation) ∈ db.servicesOf peer ↔
      (relation = .owner ∧ ∃ s, db.service? name = some s ∧ s.owner = peer) ∨
        ∃ joined, db.membership? peer name = some joined ∧
          relation = if joined then .joined else .left := by
  rw [servicesOf_eq, List.mem_append, h.mem_ownedBy_iff, mem_enteredBy_iff]

theorem nodup_ownedBy (h : db.WellFormed) (peer : String) :
    ((ownedBy db peer).map (·.1)).Nodup := by
  have all : (db.services.values.map (·.name)).Nodup := by
    rw [h.names_eq_keys]
    exact db.services.nodup_keys
  unfold ownedBy
  rw [List.map_map]
  exact all.sublist (List.filter_sublist.map _)

theorem nodup_enteredBy (db : Database) (peer : String) :
    ((enteredBy db peer).map (·.1)).Nodup := by
  unfold enteredBy
  cases db.peer? peer with
  | none => exact List.nodup_nil
  | some p =>
    rw [List.map_map]
    exact p.memberships.nodup_keys

/-- No service is listed twice: what a peer owns it has not joined. -/
theorem nodup_servicesOf (h : db.WellFormed) (peer : String) :
    ((db.servicesOf peer).map (·.1)).Nodup := by
  rw [servicesOf_eq, List.map_append, List.nodup_append]
  refine ⟨h.nodup_ownedBy peer, nodup_enteredBy db peer, ?_⟩
  rintro name own _ entered rfl
  obtain ⟨⟨_, relation⟩, he, rfl⟩ := List.mem_map.1 own
  obtain ⟨⟨_, relation'⟩, he', e⟩ := List.mem_map.1 entered
  cases e
  obtain ⟨-, s, hs, owner⟩ := h.mem_ownedBy_iff.1 he
  obtain ⟨joined, hm, -⟩ := mem_enteredBy_iff.1 he'
  obtain ⟨s', hs', foreign⟩ := h.member hm
  rw [hs] at hs'
  cases hs'
  exact foreign owner

theorem listsOwn_ownServicesReply {r : Relay} (h : r.db.WellFormed) (peer : String) :
    (r.ownServicesReply peer).ListsOwn r.db peer (r.db.servicesOf peer) where
  lines := rfl
  once := h.nodup_servicesOf peer
  owner name := by
    simp [h.mem_servicesOf_iff]
  joined name := by
    simp [h.mem_servicesOf_iff]
  left name := by
    simp [h.mem_servicesOf_iff]
  words name word := by
    have once : (((r.db.servicesOf peer).map fun e => (e.1, e.2.name)).map (·.1)).Nodup := by
      rw [List.map_map]
      exact h.nodup_servicesOf peer
    show (Table.ofList ((r.db.servicesOf peer).map fun e => (e.1, e.2.name))).get? name = _ ↔ _
    rw [Table.get?_ofList once, Table.lookup_eq_some_iff once, List.mem_map]
    constructor
    · rintro ⟨⟨n, relation⟩, he, e⟩
      cases e
      exact ⟨relation, he, rfl⟩
    · rintro ⟨relation, he, rfl⟩
      exact ⟨(name, relation), he, rfl⟩

end Database.WellFormed

/-! ## What a logged-in peer receives -/

/-- An answer reaches the connection that asked, and nothing else is sent. -/
theorem Relay.handle_of_answer {r : Relay} {isOpen : ConnectionId → QueueId → Prop}
    {c : ConnectionId} {k : QueueId} {time : UInt64} {q : Request} {content : Response}
    (h : r.Coherent isOpen) (hk : isOpen c k) (answered : r.dispatch c time q = r.answer content) :
    (r.handle (.request c time q)).2 = [⟨⟨c, k⟩, { content with sequence := q.sequence }⟩] := by
  have link : r.link? c = some ⟨c, k⟩ := h.link?_eq_some_iff.2 ⟨rfl, hk⟩
  simp only [handle, handleRequest, answered, answer, link, reply, List.nil_append,
    Option.map_some, Option.toList_some]

/-- Who is logged in is served, unless the request is about identities. -/
theorem Relay.dispatch_eq_serve {r : Relay} {c : ConnectionId} {peer : String} {time : UInt64}
    {q : Request} {a : Action} (who : r.identities.get? c = some peer)
    (asked : q.action? = .ok a) (served : a ∉ [.register, .login, .logout]) :
    r.dispatch c time q = r.serve peer time a q := by
  simp only [List.mem_cons, List.not_mem_nil, or_false, not_or] at served
  obtain ⟨register, login, logout⟩ := served
  unfold dispatch
  rw [asked, who]
  split
  · next h => cases h
  · next h =>
    cases h
    exact absurd rfl register
  · next h =>
    cases h
    exact absurd rfl login
  · next h =>
    cases h
    exact absurd rfl logout
  · next h =>
    cases h
    rfl

/-- After every run from empty records, the records fit together, and a logged-in peer that asks
for the services, or for its own, is sent one reply that lists them truly. -/
theorem records_fit_together {es : List Event} (fresh : Fresh es) :
    let r := (Relay.idle {}).after es
    r.db.WellFormed ∧
    ∀ c peer time q, r.identities.get? c = some peer →
      (q.action? = .ok .services → ∃ k reply, StillOpen es c k ∧
        (r.handle (.request c time q)).2 = [⟨⟨c, k⟩, reply⟩] ∧ reply.ListsAll r.db) ∧
      (q.action? = .ok .myServices → ∃ k reply found, StillOpen es c k ∧
        (r.handle (.request c time q)).2 = [⟨⟨c, k⟩, reply⟩] ∧
          reply.ListsOwn r.db peer found) := by
  intro r
  have coherent : r.Coherent (StillOpen es) := fresh.coherent {}
  have wellFormed : r.db.WellFormed := fresh.wellFormed .empty
  refine ⟨wellFormed, fun c peer time q who => ?_⟩
  obtain ⟨-, k, -, hk⟩ := coherent.identity who
  constructor
  · intro asked
    have served : r.dispatch c time q = r.answer r.servicesReply :=
      Relay.dispatch_eq_serve who asked (by decide)
    have all := wellFormed.listsAll_servicesReply
    exact ⟨k, _, hk, Relay.handle_of_answer coherent hk served,
      all.increasing, all.complete, all.owners⟩
  · intro asked
    have served : r.dispatch c time q = r.answer (r.ownServicesReply peer) :=
      Relay.dispatch_eq_serve who asked (by decide)
    have own := wellFormed.listsOwn_ownServicesReply peer
    exact ⟨k, _, _, hk, Relay.handle_of_answer coherent hk served,
      own.lines, own.once, own.owner, own.joined, own.left, own.words⟩

/-- Carol, who owns the one service, asks for all services, and Bob asks for his. -/
theorem records_fit_together_foundingRun :
    Fresh foundingRun ∧
      let r := (Relay.idle {}).after foundingRun
      r.identities.get? 2 = some "carol12345" ∧ r.identities.get? 1 = some "bob1234567" ∧
      r.db.WellFormed ∧
      (∃ k reply, StillOpen foundingRun 2 k ∧
        (r.handle (.request 2 0 (sampleServiceRequest .services none))).2 = [⟨⟨2, k⟩, reply⟩] ∧
          reply.ListsAll r.db) ∧
      ∃ k reply found, StillOpen foundingRun 1 k ∧
        (r.handle (.request 1 0 (sampleServiceRequest .myServices none))).2 =
          [⟨⟨1, k⟩, reply⟩] ∧ reply.ListsOwn r.db "bob1234567" found := by
  obtain ⟨wellFormed, lists⟩ := records_fit_together fresh_foundingRun
  have carol : ((Relay.idle {}).after foundingRun).identities.get? 2 = some "carol12345" := by
    rw [after_foundingRun]
    decide
  have bob : ((Relay.idle {}).after foundingRun).identities.get? 1 = some "bob1234567" := by
    rw [after_foundingRun]
    decide
  exact ⟨fresh_foundingRun, carol, bob, wellFormed, (lists _ _ 0 _ carol).1 (by decide),
    (lists _ _ 0 _ bob).2 (by decide)⟩

end Rendezvous
