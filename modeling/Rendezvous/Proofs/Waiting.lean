import Mathlib.Data.Set.Card
import Rendezvous.Proofs.Correlation
import Rendezvous.Proofs.Since

/-!
# The life of a token

A token is held from its registration until it is resolved, abandoned or cancelled (`Held`). What a
correlator knows about it is told from the log of what was done, and so is what its waiter finds
(`Finds`): a token is held for one waiter at most, and this waiter gets the reply or learns that
none will come.

    k.Books log → k.step? op = some (k', e) → k'.Books (log ++ [e])              (Books.step)

Hence after any operations, in any order and whatever tokens are drawn, all of them are accounted
for (`tokens_accounted_for`).
-/

namespace Rendezvous

namespace Correlator

/-! ## Operations -/

/-- What can be done with a correlator. -/
inductive Operation where
  | register (now : Nat) (a : Action) (tokens : List String)
  | resolve (reply : Response)
  | abandon (token : String)
  | cancelAll
  /-- A caller goes away. -/
  | drop (w : WaiterId)
  /-- A caller looks whether its reply has come. -/
  | look (w : WaiterId)
deriving DecidableEq

/-- What was done, and what came of it. -/
inductive Occurrence where
  | registered (token : String) (w : WaiterId)
  | resolved (reply : Response) (received : Bool)
  | abandoned (token : String)
  | cancelled (count : Nat)
  | dropped (w : WaiterId)
  | looked (w : WaiterId) (found : Waiter)
deriving DecidableEq

/-- No pending request is old enough to be swept. -/
def InTime (k : Correlator) (now : Nat) : Prop :=
  ∀ p ∈ k.pending.values, now - p.registeredAt < staleAfter

instance (k : Correlator) (now : Nat) : Decidable (k.InTime now) :=
  inferInstanceAs (Decidable (∀ p ∈ k.pending.values, now - p.registeredAt < staleAfter))

/-- The correlator after an operation, and what came of that. A registration goes on until a token
is drawn that is not pending, and only callers that there are can go away or look. -/
def step? (k : Correlator) : Operation → Option (Correlator × Occurrence)
  | .register now a tokens =>
    if k.InTime now then
      (k.register now a tokens).map fun (k, token, w) => (k, .registered token w)
    else none
  | .resolve r =>
    let (k, received) := k.resolve r
    some (k, .resolved r received)
  | .abandon token => some (k.abandon token, .abandoned token)
  | .cancelAll =>
    let (k, count) := k.cancelAll
    some (k, .cancelled count)
  | .drop w => if (k.waiter? w).isSome then some (k.dropWaiter w, .dropped w) else none
  | .look w =>
    let (k, found) := k.take w
    found.map fun v => (k, .looked w v)

/-- A new correlator after some operations, and the log of what came of them. -/
def run? (ops : List Operation) : Option (Correlator × List Occurrence) :=
  ops.foldlM (fun (k, log) op => (k.step? op).map fun (k, e) => (k, log ++ [e])) ({}, [])

/-! ## What a log tells -/

/-- Whether something that happened begins or ends the life of a token. -/
def Occurrence.Concerns (token : String) : Occurrence → Prop
  | registered t _ | abandoned t => t = token
  | resolved r _ => r.sequence = token
  | cancelled _ => True
  | dropped _ | looked _ _ => False

/-- A token was registered for a waiter, and since then it was neither registered again nor
resolved, abandoned or cancelled. -/
def Held (log : List Occurrence) (token : String) (w : WaiterId) : Prop :=
  Since (fun _ e => e = .registered token w) (¬ ·.Concerns token) log

/-- What ended the life of the token that was registered for a waiter. -/
def Ended (log : List Occurrence) (w : WaiterId) (e : Occurrence) : Prop :=
  ∃ before later token, log = before ++ e :: later ∧ Held before token w ∧ e.Concerns token

/-- The token of a waiter was abandoned or cancelled. -/
def Forgotten (log : List Occurrence) (w : WaiterId) : Prop :=
  (∃ token, Ended log w (.abandoned token)) ∨ ∃ count, Ended log w (.cancelled count)

/-- The reply that a waiter finds when it looks. -/
def Occurrence.handed? (w : WaiterId) : Occurrence → Option Response
  | looked v (.delivered r) => if v = w then some r else none
  | _ => none

/-- The replies that a waiter has received. -/
def received (log : List Occurrence) (w : WaiterId) : List Response :=
  log.filterMap (·.handed? w)

variable {k k' : Correlator} {log : List Occurrence} {op : Operation} {e e' : Occurrence}
  {token t : String} {w : WaiterId} {v : Waiter} {r : Response}

theorem held_snoc :
    Held (log ++ [e]) token w ↔
      e = .registered token w ∨ (Held log token w ∧ ¬ e.Concerns token) :=
  since_snoc

theorem Held.mem (h : Held log token w) : .registered token w ∈ log := by
  obtain ⟨before, _, later, rfl, rfl, -⟩ := h
  simp

theorem ended_iff_since :
    Ended log w e ↔
      Since (fun before e' => e = e' ∧ ∃ token, Held before token w ∧ e'.Concerns token)
        (fun _ => True) log := by
  constructor
  · rintro ⟨before, later, token, rfl, held, concerns⟩
    exact ⟨before, e, later, rfl, ⟨rfl, token, held, concerns⟩, fun _ _ => trivial⟩
  · rintro ⟨before, _, later, rfl, ⟨rfl, token, held, concerns⟩, -⟩
    exact ⟨before, later, token, rfl, held, concerns⟩

theorem not_ended_nil : ¬ Ended [] w e := by
  rw [ended_iff_since]
  exact not_since_nil

theorem ended_snoc :
    Ended (log ++ [e']) w e ↔
      Ended log w e ∨ (e = e' ∧ ∃ token, Held log token w ∧ e'.Concerns token) := by
  simp only [ended_iff_since, since_snoc, and_true]
  exact or_comm

theorem Ended.snoc (h : Ended log w e) (e' : Occurrence) : Ended (log ++ [e']) w e :=
  ended_snoc.2 (.inl h)

theorem Held.ended (h : Held log token w) (concerns : e.Concerns token) :
    Ended (log ++ [e]) w e :=
  ended_snoc.2 (.inr ⟨rfl, token, h, concerns⟩)

theorem Ended.exists_mem (h : Ended log w e) : ∃ token, .registered token w ∈ log := by
  obtain ⟨before, after, token, rfl, held, -⟩ := h
  exact ⟨token, List.mem_append_left _ held.mem⟩

theorem received_snoc :
    received (log ++ [e]) w = received log w ++ (e.handed? w).toList := by
  unfold received
  rw [List.filterMap_append]
  cases found : e.handed? w <;> simp [found]

theorem Occurrence.handed?_eq_some_iff :
    e.handed? w = some r ↔ e = .looked w (.delivered r) := by
  unfold handed?
  split
  · split
    · next same => simp [same]
    · next other => simp [other]
  · next none =>
    constructor
    · nofun
    · rintro rfl
      exact absurd rfl (none _ _)

/-! ### One waiter for each registration -/

/-- A waiter is registered for one token, whose life ends once at most. -/
structure Orderly (log : List Occurrence) : Prop where
  single : ∀ {token t w}, .registered token w ∈ log → .registered t w ∈ log → token = t
  ends : ∀ {token w e}, Ended log w e → ¬ Held log token w
  once : ∀ {w e e'}, Ended log w e → Ended log w e' → e = e'

namespace Orderly

theorem start : Orderly [] where
  single h := nomatch h
  ends h := absurd h not_ended_nil
  once h := absurd h not_ended_nil

/-- It stays so if each registration is for a new waiter. -/
theorem snoc (h : Orderly log)
    (new : ∀ {token w}, e = .registered token w → ∀ t, .registered t w ∉ log) :
    Orderly (log ++ [e]) where
  single {token t w} mem mem' := by
    rcases List.mem_append.1 mem with old | last <;>
      rcases List.mem_append.1 mem' with old' | last'
    · exact h.single old old'
    · exact absurd old (new (List.mem_singleton.1 last').symm _)
    · exact absurd old' (new (List.mem_singleton.1 last).symm _)
    · cases (List.mem_singleton.1 last).trans (List.mem_singleton.1 last').symm
      rfl
  ends {token w x} ended held := by
    rcases ended_snoc.1 ended with ended | ⟨rfl, t, before, concerns⟩ <;>
      rcases held_snoc.1 held with same | ⟨held, stays⟩
    · obtain ⟨t, mem⟩ := ended.exists_mem
      exact new same t mem
    · exact h.ends ended held
    · exact new same t before.mem
    · cases h.single before.mem held.mem
      exact stays concerns
  once {w x x'} ended ended' := by
    rcases ended_snoc.1 ended with old | ⟨rfl, t, held, -⟩ <;>
      rcases ended_snoc.1 ended' with old' | ⟨rfl, t', held', -⟩
    · exact h.once old old'
    · exact absurd held' (h.ends old)
    · exact absurd held (h.ends old')
    · rfl

theorem not_held_of_forgotten (h : Orderly log) (forgotten : Forgotten log w) :
    ¬ Held log token w := by
  rcases forgotten with ⟨_, ended⟩ | ⟨_, ended⟩
  · exact h.ends ended
  · exact h.ends ended

theorem not_resolved_of_forgotten (h : Orderly log) (forgotten : Forgotten log w) {b : Bool} :
    ¬ Ended log w (.resolved r b) := by
  intro resolved
  rcases forgotten with ⟨_, ended⟩ | ⟨_, ended⟩
  · cases h.once ended resolved
  · cases h.once ended resolved

end Orderly

/-! ### What a waiter finds -/

/-- What a waiter finds when it looks, as the log tells; nothing if there is no such waiter. -/
inductive Finds (log : List Occurrence) (w : WaiterId) : Option Waiter → Prop
  | unknown (new : ∀ token, .registered token w ∉ log) (there : .dropped w ∉ log)
      (empty : received log w = []) : Finds log w none
  | dropped (gone : .dropped w ∈ log) : Finds log w (some .dropped)
  | taken {r : Response} (there : .dropped w ∉ log) (got : received log w = [r])
      (resolved : Ended log w (.resolved r true)) : Finds log w (some .closed)
  | waiting {token : String} (there : .dropped w ∉ log) (empty : received log w = [])
      (held : Held log token w) : Finds log w (some .waiting)
  | delivered {r : Response} (there : .dropped w ∉ log) (empty : received log w = [])
      (resolved : Ended log w (.resolved r true)) : Finds log w (some (.delivered r))
  | forgotten (there : .dropped w ∉ log) (empty : received log w = [])
      (forgotten : Forgotten log w) : Finds log w (some .closed)

/-- Something that happened is about other waiters, and about other tokens than some. -/
structure Occurrence.Spares (e : Occurrence) (w : WaiterId) (tokens : String → Prop) : Prop where
  unconcerned : ∀ token, tokens token → ¬ e.Concerns token
  notNew : ∀ token, e ≠ .registered token w
  notDropped : e ≠ .dropped w
  nothing : e.handed? w = none

theorem Forgotten.snoc (h : Forgotten log w) (e : Occurrence) : Forgotten (log ++ [e]) w := by
  rcases h with ⟨token, h⟩ | ⟨count, h⟩
  · exact .inl ⟨token, h.snoc e⟩
  · exact .inr ⟨count, h.snoc e⟩

theorem received_snoc_of_none (nothing : e.handed? w = none) :
    received (log ++ [e]) w = received log w := by
  rw [received_snoc, nothing]
  exact List.append_nil _

theorem not_dropped_snoc (there : .dropped w ∉ log) (other : e ≠ .dropped w) :
    .dropped w ∉ log ++ [e] := by
  simp [there, Ne.symm other]

namespace Finds

variable {found : Option Waiter}

/-- As long as a token is held, its waiter waits unless it went away. -/
theorem of_held (h : Finds log w found) (orderly : Orderly log) (held : Held log token w) :
    (.dropped w ∈ log ∧ found = some .dropped) ∨
      (.dropped w ∉ log ∧ received log w = [] ∧ found = some .waiting) := by
  cases h with
  | unknown new => exact absurd held.mem (new _)
  | dropped gone => exact .inl ⟨gone, rfl⟩
  | taken _ _ resolved => exact absurd held (orderly.ends resolved)
  | waiting there empty => exact .inr ⟨there, empty, rfl⟩
  | delivered _ _ resolved => exact absurd held (orderly.ends resolved)
  | forgotten _ _ forgotten => exact absurd held (orderly.not_held_of_forgotten forgotten)

/-- What happens to other tokens and other waiters changes nothing. -/
theorem keep (h : Finds log w found) (spares : e.Spares w (Held log · w)) :
    Finds (log ++ [e]) w found := by
  have same : received (log ++ [e]) w = received log w := received_snoc_of_none spares.nothing
  have still : .dropped w ∉ log → .dropped w ∉ log ++ [e] :=
    fun there => not_dropped_snoc there spares.notDropped
  cases h with
  | unknown new there empty =>
    refine .unknown (fun token mem => ?_) (still there) (same.trans empty)
    rcases List.mem_append.1 mem with mem | last
    · exact new token mem
    · exact spares.notNew token (List.mem_singleton.1 last).symm
  | dropped gone => exact .dropped (List.mem_append_left _ gone)
  | taken there got resolved =>
    exact .taken (still there) (same.trans got) (resolved.snoc e)
  | waiting there empty held =>
    exact .waiting (still there) (same.trans empty)
      (held_snoc.2 (.inr ⟨held, spares.unconcerned _ held⟩))
  | delivered there empty resolved =>
    exact .delivered (still there) (same.trans empty) (resolved.snoc e)
  | forgotten there empty forgotten =>
    exact .forgotten (still there) (same.trans empty) (forgotten.snoc e)

end Finds

/-! ## What an operation does -/

/-- The waiter that a pending token is registered for. -/
def holder? (k : Correlator) (token : String) : Option WaiterId :=
  (k.pending.get? token).map (·.waiter)

theorem sweep_of_inTime {now : Nat} (inTime : k.InTime now) : k.sweep now = k := by
  have fresh : ∀ p ∈ k.pending.values, decide (staleAfter ≤ now - p.registeredAt) = false :=
    fun p hp => decide_eq_false (Nat.not_le.2 (inTime p hp))
  have kept : k.pending.entries.filter
      (fun x => !decide (staleAfter ≤ now - x.2.registeredAt)) = k.pending.entries :=
    List.filter_eq_self.2 fun x hx => by simp [fresh _ (List.mem_map_of_mem hx)]
  have none : k.pending.values.filter (fun p => decide (staleAfter ≤ now - p.registeredAt)) = [] :=
    List.filter_eq_nil_iff.2 fun p hp => by simp [fresh p hp]
  unfold sweep
  simp only [kept, none]
  rfl

theorem register_of_inTime {now : Nat} (inTime : k.InTime now) (a : Action)
    (tokens : List String) : k.register now a tokens =
      (tokens.find? fun t => !k.pending.contains t).map fun token =>
        ({ pending := k.pending.insert token ⟨a, k.waiters.size, now⟩
           waiters := k.waiters.insert k.waiters.size .waiting }, token, k.waiters.size) := by
  unfold register
  rw [sweep_of_inTime inTime]

/-- What becomes of a waiter. -/
inductive Meets (k : Correlator) (e : Occurrence) (w : WaiterId) : Option Waiter → Prop
  | spared (spares : e.Spares w (k.holder? · = some w)) : Meets k e w (k.waiter? w)
  | registered {token : String} (did : e = .registered token w) (new : k.waiter? w = none) :
      Meets k e w (some .waiting)
  | delivered {r : Response} (did : e = .resolved r true)
      (holder : k.holder? r.sequence = some w) (waits : k.waiter? w = some .waiting) :
      Meets k e w (some (.delivered r))
  | missed {r : Response} (did : e = .resolved r false)
      (holder : k.holder? r.sequence = some w) (gone : k.waiter? w ≠ some .waiting) :
      Meets k e w (k.waiter? w)
  | forgotten {token : String} (holder : k.holder? token = some w)
      (did : e = .abandoned token ∨ ∃ count, e = .cancelled count) :
      Meets k e w ((k.waiter? w).map Waiter.close)
  | dropped (did : e = .dropped w) : Meets k e w (some .dropped)
  | taken {r : Response} (did : e = .looked w (.delivered r))
      (found : k.waiter? w = some (.delivered r)) : Meets k e w (some .closed)

theorem holder?_eq_none (new : k.pending.get? token = none) : k.holder? token = none := by
  unfold holder?
  rw [new]
  rfl

theorem holder?_of_pending {p : PendingRequest} (found : k.pending.get? token = some p) :
    k.holder? token = some p.waiter := by
  unfold holder?
  rw [found]
  rfl

theorem exists_of_holder? (holder : k.holder? token = some w) :
    ∃ p, k.pending.get? token = some p ∧ p.waiter = w :=
  Option.map_eq_some_iff.1 holder

/-- Requests are forgotten: their waiters learn it, and the others are spared. -/
theorem meets_close {gone : List PendingRequest} {kept : Table String PendingRequest}
    (did : (∃ token, e = .abandoned token) ∨ ∃ count, e = .cancelled count)
    (goes : ∀ p, p ∈ gone ↔ ∃ token, k.pending.get? token = some p ∧ e.Concerns token)
    (w : WaiterId) : Meets k e w ((close { k with pending := kept } gone).waiter? w) := by
  rw [waiter?_close]
  show Meets k e w ((k.waiter? w).map _)
  cases closes : gone.any (·.waiter = w) with
  | true =>
    obtain ⟨p, hp, same⟩ := List.any_eq_true.1 closes
    obtain ⟨token, found, concerns⟩ := (goes p).1 hp
    have holder : k.holder? token = some w := of_decide_eq_true same ▸ holder?_of_pending found
    refine .forgotten holder ?_
    rcases did with ⟨t, rfl⟩ | cancelled
    · cases concerns
      exact .inl rfl
    · exact .inr cancelled
  | false =>
    have same : (k.waiter? w).map (fun v => if false = true then v.close else v) = k.waiter? w :=
      Option.map_id_apply
    rw [same]
    refine .spared ⟨fun token holder concerns => ?_, ?_, ?_, ?_⟩
    · obtain ⟨p, found, same⟩ := exists_of_holder? holder
      have stays := List.any_eq_false.1 closes p ((goes p).2 ⟨token, found, concerns⟩)
      exact stays (decide_eq_true same)
    all_goals rcases did with ⟨_, rfl⟩ | ⟨_, rfl⟩ <;> first | rfl | nofun

theorem resolve_eq_true_iff :
    (k.resolve r).2 = true ↔
      ∃ w, k.holder? r.sequence = some w ∧ k.waiter? w = some .waiting := by
  unfold resolve
  split
  · next new => simp [holder?_eq_none new]
  · next p found =>
    have same : waiter? { k with pending := k.pending.erase r.sequence } p.waiter =
        k.waiter? p.waiter := rfl
    dsimp only
    rw [same, holder?_of_pending found]
    split
    · next waits => simp [waits]
    · next gone => simp [gone]

/-- A reply goes to the waiter of its token, if that still waits. -/
theorem waiter?_resolve (k : Correlator) (r : Response) (w : WaiterId) :
    (k.resolve r).1.waiter? w =
      if k.holder? r.sequence = some w ∧ k.waiter? w = some .waiting then some (.delivered r)
      else k.waiter? w := by
  unfold resolve
  split
  · next new => simp [holder?_eq_none new]
  · next p found =>
    have same : waiter? { k with pending := k.pending.erase r.sequence } p.waiter =
        k.waiter? p.waiter := rfl
    simp only [same, holder?_of_pending found, Option.some.injEq]
    split
    · next waits =>
      unfold waiter? at waits ⊢
      dsimp only
      rw [Table.get?_insert]
      by_cases same : w = p.waiter
      · subst same
        rw [if_pos rfl, if_pos ⟨rfl, waits⟩]
      · rw [if_neg same, if_neg fun both => same both.1.symm]
    · next gone =>
      rw [if_neg]
      · rfl
      · rintro ⟨rfl, waits⟩
        exact gone waits

theorem meets_resolve (k : Correlator) (r : Response) (w : WaiterId) :
    Meets k (.resolved r (k.resolve r).2) w ((k.resolve r).1.waiter? w) := by
  rw [waiter?_resolve]
  by_cases holder : k.holder? r.sequence = some w
  · by_cases waits : k.waiter? w = some .waiting
    · rw [if_pos ⟨holder, waits⟩, resolve_eq_true_iff.2 ⟨w, holder, waits⟩]
      exact .delivered rfl holder waits
    · have missed : (k.resolve r).2 = false := by
        rw [Bool.eq_false_iff, ne_eq, resolve_eq_true_iff]
        rintro ⟨v, holder', waits'⟩
        cases holder.symm.trans holder'
        exact waits waits'
      rw [if_neg fun both => waits both.2, missed]
      exact .missed rfl holder waits
  · rw [if_neg fun both => holder both.1]
    refine .spared ⟨?_, by simp, by simp, rfl⟩
    rintro token held rfl
    exact holder held

/-- A reply is taken once, and looking changes nothing else. -/
theorem meets_take {x : WaiterId} (looked : (k.take x).2 = some v) (w : WaiterId) :
    Meets k (.looked x v) w ((k.take x).1.waiter? w) := by
  unfold take at looked ⊢
  dsimp only at looked ⊢
  split at looked
  · next r found =>
    cases found.symm.trans looked
    rw [found]
    unfold waiter?
    dsimp only
    rw [Table.get?_insert]
    split
    · next same =>
      subst same
      exact .taken rfl found
    · next other =>
      refine .spared ⟨fun _ _ => id, by simp, by simp, ?_⟩
      exact if_neg (Ne.symm other)
  · next unread =>
    have nothing : (Occurrence.looked x v).handed? w = none := by
      cases v with
      | delivered r => exact absurd looked (unread r)
      | _ => rfl
    exact .spared ⟨fun _ _ => id, by simp, by simp, nothing⟩

theorem meets_of_step? (numbered : k.waiters.Numbered) (did : k.step? op = some (k', e))
    (w : WaiterId) : Meets k e w (k'.waiter? w) := by
  cases op with
  | register now a tokens =>
    rw [step?] at did
    split at did
    · next inTime =>
      rw [register_of_inTime inTime, Option.map_map] at did
      obtain ⟨token, drawn, same⟩ := Option.map_eq_some_iff.1 did
      cases same
      have new : k.pending.get? token = none := by
        simpa [Table.contains] using List.find?_some drawn
      unfold waiter?
      dsimp only
      rw [Table.get?_insert]
      split
      · next same =>
        subst same
        refine .registered rfl ?_
        rw [Option.eq_none_iff_forall_ne_some]
        exact fun v found => Nat.lt_irrefl _ (numbered _ v found)
      · next other =>
        refine .spared ⟨?_, ?_, by simp, rfl⟩
        · rintro _ holder rfl
          rw [holder?_eq_none new] at holder
          cases holder
        · intro token same
          cases same
          exact other rfl
    · cases did
  | resolve r =>
    cases did
    exact k.meets_resolve r w
  | abandon token =>
    cases did
    refine meets_close (.inl ⟨token, rfl⟩) (fun p => ?_) w
    simp [Occurrence.Concerns]
  | cancelAll =>
    cases did
    refine meets_close (.inr ⟨_, rfl⟩) (fun p => ?_) w
    simp [Occurrence.Concerns, Table.values, Table.get?_eq_some_iff]
  | drop v =>
    rw [step?] at did
    split at did
    · next there =>
      cases did
      by_cases same : w = v
      · subst same
        have gone : (k.dropWaiter w).waiter? w = some .dropped := by
          obtain ⟨found, known⟩ := Option.isSome_iff_exists.1 there
          unfold waiter? at known
          unfold waiter? dropWaiter
          dsimp only
          rw [Table.get?_modify, if_pos rfl, known]
          rfl
        rw [gone]
        exact .dropped rfl
      · rw [waiter?_dropWaiter same]
        refine .spared ⟨fun _ _ => id, by simp, ?_, rfl⟩
        rintro ⟨⟩
        exact same rfl
    · cases did
  | look v =>
    obtain ⟨found, looked, same⟩ := Option.map_eq_some_iff.1 did
    cases same
    exact meets_take looked w

theorem pending_take (k : Correlator) (w : WaiterId) : (k.take w).1.pending = k.pending := by
  unfold take
  dsimp only
  split <;> rfl

theorem pending_resolve (k : Correlator) (r : Response) (token : String) :
    (k.resolve r).1.pending.get? token =
      if token = r.sequence then none else k.pending.get? token := by
  unfold resolve
  split
  · next new =>
    split
    · next same => rw [same, new]
    · rfl
  · dsimp only
    split <;> exact Table.get?_erase ..

theorem pending_abandon (k : Correlator) (t token : String) :
    (k.abandon t).pending.get? token = if token = t then none else k.pending.get? token :=
  Table.get?_erase ..

/-- What is pending under a token after an operation. -/
theorem pending_of_step? (did : k.step? op = some (k', e)) (token : String) :
    (¬ e.Concerns token ∧ k'.pending.get? token = k.pending.get? token) ∨
      (e.Concerns token ∧ (∀ w, e ≠ .registered token w) ∧ k'.pending.get? token = none) ∨
      ∃ p, e = .registered token p.waiter ∧ k'.pending.get? token = some p := by
  cases op with
  | register now a tokens =>
    rw [step?] at did
    split at did
    · next inTime =>
      rw [register_of_inTime inTime, Option.map_map] at did
      obtain ⟨t, -, same⟩ := Option.map_eq_some_iff.1 did
      cases same
      by_cases same : token = t
      · subst same
        exact .inr (.inr ⟨_, rfl, Table.get?_insert_self ..⟩)
      · refine .inl ⟨Ne.symm same, ?_⟩
        exact (Table.get?_insert ..).trans (if_neg same)
    · cases did
  | resolve r =>
    cases did
    have pending := k.pending_resolve r token
    by_cases same : token = r.sequence
    · rw [if_pos same] at pending
      exact .inr (.inl ⟨same.symm, nofun, pending⟩)
    · rw [if_neg same] at pending
      exact .inl ⟨Ne.symm same, pending⟩
  | abandon t =>
    cases did
    have pending := k.pending_abandon t token
    by_cases same : token = t
    · rw [if_pos same] at pending
      exact .inr (.inl ⟨same.symm, nofun, pending⟩)
    · rw [if_neg same] at pending
      exact .inl ⟨Ne.symm same, pending⟩
  | cancelAll =>
    cases did
    exact .inr (.inl ⟨trivial, nofun, rfl⟩)
  | drop w =>
    rw [step?] at did
    split at did
    · cases did
      exact .inl ⟨id, rfl⟩
    · cases did
  | look w =>
    obtain ⟨found, -, same⟩ := Option.map_eq_some_iff.1 did
    cases same
    exact .inl ⟨id, congrArg (·.get? token) (k.pending_take w)⟩

theorem holder?_of_step? (did : k.step? op = some (k', e)) :
    k'.holder? token = some w ↔
      e = .registered token w ∨ (k.holder? token = some w ∧ ¬ e.Concerns token) := by
  rcases pending_of_step? did token with ⟨unconcerned, same⟩ | ⟨concerns, old, none⟩ |
    ⟨p, rfl, found⟩
  · unfold holder?
    rw [same]
    refine ⟨fun h => .inr ⟨h, unconcerned⟩, ?_⟩
    rintro (rfl | ⟨h, -⟩)
    · exact absurd rfl unconcerned
    · exact h
  · rw [holder?_eq_none none]
    simp [old, concerns]
  · rw [holder?_of_pending found]
    simp [Occurrence.Concerns]

theorem numbered_resolve (numbered : k.waiters.Numbered) (r : Response) :
    (k.resolve r).1.waiters.Numbered := by
  unfold resolve
  split
  · exact numbered
  · dsimp only
    split
    · next waits => exact numbered.insert (numbered _ _ waits) _
    · exact numbered

theorem numbered_take (numbered : k.waiters.Numbered) (w : WaiterId) :
    (k.take w).1.waiters.Numbered := by
  unfold take
  dsimp only
  split
  · next found => exact numbered.insert (numbered _ _ found) _
  · exact numbered

theorem numbered_of_step? (numbered : k.waiters.Numbered) (did : k.step? op = some (k', e)) :
    k'.waiters.Numbered := by
  cases op with
  | register now a tokens =>
    rw [step?] at did
    split at did
    · next inTime =>
      rw [register_of_inTime inTime, Option.map_map] at did
      obtain ⟨t, -, same⟩ := Option.map_eq_some_iff.1 did
      cases same
      exact numbered.insert_size _
    · cases did
  | resolve r =>
    cases did
    exact numbered_resolve numbered r
  | abandon t =>
    cases did
    exact numbered_close numbered _
  | cancelAll =>
    cases did
    exact numbered_close numbered _
  | drop w =>
    rw [step?] at did
    split at did
    · cases did
      exact numbered.modify _ _
    · cases did
  | look w =>
    obtain ⟨found, -, same⟩ := Option.map_eq_some_iff.1 did
    cases same
    exact numbered_take numbered w

/-! ## What a correlator knows -/

/-- A correlator knows what the log tells. -/
structure Books (k : Correlator) (log : List Occurrence) : Prop where
  numbered : k.waiters.Numbered
  holds : ∀ token w, k.holder? token = some w ↔ Held log token w
  orderly : Orderly log
  finds : ∀ w, Finds log w (k.waiter? w)
  receives : ∀ w, received log w = [] ∨
    ∃ r, received log w = [r] ∧ Ended log w (.resolved r true)

/-- What is registered now is registered for a new waiter. -/
theorem Meets.new {found : Option Waiter} (h : Meets k (.registered token w) w found) :
    k.waiter? w = none := by
  cases h with
  | spared spares => exact absurd rfl (spares.notNew token)
  | registered _ new => exact new
  | forgotten _ did => rcases did with did | ⟨_, did⟩ <;> cases did
  | delivered did => cases did
  | missed did => cases did
  | dropped did => cases did
  | taken did => cases did

/-- Only a reply that has come is handed out. -/
theorem Meets.found {found : Option Waiter} (h : Meets k (.looked w (.delivered r)) w found) :
    k.waiter? w = some (.delivered r) := by
  cases h with
  | spared spares => cases (Occurrence.handed?_eq_some_iff.2 rfl).symm.trans spares.nothing
  | taken did found =>
    cases did
    exact found
  | forgotten _ did => rcases did with did | ⟨_, did⟩ <;> cases did
  | registered did => cases did
  | delivered did => cases did
  | missed did => cases did
  | dropped did => cases did

namespace Finds

variable {found : Option Waiter}

/-- What a waiter meets is what the log tells about it then. -/
theorem meet (h : Finds log w (k.waiter? w)) (orderly : Orderly log)
    (holds : ∀ token, k.holder? token = some w ↔ Held log token w) (meets : Meets k e w found) :
    Finds (log ++ [e]) w found := by
  cases meets with
  | spared spares =>
    exact h.keep ⟨fun token held => spares.unconcerned token ((holds token).2 held),
      spares.notNew, spares.notDropped, spares.nothing⟩
  | registered did new =>
    rw [new] at h
    cases h with
    | unknown new there empty =>
      subst did
      exact .waiting (not_dropped_snoc there nofun) ((received_snoc_of_none rfl).trans empty)
        (held_snoc.2 (.inl rfl))
  | delivered did holder waits =>
    subst did
    have held := (holds _).1 holder
    rcases h.of_held orderly held with ⟨-, gone⟩ | ⟨there, empty, -⟩
    · cases gone.symm.trans waits
    · exact .delivered (not_dropped_snoc there nofun) ((received_snoc_of_none rfl).trans empty)
        (held.ended rfl)
  | missed did holder gone =>
    subst did
    rcases h.of_held orderly ((holds _).1 holder) with ⟨dropped, same⟩ | ⟨-, -, waits⟩
    · rw [same]
      exact .dropped (List.mem_append_left _ dropped)
    · exact absurd waits gone
  | forgotten holder did =>
    have held := (holds _).1 holder
    have forgotten : Forgotten (log ++ [e]) w := by
      rcases did with rfl | ⟨count, rfl⟩
      · exact .inl ⟨_, held.ended rfl⟩
      · exact .inr ⟨_, held.ended trivial⟩
    rcases h.of_held orderly held with ⟨dropped, same⟩ | ⟨there, empty, same⟩
    · rw [same]
      exact .dropped (List.mem_append_left _ dropped)
    · rw [same]
      have stays : e ≠ .dropped w ∧ e.handed? w = none := by
        rcases did with rfl | ⟨count, rfl⟩
        · exact ⟨nofun, rfl⟩
        · exact ⟨nofun, rfl⟩
      exact .forgotten (not_dropped_snoc there stays.1)
        ((received_snoc_of_none stays.2).trans empty) forgotten
  | dropped did => exact .dropped (did ▸ by simp)
  | taken did found =>
    subst did
    rw [found] at h
    cases h with
    | delivered there empty resolved =>
      refine .taken (not_dropped_snoc there nofun) ?_ (resolved.snoc _)
      rw [received_snoc, empty, Occurrence.handed?_eq_some_iff.2 rfl]
      rfl

end Finds

namespace Books

theorem start : Books {} [] where
  numbered := .empty
  holds _ _ := ⟨nofun, fun held => absurd held not_since_nil⟩
  orderly := .start
  finds _ := .unknown nofun nofun rfl
  receives _ := .inl rfl

theorem step (h : k.Books log) (did : k.step? op = some (k', e)) : k'.Books (log ++ [e]) := by
  have meets := fun w => meets_of_step? h.numbered did w
  constructor
  · exact numbered_of_step? h.numbered did
  · intro token w
    rw [holder?_of_step? did, h.holds, held_snoc]
  · refine h.orderly.snoc fun {token w} same => ?_
    subst same
    have found := h.finds w
    rw [(meets w).new] at found
    cases found with
    | unknown new => exact new
  · exact fun w => (h.finds w).meet h.orderly (h.holds · w) (meets w)
  · intro w
    cases handed : e.handed? w with
    | none =>
      rw [received_snoc_of_none handed]
      refine (h.receives w).imp_right ?_
      rintro ⟨r, got, resolved⟩
      exact ⟨r, got, resolved.snoc e⟩
    | some r =>
      cases Occurrence.handed?_eq_some_iff.1 handed
      have found := h.finds w
      rw [(meets w).found] at found
      cases found with
      | delivered _ empty resolved =>
        refine .inr ⟨r, ?_, resolved.snoc _⟩
        rw [received_snoc, handed, empty]
        rfl

theorem run {ops : List Operation} (run : run? ops = some (k, log)) : k.Books log := by
  induction ops using List.reverseRecOn generalizing k log with
  | nil =>
    cases run
    exact .start
  | append_singleton ops op ih =>
    unfold run? at run
    rw [List.foldlM_append] at run
    obtain ⟨⟨before, past⟩, first, last⟩ := Option.bind_eq_some_iff.1 run
    rw [List.foldlM_cons] at last
    obtain ⟨after, logged, same⟩ := Option.bind_eq_some_iff.1 last
    cases same
    obtain ⟨⟨k', e⟩, did, same⟩ := Option.map_eq_some_iff.1 logged
    cases same
    exact (ih first).step did

theorem pending_iff (h : k.Books log) (token : String) :
    k.pending.contains token = true ↔ ∃ w, Held log token w := by
  simp only [← h.holds]
  unfold Table.contains holder?
  cases k.pending.get? token <;> simp

theorem size_eq (h : k.Books log) : {token | ∃ w, Held log token w}.encard = k.size := by
  have same : {token | ∃ w, Held log token w} = k.pending.keys.toFinset := by
    ext token
    rw [Set.mem_ofPred_eq, ← h.pending_iff, Finset.mem_coe, List.mem_toFinset, Table.mem_keys_iff,
      ← Option.isSome_iff_exists]
    rfl
  rw [same, Set.encard_coe_eq_coe_finsetCard, List.toFinset_card_of_nodup k.pending.nodup_keys]
  exact congrArg _ (List.length_map _)

/-- While its token is held a waiter waits, unless it went away. -/
theorem waits_iff (h : k.Books log) (held : Held log token w) :
    k.waiter? w = some .waiting ↔ .dropped w ∉ log := by
  rcases (h.finds w).of_held h.orderly held with ⟨gone, same⟩ | ⟨there, -, same⟩
  · simp [same, gone]
  · simp [same, there]

theorem exists_registered (h : k.Books log) (registered : .registered token w ∈ log) :
    k.waiter? w ≠ none := by
  intro unknown
  have found := h.finds w
  rw [unknown] at found
  cases found with
  | unknown new => exact new token registered

end Books

/-! ## What becomes of tokens and waiters -/

/-- A waiter that neither went away nor received a reply yet: what it finds is what became of the
token that it was registered for. -/
structure Finding (k : Correlator) (log : List Occurrence) (token : String) (w : WaiterId) :
    Prop where
  waiting_iff : k.waiter? w = some .waiting ↔ Held log token w
  delivered_iff : ∀ r, k.waiter? w = some (.delivered r) ↔ Ended log w (.resolved r true)
  closed_iff : k.waiter? w = some .closed ↔ Forgotten log w

/-- The log of a correlator tells what it knows, and what the next operation does. -/
structure Accounted (k : Correlator) (log : List Occurrence) : Prop where
  pending_iff : ∀ token, k.pending.contains token = true ↔ ∃ w, Held log token w
  size_eq : {token | ∃ w, Held log token w}.encard = k.size
  /-- A registration gives the first token drawn that is not held. -/
  register_iff : ∀ {now a tokens token}, k.InTime now →
    ((∃ k' w, k.register now a tokens = some (k', token, w)) ↔
      ∃ before after, tokens = before ++ token :: after ∧
        (∀ t ∈ before, ∃ w, Held log t w) ∧ ∀ w, ¬ Held log token w)
  /-- It gives it to a new waiter. -/
  register_new : ∀ {now a tokens k' token w}, k.InTime now →
    k.register now a tokens = some (k', token, w) → ∀ t, .registered t w ∉ log
  /-- A reply is for the waiter of its token, if that has not gone away. -/
  resolve_iff : ∀ r, (k.resolve r).2 = true ↔ ∃ w, Held log r.sequence w ∧ .dropped w ∉ log
  resolve_self : ∀ {r w}, Held log r.sequence w → .dropped w ∉ log →
    (k.resolve r).1.waiter? w = some (.delivered r)
  resolve_other : ∀ {r w}, ¬ (Held log r.sequence w ∧ .dropped w ∉ log) →
    (k.resolve r).1.waiter? w = k.waiter? w
  cancelAll_eq : k.cancelAll.2 = k.size ∧ k.cancelAll.1.size = 0
  /-- No waiter receives a second reply, or one that was not for its token. -/
  receives : ∀ w, received log w = [] ∨
    ∃ r, received log w = [r] ∧ Ended log w (.resolved r true)
  finds : ∀ {token w}, .registered token w ∈ log → .dropped w ∉ log → received log w = [] →
    k.Finding log token w
  /-- What is done about other tokens, and by other waiters, changes nothing. -/
  other : ∀ {op k' e}, k.step? op = some (k', e) → ∀ {token}, ¬ e.Concerns token →
    k'.pending.get? token = k.pending.get? token ∧
    ∀ {w}, .registered token w ∈ log → e ≠ .dropped w → (∀ v, e ≠ .looked w v) →
      k'.waiter? w = k.waiter? w

namespace Books

theorem register_iff (h : k.Books log) {now : Nat} {a : Action} {tokens : List String}
    (inTime : k.InTime now) :
    (∃ k' w, k.register now a tokens = some (k', token, w)) ↔
      ∃ before after, tokens = before ++ token :: after ∧
        (∀ t ∈ before, ∃ w, Held log t w) ∧ ∀ w, ¬ Held log token w := by
  have free_iff : (!k.pending.contains token) = true ↔ ∀ w, ¬ Held log token w := by
    rw [Bool.not_eq_true', Bool.eq_false_iff, ne_eq, h.pending_iff, not_exists]
  have given_iff : (∃ k' w, k.register now a tokens = some (k', token, w)) ↔
      (tokens.find? fun t => !k.pending.contains t) = some token := by
    rw [register_of_inTime inTime]
    cases tokens.find? fun t => !k.pending.contains t <;> simp
  rw [given_iff, List.find?_eq_some_iff_append, free_iff]
  simp only [Bool.not_not, h.pending_iff]
  constructor
  · rintro ⟨free, before, after, drawn, held⟩
    exact ⟨before, after, drawn, held, free⟩
  · rintro ⟨before, after, drawn, held, free⟩
    exact ⟨free, before, after, drawn, held⟩

theorem register_new (h : k.Books log) {now : Nat} {a : Action} {tokens : List String}
    (inTime : k.InTime now) (given : k.register now a tokens = some (k', token, w)) :
    .registered t w ∉ log := by
  have did : k.step? (.register now a tokens) = some (k', .registered token w) := by
    rw [step?, if_pos inTime, given]
    rfl
  intro old
  exact h.exists_registered old (meets_of_step? h.numbered did w).new

theorem resolve_iff (h : k.Books log) (r : Response) :
    (k.resolve r).2 = true ↔ ∃ w, Held log r.sequence w ∧ .dropped w ∉ log := by
  rw [resolve_eq_true_iff]
  simp only [h.holds]
  exact exists_congr fun w => and_congr_right fun held => h.waits_iff held

theorem resolve_self (h : k.Books log) (held : Held log r.sequence w)
    (there : .dropped w ∉ log) : (k.resolve r).1.waiter? w = some (.delivered r) := by
  rw [waiter?_resolve, if_pos ⟨(h.holds _ _).2 held, (h.waits_iff held).2 there⟩]

theorem resolve_other (h : k.Books log) (other : ¬ (Held log r.sequence w ∧ .dropped w ∉ log)) :
    (k.resolve r).1.waiter? w = k.waiter? w := by
  rw [waiter?_resolve, if_neg]
  rintro ⟨holder, waits⟩
  have held := (h.holds _ _).1 holder
  exact other ⟨held, (h.waits_iff held).1 waits⟩

theorem finding (h : k.Books log) (registered : .registered token w ∈ log)
    (there : .dropped w ∉ log) (empty : received log w = []) : k.Finding log token w := by
  have found := h.finds w
  generalize same : k.waiter? w = v at found
  cases found with
  | unknown new => exact absurd registered (new token)
  | dropped gone => exact absurd gone there
  | taken _ got => cases got.symm.trans empty
  | waiting _ _ held =>
    cases h.orderly.single registered held.mem
    constructor
    · simp [same, held]
    · have stays : ∀ r, ¬ Ended log w (.resolved r true) := fun r ended => h.orderly.ends ended held
      simp [same, stays]
    · have stays : ¬ Forgotten log w :=
        fun forgotten => h.orderly.not_held_of_forgotten forgotten held
      simp [same, stays]
  | delivered _ _ resolved =>
    constructor
    · simp [same, h.orderly.ends resolved]
    · intro r'
      rw [same, Option.some.injEq, Waiter.delivered.injEq]
      constructor
      · rintro rfl
        exact resolved
      · intro resolved'
        cases h.orderly.once resolved resolved'
        rfl
    · simp only [same, Option.some.injEq, reduceCtorEq, false_iff]
      exact fun forgotten => h.orderly.not_resolved_of_forgotten forgotten resolved
  | forgotten _ _ forgotten =>
    constructor
    · simp [same, h.orderly.not_held_of_forgotten forgotten]
    · simp [same, h.orderly.not_resolved_of_forgotten forgotten]
    · simp [same, forgotten]

/-- A waiter that was registered for another token is not concerned. -/
theorem waiter?_step (h : k.Books log) (did : k.step? op = some (k', e))
    (unconcerned : ¬ e.Concerns token) (registered : .registered token w ∈ log)
    (notDropped : e ≠ .dropped w) (notLooked : ∀ v, e ≠ .looked w v) :
    k'.waiter? w = k.waiter? w := by
  have own : ∀ {t}, k.holder? t = some w → token = t :=
    fun holder => h.orderly.single registered ((h.holds _ _).1 holder).mem
  have meets := meets_of_step? h.numbered did w
  generalize k'.waiter? w = after at meets ⊢
  cases meets with
  | spared | missed => rfl
  | registered _ new => exact absurd new (h.exists_registered registered)
  | delivered did holder =>
    subst did
    exact absurd (own holder).symm unconcerned
  | forgotten holder did =>
    cases own holder
    rcases did with rfl | ⟨count, rfl⟩
    · exact absurd rfl unconcerned
    · exact absurd trivial unconcerned
  | dropped did => exact absurd did notDropped
  | taken did => exact absurd did (notLooked _)

theorem pending_step (did : k.step? op = some (k', e)) (unconcerned : ¬ e.Concerns token) :
    k'.pending.get? token = k.pending.get? token := by
  rcases pending_of_step? did token with ⟨-, same⟩ | ⟨concerns, -⟩ | ⟨p, rfl, -⟩
  · exact same
  · exact absurd concerns unconcerned
  · exact absurd rfl unconcerned

end Books

/-- Whatever is done with a correlator that has nothing pending and no waiters, in whatever order
and whatever tokens are drawn, as long as no request gets old enough to be swept: the log tells what
it knows and what the next operation does. The tokens pending are those that were registered and
since then neither resolved, abandoned nor cancelled, and a registration never gives one of them. A
reply is handed over exactly if its token is one of them and the waiter has not gone away, and then
this waiter gets this reply and all other waiters are left as they are. A waiter receives one reply
at most; if it received none it finds one if its token was resolved, it finds that nothing will come
if its token was abandoned or cancelled, and it waits otherwise. All tokens are cancelled and
counted at once, and otherwise no operation changes anything about a token that it is not about. -/
theorem tokens_accounted_for {ops : List Operation} (run : run? ops = some (k, log)) :
    k.Accounted log := by
  have books := Books.run run
  exact {
    pending_iff := books.pending_iff
    size_eq := books.size_eq
    register_iff := books.register_iff
    register_new := fun inTime given _ => books.register_new inTime given
    resolve_iff := books.resolve_iff
    resolve_self := books.resolve_self
    resolve_other := books.resolve_other
    cancelAll_eq := ⟨rfl, rfl⟩
    receives := books.receives
    finds := books.finding
    other := fun did _ unconcerned =>
      ⟨Books.pending_step did unconcerned, books.waiter?_step did unconcerned⟩ }

/-- Three requests are registered, although the same token is drawn again and again. The reply to
the first comes twice, the second is abandoned, and the caller of the third goes away before its
reply comes. The first token is free again then and is given out once more. -/
def sampleOperations : List Operation :=
  [.register 0 .services ["t"], .register 10 .login ["t", "t", "u"],
   .register 20 .myServices ["u", "t", "v"],
   .resolve { sequence := "t", resultList := ["ssh-box"] }, .resolve { sequence := "t" },
   .look 0, .look 0, .abandon "u", .look 1, .drop 2, .resolve { sequence := "v" },
   .register 30 .logout ["t"], .register 40 .logout ["t", "x"]]

/-- What comes of them. -/
def sampleLog : List Occurrence :=
  [.registered "t" 0, .registered "u" 1, .registered "v" 2,
   .resolved { sequence := "t", resultList := ["ssh-box"] } true,
   .resolved { sequence := "t" } false,
   .looked 0 (.delivered { sequence := "t", resultList := ["ssh-box"] }), .looked 0 .closed,
   .abandoned "u", .looked 1 .closed, .dropped 2, .resolved { sequence := "v" } false,
   .registered "t" 3, .registered "x" 4]

/-- The correlator after them. -/
def sampleCorrelator : Correlator where
  pending := .ofList [("t", ⟨.logout, 3, 30⟩), ("x", ⟨.logout, 4, 40⟩)]
  waiters := .ofList [(0, .closed), (1, .closed), (2, .dropped), (3, .waiting), (4, .waiting)]

/-- Two tokens are pending then, and the second waiter has learnt that no reply will come. The first
token is held for its second waiter now, which gets the next reply; a registration that draws it
passes over it. -/
theorem tokens_accounted_for_sampleOperations :
    run? sampleOperations = some (sampleCorrelator, sampleLog) ∧
      {token | ∃ w, Held sampleLog token w}.encard = 2 ∧ Forgotten sampleLog 1 ∧
      Held sampleLog "t" 3 ∧ (sampleCorrelator.resolve { sequence := "t" }).1.waiter? 3 =
        some (.delivered { sequence := "t" }) ∧
      ∃ k w, sampleCorrelator.register 50 .logout ["x", "t", "y"] = some (k, "y", w) := by
  have run : run? sampleOperations = some (sampleCorrelator, sampleLog) := by decide +kernel
  have accounted := tokens_accounted_for run
  have second : sampleCorrelator.Finding sampleLog "u" 1 :=
    accounted.finds (by decide +kernel) (by decide +kernel) (by decide +kernel)
  have fourth : sampleCorrelator.Finding sampleLog "t" 3 :=
    accounted.finds (by decide +kernel) (by decide +kernel) (by decide +kernel)
  have forgotten : Forgotten sampleLog 1 := second.closed_iff.1 (by decide +kernel)
  have held : Held sampleLog "t" 3 := fourth.waiting_iff.1 (by decide +kernel)
  have free : ∀ w, ¬ Held sampleLog "y" w := by
    have absent : sampleCorrelator.pending.contains "y" = false := by decide +kernel
    exact fun w held => nomatch absent.symm.trans ((accounted.pending_iff "y").2 ⟨w, held⟩)
  have taken : ∀ t ∈ ["x", "t"], ∃ w, Held sampleLog t w := by
    have pending : ∀ t ∈ ["x", "t"], sampleCorrelator.pending.contains t = true := by
      decide +kernel
    exact fun t ht => (accounted.pending_iff t).1 (pending t ht)
  refine ⟨run, accounted.size_eq, forgotten, held,
    accounted.resolve_self (r := { sequence := "t" }) held (by decide +kernel),
    (accounted.register_iff (by decide +kernel)).2 ⟨["x", "t"], [], rfl, taken, free⟩⟩

end Correlator

end Rendezvous
