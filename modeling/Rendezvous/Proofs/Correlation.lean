import Mathlib.Data.List.Nodup
import Rendezvous.Client

/-!
# Which reply a call may get

A correlator serves the calls that were registered with it (`Correlator.Serves`): each has a waiter
of its own, a pending token belongs to a call that still waits, and a reply that was delivered is
one under the token of the call that it was delivered to. Every operation keeps this, whatever the
order:

    k.Serves calls Given → k.register now a tokens = some (k', token, w) →
      k'.Serves (calls ++ [⟨token, w⟩]) Given                          (Serves.register)
    k.Serves calls Given → Given r → (k.resolve r).1.Serves calls Given  (Serves.resolve)
-/

namespace Rendezvous

theorem Waiter.close_close (w : Waiter) : w.close.close = w.close := by
  cases w <;> rfl

theorem Waiter.close_eq_delivered_iff {w : Waiter} {r : Response} :
    w.close = .delivered r ↔ w = .delivered r := by
  cases w <;> simp [close]

namespace Correlator

variable {k k' : Correlator} {calls : List Call} {Given : Response → Prop} {r : Response}

/-! ## Operations on waiters -/

theorem waiter?_close (k : Correlator) (gone : List PendingRequest) (w : WaiterId) :
    (k.close gone).waiter? w =
      (k.waiter? w).map fun v => if gone.any (·.waiter = w) then v.close else v := by
  unfold close waiter?
  dsimp only
  generalize k.waiters = ws
  induction gone generalizing ws with
  | nil => simp
  | cons p gone ih =>
    rw [List.foldl_cons, ih, Table.get?_modify, List.any_cons]
    by_cases hw : w = p.waiter
    · subst hw
      rw [if_pos rfl, Option.map_map]
      congr 1
      funext v
      simp only [Function.comp_apply, decide_true, Bool.true_or, if_true]
      split
      · exact v.close_close
      · rfl
    · simp [hw, Ne.symm hw]

theorem waiter?_dropWaiter {w w' : WaiterId} (other : w' ≠ w) :
    (k.dropWaiter w).waiter? w' = k.waiter? w' := by
  unfold waiter? dropWaiter
  rw [Table.get?_modify, if_neg other]

theorem size_waiters_close (k : Correlator) (gone : List PendingRequest) :
    (k.close gone).waiters.size = k.waiters.size := by
  unfold close
  dsimp only
  generalize k.waiters = ws
  induction gone generalizing ws with
  | nil => rfl
  | cons p gone ih => rw [List.foldl_cons, ih, Table.size_modify]

theorem numbered_close (h : k.waiters.Numbered) (gone : List PendingRequest) :
    (k.close gone).waiters.Numbered := by
  unfold close
  dsimp only
  generalize k.waiters = ws at h
  induction gone generalizing ws with
  | nil => exact h
  | cons p gone ih =>
    rw [List.foldl_cons]
    exact ih _ (h.modify _ _)

/-! ## Requests that are still pending -/

theorem pending_of_sweep {now : Nat} {token : String} {p : PendingRequest}
    (h : (k.sweep now).pending.get? token = some p) : k.pending.get? token = some p := by
  obtain ⟨he, -⟩ := List.mem_filter.1 (Table.get?_eq_some_iff.1 h)
  exact Table.get?_eq_some_iff.2 he

theorem pending_of_erase {token t : String} {p : PendingRequest}
    (h : (k.pending.erase t).get? token = some p) :
    token ≠ t ∧ k.pending.get? token = some p := by
  rw [Table.get?_erase] at h
  split at h
  · cases h
  · next other => exact ⟨other, h⟩

theorem pending_of_resolve {token : String} {p : PendingRequest}
    (h : (k.resolve r).1.pending.get? token = some p) : k.pending.get? token = some p := by
  unfold resolve at h
  split at h
  · exact h
  · dsimp only at h
    split at h
    · exact (pending_of_erase h).2
    · exact (pending_of_erase h).2

/-- A registration adds its token and no other. -/
theorem pending_of_register {now : Nat} {a : Action} {tokens : List String} {token t : String}
    {w : WaiterId} {p : PendingRequest} (registered : k.register now a tokens = some (k', token, w))
    (h : k'.pending.get? t = some p) : t = token ∨ k.pending.get? t = some p := by
  unfold register at registered
  obtain ⟨_, -, e⟩ := Option.map_eq_some_iff.1 registered
  cases e
  rw [Table.get?_insert] at h
  split at h
  · next same => exact .inl same
  · exact .inr (pending_of_sweep h)

/-! ## Calls that are served -/

/-- What is registered belongs to the calls, and what is delivered is a reply to one of them. -/
structure Serves (k : Correlator) (calls : List Call) (Given : Response → Prop) : Prop where
  numbered : k.waiters.Numbered
  known : ∀ call ∈ calls, call.waiter < k.waiters.size
  distinct : ∀ {token token' w}, ⟨token, w⟩ ∈ calls → ⟨token', w⟩ ∈ calls → token = token'
  pending : ∀ {token p}, k.pending.get? token = some p →
    ⟨token, p.waiter⟩ ∈ calls ∧ k.waiter? p.waiter = some .waiting
  waits : ∀ {token w}, ⟨token, w⟩ ∈ calls → k.waiter? w = some .waiting →
    ∃ p, k.pending.get? token = some p ∧ p.waiter = w
  delivered : ∀ {w r}, k.waiter? w = some (.delivered r) → ⟨r.sequence, w⟩ ∈ calls ∧ Given r

namespace Serves

theorem start : ({} : Correlator).Serves [] Given where
  numbered := .empty
  known := nofun
  distinct := nofun
  pending := nofun
  waits := nofun
  delivered := nofun

theorem mono {Given' : Response → Prop} (h : k.Serves calls Given)
    (more : ∀ r, Given r → Given' r) : k.Serves calls Given' :=
  { h with delivered := fun hw => ⟨(h.delivered hw).1, more _ (h.delivered hw).2⟩ }

/-- Requests may be forgotten if their waiters are closed: no other request has one of these. -/
theorem forget (h : k.Serves calls Given) {kept : Table String PendingRequest}
    {gone : List PendingRequest} (was : ∀ p ∈ gone, ∃ token, k.pending.get? token = some p)
    (stays : ∀ {token p}, kept.get? token = some p →
      k.pending.get? token = some p ∧ ∀ t, k.pending.get? t = some p → p ∉ gone)
    (rest : ∀ {token p}, k.pending.get? token = some p → p ∉ gone → kept.get? token = some p) :
    (close { k with pending := kept } gone).Serves calls Given where
  numbered := numbered_close (k := { k with pending := kept }) h.numbered gone
  known call hc := by
    rw [size_waiters_close]
    exact h.known call hc
  distinct := h.distinct
  pending {token p} hp := by
    obtain ⟨hp, hgone⟩ := stays hp
    obtain ⟨hcall, waits⟩ := h.pending hp
    refine ⟨hcall, ?_⟩
    have open_ : gone.any (·.waiter = p.waiter) = false := by
      rw [List.any_eq_false]
      intro g hg same
      obtain ⟨token', hg'⟩ := was g hg
      have same : g.waiter = p.waiter := by simpa using same
      have hcall' := (h.pending hg').1
      rw [same] at hcall'
      cases h.distinct hcall hcall'
      rw [hp] at hg'
      cases hg'
      exact hgone _ hp hg
    rw [waiter?_close, open_]
    show (k.waiter? p.waiter).map _ = _
    rw [waits]
    rfl
  waits {token w} hc hw := by
    rw [waiter?_close] at hw
    obtain ⟨v, hv, e⟩ := Option.map_eq_some_iff.1 hw
    have hv : k.waiter? w = some v := hv
    split at e
    · cases v <;> cases e
    · next notGone =>
      rw [e] at hv
      obtain ⟨p, hp, rfl⟩ := h.waits hc hv
      refine ⟨p, rest hp fun hg => notGone ?_, rfl⟩
      exact List.any_eq_true.2 ⟨p, hg, by simp⟩
  delivered {w r} hw := by
    rw [waiter?_close] at hw
    obtain ⟨v, hv, e⟩ := Option.map_eq_some_iff.1 hw
    have hv : k.waiter? w = some v := hv
    have e : v = .delivered r := by
      split at e
      · exact Waiter.close_eq_delivered_iff.1 e
      · exact e
    rw [e] at hv
    exact h.delivered hv

theorem sweep (h : k.Serves calls Given) (now : Nat) : (k.sweep now).Serves calls Given := by
  refine h.forget (fun p hp => ?_) (fun hp => ?_) fun hp notGone => ?_
  · obtain ⟨hp, -⟩ := List.mem_filter.1 hp
    obtain ⟨⟨token, _⟩, he, rfl⟩ := List.mem_map.1 hp
    exact ⟨token, Table.get?_eq_some_iff.2 he⟩
  · obtain ⟨-, fresh⟩ := List.mem_filter.1 (Table.get?_eq_some_iff.1 hp)
    refine ⟨pending_of_sweep hp, fun t _ hg => ?_⟩
    obtain ⟨-, stale⟩ := List.mem_filter.1 hg
    simp only [stale] at fresh
    cases fresh
  · have he := Table.get?_eq_some_iff.1 hp
    refine Table.get?_eq_some_iff.2 (List.mem_filter.2 ⟨he, ?_⟩)
    rw [Bool.not_eq_true']
    exact Bool.eq_false_iff.2 fun stale =>
      notGone (List.mem_filter.2 ⟨List.mem_map_of_mem he, stale⟩)

theorem abandon (h : k.Serves calls Given) (token : String) :
    (k.abandon token).Serves calls Given := by
  refine h.forget (fun p hp => ⟨token, Option.mem_toList.1 hp⟩) (fun hp => ?_)
    fun hp notGone => ?_
  · obtain ⟨other, hp⟩ := pending_of_erase hp
    refine ⟨hp, fun _ _ hg => other ?_⟩
    exact h.distinct (h.pending hp).1 (h.pending (Option.mem_toList.1 hg)).1
  · rw [Table.get?_erase, if_neg]
    · exact hp
    · rintro rfl
      exact notGone (Option.mem_toList.2 hp)

theorem cancelAll (h : k.Serves calls Given) : k.cancelAll.1.Serves calls Given := by
  refine h.forget (fun p hp => ?_) (fun hp => ?_) fun hp notGone => ?_
  · obtain ⟨⟨token, _⟩, he, rfl⟩ := List.mem_map.1 hp
    exact ⟨token, Table.get?_eq_some_iff.2 he⟩
  · cases hp
  · exact absurd (List.mem_map_of_mem (Table.get?_eq_some_iff.1 hp)) notGone

/-- A new call gets a waiter that no call had before. -/
theorem register (h : k.Serves calls Given) {now : Nat} {a : Action} {tokens : List String}
    {token : String} {w : WaiterId} (registered : k.register now a tokens = some (k', token, w)) :
    k'.Serves (calls ++ [⟨token, w⟩]) Given := by
  have swept := h.sweep now
  have new := not_mem_of_register registered
  unfold Correlator.register at registered
  obtain ⟨_, -, e⟩ := Option.map_eq_some_iff.1 registered
  generalize k.sweep now = s at swept new e
  cases e
  have old : ∀ {call}, call ∈ calls → call.waiter ≠ s.waiters.size :=
    fun hc => Nat.ne_of_lt (swept.known _ hc)
  constructor
  · exact swept.numbered.insert_size _
  · intro call hc
    show call.waiter < (s.waiters.insert _ _).size
    rw [swept.numbered.size_insert]
    rcases List.mem_append.1 hc with hc | hc
    · exact Nat.lt_succ_of_lt (swept.known call hc)
    · cases List.mem_singleton.1 hc
      exact Nat.lt_succ_self _
  · intro token token' w hc hc'
    rcases List.mem_append.1 hc with hc | hc <;> rcases List.mem_append.1 hc' with hc' | hc'
    · exact swept.distinct hc hc'
    · cases List.mem_singleton.1 hc'
      exact absurd rfl (old hc)
    · cases List.mem_singleton.1 hc
      exact absurd rfl (old hc')
    · cases List.mem_singleton.1 hc
      cases List.mem_singleton.1 hc'
      rfl
  · intro token' p hp
    rw [Table.get?_insert] at hp
    unfold waiter?
    dsimp only
    rw [Table.get?_insert]
    split at hp
    · next e =>
      cases hp
      cases e
      exact ⟨List.mem_append_right _ (List.mem_singleton.2 rfl), if_pos rfl⟩
    · obtain ⟨hc, waits⟩ := swept.pending hp
      refine ⟨List.mem_append_left _ hc, ?_⟩
      rw [if_neg (old hc)]
      exact waits
  · intro token' w hc hw
    unfold waiter? at hw
    dsimp only at hw ⊢
    rw [Table.get?_insert] at hw ⊢
    rcases List.mem_append.1 hc with hc | hc
    · rw [if_neg (old hc)] at hw
      obtain ⟨p, hp, same⟩ := swept.waits hc hw
      refine ⟨p, ?_, same⟩
      rw [if_neg]
      · exact hp
      · rintro rfl
        rw [new] at hp
        cases hp
    · cases List.mem_singleton.1 hc
      exact ⟨_, if_pos rfl, rfl⟩
  · intro w r hw
    unfold waiter? at hw
    rw [Table.get?_insert] at hw
    split at hw
    · cases hw
    · obtain ⟨hc, given⟩ := swept.delivered hw
      exact ⟨List.mem_append_left _ hc, given⟩

/-- A reply goes to the call that waits under its sequence. -/
theorem resolve (h : k.Serves calls Given) (given : Given r) :
    (k.resolve r).1.Serves calls Given := by
  unfold Correlator.resolve
  split
  · exact h
  · next p hp =>
    obtain ⟨hcall, waits⟩ := h.pending hp
    -- no other pending request has the waiter that is served
    have other : ∀ {token p'}, (k.pending.erase r.sequence).get? token = some p' →
        k.pending.get? token = some p' ∧ p'.waiter ≠ p.waiter := by
      intro token p' hp'
      obtain ⟨ne, hp'⟩ := pending_of_erase hp'
      refine ⟨hp', fun same => ne ?_⟩
      have hcall' := (h.pending hp').1
      rw [same] at hcall'
      exact h.distinct hcall' hcall
    have waits' : waiter? { k with pending := k.pending.erase r.sequence } p.waiter =
        some .waiting := waits
    simp only [if_pos waits']
    constructor
    · exact h.numbered.insert (h.known _ hcall) _
    · intro call hc
      exact Nat.lt_of_lt_of_le (h.known call hc) (Table.length_le_put ..)
    · exact h.distinct
    · intro token p' hp'
      obtain ⟨hp', ne⟩ := other hp'
      obtain ⟨hcall', waits'⟩ := h.pending hp'
      refine ⟨hcall', ?_⟩
      unfold waiter?
      dsimp only
      rw [Table.get?_insert, if_neg ne]
      exact waits'
    · intro token w hc hw
      unfold waiter? at hw
      dsimp only at hw ⊢
      rw [Table.get?_insert] at hw
      split at hw
      · cases hw
      · next ne =>
        obtain ⟨p', hp', rfl⟩ := h.waits hc hw
        refine ⟨p', ?_, rfl⟩
        rw [Table.get?_erase, if_neg]
        · exact hp'
        · rintro rfl
          rw [hp] at hp'
          cases hp'
          exact ne rfl
    · intro w r' hw
      unfold waiter? at hw
      rw [Table.get?_insert] at hw
      split at hw
      · next e =>
        cases hw
        rw [e]
        exact ⟨hcall, given⟩
      · exact h.delivered hw

/-- A call that nothing is pending for may go away. -/
theorem dropWaiter (h : k.Serves calls Given) {w : WaiterId}
    (none : ∀ {token p}, k.pending.get? token = some p → p.waiter ≠ w) :
    (k.dropWaiter w).Serves calls Given where
  numbered := h.numbered.modify _ _
  known call hc := by
    show call.waiter < (k.waiters.modify _ _).size
    rw [Table.size_modify]
    exact h.known call hc
  distinct := h.distinct
  pending {token p} hp := by
    obtain ⟨hcall, waits⟩ := h.pending hp
    refine ⟨hcall, ?_⟩
    unfold waiter? Correlator.dropWaiter
    dsimp only
    rw [Table.get?_modify, if_neg (none hp)]
    exact waits
  waits {token w'} hc hw := by
    unfold waiter? Correlator.dropWaiter at hw
    rw [Table.get?_modify] at hw
    split at hw
    · obtain ⟨_, -, e⟩ := Option.map_eq_some_iff.1 hw
      cases e
    · exact h.waits hc hw
  delivered {w' r} hw := by
    unfold waiter? Correlator.dropWaiter at hw
    rw [Table.get?_modify] at hw
    split at hw
    · obtain ⟨_, -, e⟩ := Option.map_eq_some_iff.1 hw
      cases e
    · exact h.delivered hw

/-- A call that gives up forgets its request and goes away. -/
theorem giveUp (h : k.Serves calls Given) {call : Call} (known : call ∈ calls) :
    ((k.abandon call.token).dropWaiter call.waiter).Serves calls Given := by
  refine (h.abandon call.token).dropWaiter fun hp same => ?_
  obtain ⟨other, hp⟩ := pending_of_erase hp
  have hcall := (h.pending hp).1
  rw [same] at hcall
  exact other (h.distinct hcall known)

/-! ### What each call finds -/

theorem waiter_ne (h : k.Serves calls Given) {call call' : Call} (known : call ∈ calls)
    (known' : call' ∈ calls) (other : call ≠ call') : call.waiter ≠ call'.waiter := by
  obtain ⟨token, w⟩ := call
  obtain ⟨token', w'⟩ := call'
  rintro (rfl : w = w')
  cases h.distinct known known'
  exact other rfl

/-- A call that waits is not concerned when another token is forgotten. -/
theorem waiter?_abandon (h : k.Serves calls Given) {call : Call} (known : call ∈ calls)
    {token : String} (other : call.token ≠ token) :
    (k.abandon token).waiter? call.waiter = k.waiter? call.waiter := by
  unfold Correlator.abandon
  rw [waiter?_close]
  have notGone : (k.pending.get? token).toList.any (·.waiter = call.waiter) = false := by
    rw [List.any_eq_false]
    intro p hp same
    have same : p.waiter = call.waiter := by simpa using same
    have hcall := (h.pending (Option.mem_toList.1 hp)).1
    rw [same] at hcall
    exact other (h.distinct known hcall)
  rw [notGone]
  exact Option.map_id_apply

/-- A call that waits is told when its own token is forgotten. -/
theorem waiter?_abandon_self (h : k.Serves calls Given) {call : Call} (known : call ∈ calls)
    (waits : k.waiter? call.waiter = some .waiting) :
    (k.abandon call.token).waiter? call.waiter = some .closed := by
  obtain ⟨p, hp, same⟩ := h.waits known waits
  have waits : waiter? { k with pending := k.pending.erase call.token } call.waiter =
      some .waiting := waits
  unfold Correlator.abandon
  rw [waiter?_close, hp, waits]
  simp [same, Waiter.close]

/-- A registration gives the new call a waiter that waits, and leaves the others if nothing is
stale. -/
theorem waiter?_register (h : k.Serves calls Given) {now : Nat} {a : Action} {tokens : List String}
    {token : String} {w : WaiterId} (registered : k.register now a tokens = some (k', token, w))
    (fresh : k.sweep now = k) :
    k'.waiter? w = some .waiting ∧
      ∀ call ∈ calls, k'.waiter? call.waiter = k.waiter? call.waiter := by
  unfold Correlator.register at registered
  rw [fresh] at registered
  obtain ⟨_, -, e⟩ := Option.map_eq_some_iff.1 registered
  cases e
  refine ⟨Table.get?_insert_self .., fun call known => ?_⟩
  unfold waiter?
  dsimp only
  rw [Table.get?_insert, if_neg (Nat.ne_of_lt (h.known call known))]

/-- A reply is found by the call that waits for it, and by no other. -/
theorem waiter?_resolve (h : k.Serves calls Given) {call : Call} (known : call ∈ calls)
    (r : Response) :
    (k.resolve r).1.waiter? call.waiter =
      if r.sequence = call.token ∧ k.waiter? call.waiter = some .waiting then some (.delivered r)
      else k.waiter? call.waiter := by
  unfold Correlator.resolve
  split
  · next none =>
    rw [if_neg]
    rintro ⟨same, waits⟩
    obtain ⟨p, hp, -⟩ := h.waits known waits
    rw [same, hp] at none
    cases none
  · next p hp =>
    obtain ⟨hcall, waits⟩ := h.pending hp
    have waits' : waiter? { k with pending := k.pending.erase r.sequence } p.waiter =
        some .waiting := waits
    simp only [if_pos waits']
    unfold waiter? at waits ⊢
    dsimp only
    rw [Table.get?_insert]
    split
    · next same =>
      rw [← same] at hcall waits
      rw [if_pos ⟨h.distinct hcall known, waits⟩]
    · next other =>
      rw [if_neg]
      rintro ⟨same, waits⟩
      obtain ⟨p', hp', same'⟩ := h.waits known waits
      rw [same, hp'] at hp
      cases hp
      exact other same'.symm

/-- A call that got its reply is no longer pending, if no other call has its token. -/
theorem not_pending_of_delivered (h : k.Serves calls Given) {call : Call} (known : call ∈ calls)
    (distinct : (calls.map (·.token)).Nodup) (found : k.waiter? call.waiter = some (.delivered r)) :
    k.pending.get? call.token = none := by
  cases hp : k.pending.get? call.token with
  | none => rfl
  | some p =>
    obtain ⟨hcall, waits⟩ := h.pending hp
    have same : (⟨call.token, p.waiter⟩ : Call) = call :=
      List.inj_on_of_nodup_map distinct hcall known rfl
    have same : p.waiter = call.waiter := congrArg Call.waiter same
    rw [same, found] at waits
    cases waits

end Serves

end Correlator

end Rendezvous
