import Rendezvous.Table

/-!
# Keys of sessions

A session belongs to a service and to the peer at its other end. Keys are ordered by service and
then by peer.
-/

namespace Rendezvous

structure SessionKey where
  service : String
  peer : String
deriving DecidableEq, Repr, Inhabited

namespace SessionKey

instance : LT SessionKey where
  lt a b := a.service < b.service ∨ a.service = b.service ∧ a.peer < b.peer

theorem lt_iff {a b : SessionKey} :
    a < b ↔ a.service < b.service ∨ a.service = b.service ∧ a.peer < b.peer := Iff.rfl

instance : DecidableLT SessionKey := fun a b =>
  inferInstanceAs (Decidable (a.service < b.service ∨ a.service = b.service ∧ a.peer < b.peer))

instance : Key SessionKey where
  irrefl a h := by
    rcases lt_iff.1 h with h | h
    · exact Key.irrefl _ h
    · exact Key.irrefl _ h.2
  trans a b c hab hbc := by
    rw [lt_iff] at *
    rcases hab with hab | ⟨eab, hab⟩
    · rcases hbc with hbc | ⟨ebc, _⟩
      · exact .inl (Key.trans _ _ _ hab hbc)
      · exact .inl (ebc ▸ hab)
    · rcases hbc with hbc | ⟨ebc, hbc⟩
      · exact .inl (eab ▸ hbc)
      · exact .inr ⟨eab.trans ebc, Key.trans _ _ _ hab hbc⟩
  connex a b hab hne := by
    rw [lt_iff] at *
    by_cases hs : a.service = b.service
    · have hp : a.peer ≠ b.peer := fun hp => hne (by cases a; cases b; simp_all)
      exact .inr ⟨hs.symm, Key.connex _ _ (fun h => hab (.inr ⟨hs, h⟩)) hp⟩
    · exact .inl (Key.connex _ _ (fun h => hab (.inl h)) hs)

end SessionKey

end Rendezvous
