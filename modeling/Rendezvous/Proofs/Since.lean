import Mathlib.Data.List.Basic
import Mathlib.Data.List.Induction

/-!
# Since something happened

In a log the last entry stands at the end. That a connection is open, a membership stands or a token
is held means that something happened and nothing that happened later has ended it. So it is told
from the log up to now and from what happens next:

    Since starts keeps (log ++ [e]) ↔
      starts log e ∨ (Since starts keeps log ∧ keeps e)              (since_snoc)
-/

namespace Rendezvous

variable {α : Type} {starts : List α → α → Prop} {keeps : α → Prop} {log : List α} {e : α}

/-- Something started behind what was before it, and all that happened later kept it up. -/
def Since (starts : List α → α → Prop) (keeps : α → Prop) (log : List α) : Prop :=
  ∃ before e later, log = before ++ e :: later ∧ starts before e ∧ ∀ x ∈ later, keeps x

theorem not_since_nil : ¬ Since starts keeps [] := by
  rintro ⟨before, e, later, h, -⟩
  simp at h

theorem since_snoc :
    Since starts keeps (log ++ [e]) ↔ starts log e ∨ (Since starts keeps log ∧ keeps e) := by
  constructor
  · rintro ⟨before, x, later, h, started, kept⟩
    rcases List.eq_nil_or_concat' later with rfl | ⟨later, last, rfl⟩
    · obtain ⟨rfl, same⟩ := List.append_inj' h rfl
      cases same
      exact .inl started
    · have h : log ++ [e] = (before ++ x :: later) ++ [last] := by simpa using h
      obtain ⟨rfl, same⟩ := List.append_inj' h rfl
      cases same
      exact .inr ⟨⟨before, x, later, rfl, started,
        fun y hy => kept y (List.mem_append_left _ hy)⟩, kept e (by simp)⟩
  · rintro (started | ⟨⟨before, x, later, rfl, started, kept⟩, keeps⟩)
    · exact ⟨log, e, [], rfl, started, fun _ h => nomatch h⟩
    · refine ⟨before, x, later ++ [e], by simp, started, fun y hy => ?_⟩
      rcases List.mem_append.1 hy with hy | hy
      · exact kept y hy
      · rw [List.mem_singleton.1 hy]
        exact keeps

end Rendezvous
