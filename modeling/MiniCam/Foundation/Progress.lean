/- Module: MiniCam/Foundation/Progress
   source: none
   digest: Systems that run alone, and ranks that bound how long they run. -/

import Mathlib.Order.Basic
import Mathlib.Tactic.Common

set_option autoImplicit false
set_option relaxedAutoImplicit false

namespace MiniCam.Foundation.Progress

universe u

variable {σ : Type u} (next : σ → Option σ)

def runFor : Nat → σ → Option σ
  | 0, s => some s
  | n + 1, s => (next s).bind (runFor n)

/-- When every step outside the goal is defined and lowers the rank, the goal is reached in no
more steps than the rank allows. -/
theorem reaches_goal (Inv goal : σ → Prop) (rank : σ → Nat)
    (lowers : ∀ s, Inv s → ¬ goal s → ∃ t, next s = some t ∧ Inv t ∧ rank t < rank s)
    {s : σ} (base : Inv s) :
    ∃ n t, n ≤ rank s ∧ runFor next n s = some t ∧ Inv t ∧ goal t := by
  induction bound : rank s using Nat.strongRecOn generalizing s with
  | ind bound ih =>
    by_cases reached : goal s
    · exact ⟨0, s, Nat.zero_le _, rfl, base, reached⟩
    · obtain ⟨t, taken, kept, lower⟩ := lowers s base reached
      obtain ⟨n, r, short, run, inv, there⟩ := ih (rank t) (by omega) kept rfl
      refine ⟨n + 1, r, by omega, ?_, inv, there⟩
      simp only [runFor, taken, Option.bind_some, run]

end MiniCam.Foundation.Progress
