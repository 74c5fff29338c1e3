/- Module: MiniCam/Foundation/Simulation
   source: none
   digest: Forward simulations between labelled transition systems, and what they carry over. -/

import MiniCam.Foundation.Runs

set_option autoImplicit false
set_option relaxedAutoImplicit false

namespace MiniCam.Foundation.Simulation

open MiniCam.Foundation.Runs

universe u v w x

variable {σ : Type u} {α : Type v} {τ : Type w} {β : Type x}

/-- Every permitted step of the first system is matched by a run of the second one, which may be
empty. -/
def Simulates (step : σ → α → Option σ) (permitted : σ → α → Prop) (step' : τ → β → Option τ)
    (permitted' : τ → β → Prop) (R : σ → τ → Prop) : Prop :=
  ∀ s a t s', R s s' → permitted s a → step s a = some t →
    ∃ t', Reaches step' permitted' s' t' ∧ R t t'

variable {step : σ → α → Option σ} {permitted : σ → α → Prop} {step' : τ → β → Option τ}
  {permitted' : τ → β → Prop} {R : σ → τ → Prop}

/-- A simulation matches whole runs. -/
theorem Simulates.reaches (sim : Simulates step permitted step' permitted' R) {s t : σ} {s' : τ}
    (run : Reaches step permitted s t) (start : R s s') :
    ∃ t', Reaches step' permitted' s' t' ∧ R t t' := by
  induction run with
  | refl => exact ⟨s', Reaches.refl s', start⟩
  | tail _ next ih =>
    obtain ⟨a, ok, taken⟩ := next
    obtain ⟨r', before, related⟩ := ih
    obtain ⟨t', after, there⟩ := sim _ a _ r' related ok taken
    exact ⟨t', before.trans after, there⟩

theorem matched {s' t' : τ} {b : β} {P : τ → Prop} (ok : permitted' s' b)
    (taken : step' s' b = some t') (related : P t') :
    ∃ t', Reaches step' permitted' s' t' ∧ P t' :=
  ⟨t', Reaches.tail (Reaches.refl s') ok taken, related⟩

theorem unmoved {s' : τ} {P : τ → Prop} (related : P s') :
    ∃ t', Reaches step' permitted' s' t' ∧ P t' :=
  ⟨s', Reaches.refl s', related⟩

end MiniCam.Foundation.Simulation
