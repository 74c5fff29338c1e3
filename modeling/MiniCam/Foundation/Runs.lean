/- Module: MiniCam/Foundation/Runs
   source: none
   digest: Finite runs of partial labelled transitions under a condition on every step. -/

import Mathlib.Logic.Relation
import Mathlib.Tactic.Common

set_option autoImplicit false
set_option relaxedAutoImplicit false

namespace MiniCam.Foundation.Runs

universe u v

variable {σ : Type u} {α : Type v}

/-- One defined transition whose label is permitted in its source state. -/
def Next (step : σ → α → Option σ) (permitted : σ → α → Prop) (s t : σ) : Prop :=
  ∃ a, permitted s a ∧ step s a = some t

/-- Finite runs whose steps are all permitted, including the empty run. -/
def Reaches (step : σ → α → Option σ) (permitted : σ → α → Prop) : σ → σ → Prop :=
  Relation.ReflTransGen (Next step permitted)

def always (_ : σ) (_ : α) : Prop := True

instance alwaysDecidable (s : σ) (a : α) : Decidable (always s a) :=
  inferInstanceAs (Decidable True)

variable {step : σ → α → Option σ} {permitted : σ → α → Prop}

theorem Reaches.refl (s : σ) : Reaches step permitted s s := Relation.ReflTransGen.refl

theorem Reaches.tail {s t r : σ} {a : α} (run : Reaches step permitted s t)
    (ok : permitted t a) (taken : step t a = some r) : Reaches step permitted s r :=
  Relation.ReflTransGen.tail run ⟨a, ok, taken⟩

theorem Reaches.trans {s t r : σ} (first : Reaches step permitted s t)
    (second : Reaches step permitted t r) : Reaches step permitted s r :=
  Relation.ReflTransGen.trans first second

theorem Reaches.unrestricted {s t : σ} (run : Reaches step permitted s t) :
    Reaches step always s t := by
  refine Relation.ReflTransGen.mono ?_ s t run
  rintro s t ⟨a, -, taken⟩
  exact ⟨a, trivial, taken⟩

/-- What every permitted step preserves holds at the end of every run. -/
theorem Reaches.invariant (Inv : σ → Prop) {s t : σ}
    (preserved : ∀ s a t, Inv s → permitted s a → step s a = some t → Inv t)
    (run : Reaches step permitted s t) (base : Inv s) : Inv t := by
  induction run with
  | refl => exact base
  | tail _ next ih =>
    obtain ⟨a, ok, taken⟩ := next
    exact preserved _ a _ ih ok taken

/-- Replay a finite script, stopping at the first label that is not permitted or
not defined. -/
def replay (step : σ → α → Option σ) (permitted : σ → α → Prop)
    [∀ s a, Decidable (permitted s a)] : σ → List α → Option σ
  | s, [] => some s
  | s, a :: rest =>
    if permitted s a then (step s a).bind fun t => replay step permitted t rest else none

theorem reaches_of_replay [∀ s a, Decidable (permitted s a)] {s t : σ} {script : List α}
    (played : replay step permitted s script = some t) : Reaches step permitted s t := by
  induction script generalizing s with
  | nil =>
    obtain rfl := Option.some.inj played
    exact Reaches.refl s
  | cons a rest ih =>
    simp only [replay] at played
    split at played
    · rename_i ok
      obtain ⟨r, taken, later⟩ := Option.bind_eq_some_iff.mp played
      exact Reaches.trans (Reaches.tail (Reaches.refl s) ok taken) (ih later)
    · cases played

theorem exists_replay (step : σ → α → Option σ) (permitted : σ → α → Prop)
    [∀ s a, Decidable (permitted s a)] (s : σ) (script : List α) (test : σ → Bool)
    (played : (replay step permitted s script).any test = true) :
    ∃ t, replay step permitted s script = some t ∧ test t = true := by
  cases found : replay step permitted s script with
  | none => simp [found] at played
  | some t =>
    rw [found] at played
    exact ⟨t, rfl, played⟩

/-- A script whose end passes a test witnesses a reachable state that passes it. -/
theorem exists_reaches_of_replay (step : σ → α → Option σ) (permitted : σ → α → Prop)
    [∀ s a, Decidable (permitted s a)] (s : σ) (script : List α) (test : σ → Bool)
    (played : (replay step permitted s script).any test = true) :
    ∃ t, Reaches step permitted s t ∧ test t = true := by
  obtain ⟨t, found, passed⟩ := exists_replay step permitted s script test played
  exact ⟨t, reaches_of_replay found, passed⟩

end MiniCam.Foundation.Runs
