/- Module: MiniCam/Foundation/IntEvaluation
   source: none
   digest: Evaluation of C code over 32-bit `int` with a record of every value it computes, every
           divisor it uses and every call it makes. -/

import Mathlib.Algebra.Order.Ring.Int
import Mathlib.Tactic.Common

set_option autoImplicit false
set_option relaxedAutoImplicit false

namespace MiniCam.Foundation.IntEvaluation

universe u

variable {κ : Type u} {α β : Type}

section Ints

def Fits (value : Int) : Prop := -2 ^ 31 ≤ value ∧ value ≤ 2 ^ 31 - 1

instance fitsDecidable (value : Int) : Decidable (Fits value) :=
  inferInstanceAs (Decidable (_ ∧ _))

/-- `static_cast<int>` of an unsigned number. -/
def castInt (n : Nat) : Int := Int.bmod n (2 ^ 32)

/-- `static_cast<size_t>`. -/
def castSize (value : Int) : Nat := (value % 2 ^ 64).toNat

theorem castSize_of_fits {value : Int} (fits : Fits value) (positive : 0 ≤ value) :
    (castSize value : Int) = value := by
  unfold Fits at fits
  unfold castSize
  omega

theorem Fits.tdiv {a b : Int} (fits : Fits a) (positive : 0 < b) : Fits (a.tdiv b) := by
  have smaller := Int.natAbs_tdiv_le_natAbs a b
  unfold Fits at fits ⊢
  rcases Int.le_total 0 a with up | down
  · have sign := Int.tdiv_nonneg up (Int.le_of_lt positive)
    omega
  · have sign := Int.tdiv_nonneg (Int.neg_nonneg_of_nonpos down) (Int.le_of_lt positive)
    rw [Int.neg_tdiv] at sign
    omega

end Ints

section Evaluations

/-- What evaluating code gives off: the value of an `int` expression, the divisor of a division
and the call of a function that is watched. -/
inductive Event (κ : Type u) where
  | int (value : Int)
  | divisor (value : Int)
  | call (made : κ)
  deriving DecidableEq

def Event.Defined : Event κ → Prop
  | .int value => Fits value
  | .divisor value => 0 < value
  | .call _ => True

def Event.called : Event κ → Option κ
  | .call made => some made
  | .int _ | .divisor _ => none

/-- A value and the events on the way to it. Values are exact: from an overflow on they say
nothing about the program. -/
structure Evaluation (κ : Type u) (α : Type) where
  value : α
  events : List (Event κ)

instance evaluationMonad : Monad (Evaluation κ) where
  pure value := ⟨value, []⟩
  bind first next := ⟨(next first.value).value, first.events ++ (next first.value).events⟩

namespace Evaluation

def Defined (c : Evaluation κ α) : Prop := ∀ event ∈ c.events, event.Defined

def calls (c : Evaluation κ α) : List κ := c.events.filterMap Event.called

variable (a : α) (c : Evaluation κ α) (next : α → Evaluation κ β)

@[simp] theorem value_pure : (pure a : Evaluation κ α).value = a := rfl

@[simp] theorem value_bind : (c >>= next).value = (next c.value).value := rfl

@[simp] theorem defined_pure : (pure a : Evaluation κ α).Defined := by
  intro event member
  cases member

@[simp] theorem defined_bind : (c >>= next).Defined ↔ c.Defined ∧ (next c.value).Defined := by
  simp only [Defined, bind, List.forall_mem_append]

@[simp] theorem calls_pure : (pure a : Evaluation κ α).calls = [] := rfl

@[simp] theorem calls_bind : (c >>= next).calls = c.calls ++ (next c.value).calls := by
  simp only [calls, bind, List.filterMap_append]

@[simp] theorem defined_ite (p : Prop) [Decidable p] (yes no : Evaluation κ α) :
    (if p then yes else no).Defined ↔ if p then yes.Defined else no.Defined := by
  split <;> rfl

@[simp] theorem calls_ite (p : Prop) [Decidable p] (yes no : Evaluation κ α) :
    (if p then yes else no).calls = if p then yes.calls else no.calls := by
  split <;> rfl

def call (k : κ) : Evaluation κ Unit := ⟨(), [.call k]⟩

@[simp] theorem defined_call (k : κ) : (call k : Evaluation κ Unit).Defined := by
  simp [Defined, call, Event.Defined]

@[simp] theorem calls_call (k : κ) : (call k : Evaluation κ Unit).calls = [k] := rfl

end Evaluation

end Evaluations

section Operators

def int (value : Int) : Evaluation κ Int := ⟨value, [.int value]⟩

@[simp] def add (a b : Int) : Evaluation κ Int := int (a + b)

@[simp] def sub (a b : Int) : Evaluation κ Int := int (a - b)

@[simp] def mul (a b : Int) : Evaluation κ Int := int (a * b)

/-- `a >> bits`, which is arithmetic. -/
@[simp] def shiftRight (a : Int) (bits : Nat) : Evaluation κ Int := int (a >>> bits)

def div (a b : Int) : Evaluation κ Int := ⟨a.tdiv b, [.divisor b, .int (a.tdiv b)]⟩

variable (a b value : Int)

@[simp] theorem value_int : (int value : Evaluation κ Int).value = value := rfl

@[simp] theorem value_div : (div a b : Evaluation κ Int).value = a.tdiv b := rfl

@[simp] theorem defined_int : (int value : Evaluation κ Int).Defined ↔ Fits value := by
  simp [Evaluation.Defined, int, Event.Defined]

@[simp] theorem defined_div :
    (div a b : Evaluation κ Int).Defined ↔ 0 < b ∧ Fits (a.tdiv b) := by
  simp [Evaluation.Defined, div, Event.Defined]

@[simp] theorem calls_int : (int value : Evaluation κ Int).calls = [] := rfl

@[simp] theorem calls_div : (div a b : Evaluation κ Int).calls = [] := rfl

end Operators

section Loops

/-- The rounds of a loop that counts up from `i`, each of which adds to a list. -/
def countUp (body : Int → Evaluation κ (List β)) : Nat → Int → Evaluation κ (List β)
  | 0, _ => pure []
  | rounds + 1, i => do
    let out ← body i
    let next ← add i 1
    let rest ← countUp body rounds next
    pure (out ++ rest)

/-- `for (int i = 0; i < bound; ++i)`. -/
def forBelow (bound : Int) (body : Int → Evaluation κ (List β)) : Evaluation κ (List β) :=
  countUp body bound.toNat 0

variable {body : Int → Evaluation κ (List β)}

theorem length_countUp {each : Nat} (same : ∀ i, (body i).value.length = each) (rounds : Nat)
    (i : Int) : (countUp body rounds i).value.length = rounds * each := by
  induction rounds generalizing i with
  | zero => simp [countUp]
  | succ rounds ih =>
    simp only [countUp, Evaluation.value_bind, Evaluation.value_pure, List.length_append, same, ih]
    rw [Nat.succ_mul, Nat.add_comm]

theorem calls_countUp (quiet : ∀ i, (body i).calls = []) (rounds : Nat) (i : Int) :
    (countUp body rounds i).calls = [] := by
  induction rounds generalizing i with
  | zero => simp [countUp]
  | succ rounds ih => simp [countUp, quiet, ih]

theorem defined_countUp (rounds : Nat) (i : Int) :
    (countUp body rounds i).Defined ↔
      ∀ k : Nat, k < rounds → (body (i + k)).Defined ∧ Fits (i + k + 1) := by
  induction rounds generalizing i with
  | zero => simp [countUp]
  | succ rounds ih =>
    have split_first : (countUp body (rounds + 1) i).Defined ↔
        ((body i).Defined ∧ Fits (i + 1)) ∧ (countUp body rounds (i + 1)).Defined := by
      simp [countUp, and_assoc]
    rw [split_first, ih]
    constructor
    · rintro ⟨first, later⟩ k below
      cases k with
      | zero => simpa using first
      | succ k =>
        have at_k := later k (Nat.lt_of_succ_lt_succ below)
        have shifted : i + 1 + (k : Int) = i + ((k + 1 : Nat) : Int) := by omega
        rwa [shifted] at at_k
    · intro all
      refine ⟨by simpa using all 0 (Nat.succ_pos rounds), ?_⟩
      intro k below
      have at_k := all (k + 1) (Nat.succ_lt_succ below)
      have shifted : i + ((k + 1 : Nat) : Int) = i + 1 + (k : Int) := by omega
      rwa [shifted] at at_k

theorem length_forBelow {each : Nat} (same : ∀ i, (body i).value.length = each) (bound : Int) :
    (forBelow bound body).value.length = bound.toNat * each :=
  length_countUp same bound.toNat 0

theorem calls_forBelow (quiet : ∀ i, (body i).calls = []) (bound : Int) :
    (forBelow bound body).calls = [] :=
  calls_countUp quiet bound.toNat 0

theorem defined_forBelow {bound : Int} (fits : Fits bound) :
    (forBelow bound body).Defined ↔ ∀ i, 0 ≤ i → i < bound → (body i).Defined := by
  unfold forBelow
  rw [defined_countUp]
  constructor
  · intro all i positive below
    have at_i := (all i.toNat (by omega)).1
    have same : 0 + (i.toNat : Int) = i := by omega
    rwa [same] at at_i
  · intro all k below
    refine ⟨all _ (by omega) (by omega), ?_⟩
    unfold Fits at fits ⊢
    omega

end Loops

end MiniCam.Foundation.IntEvaluation
