/- Module: MiniCam/Queue/Rejections
   source: hal/bounded_task_queue.cpp
   digest: When a push that returns false has found the queue stopped or full. -/

import MiniCam.Queue.FifoRefinement

set_option autoImplicit false
set_option relaxedAutoImplicit false

namespace MiniCam.Queue.Rejections

open MiniCam.Foundation.Runs
open MiniCam.Queue.BoundedTaskQueue
open MiniCam.Queue.RingInvariant

variable {Task : Type}

section Model

/-- A moment at which a push may be refused: the queue is stopped, or every position is taken. -/
def refusing (s : System Task) : Bool :=
  s.queue.stopped || s.queue.tail == s.queue.head + s.queue.capacity

/-- The queue with what is known of each call of `push`: whether it was made with a task, and
whether the queue was refusing at some moment since. -/
structure Observed (Task : Type) where
  system : System Task
  given : Nat → Bool
  excused : Nat → Bool

def Observed.initial (capacity : Nat) : Observed Task :=
  { system := System.initial capacity
    given := fun _ => false
    excused := fun _ => false }

def observedStep (s : Observed Task) (a : Action Task) : Option (Observed Task) :=
  (step s.system a).map fun t =>
    match a with
    | .call id task =>
      { system := t
        given := Function.update s.given id task.isSome
        excused := fun j =>
          (if j = id then false else s.excused j) || refusing t }
    | .push _ _ | .pop | .stop =>
      { system := t
        given := s.given
        excused := fun j => s.excused j || refusing t }

/-- The consumer has not gone past the tail that a push has loaded when it loads the head. -/
def NotOvertaken (s : Observed Task) : Action Task → Prop
  | .push id _ => ∀ task currentTail, s.system.calls id = .loadHead task currentTail →
      s.system.queue.head ≤ currentTail
  | .call _ _ | .pop | .stop => True

def Excused (s : Observed Task) : Prop :=
  ∀ id, s.given id = true → s.system.calls id = .returned false → s.excused id = true

end Model

section Steps

theorem sub64_of_le {tail head : Nat} (small : tail < modulus64) (ordered : head ≤ tail) :
    sub64 tail head = tail - head := by
  have shape : tail + modulus64 - head = (tail - head) + modulus64 := by omega
  rw [sub64, wrap64, shape, Nat.add_mod_right]
  exact Nat.mod_eq_of_lt (by omega)

theorem sub64_of_lt {tail head : Nat} (small : head < modulus64) (overtaken : tail < head) :
    sub64 tail head = modulus64 - (head - tail) := by
  rw [sub64, wrap64, Nat.mod_eq_of_lt (by omega)]
  omega

theorem pushStep_refuses {s t : System Task} {id : Nat} {spurious : Bool}
    (taken : pushStep s id spurious = some t) (refused : t.calls id = .returned false) :
    t.queue = s.queue ∧ (s.queue.stopped = true ∨ ∃ task currentTail,
      s.calls id = .loadHead task currentTail ∧
        s.queue.capacity ≤ sub64 currentTail s.queue.head) := by
  simp only [pushStep] at taken
  cases at_id : s.calls id <;> simp only [at_id] at taken <;> try cases taken
  case loadStopped task =>
    simp only [System.setCall, Function.update_self] at refused
    split at refused
    · rename_i stopped
      exact ⟨rfl, Or.inl stopped⟩
    · cases refused
  case loadHead task currentTail =>
    simp only [System.setCall, Function.update_self] at refused
    split at refused
    · rename_i far
      exact ⟨rfl, Or.inr ⟨task, currentTail, rfl, far⟩⟩
    · cases refused
  case compareExchange task currentTail =>
    split at taken <;> cases taken <;> simp [System.setCall] at refused
  case loadSequence task currentTail =>
    simp only [System.setCall, Function.update_self] at refused
    split at refused <;> cases refused
  all_goals simp [System.setCall] at refused

theorem refused_refusing {s t : System Task} {id : Nat} {spurious : Bool} (C : Coherent s)
    (small : s.queue.tail < modulus64)
    (behind : ∀ task currentTail, s.calls id = .loadHead task currentTail →
      s.queue.head ≤ currentTail)
    (taken : pushStep s id spurious = some t) (refused : t.calls id = .returned false) :
    refusing t = true := by
  obtain ⟨same, stopped | ⟨task, currentTail, at_id, far⟩⟩ := pushStep_refuses taken refused
  · simp [refusing, same, stopped]
  · have loaded := C.loaded id task currentTail at_id
    have ordered := behind task currentTail at_id
    rw [sub64_of_le (by omega) ordered] at far
    have room := C.tail_le
    have full : s.queue.tail = s.queue.head + s.queue.capacity := by omega
    simp [refusing, same, full]

theorem observed_excused {s t : Observed Task} {a : Action Task}
    (taken : observedStep s a = some t) {id : Nat} (other : a.caller ≠ some id) :
    t.given id = s.given id ∧ (s.excused id = true → t.excused id = true) := by
  obtain ⟨system, -, rfl⟩ := Option.map_eq_some_iff.mp taken
  cases a with
  | call j task =>
    have ne : id ≠ j := by
      rintro rfl
      exact other rfl
    refine ⟨Function.update_of_ne ne _ _, ?_⟩
    intro before
    simp [ne, before]
  | push j spurious | pop | stop =>
    refine ⟨rfl, ?_⟩
    intro before
    simp [before]

theorem step_excused {s t : Observed Task} {a : Action Task} (C : Coherent s.system)
    (small : s.system.queue.tail < modulus64) (E : Excused s) (behind : NotOvertaken s a)
    (taken : observedStep s a = some t) : Excused t := by
  intro id given refused
  have moved : step s.system a = some t.system := by
    obtain ⟨system, moved, rfl⟩ := Option.map_eq_some_iff.mp taken
    cases a <;> exact moved
  by_cases own : a.caller = some id
  · cases a with
    | call j task =>
      obtain rfl : j = id := by simpa [Action.caller] using own
      obtain ⟨system, called, rfl⟩ := Option.map_eq_some_iff.mp taken
      cases task with
      | none => simp at given
      | some task =>
        simp only [step, callStep] at called
        split at called
        · cases called
          simp [System.setCall] at refused
        · cases called
    | push j spurious =>
      obtain rfl : j = id := by simpa [Action.caller] using own
      have moment := refused_refusing C small behind moved refused
      obtain ⟨system, -, rfl⟩ := Option.map_eq_some_iff.mp taken
      simp only at moment ⊢
      rw [moment, Bool.or_true]
    | pop => cases own
    | stop => cases own
  · obtain ⟨same, kept⟩ := observed_excused taken own
    rw [same] at given
    rw [step_calls_other moved own] at refused
    exact kept (E id given refused)

end Steps

section Runs

variable {capacity : Nat} {s : Observed Task}

theorem observed_reaches {permitted : Observed Task → Action Task → Prop}
    (run : Reaches observedStep permitted (Observed.initial capacity) s) :
    Reaches step always (System.initial capacity) s.system := by
  refine run.invariant (fun s => Reaches step always (System.initial capacity) s.system) ?_
    (Reaches.refl _)
  intro s a t known _ taken
  refine known.tail trivial (a := a) ?_
  obtain ⟨system, moved, rfl⟩ := Option.map_eq_some_iff.mp taken
  cases a <;> exact moved

theorem reachable_excused
    (run : Reaches observedStep NotOvertaken (Observed.initial capacity) s)
    (bounded : Bounded s.system) : Excused s := by
  have both : Reaches observedStep NotOvertaken (Observed.initial capacity) s ∧
      (Bounded s.system → Excused s) := by
    refine run.invariant (fun s => Reaches observedStep NotOvertaken (Observed.initial capacity) s ∧
      (Bounded s.system → Excused s)) ?_ ⟨Reaches.refl _, ?_⟩
    · intro s a t known behind taken
      refine ⟨known.1.tail behind taken, ?_⟩
      intro bounded
      have moved : step s.system a = some t.system := by
        obtain ⟨system, moved, rfl⟩ := Option.map_eq_some_iff.mp taken
        cases a <;> exact moved
      have before := Bounded.of_step moved bounded
      have C := reachable_coherent (observed_reaches known.1) before
      have small : s.system.queue.tail < modulus64 := by
        have claims := C.tail_claims
        simp only [Bounded] at before
        omega
      exact step_excused C small (known.2 before) behind taken
    · intro _ id given
      cases given
  exact both.2 bounded

/-- A push of a task that returns false has met a stopped or a full queue, in the runs in which
the consumer goes past no loaded tail; there the difference of the two counters is exact. Where
it goes past a loaded tail, the difference wraps and the push is refused whatever the queue
holds. -/
theorem push_refused_with_cause (capacity : Nat) (s : Observed Task)
    (bounded : s.system.claimed.length < 2 ^ 64 - s.system.queue.capacity) :
    (Reaches observedStep NotOvertaken (Observed.initial capacity) s → Excused s) ∧
    (Reaches observedStep always (Observed.initial capacity) s →
      ∀ id task currentTail, s.system.calls id = .loadHead task currentTail →
        (sub64 currentTail s.system.queue.head ≤ currentTail ↔
          s.system.queue.head ≤ currentTail) ∧
        (currentTail < s.system.queue.head →
          s.system.queue.capacity ≤ sub64 currentTail s.system.queue.head)) := by
  have small : Bounded s.system := by
    simp only [Bounded, modulus64]
    omega
  refine ⟨fun run => reachable_excused run small, ?_⟩
  intro run id task currentTail at_id
  have C := reachable_coherent (observed_reaches run) small
  have loaded := C.loaded id task currentTail at_id
  have claims := C.tail_claims
  have head := C.head_le
  have room := C.tail_le
  have tail_small : s.system.queue.tail + s.system.queue.capacity < modulus64 := by
    rw [claims]
    exact small
  refine ⟨?_, ?_⟩
  · constructor
    · intro kept
      by_contra overtaken
      rw [sub64_of_lt (by omega) (by omega)] at kept
      omega
    · intro ordered
      rw [sub64_of_le (by omega) ordered]
      omega
  · intro overtaken
    rw [sub64_of_lt (by omega) overtaken]
    omega

instance notOvertakenDecidable (s : Observed Task) (a : Action Task) :
    Decidable (NotOvertaken s a) :=
  match a with
  | .push id _ =>
    match at_id : s.system.calls id with
    | .loadHead task currentTail =>
      decidable_of_iff (s.system.queue.head ≤ currentTail) (by simp [NotOvertaken, at_id])
    | .idle | .loadStopped _ | .loadTail _ | .compareExchange _ _ | .loadSequence _ _
    | .yieldLoop _ _ | .storeTask _ _ | .storeSequence _ | .notifyOne _ | .returned _ =>
      .isTrue (by simp [NotOvertaken, at_id])
  | .call _ _ => .isTrue trivial
  | .pop => .isTrue trivial
  | .stop => .isTrue trivial

theorem push_refused_with_cause_full :
    ∃ s : Observed Nat, Reaches observedStep NotOvertaken (Observed.initial 1) s ∧
      s.given 1 = true ∧ s.system.calls 1 = .returned false ∧ s.excused 1 = true := by
  obtain ⟨s, run, passed⟩ := exists_reaches_of_replay observedStep NotOvertaken
    (Observed.initial 1 : Observed Nat)
    (List.flatten [[.call 0 (some 5)], List.replicate 8 (.push 0 false), [.call 1 (some 6)],
      List.replicate 3 (.push 1 false)])
    (fun s => s.given 1 && s.system.calls 1 == .returned false &&
      (s.system.claimed.length == 1 && s.system.queue.capacity == 1)) (by decide +kernel)
  simp only [Bool.and_eq_true, beq_iff_eq] at passed
  obtain ⟨⟨given, refused⟩, one, capacity⟩ := passed
  refine ⟨s, run, given, refused, ?_⟩
  exact (push_refused_with_cause 1 s (by rw [one, capacity]; decide)).1 run 1 given refused

/-- A push loads the tail of an empty queue with two positions; another task is pushed and
popped before it loads the head. It is refused, and the queue was at no moment stopped or full. -/
theorem push_refused_without_cause :
    ∃ s : Observed Nat, Reaches observedStep always (Observed.initial 2) s ∧
      s.system.claimed.length < 2 ^ 64 - s.system.queue.capacity ∧
      s.given 0 = true ∧ s.system.calls 0 = .returned false ∧ s.excused 0 = false := by
  obtain ⟨s, run, passed⟩ := exists_reaches_of_replay observedStep always
    (Observed.initial 2 : Observed Nat)
    (List.flatten [[.call 0 (some 5), .push 0 false, .push 0 false, .call 1 (some 6)],
      List.replicate 8 (.push 1 false), List.replicate 6 .pop, [.push 0 false]])
    (fun s => s.given 0 && s.system.calls 0 == .returned false && !s.excused 0 &&
      (s.system.claimed.length == 1 && s.system.queue.capacity == 2)) (by decide +kernel)
  simp only [Bool.and_eq_true, beq_iff_eq, Bool.not_eq_true'] at passed
  obtain ⟨⟨⟨given, refused⟩, unexcused⟩, one, capacity⟩ := passed
  refine ⟨s, run, ?_, given, refused, unexcused⟩
  rw [one, capacity]
  decide

end Runs

end MiniCam.Queue.Rejections
