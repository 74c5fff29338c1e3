/- Module: MiniCam/Queue/Progress
   source: hal/bounded_task_queue.cpp, hal/task_executor.cpp
   digest: How long a push can take among its rivals, and how soon the worker gets to the end of
           a queue that nobody else works on. -/

import MiniCam.Foundation.Progress
import MiniCam.Queue.FifoRefinement
import MiniCam.Queue.Parking

set_option autoImplicit false
set_option relaxedAutoImplicit false

namespace MiniCam.Queue.Progress

open MiniCam.Foundation.Progress (runFor reaches_goal)
open MiniCam.Foundation.Runs (Reaches always exists_reaches_of_replay exists_replay
  reaches_of_replay)
open MiniCam.Queue.BoundedTaskQueue
open MiniCam.Queue.RingInvariant
open MiniCam.Queue.FifoRefinement (reachable_stopSeen)
open MiniCam.Queue.Parking (Watched NotifyOutsideWindow committed reachable_watched pushScript)

variable {Task : Type}

section Pushes

/-- One call of `push` under observation: the steps it has made, its compare-exchanges that
failed although the values agreed, and the claims of other calls since it began. -/
structure Observed (Task : Type) where
  system : System Task
  steps : Nat
  spurious : Nat
  rivals : Nat

def Observed.initial (capacity : Nat) : Observed Task :=
  { system := System.initial capacity, steps := 0, spurious := 0, rivals := 0 }

def active : PushState Task → Bool
  | .idle | .returned _ => false
  | _ => true

def agrees (s : System Task) (id : Nat) : Bool :=
  match s.calls id with
  | .compareExchange _ currentTail => s.queue.tail == currentTail
  | _ => false

def observedStep (id : Nat) (o : Observed Task) (a : Action Task) : Option (Observed Task) :=
  (step o.system a).map fun system =>
    match a with
    | .push other spurious =>
      if other = id then
        { o with
          system := system
          steps := o.steps + 1
          spurious := if agrees o.system id && spurious then o.spurious + 1 else o.spurious }
      else
        { o with
          system := system
          rivals :=
            if active (o.system.calls id) then
              o.rivals + (system.claimed.length - o.system.claimed.length)
            else o.rivals }
    | _ => { o with system := system }

/-- What the steps of a call are paid with: four for each round that a rival or the machine has
ended, and the steps of the round it is in. A tail that has moved since it was loaded has been
moved by a rival who pays for the round that will fail. -/
def Paid (o : Observed Task) : PushState Task → Prop
  | .idle => o.steps = 0
  | .loadStopped _ => o.steps ≤ 4 * (o.spurious + o.rivals)
  | .loadTail _ => o.steps ≤ 4 * (o.spurious + o.rivals) + 1
  | .loadHead _ currentTail =>
    o.steps + (if o.system.queue.tail = currentTail then 0 else 4) ≤
      4 * (o.spurious + o.rivals) + 2
  | .compareExchange _ currentTail =>
    o.steps + (if o.system.queue.tail = currentTail then 0 else 4) ≤
      4 * (o.spurious + o.rivals) + 3
  | .loadSequence _ _ => o.steps ≤ 4 * (o.spurious + o.rivals) + 4
  | .yieldLoop _ _ => False
  | .storeTask _ _ => o.steps ≤ 4 * (o.spurious + o.rivals) + 5
  | .storeSequence _ => o.steps ≤ 4 * (o.spurious + o.rivals) + 6
  | .notifyOne _ => o.steps ≤ 4 * (o.spurious + o.rivals) + 7
  | .returned _ => o.steps ≤ 4 * (o.spurious + o.rivals) + 8

theorem Paid.bound {o : Observed Task} {p : PushState Task} (paid : Paid o p) :
    o.steps ≤ 8 + 4 * (o.spurious + o.rivals) := by
  cases p <;> simp only [Paid] at paid <;> omega

theorem Paid.kept {o o' : Observed Task} {p : PushState Task} (paid : Paid o p)
    (steps : o'.steps = o.steps) (spurious : o'.spurious = o.spurious)
    (rivals : o'.rivals = o.rivals) (tail : o'.system.queue.tail = o.system.queue.tail) :
    Paid o' p := by
  cases p
  case yieldLoop task currentTail => exact paid
  all_goals simpa only [Paid, steps, spurious, rivals, tail] using paid

theorem Paid.rival {o o' : Observed Task} {p : PushState Task} (paid : Paid o p)
    (steps : o'.steps = o.steps) (spurious : o'.spurious = o.spurious)
    (rivals : o'.rivals = o.rivals + 1) (busy : active p = true) : Paid o' p := by
  cases p <;> simp only [Paid, steps, spurious, rivals, active, Bool.false_eq_true] at paid busy ⊢
  case loadHead task currentTail => split at paid <;> split <;> omega
  case compareExchange task currentTail => split at paid <;> split <;> omega
  all_goals omega

theorem Paid.inactive {o o' : Observed Task} {p : PushState Task} (paid : Paid o p)
    (steps : o'.steps = o.steps) (spurious : o'.spurious = o.spurious)
    (rivals : o'.rivals = o.rivals) (idle : active p = false) : Paid o' p := by
  cases p <;> simp only [active, Bool.true_eq_false] at idle
  case idle => simpa only [Paid, steps] using paid
  case returned result => simpa only [Paid, steps, spurious, rivals] using paid

theorem own_paid {o : Observed Task} {id : Nat} {spurious : Bool} {t : System Task}
    (C : Coherent o.system) (paid : Paid o (o.system.calls id))
    (taken : pushStep o.system id spurious = some t) :
    Paid { o with
      system := t
      steps := o.steps + 1
      spurious := if agrees o.system id && spurious then o.spurious + 1 else o.spurious }
      (t.calls id) := by
  simp only [pushStep] at taken
  cases at_id : o.system.calls id <;> simp only [at_id, Paid] at taken paid <;> try cases taken
  case loadStopped task =>
    cases o.system.queue.stopped <;> simp [System.setCall, Paid, agrees, at_id] <;> omega
  case loadTail task =>
    simp [System.setCall, Paid, agrees, at_id]
    omega
  case loadHead task currentTail =>
    simp only [System.setCall, Function.update_self, agrees, at_id, Bool.false_and,
      Bool.false_eq_true, if_false]
    split
    · simp only [Paid]
      split at paid <;> omega
    · simp only [Paid]
      split at paid <;> split <;> omega
  case compareExchange task currentTail =>
    by_cases same : o.system.queue.tail = currentTail
    · cases spurious
      · simp only [same, and_self, if_true] at taken
        cases taken
        simp only [System.setCall, Function.update_self, agrees, at_id, same, Paid] at paid ⊢
        simp at paid ⊢
        omega
      · simp only [same, Bool.true_eq_false, and_false, if_false] at taken
        cases taken
        simp only [System.setCall, Function.update_self, agrees, at_id, same, Paid] at paid ⊢
        simp at paid ⊢
        omega
    · simp only [same, false_and, if_false] at taken
      cases taken
      simp only [System.setCall, Function.update_self, agrees, at_id, Paid] at paid ⊢
      simp [same] at paid ⊢
      omega
  case loadSequence task currentTail =>
    have barrier := C.barrier id currentTail (by rw [at_id]; rfl)
    simp [System.setCall, barrier, Paid, agrees, at_id]
    omega
  case storeTask task currentTail =>
    simp [System.setCall, Paid, agrees, at_id]
    omega
  case storeSequence currentTail =>
    simp [System.setCall, Paid, agrees, at_id]
    omega
  case notifyOne currentTail =>
    simp [System.setCall, Paid, agrees, at_id]
    omega

theorem observedStep_paid {o o' : Observed Task} {id : Nat} {a : Action Task}
    (C : Coherent o.system) (paid : Paid o (o.system.calls id))
    (taken : observedStep id o a = some o') : Paid o' (o'.system.calls id) := by
  obtain ⟨t, moved, rfl⟩ := Option.map_eq_some_iff.mp taken
  cases a with
  | call other task =>
    obtain ⟨idle, p, rfl, started⟩ := callStep_frame moved
    by_cases same : other = id
    · subst other
      rw [idle] at paid
      simp only [Paid] at paid
      rcases started with rfl | ⟨v, rfl⟩ <;> simp [System.setCall, Paid, paid]
    · have kept : (o.system.setCall other p).calls id = o.system.calls id :=
        Function.update_of_ne (Ne.symm same) _ _
      simp only [kept]
      exact paid.kept rfl rfl rfl rfl
  | push other spurious =>
    by_cases same : other = id
    · subst other
      simp only [if_true]
      exact own_paid C paid moved
    · obtain ⟨-, -, -, -, -, others, -⟩ := pushStep_frame moved
      simp only [same, if_false, others id (Ne.symm same)]
      rcases pushStep_claims moved with ⟨claims, tail⟩ | ⟨task, -, claims, -⟩
      · refine paid.kept rfl rfl ?_ tail
        simp [claims]
      · cases busy : active (o.system.calls id)
        · exact paid.inactive rfl rfl (by simp) busy
        · exact paid.rival rfl rfl (by simp [claims]) busy
  | pop =>
    obtain ⟨tail, -, -, -, calls, -⟩ := popStep_frame moved
    simp only [calls]
    exact paid.kept rfl rfl rfl tail
  | stop =>
    rcases stopStep_cases moved with ⟨-, rfl⟩ | ⟨-, rfl⟩
    · exact paid.kept rfl rfl rfl rfl
    · exact paid.kept rfl rfl rfl rfl

theorem observedStep_step {o o' : Observed Task} {id : Nat} {a : Action Task}
    (taken : observedStep id o a = some o') : step o.system a = some o'.system := by
  obtain ⟨t, moved, rfl⟩ := Option.map_eq_some_iff.mp taken
  cases a with
  | push other spurious =>
    by_cases same : other = id
    · simpa only [same, if_true] using same ▸ moved
    · simpa only [same, if_false] using moved
  | call other task => exact moved
  | pop => exact moved
  | stop => exact moved

theorem reachable_paid {capacity id : Nat} {o : Observed Task}
    (run : Reaches (observedStep id) always (Observed.initial capacity) o)
    (bounded : Bounded o.system) : Paid o (o.system.calls id) := by
  have all : Bounded o.system → Coherent o.system ∧ Paid o (o.system.calls id) := by
    refine run.invariant
      (fun o => Bounded o.system → Coherent o.system ∧ Paid o (o.system.calls id)) ?_ ?_
    · intro o a o' ih _ taken small
      have moved := observedStep_step taken
      have before := small.of_step moved
      obtain ⟨C, paid⟩ := ih before
      exact ⟨step_coherent C before moved, observedStep_paid C paid taken⟩
    · intro _
      exact ⟨initial_coherent capacity, rfl⟩
  exact (all bounded).2

theorem pushStep_defined {s : System Task} {id : Nat} (busy : active (s.calls id) = true)
    (spurious : Bool) : ∃ t, pushStep s id spurious = some t := by
  simp only [pushStep]
  cases at_id : s.calls id <;> simp only [at_id, active, Bool.false_eq_true] at busy
  case compareExchange task currentTail =>
    simp only
    split <;> exact ⟨_, rfl⟩
  all_goals exact ⟨_, rfl⟩

/-- Pushes are lock-free: a call under way can always take its next step, and it takes at most
eight, and four more for each claim of another call and each spurious failure since it began. -/
theorem push_lock_free (capacity id : Nat) (o : Observed Task)
    (run : Reaches (observedStep id) always (Observed.initial capacity) o)
    (bounded : o.system.claimed.length < 2 ^ 64 - o.system.queue.capacity) :
    o.steps ≤ 8 + 4 * (o.spurious + o.rivals) ∧
      (active (o.system.calls id) = true →
        ∀ spurious, ∃ o', observedStep id o (.push id spurious) = some o') := by
  have small : Bounded o.system := by
    simp only [Bounded, modulus64]
    omega
  refine ⟨(reachable_paid run small).bound, ?_⟩
  intro busy spurious
  obtain ⟨t, moved⟩ := pushStep_defined busy spurious
  simp only [observedStep, step, moved, Option.map_some]
  exact ⟨_, rfl⟩

theorem push_lock_free_race :
    ∃ o : Observed Nat, Reaches (observedStep 0) always (Observed.initial 0) o ∧
      o.rivals = 1 ∧ o.steps = 4 ∧ o.steps ≤ 8 + 4 * (o.spurious + o.rivals) := by
  obtain ⟨o, run, passed⟩ := exists_reaches_of_replay (observedStep 0) always
    (Observed.initial 0 : Observed Nat)
    [.call 0 (some 7), .call 1 (some 8), .push 0 false, .push 1 false, .push 0 false,
      .push 1 false, .push 0 false, .push 1 false, .push 1 false, .push 0 false]
    (fun o => o.rivals == 1 && o.steps == 4 && o.system.claimed == [(1, 8)] &&
      o.system.queue.capacity == 1) (by decide)
  simp only [Bool.and_eq_true, beq_iff_eq] at passed
  obtain ⟨⟨⟨one, four⟩, claims⟩, single⟩ := passed
  exact ⟨o, run, one, four,
    (push_lock_free 0 0 o run (by rw [claims, single]; decide)).1⟩

end Pushes

section Drain

/-- No push is between its claim and its notification. -/
def Settled (s : System Task) : Prop :=
  ∀ id, position (s.calls id) = none ∧ ∀ t, s.calls id ≠ .notifyOne t

/-- `stop` has not been called, or has returned. -/
def StopSettled (s : System Task) : Prop := s.stopper ≠ .notifyAll

def atRest : PopState Task → Bool
  | .waiting | .exited => true
  | _ => false

/-- How many steps the worker may still take: seven for each task that is left, and those up to
its rest from where it is. -/
def stepsLeft (s : System Task) : Nat :=
  let left := 7 * (s.queue.tail - s.queue.head)
  let ending (more none_left : Nat) : Nat :=
    if s.queue.head < s.queue.tail then left + more else none_left
  let reading (p : Nat) : Nat := if s.queue.stopped then p + 9 else p
  match s.consumer with
  | .loadHead => left + 8
  | .loadSequence _ => left + 7
  | .takeTask _ => left + 6
  | .clearSlot _ _ => left + 5
  | .storeSequence _ _ => left + 4
  | .storeHead _ _ => left + 3
  | .returned _ => left + 9
  | .loadStopped => ending 14 6
  | .pendingHead => ending 13 5
  | .pendingTail _ => ending 12 4
  | .lockWait => ending 11 (reading 5)
  | .predicateHead => ending 10 (reading 4)
  | .woken => ending 11 (reading 5)
  | .predicateSequence _ => ending 9 (reading 3)
  | .predicateStopped => reading 2
  | .predicatePendingHead => 10
  | .predicatePendingTail _ => 9
  | .park => 1
  | .waiting => 0
  | .exited => 0

structure Alone (capacity : Nat) (s : System Task) : Prop where
  run : Reaches step NotifyOutsideWindow (System.initial capacity) s
  bounded : Bounded s
  settled : Settled s
  stopSettled : StopSettled s
  /-- A worker that has ended left nothing behind. -/
  ended : s.consumer = .exited → s.queue.head = s.queue.tail

variable {capacity : Nat} {s t : System Task}

theorem Alone.coherent (A : Alone capacity s) : Coherent s := reachable_coherent A.run A.bounded

theorem Alone.watched (A : Alone capacity s) : Watched s := reachable_watched A.run A.bounded

theorem Alone.below (A : Alone capacity s) : s.queue.tail + 1 < modulus64 := by
  have small := A.bounded
  have claims := A.coherent.tail_claims
  have room := A.coherent.capacity_pos
  simp only [Bounded] at small
  omega

theorem Alone.front (A : Alone capacity s) (left : s.queue.head < s.queue.tail)
    (outside : popping s.consumer = false) :
    s.queue.sequences (s.queue.slot s.queue.head) = wrap64 (s.queue.head + 1) := by
  have below := A.below
  rw [wrap64, Nat.mod_eq_of_lt (by omega)]
  rcases A.coherent.published s.queue.head le_rfl left (by simp [outside]) with
    ⟨id, own⟩ | ⟨found, -⟩
  · rw [(A.settled id).1] at own
    cases own
  · exact found

theorem Alone.nonempty (A : Alone capacity s)
    (found : s.queue.sequences (s.queue.slot s.queue.head) = wrap64 (s.queue.head + 1)) :
    s.queue.head < s.queue.tail := by
  have below := A.below
  have le := A.coherent.head_le
  rw [wrap64, Nat.mod_eq_of_lt (by omega)] at found
  exact (A.coherent.head_published found).1

theorem Alone.committed_empty (A : Alone capacity s)
    (busy : committed s.consumer = true ∨ s.consumer = .waiting) :
    s.queue.head = s.queue.tail := by
  have le := A.coherent.head_le
  by_contra ne
  have outside : popping s.consumer = false := by
    cases at_consumer : s.consumer <;> simp [at_consumer, committed] at busy <;> rfl
  have available : s.queue.hasAvailableTask = true := by
    rw [Ring.hasAvailableTask, beq_iff_eq]
    exact A.front (by omega) outside
  obtain ⟨id, notifying⟩ := A.watched.available busy available
  exact (A.settled id).2 _ notifying

theorem Alone.open_queue (A : Alone capacity s)
    (parked : s.consumer = .park ∨ s.consumer = .waiting) : s.queue.stopped = false := by
  have busy : committed s.consumer = true ∨ s.consumer = .waiting := by
    rcases parked with at_consumer | at_consumer
    · exact Or.inl (by rw [at_consumer]; rfl)
    · exact Or.inr at_consumer
  cases stopped : s.queue.stopped with
  | false => rfl
  | true => exact (A.stopSettled (A.watched.stopping parked stopped (A.committed_empty busy))).elim

theorem Alone.pop (A : Alone capacity s) (taken : popStep s = some t)
    (ended : t.consumer = .exited → t.queue.head = t.queue.tail) : Alone capacity t := by
  obtain ⟨-, -, capacity, stopper, calls, claimed⟩ := popStep_frame taken
  refine ⟨A.run.tail (a := .pop) trivial taken, ?_, ?_, ?_, ended⟩
  · simp only [Bounded, claimed, capacity]
    exact A.bounded
  · intro id
    rw [calls]
    exact A.settled id
  · rw [StopSettled, stopper]
    exact A.stopSettled

theorem Alone.lowers (A : Alone capacity s) (busy : atRest s.consumer = false) :
    ∃ t, popStep s = some t ∧ Alone capacity t ∧ stepsLeft t < stepsLeft s := by
  have C := A.coherent
  have below := A.below
  have le := C.head_le
  have view := C.consumer
  have step_to : ∀ t, popStep s = some t →
      (t.consumer = .exited → t.queue.head = t.queue.tail) → stepsLeft t < stepsLeft s →
      ∃ t, popStep s = some t ∧ Alone capacity t ∧ stepsLeft t < stepsLeft s := by
    intro t taken ended lower
    exact ⟨t, taken, A.pop taken ended, lower⟩
  cases at_consumer : s.consumer <;> rw [at_consumer] at view busy
  case loadHead =>
    refine step_to _ (by simp only [popStep, at_consumer]; rfl) (by simp) ?_
    simp [stepsLeft, at_consumer]
  case loadSequence h =>
    obtain rfl : h = s.queue.head := view
    refine step_to _ (by simp only [popStep, at_consumer]; rfl) (by split <;> simp) ?_
    by_cases left : s.queue.head < s.queue.tail
    · have found := A.front left (by rw [at_consumer]; rfl)
      simp [stepsLeft, at_consumer, found]
    · have unfound : s.queue.sequences (s.queue.slot s.queue.head) ≠ wrap64 (s.queue.head + 1) :=
        fun found => left (A.nonempty found)
      simp [stepsLeft, at_consumer, unfound, left]
  case takeTask h =>
    refine step_to _ (by simp only [popStep, at_consumer]; rfl) (by simp) ?_
    simp [stepsLeft, at_consumer]
  case clearSlot h task =>
    refine step_to _ (by simp only [popStep, at_consumer]; rfl) (by simp) ?_
    simp [stepsLeft, at_consumer]
  case storeSequence h task =>
    refine step_to _ (by simp only [popStep, at_consumer]; rfl) (by simp) ?_
    simp [stepsLeft, at_consumer]
  case storeHead h task =>
    obtain ⟨rfl, left, -⟩ := view
    refine step_to _ (by simp only [popStep, at_consumer]; rfl) (by simp) ?_
    have next : wrap64 (s.queue.head + 1) = s.queue.head + 1 := Nat.mod_eq_of_lt (by omega)
    simp only [stepsLeft, at_consumer, next]
    omega
  case loadStopped =>
    refine step_to _ (by simp only [popStep, at_consumer]; rfl) (by split <;> simp) ?_
    cases stopped : s.queue.stopped <;> simp [stepsLeft, at_consumer, stopped] <;> split <;> omega
  case pendingHead =>
    refine step_to _ (by simp only [popStep, at_consumer]; rfl) (by simp) ?_
    simp only [stepsLeft, at_consumer]
    split <;> omega
  case pendingTail h =>
    obtain rfl : h = s.queue.head := view
    by_cases drained : s.queue.head = s.queue.tail
    · refine step_to { s with consumer := .exited } ?_ (fun _ => drained) ?_
      · simp only [popStep, at_consumer, drained, if_true]
      · simp [stepsLeft, at_consumer, drained]
    · refine step_to _ (by simp only [popStep, at_consumer]; rfl) (by simp [drained]) ?_
      have left : s.queue.head < s.queue.tail := by omega
      simp [stepsLeft, at_consumer, drained, left]
  case lockWait =>
    refine step_to _ (by simp only [popStep, at_consumer]; rfl) (by simp) ?_
    simp only [stepsLeft, at_consumer]
    split
    · omega
    · split <;> omega
  case predicateHead =>
    refine step_to _ (by simp only [popStep, at_consumer]; rfl) (by simp) ?_
    simp only [stepsLeft, at_consumer]
    split
    · omega
    · split <;> omega
  case woken =>
    refine step_to _ (by simp only [popStep, at_consumer]; rfl) (by simp) ?_
    simp only [stepsLeft, at_consumer]
    split
    · omega
    · split <;> omega
  case predicateSequence h =>
    obtain rfl : h = s.queue.head := view
    refine step_to _ (by simp only [popStep, at_consumer]; rfl) (by split <;> simp) ?_
    by_cases left : s.queue.head < s.queue.tail
    · have found := A.front left (by rw [at_consumer]; rfl)
      simp [stepsLeft, at_consumer, found, left]
    · have unfound : s.queue.sequences (s.queue.slot s.queue.head) ≠ wrap64 (s.queue.head + 1) :=
        fun found => left (A.nonempty found)
      simp only [stepsLeft, at_consumer, unfound, left, if_false]
      split <;> omega
  case predicateStopped =>
    refine step_to _ (by simp only [popStep, at_consumer]; rfl) (by split <;> simp) ?_
    cases stopped : s.queue.stopped <;> simp [stepsLeft, at_consumer, stopped]
  case predicatePendingHead =>
    refine step_to _ (by simp only [popStep, at_consumer]; rfl) (by simp) ?_
    simp [stepsLeft, at_consumer]
  case predicatePendingTail h =>
    obtain rfl : h = s.queue.head := view
    have drained := A.committed_empty (Or.inl (by rw [at_consumer]; rfl))
    refine step_to _ (by simp only [popStep, at_consumer]; rfl) (by simp [drained]) ?_
    simp [stepsLeft, at_consumer, drained]
  case park =>
    refine step_to _ (by simp only [popStep, at_consumer]; rfl) (by simp) ?_
    simp [stepsLeft, at_consumer]
  case returned task =>
    refine step_to _ (by simp only [popStep, at_consumer]; rfl) (by simp) ?_
    simp [stepsLeft, at_consumer]
  case waiting => cases busy
  case exited => cases busy

theorem Alone.all_popped (A : Alone capacity s) (empty : s.queue.head = s.queue.tail) :
    s.popped = s.claimed.map fun c => some c.2 := by
  have C := A.coherent
  apply C.fifo.eq_of_length
  rw [List.length_map, ← C.tail_claims, ← C.head_pops, empty]

theorem Alone.rest (A : Alone capacity s) (resting : atRest s.consumer = true) :
    s.queue.head = s.queue.tail ∧
      s.consumer = if s.queue.stopped then .exited else .waiting := by
  cases at_consumer : s.consumer <;> simp only [at_consumer, atRest, Bool.false_eq_true] at resting
  case waiting =>
    refine ⟨A.committed_empty (Or.inr at_consumer), ?_⟩
    rw [A.open_queue (Or.inr at_consumer)]
    rfl
  case exited =>
    refine ⟨A.ended at_consumer, ?_⟩
    have stopped := (reachable_stopSeen A.run).2 (by rw [at_consumer]; rfl)
    rw [stopped]
    rfl

theorem stepsLeft_le (s : System Task) :
    stepsLeft s ≤ 7 * (s.queue.tail - s.queue.head) + 14 := by
  unfold stepsLeft
  cases s.consumer <;> simp only <;> (try split) <;> (try split) <;> omega

/-- A worker that nobody disturbs hands out every task that has been claimed, within seven steps
for each and fourteen more, and then sleeps, or ends if the queue has been stopped. No
notification may have fallen into the window before its sleep. -/
theorem settled_queue_drains (capacity : Nat) (s : System Task)
    (run : Reaches step NotifyOutsideWindow (System.initial capacity) s)
    (bounded : s.claimed.length < 2 ^ 64 - s.queue.capacity) (settled : Settled s)
    (stopSettled : StopSettled s) (running : s.consumer ≠ .exited) :
    ∃ n t, n ≤ 7 * (s.queue.tail - s.queue.head) + 14 ∧ runFor popStep n s = some t ∧
      t.popped = s.claimed.map (fun c => some c.2) ∧
      t.consumer = (if s.queue.stopped then .exited else .waiting) := by
  have small : Bounded s := by
    simp only [Bounded, modulus64]
    omega
  have A : Alone capacity s :=
    ⟨run, small, settled, stopSettled, fun ended => (running ended).elim⟩
  have lowers : ∀ t, (Alone capacity t ∧ t.claimed = s.claimed ∧
      t.queue.stopped = s.queue.stopped) → ¬ atRest t.consumer = true →
      ∃ r, popStep t = some r ∧ (Alone capacity r ∧ r.claimed = s.claimed ∧
        r.queue.stopped = s.queue.stopped) ∧ stepsLeft r < stepsLeft t := by
    rintro t ⟨B, claimed, stopped⟩ busy
    obtain ⟨r, taken, after, lower⟩ := B.lowers (Bool.not_eq_true _ ▸ busy)
    obtain ⟨-, same, -, -, -, kept⟩ := popStep_frame taken
    exact ⟨r, taken, ⟨after, kept.trans claimed, same.trans stopped⟩, lower⟩
  obtain ⟨n, t, short, taken, ⟨B, claimed, stopped⟩, resting⟩ :=
    reaches_goal popStep
      (fun t => Alone capacity t ∧ t.claimed = s.claimed ∧ t.queue.stopped = s.queue.stopped)
      (fun t => atRest t.consumer = true) stepsLeft lowers ⟨A, rfl, rfl⟩
  refine ⟨n, t, short.trans (stepsLeft_le s), taken, ?_, ?_⟩
  · rw [← claimed]
    exact B.all_popped (B.rest resting).1
  · rw [← stopped]
    exact (B.rest resting).2

theorem settled_queue_drains_after_wake :
    ∃ s : System Nat, Reaches step NotifyOutsideWindow (System.initial 1) s ∧
      s.consumer = .woken ∧
      ∃ n t, n ≤ 21 ∧ runFor popStep n s = some t ∧ t.popped = [some 5] ∧
        t.consumer = .waiting := by
  obtain ⟨s, played, passed⟩ := exists_replay step NotifyOutsideWindow
    (System.initial 1 : System Nat) (List.replicate 8 .pop ++ pushScript 0 5)
    (fun s => s.consumer == .woken && s.calls 0 == .returned true && s.claimed == [(0, 5)] &&
      (s.queue.capacity == 1 && s.queue.tail == 1 && s.queue.head == 0 && !s.queue.stopped) &&
      s.stopper == .storeStopped) (by decide)
  simp only [Bool.and_eq_true, beq_iff_eq, Bool.not_eq_true'] at passed
  obtain ⟨⟨⟨⟨woken, done⟩, claims⟩, ⟨⟨one, tail⟩, head⟩, running⟩, stopper⟩ := passed
  have settled : Settled s := by
    intro id
    by_cases first : id = 0
    · subst id
      rw [done]
      exact ⟨rfl, by simp⟩
    · have idle : s.calls id = .idle := by
        refine replay_calls_other ?_ played
        simp [pushScript, Action.caller, Ne.symm first]
      rw [idle]
      exact ⟨rfl, by simp⟩
  have run := reaches_of_replay played
  have drains := settled_queue_drains 1 s run (by rw [claims, one]; decide) settled
    (by simp [StopSettled, stopper]) (by simp [woken])
  simp only [tail, head, claims, running] at drains
  exact ⟨s, run, woken, drains⟩

end Drain

end MiniCam.Queue.Progress
