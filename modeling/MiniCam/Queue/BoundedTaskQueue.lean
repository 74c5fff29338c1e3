/- Module: MiniCam/Queue/BoundedTaskQueue
   source: hal/bounded_task_queue.h, hal/bounded_task_queue.cpp, hal/task_executor.cpp
   digest: The sequence-barrier ring buffer at the granularity of its atomic accesses. -/

import Mathlib.Algebra.Group.Nat.Defs
import Mathlib.Logic.Function.Basic
import MiniCam.Foundation.Runs

set_option autoImplicit false
set_option relaxedAutoImplicit false

namespace MiniCam.Queue.BoundedTaskQueue

open MiniCam.Foundation.Runs (replay)

def modulus64 : Nat := 2 ^ 64

def wrap64 (n : Nat) : Nat := n % modulus64

def sub64 (a b : Nat) : Nat := wrap64 (a + modulus64 - b)

/-- The members of `BoundedTaskQueue`. An empty `RuntimeTask` is `none`; the two
vectors are total functions of which only the slots below `capacity` are used. -/
structure Ring (Task : Type) where
  capacity : Nat
  ring : Nat → Option Task
  sequences : Nat → Nat
  head : Nat
  tail : Nat
  stopped : Bool

variable {Task : Type}

def Ring.reset (q : Ring Task) : Ring Task :=
  { q with
    head := 0
    tail := 0
    stopped := false
    ring := fun _ => none
    sequences := fun i => i }

/-- The constructor clamps the capacity to at least one and resets. -/
def Ring.make (capacity : Nat) : Ring Task :=
  Ring.reset
    { capacity := max capacity 1
      ring := fun _ => none
      sequences := fun _ => 0
      head := 0
      tail := 0
      stopped := false }

def Ring.slot (q : Ring Task) (position : Nat) : Nat := position % q.capacity

/-- `has_available_task()` read in one state. -/
def Ring.hasAvailableTask (q : Ring Task) : Bool :=
  q.sequences (q.slot q.head) == wrap64 (q.head + 1)

def Ring.hasNoPendingTask (q : Ring Task) : Bool := q.head == q.tail

/-- The program counter and locals of one call of `push`. The two loads of the
capacity check are separate steps, as are the claim, the slot write, the
publication and the notification. -/
inductive PushState (Task : Type) where
  | idle
  | loadStopped (task : Task)
  | loadTail (task : Task)
  | loadHead (task : Task) (currentTail : Nat)
  | compareExchange (task : Task) (currentTail : Nat)
  | loadSequence (task : Task) (currentTail : Nat)
  | yieldLoop (task : Task) (currentTail : Nat)
  | storeTask (task : Task) (currentTail : Nat)
  | storeSequence (currentTail : Nat)
  | notifyOne (currentTail : Nat)
  | returned (result : Bool)
  deriving DecidableEq

/-- The program counter and locals of the worker in `wait_pop`. The first group
is `try_pop`, the second the exit test, the third the wait on `not_empty_` with
its predicate; `returned` is a `wait_pop` that gave a task to `run`, and `exited`
one that returned false, which ends `run`. -/
inductive PopState (Task : Type) where
  | loadHead
  | loadSequence (currentHead : Nat)
  | takeTask (currentHead : Nat)
  | clearSlot (currentHead : Nat) (task : Option Task)
  | storeSequence (currentHead : Nat) (task : Option Task)
  | storeHead (currentHead : Nat) (task : Option Task)
  | loadStopped
  | pendingHead
  | pendingTail (head : Nat)
  | lockWait
  | predicateHead
  | predicateSequence (currentHead : Nat)
  | predicateStopped
  | predicatePendingHead
  | predicatePendingTail (head : Nat)
  | park
  | waiting
  | woken
  | returned (task : Option Task)
  | exited
  deriving DecidableEq

inductive StopState where
  | storeStopped
  | notifyAll
  | returned
  deriving DecidableEq

/-- The shared ring, every push call, the one consumer and the one stopper. The
two histories record the claims in CAS order and what `wait_pop` handed out. -/
structure System (Task : Type) where
  queue : Ring Task
  calls : Nat → PushState Task
  consumer : PopState Task
  stopper : StopState
  claimed : List (Nat × Task)
  popped : List (Option Task)

def System.initial (capacity : Nat) : System Task :=
  { queue := Ring.make capacity
    calls := fun _ => .idle
    consumer := .loadHead
    stopper := .storeStopped
    claimed := []
    popped := [] }

def System.setCall (s : System Task) (id : Nat) (p : PushState Task) : System Task :=
  { s with calls := Function.update s.calls id p }

/-- A notification moves the consumer only when it is in the waiting set. -/
def PopState.notified : PopState Task → PopState Task
  | .waiting => .woken
  | p => p

/-- The start of a call: an empty task is refused before any shared access. -/
def callStep (s : System Task) (id : Nat) (task : Option Task) : Option (System Task) :=
  match s.calls id with
  | .idle =>
    match task with
    | none => some (s.setCall id (.returned false))
    | some t => some (s.setCall id (.loadStopped t))
  | _ => none

/-- The next atomic step of one push call. A weak compare-exchange may fail
although the values agree, which `spurious` selects. -/
def pushStep (s : System Task) (id : Nat) (spurious : Bool) : Option (System Task) :=
  let q := s.queue
  match s.calls id with
  | .idle => none
  | .loadStopped task =>
    some (s.setCall id (if q.stopped then .returned false else .loadTail task))
  | .loadTail task => some (s.setCall id (.loadHead task q.tail))
  | .loadHead task currentTail =>
    some (s.setCall id
      (if q.capacity ≤ sub64 currentTail q.head then .returned false
       else .compareExchange task currentTail))
  | .compareExchange task currentTail =>
    if q.tail = currentTail ∧ spurious = false then
      some { s.setCall id (.loadSequence task currentTail) with
        queue := { q with tail := wrap64 (currentTail + 1) }
        claimed := s.claimed ++ [(id, task)] }
    else some (s.setCall id (.loadStopped task))
  | .loadSequence task currentTail =>
    some (s.setCall id
      (if q.sequences (q.slot currentTail) = currentTail then .storeTask task currentTail
       else .yieldLoop task currentTail))
  | .yieldLoop task currentTail => some (s.setCall id (.loadSequence task currentTail))
  | .storeTask task currentTail =>
    some { s.setCall id (.storeSequence currentTail) with
      queue := { q with ring := Function.update q.ring (q.slot currentTail) (some task) } }
  | .storeSequence currentTail =>
    some { s.setCall id (.notifyOne currentTail) with
      queue := { q with
        sequences :=
          Function.update q.sequences (q.slot currentTail) (wrap64 (currentTail + 1)) } }
  | .notifyOne _ =>
    some { s.setCall id (.returned true) with consumer := s.consumer.notified }
  | .returned _ => none

def popStep (s : System Task) : Option (System Task) :=
  let q := s.queue
  let goto (p : PopState Task) : Option (System Task) := some { s with consumer := p }
  match s.consumer with
  | .loadHead => goto (.loadSequence q.head)
  | .loadSequence h =>
    goto (if q.sequences (q.slot h) = wrap64 (h + 1) then .takeTask h else .loadStopped)
  | .takeTask h => goto (.clearSlot h (q.ring (q.slot h)))
  | .clearSlot h task =>
    some { s with
      consumer := .storeSequence h task
      queue := { q with ring := Function.update q.ring (q.slot h) none } }
  | .storeSequence h task =>
    some { s with
      consumer := .storeHead h task
      queue := { q with
        sequences := Function.update q.sequences (q.slot h) (wrap64 (h + q.capacity)) } }
  | .storeHead h task =>
    some { s with
      consumer := .returned task
      queue := { q with head := wrap64 (h + 1) }
      popped := s.popped ++ [task] }
  | .loadStopped => goto (if q.stopped then .pendingHead else .lockWait)
  | .pendingHead => goto (.pendingTail q.head)
  | .pendingTail head => goto (if head = q.tail then .exited else .lockWait)
  | .lockWait => goto .predicateHead
  | .predicateHead => goto (.predicateSequence q.head)
  | .predicateSequence h =>
    goto (if q.sequences (q.slot h) = wrap64 (h + 1) then .loadHead else .predicateStopped)
  | .predicateStopped => goto (if q.stopped then .predicatePendingHead else .park)
  | .predicatePendingHead => goto (.predicatePendingTail q.head)
  | .predicatePendingTail head => goto (if head = q.tail then .loadHead else .park)
  | .park => goto .waiting
  | .waiting => none
  | .woken => goto .predicateHead
  | .returned _ => goto .loadHead
  | .exited => none

def stopStep (s : System Task) : Option (System Task) :=
  match s.stopper with
  | .storeStopped => some { s with
      stopper := .notifyAll
      queue := { s.queue with stopped := true } }
  | .notifyAll => some { s with
      stopper := .returned
      consumer := s.consumer.notified }
  | .returned => none

inductive Action (Task : Type) where
  | call (id : Nat) (task : Option Task)
  | push (id : Nat) (spurious : Bool)
  | pop
  | stop

def step (s : System Task) : Action Task → Option (System Task)
  | .call id task => callStep s id task
  | .push id spurious => pushStep s id spurious
  | .pop => popStep s
  | .stop => stopStep s

section Frames

variable {s t : System Task}

theorem callStep_frame {id : Nat} {task : Option Task} (taken : callStep s id task = some t) :
    s.calls id = .idle ∧ ∃ p, t = s.setCall id p ∧
      (p = .returned false ∨ ∃ v, p = .loadStopped v) := by
  simp only [callStep] at taken
  cases at_id : s.calls id <;> simp only [at_id] at taken <;> try cases taken
  refine ⟨rfl, ?_⟩
  cases task <;> cases taken
  · exact ⟨_, rfl, Or.inl rfl⟩
  · exact ⟨_, rfl, Or.inr ⟨_, rfl⟩⟩

theorem pushStep_frame {id : Nat} {spurious : Bool} (taken : pushStep s id spurious = some t) :
    t.queue.head = s.queue.head ∧ t.queue.stopped = s.queue.stopped ∧
      t.queue.capacity = s.queue.capacity ∧ t.stopper = s.stopper ∧ t.popped = s.popped ∧
      (∀ j, j ≠ id → t.calls j = s.calls j) ∧
      (t.consumer = s.consumer ∨ t.consumer = s.consumer.notified) := by
  have other : ∀ (p : PushState Task) (j : Nat), j ≠ id →
      Function.update s.calls id p j = s.calls j :=
    fun p j ne => Function.update_of_ne ne _ _
  simp only [pushStep] at taken
  cases at_id : s.calls id <;> simp only [at_id] at taken <;> try cases taken
  case compareExchange task tail =>
    split at taken <;> cases taken <;>
      exact ⟨rfl, rfl, rfl, rfl, rfl, other _, Or.inl rfl⟩
  case notifyOne tail => exact ⟨rfl, rfl, rfl, rfl, rfl, other _, Or.inr rfl⟩
  all_goals exact ⟨rfl, rfl, rfl, rfl, rfl, other _, Or.inl rfl⟩

theorem popStep_frame (taken : popStep s = some t) :
    t.queue.tail = s.queue.tail ∧ t.queue.stopped = s.queue.stopped ∧
      t.queue.capacity = s.queue.capacity ∧ t.stopper = s.stopper ∧ t.calls = s.calls ∧
      t.claimed = s.claimed := by
  simp only [popStep] at taken
  cases at_consumer : s.consumer <;> simp only [at_consumer] at taken <;> cases taken <;>
    exact ⟨rfl, rfl, rfl, rfl, rfl, rfl⟩

theorem stopStep_cases (taken : stopStep s = some t) :
    (s.stopper = .storeStopped ∧
      t = { s with stopper := .notifyAll, queue := { s.queue with stopped := true } }) ∨
    (s.stopper = .notifyAll ∧
      t = { s with stopper := .returned, consumer := s.consumer.notified }) := by
  simp only [stopStep] at taken
  cases at_stopper : s.stopper <;> simp only [at_stopper] at taken <;> cases taken
  · exact Or.inl ⟨rfl, rfl⟩
  · exact Or.inr ⟨rfl, rfl⟩

theorem pushStep_claims {id : Nat} {spurious : Bool} (taken : pushStep s id spurious = some t) :
    (t.claimed = s.claimed ∧ t.queue.tail = s.queue.tail) ∨
      ∃ task, s.calls id = .compareExchange task s.queue.tail ∧
        t.claimed = s.claimed ++ [(id, task)] ∧ t.queue.tail = wrap64 (s.queue.tail + 1) ∧
        t.calls id = .loadSequence task s.queue.tail := by
  simp only [pushStep] at taken
  cases at_id : s.calls id <;> simp only [at_id] at taken <;> try cases taken
  case compareExchange task tail =>
    split at taken <;> cases taken
    · rename_i success
      refine Or.inr ⟨task, ?_, rfl, ?_, ?_⟩
      · rw [success.1]
      · rw [success.1]
      · simp [System.setCall, success.1]
    · exact Or.inl ⟨rfl, rfl⟩
  all_goals exact Or.inl ⟨rfl, rfl⟩

theorem popStep_pops (taken : popStep s = some t) :
    (t.popped = s.popped ∧ t.queue.head = s.queue.head) ∨
      ∃ h task, s.consumer = .storeHead h task ∧ t.popped = s.popped ++ [task] ∧
        t.queue.head = wrap64 (h + 1) ∧ t.consumer = .returned task := by
  simp only [popStep] at taken
  cases at_consumer : s.consumer <;> simp only [at_consumer] at taken <;> cases taken
  case storeHead h task => exact Or.inr ⟨h, task, rfl, rfl, rfl, rfl⟩
  all_goals exact Or.inl ⟨rfl, rfl⟩

def Action.caller : Action Task → Option Nat
  | .call id _ => some id
  | .push id _ => some id
  | .pop => none
  | .stop => none

theorem step_calls_other {a : Action Task} {id : Nat} (taken : step s a = some t)
    (other : a.caller ≠ some id) : t.calls id = s.calls id := by
  cases a with
  | call j task =>
    obtain ⟨-, p, rfl, -⟩ := callStep_frame taken
    have ne : id ≠ j := fun same => other (same ▸ rfl)
    simp [System.setCall, Function.update_of_ne ne]
  | push j spurious =>
    obtain ⟨-, -, -, -, -, others, -⟩ := pushStep_frame taken
    exact others id fun same => other (same ▸ rfl)
  | pop =>
    obtain ⟨-, -, -, -, calls, -⟩ := popStep_frame taken
    rw [calls]
  | stop => rcases stopStep_cases taken with ⟨-, rfl⟩ | ⟨-, rfl⟩ <;> rfl

theorem replay_calls_other {permitted : System Task → Action Task → Prop}
    [∀ s a, Decidable (permitted s a)] {script : List (Action Task)} {id : Nat}
    (other : ∀ a ∈ script, a.caller ≠ some id)
    (played : replay step permitted s script = some t) : t.calls id = s.calls id := by
  induction script generalizing s with
  | nil =>
    obtain rfl := Option.some.inj played
    rfl
  | cons a rest ih =>
    simp only [replay] at played
    split at played
    · obtain ⟨r, taken, later⟩ := Option.bind_eq_some_iff.mp played
      rw [ih (fun b member => other b (List.mem_cons_of_mem a member)) later]
      exact step_calls_other taken (other a List.mem_cons_self)
    · cases played

end Frames

end MiniCam.Queue.BoundedTaskQueue
