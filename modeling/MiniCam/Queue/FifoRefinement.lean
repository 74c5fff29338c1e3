/- Module: MiniCam/Queue/FifoRefinement
   source: hal/bounded_task_queue.h, hal/bounded_task_queue.cpp
   digest: Every interleaving of the ring buffer is a run of a bounded FIFO. -/

import MiniCam.Queue.RingInvariant

set_option autoImplicit false
set_option relaxedAutoImplicit false

namespace MiniCam.Queue.FifoRefinement

open MiniCam.Foundation.Runs (Reaches always exists_reaches_of_replay)
open MiniCam.Queue.BoundedTaskQueue
open MiniCam.Queue.RingInvariant

variable {Task : Type}

/-- One move of the abstract queue: it keeps its content, accepts a task at the
back while there is room, or gives up its front. -/
inductive FifoMove (capacity : Nat) : List Task → List Task → Prop where
  | stutter (content : List Task) : FifoMove capacity content content
  | enqueue (content : List Task) (task : Task) (room : content.length < capacity) :
      FifoMove capacity content (content ++ [task])
  | dequeue (task : Task) (content : List Task) : FifoMove capacity (task :: content) content

/-- The claimed tasks that `wait_pop` has not handed out, in claim order. -/
def contents (s : System Task) : List Task :=
  (s.claimed.map Prod.snd).drop s.popped.length

private theorem contents_length {s : System Task} (C : Coherent s) :
    (contents s).length = s.queue.tail - s.queue.head := by
  simp [contents, C.tail_claims, C.head_pops]

private theorem fifo_of_claim {s t : System Task} (C : Coherent s) {id : Nat} {task : Task}
    (at_id : s.calls id = .compareExchange task s.queue.tail)
    (claims : t.claimed = s.claimed ++ [(id, task)]) (pops : t.popped = s.popped) :
    FifoMove s.queue.capacity (contents s) (contents t) := by
  have room := C.admitted id task s.queue.tail at_id
  have split : contents t = contents s ++ [task] := by
    have le : s.popped.length ≤ (s.claimed.map Prod.snd).length := by
      rw [List.length_map, ← C.tail_claims, ← C.head_pops]
      exact C.head_le
    simp only [contents, claims, pops, List.map_append, List.map_cons, List.map_nil]
    rw [List.drop_append_of_le_length le]
  rw [split]
  refine .enqueue _ _ ?_
  have := C.capacity_pos
  rw [contents_length C]
  omega

private theorem fifo_of_pop {s t : System Task} (C : Coherent s) {h : Nat} {task : Option Task}
    (at_consumer : s.consumer = .storeHead h task) (claims : t.claimed = s.claimed)
    (pops : t.popped = s.popped ++ [task]) :
    FifoMove s.queue.capacity (contents s) (contents t) := by
  have view := C.consumer
  rw [at_consumer] at view
  obtain ⟨at_head, lt, -, -, -⟩ := view
  have inside : s.popped.length < (s.claimed.map Prod.snd).length := by
    rw [List.length_map, ← C.tail_claims, ← C.head_pops, ← at_head]
    exact lt
  have split : contents s = (s.claimed.map Prod.snd).get ⟨s.popped.length, inside⟩ ::
      contents t := by
    simp only [contents, claims, pops, List.length_append, List.length_singleton]
    exact List.drop_eq_getElem_cons inside
  rw [split]
  exact .dequeue _ _

/-- Each atomic step is one move of the abstract bounded queue. -/
theorem step_fifo {s t : System Task} {a : Action Task} (C : Coherent s)
    (taken : step s a = some t) :
    FifoMove s.queue.capacity (contents s) (contents t) := by
  have quiet : t.claimed = s.claimed → t.popped = s.popped →
      FifoMove s.queue.capacity (contents s) (contents t) := by
    intro claims pops
    simp only [contents, claims, pops]
    exact .stutter _
  cases a with
  | call id task =>
    obtain ⟨-, p, rfl, -⟩ := callStep_frame taken
    exact quiet rfl rfl
  | push id spurious =>
    obtain ⟨-, -, -, -, pops, -⟩ := pushStep_frame taken
    rcases pushStep_claims taken with ⟨claims, -⟩ | ⟨task, at_id, claims, -⟩
    · exact quiet claims pops
    · exact fifo_of_claim C at_id claims pops
  | pop =>
    obtain ⟨-, -, -, -, -, claims⟩ := popStep_frame taken
    rcases popStep_pops taken with ⟨pops, -⟩ | ⟨h, task, at_consumer, pops, -⟩
    · exact quiet claims pops
    · exact fifo_of_pop C at_consumer claims pops
  | stop =>
    rcases stopStep_cases taken with ⟨-, rfl⟩ | ⟨-, rfl⟩ <;> exact quiet rfl rfl

private theorem push_no_yield {s t : System Task} {id : Nat} {spurious : Bool} (C : Coherent s)
    (never : ∀ id task r, s.calls id ≠ .yieldLoop task r)
    (taken : pushStep s id spurious = some t) :
    ∀ task r, t.calls id ≠ .yieldLoop task r := by
  intro task' r
  simp only [pushStep] at taken
  cases at_id : s.calls id <;> simp only [at_id] at taken <;> try cases taken
  case compareExchange task tail => split at taken <;> cases taken <;> simp [System.setCall]
  case loadSequence task tail =>
    have barrier := C.barrier id tail (by rw [at_id]; rfl)
    simp [System.setCall, barrier]
  case yieldLoop task tail => exact (never id task tail at_id).elim
  case loadStopped task =>
    simp only [System.setCall, Function.update_self]
    split <;> simp
  case loadHead task tail =>
    simp only [System.setCall, Function.update_self]
    split <;> simp
  all_goals simp [System.setCall]

private theorem no_yield_step {s t : System Task} {a : Action Task} (C : Coherent s)
    (never : ∀ id task r, s.calls id ≠ .yieldLoop task r) (taken : step s a = some t) :
    ∀ id task r, t.calls id ≠ .yieldLoop task r := by
  intro j task' r
  cases a with
  | call id task =>
    obtain ⟨-, p, rfl, started⟩ := callStep_frame taken
    by_cases same : j = id
    · subst j
      rcases started with rfl | ⟨v, rfl⟩ <;> simp [System.setCall]
    · simpa [System.setCall, Function.update_of_ne same] using never j task' r
  | push id spurious =>
    obtain ⟨-, -, -, -, -, others, -⟩ := pushStep_frame taken
    by_cases same : j = id
    · subst j
      exact push_no_yield C never taken task' r
    · rw [others j same]
      exact never j task' r
  | pop =>
    obtain ⟨-, -, -, -, calls, -⟩ := popStep_frame taken
    rw [calls]
    exact never j task' r
  | stop =>
    rcases stopStep_cases taken with ⟨-, rfl⟩ | ⟨-, rfl⟩ <;> exact never j task' r

theorem reachable_no_yield {capacity : Nat} {s : System Task}
    {permitted : System Task → Action Task → Prop}
    (run : Reaches step permitted (System.initial capacity) s) (bounded : Bounded s) :
    ∀ id task r, s.calls id ≠ .yieldLoop task r := by
  have both : Bounded s → Coherent s ∧ ∀ id task r, s.calls id ≠ .yieldLoop task r := by
    refine run.invariant
      (fun s => Bounded s → Coherent s ∧ ∀ id task r, s.calls id ≠ .yieldLoop task r)
      ?_ ?_
    · intro s a t ih _ taken small
      have before := small.of_step taken
      obtain ⟨C, never⟩ := ih before
      exact ⟨step_coherent C before taken, no_yield_step C never taken⟩
    · intro _
      exact ⟨initial_coherent capacity, by simp [System.initial]⟩
  exact (both bounded).2

def exitTest : PopState Task → Bool
  | .pendingHead | .pendingTail _ | .exited => true
  | _ => false

def StopSeen (s : System Task) : Prop :=
  (s.queue.stopped = true → s.stopper ≠ .storeStopped) ∧
    (exitTest s.consumer = true → s.queue.stopped = true)

private theorem exitTest_notified (p : PopState Task) : exitTest p.notified = exitTest p := by
  cases p <;> rfl

private theorem pop_stopSeen {s t : System Task} (seen : StopSeen s)
    (taken : popStep s = some t) : StopSeen t := by
  obtain ⟨stored, exit⟩ := seen
  simp only [popStep] at taken
  cases at_consumer : s.consumer <;> simp only [at_consumer] at taken exit <;> cases taken
  case loadStopped =>
    refine ⟨stored, ?_⟩
    cases s.queue.stopped <;> simp [exitTest]
  case pendingHead => exact ⟨stored, exit⟩
  case pendingTail h => exact ⟨stored, fun _ => exit rfl⟩
  all_goals
    refine ⟨stored, ?_⟩
    first
    | exact exit
    | (simp only; split <;> simp [exitTest])

private theorem stopSeen_step {s t : System Task} {a : Action Task} (seen : StopSeen s)
    (taken : step s a = some t) : StopSeen t := by
  have seen' := seen
  obtain ⟨stored, exit⟩ := seen'
  cases a with
  | call id task =>
    obtain ⟨-, p, rfl, -⟩ := callStep_frame taken
    exact ⟨stored, exit⟩
  | push id spurious =>
    obtain ⟨-, flag, -, stopper, -, -, consumer⟩ := pushStep_frame taken
    have same : exitTest t.consumer = exitTest s.consumer := by
      rcases consumer with same | moved
      · rw [same]
      · rw [moved, exitTest_notified]
    simp only [StopSeen, flag, stopper, same]
    exact ⟨stored, exit⟩
  | pop => exact pop_stopSeen seen taken
  | stop =>
    rcases stopStep_cases taken with ⟨-, rfl⟩ | ⟨-, rfl⟩
    · exact ⟨by simp, by simp⟩
    · refine ⟨by simp, ?_⟩
      simp only [exitTest_notified]
      exact exit

theorem reachable_stopSeen {capacity : Nat} {s : System Task}
    {permitted : System Task → Action Task → Prop}
    (run : Reaches step permitted (System.initial capacity) s) : StopSeen s :=
  run.invariant StopSeen (fun _ _ _ seen _ taken => stopSeen_step seen taken)
    ⟨by simp [System.initial, Ring.make, Ring.reset], by simp [System.initial, exitTest]⟩

def popPosition : PopState Task → Option Nat
  | .takeTask h | .clearSlot h _ | .storeSequence h _ | .storeHead h _ => some h
  | _ => none

/-- What the bounded FIFO promises in one state and for its next step. -/
structure FifoGuarantee (s : System Task) : Prop where
  order : s.queue.head ≤ s.queue.tail ∧ s.queue.tail ≤ s.queue.head + s.queue.capacity
  /-- The assert on the claimed slot holds. -/
  barrier : ∀ id t, position (s.calls id) = some t → s.queue.sequences (s.queue.slot t) = t
  /-- The body of the defensive wait loop is never entered. -/
  never_waits : ∀ id task t, s.calls id ≠ .yieldLoop task t
  /-- Neither another call nor the consumer holds the slot of a claimed position. -/
  exclusive : ∀ id t, position (s.calls id) = some t →
    (∀ j r, j ≠ id → position (s.calls j) = some r → s.queue.slot r ≠ s.queue.slot t) ∧
      ∀ h, popPosition s.consumer = some h → s.queue.slot h ≠ s.queue.slot t
  /-- The consumer takes a position only after its producer has stored the task. -/
  stored_first : ∀ h, s.consumer = .takeTask h →
    (∀ id, position (s.calls id) ≠ some h) ∧
      ∃ id task, s.claimed[h]? = some (id, task) ∧ s.queue.ring (s.queue.slot h) = some task
  /-- A published task stays in its slot until the consumer takes it. -/
  kept : ∀ t, s.queue.head ≤ t → t < s.queue.tail → (∀ id, position (s.calls id) ≠ some t) →
    popPosition s.consumer ≠ some t →
      ∃ id task, s.claimed[t]? = some (id, task) ∧ s.queue.ring (s.queue.slot t) = some task
  fifo : s.popped <+: s.claimed.map fun c => some c.2
  /-- `wait_pop` gives up only after `stop`, with every claim up to its read of
  `tail_` handed out. -/
  exit : ∀ t, step s .pop = some t → t.consumer = .exited →
    s.queue.stopped = true ∧ s.stopper ≠ .storeStopped ∧
      t.popped = s.claimed.map fun c => some c.2
  refines : ∀ a t, step s a = some t → FifoMove s.queue.capacity (contents s) (contents t)

private theorem claim_at {s : System Task} (C : Coherent s) {t : Nat}
    (lt : t < s.queue.tail) : ∃ id task, s.claimed[t]? = some (id, task) ∧
      taskAt s t = some task := by
  have inside : t < s.claimed.length := C.tail_claims ▸ lt
  refine ⟨(s.claimed.get ⟨t, inside⟩).1, (s.claimed.get ⟨t, inside⟩).2, ?_, ?_⟩
  · simp
  · simp [taskAt, List.getElem?_eq_getElem inside]

private theorem exit_cases {s t : System Task} (taken : step s .pop = some t)
    (exited : t.consumer = .exited) :
    ∃ h, s.consumer = .pendingTail h ∧ h = s.queue.tail ∧ t.popped = s.popped := by
  simp only [step, popStep] at taken
  cases at_consumer : s.consumer <;> simp only [at_consumer] at taken <;> cases taken
  case pendingTail h =>
    by_cases same : h = s.queue.tail
    · exact ⟨h, rfl, same, rfl⟩
    · simp [same] at exited
  all_goals
    simp only at exited
    first
    | cases exited
    | (split at exited <;> cases exited)

private theorem popPosition_eq {s : System Task} (C : Coherent s) {h : Nat}
    (at_h : popPosition s.consumer = some h) :
    popping s.consumer = true ∧ h = s.queue.head ∧ h < s.queue.tail ∧
      ∀ id, position (s.calls id) ≠ some h := by
  have view := C.consumer
  cases at_consumer : s.consumer <;> rw [at_consumer] at view at_h <;>
    simp only [popPosition, Option.some.injEq, reduceCtorEq] at at_h
  all_goals
    subst at_h
    exact ⟨rfl, view.1, view.2.1, view.2.2.1⟩

private theorem popping_iff {s : System Task} (C : Coherent s)
    (busy : popping s.consumer = true) : popPosition s.consumer = some s.queue.head := by
  have view := C.consumer
  cases at_consumer : s.consumer <;> rw [at_consumer] at view busy <;>
    simp only [popping, Bool.false_eq_true] at busy
  all_goals exact congrArg some view.1

theorem fifoGuarantee_of_coherent {s : System Task} (C : Coherent s)
    (never : ∀ id task t, s.calls id ≠ .yieldLoop task t) (seen : StopSeen s) :
    FifoGuarantee s where
  order := ⟨C.head_le, C.tail_le⟩
  barrier := C.barrier
  never_waits := never
  exclusive := by
    intro id t own
    have inside := C.range id t own
    have upper := C.tail_le
    constructor
    · intro j r ne at_j same
      have bounds := C.range j r at_j
      have equal : r = t := slot_injective bounds.1 (by omega) inside.1 (by omega) same
      subst r
      exact ne (C.position_unique at_j own)
    · intro h at_h same
      obtain ⟨-, at_head, lt, unowned⟩ := popPosition_eq C at_h
      have equal : h = t := slot_injective (by omega) (by omega) inside.1 (by omega) same
      exact unowned id (equal ▸ own)
  stored_first := by
    intro h at_consumer
    have view := C.consumer
    rw [at_consumer] at view
    obtain ⟨-, lt, unowned, content⟩ := view
    obtain ⟨id, task, found, same⟩ := claim_at C lt
    exact ⟨unowned, id, task, found, content.trans same⟩
  kept := by
    intro t lower lt unowned other
    obtain ⟨id, task, found, same⟩ := claim_at C lt
    have apart : popping s.consumer = true → t ≠ s.queue.head := by
      intro busy equal
      exact other (equal ▸ popping_iff C busy)
    rcases C.published t lower lt apart with ⟨j, own⟩ | ⟨-, content⟩
    · exact (unowned j own).elim
    · exact ⟨id, task, found, content.trans same⟩
  fifo := C.fifo
  exit := by
    intro t taken exited
    obtain ⟨h, at_consumer, at_tail, pops⟩ := exit_cases taken exited
    have view := C.consumer
    rw [at_consumer] at view
    have at_head : h = s.queue.head := view
    have flag : s.queue.stopped = true := seen.2 (by rw [at_consumer]; rfl)
    refine ⟨flag, seen.1 flag, ?_⟩
    rw [pops]
    refine C.fifo.eq_of_length ?_
    rw [List.length_map, ← C.tail_claims, ← C.head_pops]
    omega
  refines := fun _ _ taken => step_fifo C taken

theorem reachable_capacity {capacity : Nat} {s : System Task}
    {permitted : System Task → Action Task → Prop}
    (run : Reaches step permitted (System.initial capacity) s) :
    s.queue.capacity = max capacity 1 :=
  run.invariant (fun s => s.queue.capacity = max capacity 1)
    (fun _ _ _ same _ taken => (step_claims taken).2.trans same) rfl

/-- For every capacity argument and every interleaving that claims fewer than
`2^64 - capacity` positions, the ring is a bounded FIFO of the claimed tasks. -/
theorem queue_refines_bounded_fifo (capacity : Nat) (s : System Task)
    (run : Reaches step always (System.initial capacity) s)
    (bounded : s.claimed.length < 2 ^ 64 - s.queue.capacity) :
    s.queue.capacity = max capacity 1 ∧ FifoGuarantee s := by
  have small : Bounded s := by
    simp only [Bounded, modulus64]
    omega
  refine ⟨reachable_capacity run, fifoGuarantee_of_coherent ?_ ?_ ?_⟩
  · exact reachable_coherent run small
  · exact reachable_no_yield run small
  · exact reachable_stopSeen run

/-- Two producers race for a queue of one slot; one claims, and the other retries when the consumer
has taken the task. -/
def raceScript : List (Action Nat) :=
  [.call 0 (some 7), .call 1 (some 8), .push 0 false, .push 1 false, .push 0 false,
   .push 1 false, .push 0 false, .push 1 false, .push 1 false, .push 0 false,
   .push 1 false, .push 1 false, .push 1 false, .push 1 false] ++
    List.replicate 6 .pop ++ List.replicate 4 (.push 0 false)

theorem queue_refines_bounded_fifo_race :
    ∃ s : System Nat, Reaches step always (System.initial 0) s ∧
      s.claimed = [(1, 8), (0, 7)] ∧ s.popped = [some 8] ∧ contents s = [7] ∧
      FifoGuarantee s := by
  obtain ⟨s, run, passed⟩ := exists_reaches_of_replay step always
    (System.initial 0 : System Nat) raceScript
    (fun s => s.claimed == [(1, 8), (0, 7)] && s.popped == [some 8] &&
      s.queue.capacity == 1) (by decide)
  simp only [Bool.and_eq_true, beq_iff_eq] at passed
  obtain ⟨⟨claims, pops⟩, one⟩ := passed
  refine ⟨s, run, claims, pops, ?_, ?_⟩
  · simp [contents, claims, pops]
  · exact (queue_refines_bounded_fifo 0 s run (by rw [claims, one]; decide)).2

end MiniCam.Queue.FifoRefinement
