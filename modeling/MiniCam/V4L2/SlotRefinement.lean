/- Module: MiniCam/V4L2/SlotRefinement
   source: hal/v4l2_driver_adapter.cpp
   digest: The slot table of an adapter says what its node holds, over every run. -/

import Mathlib.Data.List.Nodup
import MiniCam.Foundation.Runs
import MiniCam.V4L2.SlotBacking

set_option autoImplicit false
set_option relaxedAutoImplicit false

namespace MiniCam.V4L2.SlotRefinement

open MiniCam.Foundation.Runs
open MiniCam.Hal.Interface
open MiniCam.V4L2.VideoNodes
open MiniCam.V4L2.DriverAdapter
open MiniCam.V4L2.DriverAdapter.V4L2Adapter
open MiniCam.V4L2.KernelHistory
open MiniCam.V4L2.SlotMirror
open MiniCam.V4L2.SlotBacking

section Operations

inductive Operation where
  | configureStream
  | startStreaming
  | startContinuousStream (buffers : List OutputBufferTarget)
  | submitCapture (output : OutputBufferTarget)
  | returnStreamBuffer (lease : StreamBufferLease)
  | dequeueCompletion (readyFd : Int)
  | stopStreaming
  | close

def Operation.run (d : SingleDriver) : Operation → SingleDriver
  | .configureStream => (single.configureStream d).2
  | .startStreaming => (single.startStreaming d).2
  | .startContinuousStream buffers =>
    (SingleDriver.pack (d.adapter.startContinuousStream buffers d.world)).2
  | .submitCapture output => (single.submitCapture output d).2
  | .returnStreamBuffer lease => (single.returnStreamBuffer lease d).2
  | .dequeueCompletion readyFd => (single.dequeueCompletion readyFd d).2
  | .stopStreaming => single.stopStreaming d
  | .close => single.close d

def step (d : SingleDriver) (op : Operation) : Option SingleDriver := some (op.run d)

def created (node : Nat) (config : V4L2StreamConfig) (tokenGenerator : Bool) (generator : Nat)
    (answers : Answers) : SingleDriver :=
  { adapter := V4L2Adapter.create node config tokenGenerator
    world := { kernel := Kernel.boot answers, generator := generator, fences := [] } }

structure Attempt where
  adapter : V4L2Adapter
  world : World
  bufferFd : Int
  acquireFenceFd : Int
  bufferSize : Nat

def batchAttempts : List OutputBufferTarget → V4L2Adapter → World → List Attempt
  | [], _, _ => []
  | target :: rest, a, w =>
    { adapter := a
      world := w
      bufferFd := target.bufferFd
      acquireFenceFd := target.acquireFenceFd
      bufferSize := target.bufferSize } ::
      match queueCaptureBuffer target.bufferFd target.acquireFenceFd target.bufferSize a w with
      | (none, _, _) => []
      | (some _, a', w') => batchAttempts rest a' w'

/-- The calls of `queue_capture_buffer` that an operation makes, in order. -/
def attempts (d : SingleDriver) : Operation → List Attempt
  | .startContinuousStream buffers =>
    if d.adapter.streaming = false ∨ d.adapter.fd < 0 then []
    else batchAttempts buffers { d.adapter with continuousStreaming := true } d.world
  | .submitCapture output =>
    [{ adapter := d.adapter
       world := d.world
       bufferFd := output.bufferFd
       acquireFenceFd := output.acquireFenceFd
       bufferSize := output.bufferSize }]
  | .returnStreamBuffer lease =>
    if d.adapter.continuousStreaming then
      [{ adapter := d.adapter
         world := d.world
         bufferFd := lease.bufferFd
         acquireFenceFd := lease.consumerReleaseFenceFd
         bufferSize := lease.bufferSize }]
    else []
  | .configureStream | .startStreaming | .dequeueCompletion _ | .stopStreaming | .close => []

def Attempt.answer (t : Attempt) : SubmissionAnswer :=
  t.world.kernel.answers.submission t.world.kernel.submissions

/-- If the attempt comes to its STREAMON, that is accepted too: the device is off, and
nothing before STREAMON stops the buffer. -/
def Attempt.Starts (t : Attempt) : Prop :=
  Submittable t.adapter t.bufferFd t.bufferSize → FencePasses t.acquireFenceFd t.answer →
    0 < t.adapter.freeQueuedRequestCount → t.answer.qbuf = none →
      t.adapter.deviceStreaming = false → t.answer.streamOn = none

/-- No STREAMON of the operation fails after the QBUF before it was accepted. -/
def StreamOnFollows (d : SingleDriver) (op : Operation) : Prop :=
  ∀ t ∈ attempts d op, t.Starts

instance startsDecidable (t : Attempt) : Decidable t.Starts := by
  unfold Attempt.Starts Submittable FencePasses
  infer_instance

instance streamOnFollowsDecidable (d : SingleDriver) (op : Operation) :
    Decidable (StreamOnFollows d op) :=
  inferInstanceAs (Decidable (∀ t ∈ attempts d op, t.Starts))

end Operations

section Refinement

/-- The slot table is the node's queue: a slot is occupied exactly when its index is
queued, with the descriptor of that QBUF, and under a token of its own. -/
structure Mirrors (a : V4L2Adapter) (k : Kernel) : Prop where
  occupied : ∀ (i : Nat) (slot : V4L2QueuedRequest), a.queuedRequests[i]? = some slot →
    (slot.queued = true ↔ ∃ b ∈ k.queues a.node, b.index = i)
  descriptor : ∀ (i : Nat) (slot : V4L2QueuedRequest), a.queuedRequests[i]? = some slot →
    ∀ b ∈ k.queues a.node, b.index = i → slot.bufferFd = b.fd ∧ slot.token = b.token
  tokens : ∀ (i j : Nat) (slot slot' : V4L2QueuedRequest), a.queuedRequests[i]? = some slot →
    a.queuedRequests[j]? = some slot' → slot.queued = true → slot'.queued = true →
      slot.token = slot'.token → i = j
  dequeued : ∀ (index bytesUsed : Nat) (timestamp : Int) (k' : Kernel),
    k.dqbuf a.node = (.buffer index bytesUsed timestamp, k') →
      ∃ slot, a.queuedRequestForIndex index = some slot ∧ slot.queued = true
  chosen : ∀ (token : DriverToken) (bufferFd acquireFenceFd : Int) (bufferSize i : Nat)
    (a' : V4L2Adapter), a.bindFreeQueuedRequest token bufferFd acquireFenceFd bufferSize =
      (some i, a') → ∀ b ∈ k.queues a.node, b.index ≠ i

structure Faithful (a : V4L2Adapter) (w : World) : Prop where
  sound : Sound a w
  settled : Settled a w.kernel
  shut : Shut a w.kernel

variable {a a' : V4L2Adapter} {w w' : World}

private theorem queued_once {k : Kernel} {bound node : Nat} {b b' : QueuedBuffer}
    (R : Recorded k bound) (member : b ∈ k.queues node) (member' : b' ∈ k.queues node)
    (same : b.index = b'.index) : b = b' :=
  List.inj_on_of_nodup_map (R.indices node) member member' same

private theorem dqbuf_member {k k' : Kernel} {node index bytesUsed : Nat} {timestamp : Int}
    (done : k.dqbuf node = (.buffer index bytesUsed timestamp, k')) :
    ∃ b ∈ k.queues node, b.index = index := by
  simp only [Kernel.dqbuf] at done
  split at done
  · cases done
  · cases done
  split at done
  · cases done
  · rename_i b at_choice
    cases done
    exact ⟨b, List.mem_of_getElem? at_choice, rfl⟩

theorem Faithful.mirrors (F : Faithful a w) : Mirrors a w.kernel where
  occupied := by
    intro i slot found
    constructor
    · intro queued
      exact ⟨_, F.sound.mirror i slot found queued, rfl⟩
    · rintro ⟨b, member, rfl⟩
      obtain ⟨held, at_b, queued⟩ := F.settled.backed b member
      obtain rfl := Option.some.inj (found.symm.trans at_b)
      exact queued
  descriptor := by
    rintro i slot found b member rfl
    obtain ⟨held, at_b, queued⟩ := F.settled.backed b member
    obtain rfl := Option.some.inj (found.symm.trans at_b)
    have same := queued_once F.sound.recorded member (F.sound.mirror _ _ found queued) rfl
    rw [same]
    exact ⟨rfl, rfl⟩
  tokens := by
    intro i j slot slot' found found' queued queued' same
    have equal := F.sound.recorded.token_unique (F.sound.mirror i slot found queued)
      (F.sound.mirror j slot' found' queued') same
    exact congrArg QueuedBuffer.index equal
  dequeued := by
    intro index bytesUsed timestamp k' done
    obtain ⟨b, member, rfl⟩ := dqbuf_member done
    exact F.settled.backed b member
  chosen := by
    intro token bufferFd acquireFenceFd bufferSize i a' bound b member same
    obtain ⟨slot, at_b, queued⟩ := F.settled.backed b member
    subst same
    simp only [bindFreeQueuedRequest] at bound
    split at bound
    · cases bound
    · rename_i i first
      cases bound
      obtain ⟨inside, free, -⟩ := List.findIdx?_eq_some_iff_getElem.mp first
      rw [List.getElem?_eq_getElem inside] at at_b
      rw [Option.some.inj at_b, queued] at free
      cases free

private theorem attempt_faithful (F : Faithful a w) {bufferFd fence : Int} {bufferSize : Nat}
    {r : Option DriverToken}
    (run : queueCaptureBuffer bufferFd fence bufferSize a w = (r, a', w'))
    (starts : r = none → Attempt.Starts
      { adapter := a
        world := w
        bufferFd := bufferFd
        acquireFenceFd := fence
        bufferSize := bufferSize }) : Faithful a' w' := by
  have attempted := queueCaptureBuffer_attempted run
  refine ⟨(queueCaptureBuffer_advance F.sound run).1.sound, ?_, attempted.shut F.shut⟩
  cases r with
  | some token => exact attempted.settled F.settled (Or.inr (by simp))
  | none =>
    rcases queueCaptureBuffer_fails run with same | ⟨able, passes, room, taken, idle, refusal⟩
    · exact attempted.settled_of_same F.settled same
    · exact (refusal (starts rfl able passes room taken idle)).elim

private theorem batch_faithful {buffers : List OutputBufferTarget} (F : Faithful a w)
    {r : Option (List DriverToken)} (run : queueAll buffers a w = (r, a', w'))
    (starts : ∀ t ∈ batchAttempts buffers a w, t.Starts) : Faithful a' w' := by
  induction buffers generalizing a w a' w' r with
  | nil =>
    cases run
    exact F
  | cons target rest ih =>
    simp only [queueAll] at run
    simp only [batchAttempts, List.forall_mem_cons] at starts
    cases first :
      queueCaptureBuffer target.bufferFd target.acquireFenceFd target.bufferSize a w with
    | mk answer out =>
      obtain ⟨a₁, w₁⟩ := out
      have next := attempt_faithful F first fun _ => starts.1
      rw [first] at run starts
      cases answer with
      | none =>
        cases run
        exact next
      | some token =>
        simp only at run starts
        cases later : queueAll rest a₁ w₁ with
        | mk answers out =>
          obtain ⟨a₂, w₂⟩ := out
          have done := ih next later starts.2
          rw [later] at run
          cases answers <;> cases run <;> exact done

private theorem batchAttempts_faithful {buffers : List OutputBufferTarget} (F : Faithful a w) :
    ∀ t ∈ batchAttempts buffers a w, Faithful t.adapter t.world := by
  induction buffers generalizing a w with
  | nil =>
    intro t member
    cases member
  | cons target rest ih =>
    simp only [batchAttempts, List.forall_mem_cons]
    refine ⟨F, ?_⟩
    cases first :
      queueCaptureBuffer target.bufferFd target.acquireFenceFd target.bufferSize a w with
    | mk answer out =>
      obtain ⟨a₁, w₁⟩ := out
      cases answer with
      | none =>
        intro t member
        cases member
      | some token => exact ih (attempt_faithful F first (by intros; contradiction))

end Refinement

section Runs

variable {d d' : SingleDriver}

private theorem marked {a : V4L2Adapter} {w : World} (F : Faithful a w) (continuous : Bool) :
    Faithful { a with continuousStreaming := continuous } w :=
  ⟨⟨F.sound.recorded, F.sound.mirror⟩, ⟨F.settled.backed, F.settled.running⟩, F.shut⟩

theorem attempts_faithful (F : Faithful d.adapter d.world) (op : Operation) :
    ∀ t ∈ attempts d op, Faithful t.adapter t.world := by
  intro t member
  cases op with
  | startContinuousStream buffers =>
    simp only [attempts] at member
    split at member
    · cases member
    · exact batchAttempts_faithful (marked F true) t member
  | submitCapture output =>
    obtain rfl := List.mem_singleton.mp member
    exact F
  | returnStreamBuffer lease =>
    simp only [attempts] at member
    split at member
    · obtain rfl := List.mem_singleton.mp member
      exact F
    · cases member
  | configureStream => cases member
  | startStreaming => cases member
  | dequeueCompletion readyFd => cases member
  | stopStreaming => cases member
  | close => cases member

theorem run_faithful (off : ∀ n, d.world.kernel.answers.streamOff n = true)
    (F : Faithful d.adapter d.world) (op : Operation) (starts : StreamOnFollows d op) :
    Faithful (op.run d).adapter (op.run d).world ∧
      (op.run d).world.kernel.answers = d.world.kernel.answers := by
  cases op with
  | configureStream =>
    rcases asked : d.adapter.configureStream d.world with ⟨ok, a, w⟩
    have advance := configureStream_advance F.sound asked
    obtain ⟨shut, settled, -⟩ := configureStream_settled F.shut F.settled asked
    simp only [Operation.run, single, asked, SingleDriver.pack]
    exact ⟨⟨advance.sound, settled, shut⟩, advance.answers⟩
  | startStreaming =>
    have advance := startStreaming_advance F.sound
    obtain ⟨shut, settled, -⟩ := startStreaming_settled F.shut F.settled
    exact ⟨⟨advance.sound, settled, shut⟩, rfl⟩
  | startContinuousStream buffers =>
    rcases asked : d.adapter.startContinuousStream buffers d.world with ⟨r, a, w⟩
    have advance := (startContinuousStream_advance F.sound asked).1
    simp only [Operation.run, asked, SingleDriver.pack]
    refine ⟨?_, advance.answers⟩
    simp only [StreamOnFollows, attempts] at starts
    simp only [V4L2Adapter.startContinuousStream] at asked
    split at asked
    · cases asked
      exact ⟨advance.sound, ⟨F.settled.backed, F.settled.running⟩, F.shut⟩
    · rename_i started
      rw [if_neg started] at starts
      rcases all : queueAll buffers { d.adapter with continuousStreaming := true } d.world with
        ⟨answers, a₁, w₁⟩
      have done := batch_faithful (marked F true) all starts
      rw [all] at asked
      cases answers with
      | none =>
        cases asked
        exact marked done false
      | some tokens =>
        cases asked
        exact done
  | submitCapture output =>
    rcases asked : queueCaptureBuffer output.bufferFd output.acquireFenceFd output.bufferSize
      d.adapter d.world with ⟨r, a, w⟩
    simp only [Operation.run, single, V4L2Adapter.submitCapture, asked, SingleDriver.pack]
    exact ⟨attempt_faithful F asked fun _ => starts _ (by simp [attempts]),
      (queueCaptureBuffer_advance F.sound asked).1.answers⟩
  | returnStreamBuffer lease =>
    simp only [StreamOnFollows, attempts] at starts
    simp only [Operation.run, single, V4L2Adapter.returnStreamBuffer]
    split
    · rename_i continuous
      rw [if_pos continuous] at starts
      rcases asked : queueCaptureBuffer lease.bufferFd lease.consumerReleaseFenceFd
        lease.bufferSize d.adapter d.world with ⟨r, a, w⟩
      simp only [SingleDriver.pack]
      exact ⟨attempt_faithful F asked fun _ => starts _ (by simp),
        (queueCaptureBuffer_advance F.sound asked).1.answers⟩
    · exact ⟨F, rfl⟩
  | dequeueCompletion readyFd =>
    rcases asked : d.adapter.dequeueCompletion readyFd d.world with ⟨r, a, w⟩
    have advance := (dequeueCompletion_advance F.sound asked).1
    obtain ⟨-, -, -, shut, settled⟩ := dequeueCompletion_settled F.sound.recorded asked
    simp only [Operation.run, single, asked, SingleDriver.pack]
    exact ⟨⟨advance.sound, settled F.settled, shut F.shut⟩, advance.answers⟩
  | stopStreaming =>
    have advance := stopStreaming_advance F.sound
    have empty := stopStreaming_empties off F.shut F.settled
    exact ⟨⟨advance.sound, settled_of_empty empty, fun _ => empty⟩, advance.answers⟩
  | close =>
    have advance := close_advance F.sound
    have empty := close_empties F.shut
    exact ⟨⟨advance.sound, settled_of_empty empty, fun _ => empty⟩, advance.answers⟩

theorem created_faithful (node : Nat) (config : V4L2StreamConfig) (tokenGenerator : Bool)
    (generator : Nat) (answers : Answers) :
    Faithful (created node config tokenGenerator generator answers).adapter
      (created node config tokenGenerator generator answers).world where
  sound := create_sound _ _ _ _ _ _
  settled := settled_of_empty rfl
  shut := fun _ => rfl

end Runs

section Main

/-- As long as no STREAMON fails after its QBUF, the slot table is the node's queue after
every operation, and also at every QBUF inside one. -/
theorem slots_mirror_node_queue (node : Nat) (config : V4L2StreamConfig) (tokenGenerator : Bool)
    (generator : Nat) (answers : Answers) (off : ∀ n, answers.streamOff n = true)
    {d : SingleDriver}
    (run : Reaches step StreamOnFollows (created node config tokenGenerator generator answers) d) :
    Mirrors d.adapter d.world.kernel ∧
      ∀ op, ∀ t ∈ attempts d op, Mirrors t.adapter t.world.kernel := by
  have faithful : Faithful d.adapter d.world ∧ d.world.kernel.answers = answers := by
    refine Reaches.invariant
      (fun d => Faithful d.adapter d.world ∧ d.world.kernel.answers = answers) ?_ run
      ⟨created_faithful node config tokenGenerator generator answers, rfl⟩
    rintro d op t ⟨F, same⟩ starts taken
    cases taken
    have next := run_faithful (fun n => by rw [same]; exact off n) F op starts
    exact ⟨next.1, next.2.trans same⟩
  refine ⟨faithful.1.mirrors, fun op t member => ?_⟩
  exact (attempts_faithful faithful.1 op t member).mirrors

private def twoSlots (streamOn : Option String) : Answers where
  configure := fun _ => .granted 3 4 2
  submission := fun _ => { streamOn := streamOn }
  dequeue := fun _ => .buffer 1 4 0
  streamOff := fun _ => true

private def frame (bufferFd : Int) : OutputBufferTarget :=
  { streamType := .preview
    streamId := 0
    bufferId := 0
    bufferFd := bufferFd
    bufferSize := 4
    acquireFenceFd := -1 }

theorem slots_mirror_node_queue_preview :
    ∃ d : SingleDriver, Mirrors d.adapter d.world.kernel ∧
      d.world.kernel.queues 0 = [{ index := 0, fd := 20, token := 1 }] ∧
      d.adapter.queuedRequests.map (·.queued) = [true, false] := by
  obtain ⟨d, run, test⟩ := exists_reaches_of_replay step StreamOnFollows
    (created 0 {} false 1 (twoSlots none))
    [.configureStream, .startStreaming, .startContinuousStream [frame 20, frame 21],
      .dequeueCompletion 3]
    (fun d => decide (d.world.kernel.queues 0 = [{ index := 0, fd := 20, token := 1 }] ∧
      d.adapter.queuedRequests.map (·.queued) = [true, false])) (by decide +kernel)
  exact ⟨d, (slots_mirror_node_queue 0 {} false 1 (twoSlots none) (fun _ => rfl) run).1,
    of_decide_eq_true test⟩

/-- A STREAMON that fails frees the slot of a buffer that the node still holds, and the
next QBUF chooses the same index. -/
theorem failed_streamon_frees_held_slot :
    ∃ d, Reaches step always (created 0 {} false 1 (twoSlots (some "Input/output error"))) d ∧
      d.world.kernel.queues 0 = [{ index := 0, fd := 20, token := 1 }] ∧
      d.adapter.queuedRequests.map (·.queued) = [false, false] ∧
      (Operation.run d (.submitCapture (frame 21))).adapter.lastError =
        "VIDIOC_QBUF failed: Invalid argument" ∧
      ¬ Mirrors d.adapter d.world.kernel := by
  obtain ⟨d, run, test⟩ := exists_reaches_of_replay step always
    (created 0 {} false 1 (twoSlots (some "Input/output error")))
    [.configureStream, .startStreaming, .submitCapture (frame 20)]
    (fun d => decide (d.world.kernel.queues 0 = [{ index := 0, fd := 20, token := 1 }] ∧
      d.adapter.queuedRequests.map (·.queued) = [false, false] ∧
      (Operation.run d (.submitCapture (frame 21))).adapter.lastError =
        "VIDIOC_QBUF failed: Invalid argument" ∧ d.adapter.node = 0)) (by decide +kernel)
  obtain ⟨queue, slots, error, node⟩ := of_decide_eq_true test
  refine ⟨d, run, queue, slots, error, fun M => ?_⟩
  have first : (d.adapter.queuedRequests.map (·.queued))[0]? = some false := by rw [slots]; rfl
  rw [List.getElem?_map] at first
  obtain ⟨slot, found, free⟩ := Option.map_eq_some_iff.mp first
  have queued := (M.occupied 0 slot found).mpr
    ⟨{ index := 0, fd := 20, token := 1 }, by rw [node, queue]; simp, rfl⟩
  rw [free] at queued
  cases queued

end Main

end MiniCam.V4L2.SlotRefinement
