/- Module: MiniCam/V4L2/SlotBacking
   source: hal/v4l2_driver_adapter.cpp
   digest: When every buffer of a node has its slot, and which submissions cannot fail. -/

import MiniCam.V4L2.SlotMirror

set_option autoImplicit false
set_option relaxedAutoImplicit false

namespace MiniCam.V4L2.SlotBacking

open MiniCam.Hal.Interface
open MiniCam.V4L2.VideoNodes
open MiniCam.V4L2.DriverAdapter
open MiniCam.V4L2.DriverAdapter.V4L2Adapter
open MiniCam.V4L2.KernelHistory
open MiniCam.V4L2.SlotMirror

variable {a a' : V4L2Adapter} {w w' : World}

/-- Every buffer of the node has an occupied slot, and the device is streaming. A
STREAMON that fails after its QBUF, or a STREAMOFF that fails, would break this. -/
structure Settled (a : V4L2Adapter) (k : Kernel) : Prop where
  backed : ∀ b ∈ k.queues a.node,
    ∃ slot, a.queuedRequests[b.index]? = some slot ∧ slot.queued = true
  running : k.queues a.node ≠ [] → a.deviceStreaming = true

def Shut (a : V4L2Adapter) (k : Kernel) : Prop := a.fd < 0 → k.queues a.node = []

theorem settled_of_empty {k : Kernel} (empty : k.queues a.node = []) : Settled a k := by
  refine ⟨fun b member => ?_, fun some_left => (some_left empty).elim⟩
  rw [empty] at member
  cases member

section Queueing

structure Attempted (a : V4L2Adapter) (w : World) (r : Option DriverToken) (a' : V4L2Adapter)
    (w' : World) : Prop where
  node : a'.node = a.node
  fd : a'.fd = a.fd
  streaming : a'.streaming = a.streaming
  continuous : a'.continuousStreaming = a.continuousStreaming
  bufferSize : a'.bufferSize = a.bufferSize
  device : a.deviceStreaming = true → a'.deviceStreaming = true
  started : ∀ τ, r = some τ → a'.deviceStreaming = true
  adds : ∀ τ, r = some τ → ∀ b ∈ w'.kernel.queues a.node,
    b ∈ w.kernel.queues a.node ∨ b.token = τ
  shut : Shut a w.kernel → Shut a' w'.kernel
  settled : Settled a w.kernel → a.deviceStreaming = true ∨ r ≠ none → Settled a' w'.kernel

private theorem slot_attempted {bufferFd : Int} {bufferSize : Nat} {answer : SubmissionAnswer}
    {r : Option DriverToken} (opened : 0 ≤ a.fd)
    (outcome : SlotOutcome bufferFd bufferSize answer a w r a' w') : Attempted a w r a' w' := by
  have shut : ∀ (a' : V4L2Adapter) (k : Kernel), a'.fd = a.fd → Shut a' k := by
    intro a' k same closed
    rw [same] at closed
    exact (Int.not_lt.mpr opened closed).elim
  cases outcome with
  | full busy error =>
    exact ⟨rfl, rfl, rfl, rfl, rfl, id, (by intros; contradiction),
      (by intros; contradiction), fun _ => shut _ _ rfl, fun S _ => ⟨S.backed, S.running⟩⟩
  | @rejected i slot found free refusal error =>
    refine ⟨rfl, rfl, rfl, rfl, rfl, id, (by intros; contradiction),
      (by intros; contradiction), fun _ => shut _ _ rfl, fun S _ => ⟨fun b member => ?_, S.running⟩⟩
    obtain ⟨held, at_b, occupied⟩ := S.backed b member
    refine ⟨held, ?_, occupied⟩
    have other : i ≠ b.index := by
      rintro rfl
      rw [Option.some.inj (at_b.symm.trans found), free] at occupied
      cases occupied
    simp only [List.getElem?_set_ne other]
    exact at_b
  | unstarted found free taken idle refusal error =>
    refine ⟨rfl, rfl, rfl, rfl, rfl, id, (by intros; contradiction),
      (by intros; contradiction), fun _ => shut _ _ rfl, fun S why => ?_⟩
    rcases why with device | some_token
    · rw [idle] at device
      cases device
    · exact (some_token rfl).elim
  | @queued i slot k found free taken running =>
    refine ⟨rfl, rfl, rfl, rfl, rfl, fun _ => rfl, fun _ _ => rfl, fun τ same b member => ?_,
      fun _ => shut _ _ rfl, fun S _ => ⟨fun b member => ?_, fun _ => rfl⟩⟩
    · cases same
      exact ((qbuf_queues taken).mp member).imp_right fun here => by rw [here]
    have inside := (List.getElem?_eq_some_iff.mp found).1
    rcases (qbuf_queues taken).mp member with before | rfl
    · obtain ⟨held, at_b, occupied⟩ := S.backed b before
      by_cases same : i = b.index
      · subst same
        exact ⟨_, List.getElem?_set_self inside, rfl⟩
      · refine ⟨held, ?_, occupied⟩
        simp only [List.getElem?_set_ne same]
        exact at_b
    · exact ⟨_, List.getElem?_set_self inside, rfl⟩

theorem queueCaptureBuffer_attempted {bufferFd fence : Int} {bufferSize : Nat}
    {r : Option DriverToken}
    (run : queueCaptureBuffer bufferFd fence bufferSize a w = (r, a', w')) :
    Attempted a w r a' w' := by
  obtain ⟨w₁, quiet, ⟨⟨error, refused⟩, -⟩ | ⟨able, -, -, passed⟩⟩ :=
    queueCaptureBuffer_cases bufferFd fence bufferSize a w
  · rw [run] at refused
    cases refused
    refine ⟨rfl, rfl, rfl, rfl, rfl, id, (by intros; contradiction),
      (by intros; contradiction), fun S closed => ?_, fun S _ => ⟨?_, ?_⟩⟩
    · rw [quiet.queues]
      exact S closed
    · rw [quiet.queues]
      exact S.backed
    · rw [quiet.queues]
      exact S.running
  · have outcome := submitSlot_outcome able.2.2.1 bufferSize
      (w.kernel.answers.submission w.kernel.submissions) a w₁
    rw [← passed, run] at outcome
    obtain ⟨node, fd, streaming, continuous, size, device, started, adds, shut, settled⟩ :=
      slot_attempted able.2.1 outcome
    refine ⟨node, fd, streaming, continuous, size, device, started, quiet.queues ▸ adds,
      fun S => shut fun closed => ?_, fun S => settled ⟨?_, ?_⟩⟩
    · rw [quiet.queues]
      exact S closed
    · rw [quiet.queues]
      exact S.backed
    · rw [quiet.queues]
      exact S.running

theorem Attempted.settled_of_same {r : Option DriverToken} (A : Attempted a w r a' w')
    (S : Settled a w.kernel) (same : w'.kernel.queues = w.kernel.queues) :
    Settled a' w'.kernel := by
  cases device : a.deviceStreaming with
  | true => exact A.settled S (Or.inl device)
  | false =>
    apply settled_of_empty
    rw [same, A.node]
    by_contra some_left
    rw [S.running some_left] at device
    cases device

private theorem qbuf_answered {k k' : Kernel} {node index : Nat} {fd : Int} {τ : DriverToken}
    {answer : Option String} (taken : k.qbuf node index fd τ answer = (none, k')) :
    answer = none := by
  simp only [Kernel.qbuf] at taken
  split at taken
  · cases taken
  · rfl

theorem queueCaptureBuffer_fails {bufferFd fence : Int} {bufferSize : Nat}
    (run : queueCaptureBuffer bufferFd fence bufferSize a w = (none, a', w')) :
    w'.kernel.queues = w.kernel.queues ∨
      Submittable a bufferFd bufferSize ∧
        FencePasses fence (w.kernel.answers.submission w.kernel.submissions) ∧
        0 < a.freeQueuedRequestCount ∧
        (w.kernel.answers.submission w.kernel.submissions).qbuf = none ∧
        a.deviceStreaming = false ∧
        (w.kernel.answers.submission w.kernel.submissions).streamOn ≠ none := by
  obtain ⟨w₁, quiet, ⟨⟨error, refused⟩, -⟩ | ⟨able, passes, -, passed⟩⟩ :=
    queueCaptureBuffer_cases bufferFd fence bufferSize a w
  · rw [run] at refused
    cases refused
    exact Or.inl quiet.queues
  have outcome := submitSlot_outcome able.2.2.1 bufferSize
    (w.kernel.answers.submission w.kernel.submissions) a w₁
  rw [← passed, run] at outcome
  cases outcome with
  | full busy error => exact Or.inl quiet.queues
  | rejected found free refusal error => exact Or.inl quiet.queues
  | unstarted found free taken idle refusal error =>
    have room : 0 < a.freeQueuedRequestCount := by
      simp only [freeQueuedRequestCount]
      refine List.countP_pos_iff.mpr ⟨_, List.mem_of_getElem? found, ?_⟩
      simp [free]
    exact Or.inr ⟨able, passes, room, qbuf_answered taken, idle, refusal⟩

theorem queueCaptureBuffer_blocked {bufferFd fence : Int} {bufferSize : Nat}
    (blocked : ¬ FencePasses fence (w.kernel.answers.submission w.kernel.submissions) ∨
      (w.kernel.answers.submission w.kernel.submissions).qbuf ≠ none)
    {r : Option DriverToken}
    (run : queueCaptureBuffer bufferFd fence bufferSize a w = (r, a', w')) :
    r = none ∧ w'.kernel.queues = w.kernel.queues ∧ a'.deviceStreaming = a.deviceStreaming := by
  obtain ⟨w₁, quiet, ⟨⟨error, refused⟩, -⟩ | ⟨able, passes, -, passed⟩⟩ :=
    queueCaptureBuffer_cases bufferFd fence bufferSize a w
  · rw [run] at refused
    cases refused
    exact ⟨rfl, quiet.queues, rfl⟩
  · have refusal := blocked.resolve_left (not_not.mpr passes)
    have outcome := submitSlot_outcome able.2.2.1 bufferSize
      (w.kernel.answers.submission w.kernel.submissions) a w₁
    rw [← passed, run] at outcome
    cases outcome with
    | full busy error => exact ⟨rfl, quiet.queues, rfl⟩
    | rejected found free _ error => exact ⟨rfl, quiet.queues, rfl⟩
    | unstarted found free taken idle starts error => exact (refusal (qbuf_answered taken)).elim
    | queued found free taken running => exact (refusal (qbuf_answered taken)).elim

theorem queueCaptureBuffer_queued {bufferFd fence : Int} {bufferSize : Nat} {τ : DriverToken}
    (run : queueCaptureBuffer bufferFd fence bufferSize a w = (some τ, a', w')) :
    τ = counter a w ∧ w'.generator = (issuedWorld a w).generator ∧
      ∃ i slot, a.queuedRequests[i]? = some slot ∧ slot.queued = false ∧
        a' = { issued a with
          queuedRequests := a.queuedRequests.set i (boundSlot τ bufferFd bufferSize)
          deviceStreaming := true } := by
  obtain ⟨w₁, quiet, ⟨⟨error, refused⟩, -⟩ | ⟨able, -, -, passed⟩⟩ :=
    queueCaptureBuffer_cases bufferFd fence bufferSize a w
  · rw [run] at refused
    cases refused
  have outcome := submitSlot_outcome able.2.2.1 bufferSize
    (w.kernel.answers.submission w.kernel.submissions) a w₁
  rw [← passed, run] at outcome
  have same : counter a w₁ = counter a w := by simp [counter, quiet.generator]
  cases outcome with
  | @queued i slot k found vacant accepted running =>
    refine ⟨same, ?_, i, slot, found, vacant, rfl⟩
    simp only [issuedWorld, quiet.generator]

theorem queueCaptureBuffer_room {bufferFd fence : Int} {bufferSize : Nat} {τ : DriverToken}
    (run : queueCaptureBuffer bufferFd fence bufferSize a w = (some τ, a', w')) :
    a'.freeQueuedRequestCount + 1 = a.freeQueuedRequestCount := by
  obtain ⟨-, -, i, slot, found, vacant, rfl⟩ := queueCaptureBuffer_queued run
  obtain ⟨inside, at_i⟩ := List.getElem?_eq_some_iff.mp found
  have counted := List.countP_set (p := fun r : V4L2QueuedRequest => !r.queued)
    (a := boundSlot τ bufferFd bufferSize) inside
  have one : (!a.queuedRequests[i].queued) = true := by simp [at_i, vacant]
  have none_added : (!(boundSlot τ bufferFd bufferSize).queued) = false := rfl
  have some_free : 0 < a.queuedRequests.countP fun r => !r.queued :=
    List.countP_pos_iff.mpr ⟨_, List.getElem_mem inside, one⟩
  simp only [one, none_added, if_true, Bool.false_eq_true, if_false, Nat.add_zero] at counted
  simp only [freeQueuedRequestCount]
  rw [counted]
  omega

theorem queueCaptureBuffer_succeeds {bufferFd fence : Int} {bufferSize : Nat}
    (S : Settled a w.kernel) (able : Submittable a bufferFd bufferSize)
    (free : 0 < a.freeQueuedRequestCount)
    (passes : FencePasses fence (w.kernel.answers.submission w.kernel.submissions))
    (taken : (w.kernel.answers.submission w.kernel.submissions).qbuf = none)
    (starts : a.deviceStreaming = true ∨
      (w.kernel.answers.submission w.kernel.submissions).streamOn = none) :
    ∃ a' w', queueCaptureBuffer bufferFd fence bufferSize a w = (some (counter a w), a', w') ∧
      a'.freeQueuedRequestCount + 1 = a.freeQueuedRequestCount ∧
      w'.kernel.submissions = w.kernel.submissions + 1 := by
  obtain ⟨w₁, quiet, ⟨-, unable⟩ | ⟨-, -, count, passed⟩⟩ :=
    queueCaptureBuffer_cases bufferFd fence bufferSize a w
  · exact (unable ⟨able, passes⟩).elim
  have outcome := submitSlot_outcome able.2.2.1 bufferSize
    (w.kernel.answers.submission w.kernel.submissions) a w₁
  have same : counter a w₁ = counter a w := by simp [counter, quiet.generator]
  rw [passed]
  cases result : submitSlot bufferFd bufferSize (w.kernel.answers.submission w.kernel.submissions)
    a w₁ with
  | mk r out =>
    rw [result] at outcome
    obtain ⟨a', w'⟩ := out
    simp only at outcome
    cases outcome with
    | full busy error =>
      have none_free : a.freeQueuedRequestCount = 0 := by
        simp only [freeQueuedRequestCount, List.countP_eq_zero]
        intro slot member
        simp [busy slot member]
      omega
    | @rejected i slot found vacant refusal error =>
      rcases refusal with refused | ⟨b, member, rfl⟩
      · exact (refused taken).elim
      · rw [quiet.queues] at member
        obtain ⟨held, at_b, occupied⟩ := S.backed b member
        rw [Option.some.inj (at_b.symm.trans found), vacant] at occupied
        cases occupied
    | unstarted found vacant accepted idle refusal error =>
      rcases starts with device | willing
      · rw [idle] at device
        cases device
      · exact (refusal willing).elim
    | @queued i slot k found vacant accepted running =>
      refine ⟨_, _, by rw [same], queueCaptureBuffer_room (passed.trans result), ?_⟩
      simp only [Kernel.qbuf] at accepted
      split at accepted
      · cases accepted
      · split at accepted <;> cases accepted
        exact count

/-- The environment takes the buffer: the wait for its fence succeeds, QBUF is accepted for
the first free slot, and so is STREAMON when the device is off. -/
def Takes (output : OutputBufferTarget) (a : V4L2Adapter) (w : World) : Prop :=
  FencePasses output.acquireFenceFd (w.kernel.answers.submission w.kernel.submissions) ∧
    (w.kernel.answers.submission w.kernel.submissions).qbuf = none ∧
    (∀ i ∈ a.queuedRequests.findIdx? fun r => !r.queued,
      ∀ b ∈ w.kernel.queues a.node, b.index ≠ i) ∧
    (a.deviceStreaming = true ∨
      (w.kernel.answers.submission w.kernel.submissions).streamOn = none)

instance takesDecidable (output : OutputBufferTarget) (a : V4L2Adapter) (w : World) :
    Decidable (Takes output a w) := by
  unfold Takes FencePasses
  infer_instance

theorem queueCaptureBuffer_takes {output : OutputBufferTarget}
    (able : Submittable a output.bufferFd output.bufferSize)
    (room : 0 < a.freeQueuedRequestCount) (takes : Takes output a w) :
    (queueCaptureBuffer output.bufferFd output.acquireFenceFd output.bufferSize a w).1 =
      some (counter a w) := by
  obtain ⟨passes, accepted, unheld, starts⟩ := takes
  obtain ⟨w₁, quiet, ⟨-, unable⟩ | ⟨-, -, -, passed⟩⟩ :=
    queueCaptureBuffer_cases output.bufferFd output.acquireFenceFd output.bufferSize a w
  · exact (unable ⟨able, passes⟩).elim
  rw [passed]
  have same : counter a w₁ = counter a w := by simp [counter, quiet.generator]
  simp only [submitSlot, issueToken_eq, bindFreeQueuedRequest]
  have slots : (issued a).queuedRequests = a.queuedRequests := rfl
  cases first : a.queuedRequests.findIdx? fun r => !r.queued with
  | none =>
    have busy := List.findIdx?_eq_none_iff.mp first
    have none_free : a.freeQueuedRequestCount = 0 := by
      simp only [freeQueuedRequestCount, List.countP_eq_zero]
      intro slot member
      simp [busy slot member]
    omega
  | some i =>
    have vacant : ((issuedWorld a w₁).kernel.queues (issued a).node).any
        (fun b => b.index = i) = false := by
      have none_held := unheld i first
      have held : (w₁.kernel.queues a.node).any (fun b => b.index = i) = false := by
        rw [quiet.queues]
        simpa using none_held
      exact held
    simp only [slots, first, if_neg (Int.not_lt.mpr able.2.2.1), queueSlot, Kernel.qbuf, accepted,
      vacant, Bool.false_eq_true, if_false]
    split
    · rw [same]
    · rename_i idle
      rcases starts with device | willing
      · exact (idle device).elim
      · rw [willing, same]

theorem queueAll_settled {buffers : List OutputBufferTarget} {r : Option (List DriverToken)}
    (run : queueAll buffers a w = (r, a', w')) :
    a'.fd = a.fd ∧ a'.continuousStreaming = a.continuousStreaming ∧
      (Shut a w.kernel → Shut a' w'.kernel) ∧
      (r ≠ none → Settled a w.kernel → Settled a' w'.kernel ∧
        (a.deviceStreaming = true ∨ buffers ≠ [] → a'.deviceStreaming = true)) := by
  induction buffers generalizing a w a' w' r with
  | nil =>
    cases run
    exact ⟨rfl, rfl, id, fun _ S =>
      ⟨S, fun why => why.resolve_right fun some_left => some_left rfl⟩⟩
  | cons target rest ih =>
    simp only [queueAll] at run
    cases first :
      queueCaptureBuffer target.bufferFd target.acquireFenceFd target.bufferSize a w with
    | mk answer out =>
      obtain ⟨a₁, w₁⟩ := out
      have attempted := queueCaptureBuffer_attempted first
      rw [first] at run
      cases answer with
      | none =>
        cases run
        exact ⟨attempted.fd, attempted.continuous, attempted.shut, fun some_left =>
          (some_left rfl).elim⟩
      | some token =>
        simp only at run
        cases later : queueAll rest a₁ w₁ with
        | mk answers out =>
          obtain ⟨a₂, w₂⟩ := out
          obtain ⟨fd, continuous, shut, settled⟩ := ih later
          rw [later] at run
          cases answers with
          | none =>
            cases run
            exact ⟨fd.trans attempted.fd, continuous.trans attempted.continuous,
              fun S => shut (attempted.shut S), fun some_left => (some_left rfl).elim⟩
          | some tokens =>
            cases run
            refine ⟨fd.trans attempted.fd, continuous.trans attempted.continuous,
              fun S => shut (attempted.shut S), fun _ S => ?_⟩
            obtain ⟨done, device⟩ := settled (by simp) (attempted.settled S (Or.inr (by simp)))
            exact ⟨done, fun _ => device (Or.inl (attempted.started token rfl))⟩

end Queueing

section Others

theorem dequeueCompletion_settled {readyFd : Int} {r : Option DriverCompletion}
    (R : Recorded w.kernel (counter a w))
    (run : a.dequeueCompletion readyFd w = (r, a', w')) :
    a'.fd = a.fd ∧ a'.deviceStreaming = a.deviceStreaming ∧
      a'.continuousStreaming = a.continuousStreaming ∧ (Shut a w.kernel → Shut a' w'.kernel) ∧
      (Settled a w.kernel → Settled a' w'.kernel) := by
  simp only [V4L2Adapter.dequeueCompletion] at run
  split at run
  · cases run
    exact ⟨rfl, rfl, rfl, id, id⟩
  cases asked : w.kernel.dqbuf a.node with
  | mk answer k =>
    rw [asked] at run
    have idle : (∀ index bytesUsed timestamp, answer ≠ .buffer index bytesUsed timestamp) →
        (Shut a w.kernel → Shut a k) ∧ (Settled a w.kernel → Settled a k) := by
      intro none_given
      have queues := (dqbuf_idle asked none_given).1
      refine ⟨fun S closed => ?_, fun S => ⟨?_, ?_⟩⟩
      · rw [queues]
        exact S closed
      · rw [queues]
        exact S.backed
      · rw [queues]
        exact S.running
    cases answer with
    | again =>
      cases run
      exact ⟨rfl, rfl, rfl, idle (by simp)⟩
    | failure error =>
      cases run
      obtain ⟨shut, settled⟩ := idle (by simp)
      exact ⟨rfl, rfl, rfl, shut, fun S => ⟨(settled S).backed, (settled S).running⟩⟩
    | buffer index bytesUsed timestamp =>
      obtain ⟨-, -, -, -, -, rest⟩ := dqbuf_recorded R asked
      have shut : Shut a w.kernel → Shut a k := by
        intro S closed
        refine List.eq_nil_iff_forall_not_mem.mpr fun b member => ?_
        have before := ((rest b).mp member).1
        rw [S closed] at before
        cases before
      have running : Settled a w.kernel → k.queues a.node ≠ [] → a.deviceStreaming = true := by
        intro S some_left
        obtain ⟨b, member⟩ := List.exists_mem_of_ne_nil _ some_left
        exact S.running (List.ne_nil_of_mem ((rest b).mp member).1)
      have kept : Settled a w.kernel → Settled a k := fun S =>
        ⟨fun b member => S.backed b ((rest b).mp member).1, running S⟩
      simp only at run
      split at run
      · cases run
        exact ⟨rfl, rfl, rfl, shut, fun S => ⟨(kept S).backed, running S⟩⟩
      · split at run
        · cases run
          refine ⟨rfl, rfl, rfl, shut, fun S => ⟨fun b member => ?_, running S⟩⟩
          obtain ⟨before, other⟩ := (rest b).mp member
          obtain ⟨slot, at_b, occupied⟩ := S.backed b before
          refine ⟨slot, ?_, occupied⟩
          simp only [clearQueuedRequest, List.getElem?_set_ne (Ne.symm other)]
          exact at_b
        · cases run
          exact ⟨rfl, rfl, rfl, shut, fun S => ⟨(kept S).backed, running S⟩⟩

theorem stopStreaming_empties (off : ∀ n, w.kernel.answers.streamOff n = true)
    (shut : Shut a w.kernel) (S : Settled a w.kernel) :
    (a.stopStreaming w).2.kernel.queues a.node = [] := by
  simp only [stopStreaming]
  split
  · simp [Kernel.streamOff, off]
  · rename_i inactive
    by_contra some_left
    have device := S.running some_left
    rcases Int.lt_or_le a.fd 0 with closed | opened
    · exact some_left (shut closed)
    · exact inactive ⟨opened, device⟩

theorem stopStreaming_shut (shut : Shut a w.kernel) :
    Shut (a.stopStreaming w).1 (a.stopStreaming w).2.kernel := by
  intro closed
  have before : a.fd < 0 := closed
  simp only [stopStreaming, if_neg (fun both : 0 ≤ a.fd ∧ _ => Int.not_lt.mpr both.1 before)]
  exact shut before

theorem close_empties (shut : Shut a w.kernel) :
    (a.close w).2.kernel.queues a.node = [] := by
  simp only [close]
  split
  · simp only [Kernel.release]
    exact Function.update_self _ _ _
  · rename_i closed
    exact stopStreaming_shut shut (Int.not_le.mp closed)

theorem configureStream_settled {ok : Bool} (shut : Shut a w.kernel) (S : Settled a w.kernel)
    (run : a.configureStream w = (ok, a', w')) :
    Shut a' w'.kernel ∧ Settled a' w'.kernel ∧
      (a'.continuousStreaming = true → a.continuousStreaming = true) := by
  have failed : ∀ error, a.fd < 0 → (false, (a.setError error).close
      { w with kernel := { w.kernel with configures := w.kernel.configures + 1 } }) =
        (ok, a', w') → Shut a' w'.kernel ∧ Settled a' w'.kernel ∧
          (a'.continuousStreaming = true → a.continuousStreaming = true) := by
    intro error closed same
    cases same
    have empty := close_empties (a := a.setError error)
      (w := { w with kernel := { w.kernel with configures := w.kernel.configures + 1 } })
      fun _ => shut closed
    exact ⟨fun _ => empty, settled_of_empty empty, fun active => by cases active⟩
  simp only [configureStream] at run
  split at run
  · cases run
    exact ⟨shut, S, id⟩
  rename_i unopened
  have closed := Int.not_le.mp unopened
  split at run
  · cases run
    exact ⟨fun _ => shut closed, settled_of_empty (shut closed), id⟩
  · exact failed _ closed run
  · exact failed _ closed run
  · exact failed _ closed run
  · exact failed _ closed run
  · exact failed _ closed run
  · split at run
    · exact failed _ closed run
    · cases run
      exact ⟨fun _ => shut closed, settled_of_empty (shut closed), id⟩

theorem startStreaming_settled (shut : Shut a w.kernel) (S : Settled a w.kernel) :
    Shut a.startStreaming.2 w.kernel ∧ Settled a.startStreaming.2 w.kernel ∧
      a.startStreaming.2.continuousStreaming = a.continuousStreaming := by
  simp only [V4L2Adapter.startStreaming]
  split <;> exact ⟨shut, ⟨S.backed, S.running⟩, rfl⟩

theorem startContinuousStream_settled {buffers : List OutputBufferTarget}
    {r : Option (List DriverToken)} (shut : Shut a w.kernel) (S : Settled a w.kernel)
    (run : startContinuousStream buffers a w = (r, a', w')) :
    Shut a' w'.kernel ∧
      (r ≠ none → Settled a' w'.kernel ∧ (buffers ≠ [] → a'.deviceStreaming = true)) := by
  simp only [startContinuousStream] at run
  split at run
  · cases run
    exact ⟨shut, fun some_left => (some_left rfl).elim⟩
  · cases all : queueAll buffers { a with continuousStreaming := true } w with
    | mk answers out =>
      obtain ⟨a₁, w₁⟩ := out
      obtain ⟨fd, -, later, settled⟩ := queueAll_settled all
      rw [all] at run
      cases answers with
      | none =>
        cases run
        exact ⟨later shut, fun some_left => (some_left rfl).elim⟩
      | some tokens =>
        cases run
        obtain ⟨done, device⟩ := settled (by simp) ⟨S.backed, S.running⟩
        exact ⟨later shut, fun _ => ⟨done, fun nonempty => device (Or.inr nonempty)⟩⟩

theorem returnStreamBuffer_settled {lease : StreamBufferLease} {r : Option DriverToken}
    (shut : Shut a w.kernel) (S : Settled a w.kernel)
    (device : a.continuousStreaming = true → a.deviceStreaming = true)
    (run : a.returnStreamBuffer lease w = (r, a', w')) :
    Shut a' w'.kernel ∧ Settled a' w'.kernel ∧
      (a'.continuousStreaming = true → a'.deviceStreaming = true) := by
  simp only [V4L2Adapter.returnStreamBuffer] at run
  split at run
  · rename_i continuous
    have attempted := queueCaptureBuffer_attempted run
    exact ⟨attempted.shut shut, attempted.settled S (Or.inl (device continuous)),
      fun _ => attempted.device (device continuous)⟩
  · cases run
    exact ⟨shut, S, device⟩

theorem canSubmitCaptureOutputs_iff {outputs : List OutputBufferTarget} :
    a.canSubmitCaptureOutputs outputs = true ↔
      outputs.length ≤ a.freeQueuedRequestCount ∧ a.streaming = true ∧ 0 ≤ a.fd ∧
        ∀ output ∈ outputs, 0 ≤ output.bufferFd ∧ a.bufferSize ≤ output.bufferSize := by
  simp only [canSubmitCaptureOutputs, Bool.and_eq_true, decide_eq_true_eq, List.all_eq_true]
  constructor
  · rintro ⟨⟨⟨streaming, opened⟩, room⟩, outputs⟩
    exact ⟨room, streaming, opened, outputs⟩
  · rintro ⟨room, streaming, opened, outputs⟩
    exact ⟨⟨⟨streaming, opened⟩, room⟩, outputs⟩

end Others

end MiniCam.V4L2.SlotBacking
