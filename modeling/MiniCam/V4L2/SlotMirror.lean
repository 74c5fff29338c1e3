/- Module: MiniCam/V4L2/SlotMirror
   source: hal/v4l2_driver_adapter.cpp
   digest: Every occupied slot is backed by the QBUF of its own token. -/

import MiniCam.V4L2.DriverAdapter
import MiniCam.V4L2.KernelHistory

set_option autoImplicit false
set_option relaxedAutoImplicit false

namespace MiniCam.V4L2.SlotMirror

open MiniCam.Hal.Interface
open MiniCam.V4L2.VideoNodes
open MiniCam.V4L2.DriverAdapter
open MiniCam.V4L2.DriverAdapter.V4L2Adapter
open MiniCam.V4L2.KernelHistory

variable {a a' : V4L2Adapter} {w w' : World}

def counter (a : V4L2Adapter) (w : World) : Nat :=
  if a.tokenGenerator then w.generator else a.nextToken

/-- An occupied slot is queued under its own index, with its descriptor and token. -/
def Mirror (a : V4L2Adapter) (k : Kernel) : Prop :=
  ∀ j slot, a.queuedRequests[j]? = some slot → slot.queued = true →
    { index := j, fd := slot.bufferFd, token := slot.token } ∈ k.queues a.node

section Submission

def issued (a : V4L2Adapter) : V4L2Adapter :=
  { a with nextToken := if a.tokenGenerator then a.nextToken else a.nextToken + 1 }

def issuedWorld (a : V4L2Adapter) (w : World) : World :=
  { w with generator := if a.tokenGenerator then w.generator + 1 else w.generator }

theorem issueToken_eq (a : V4L2Adapter) (w : World) :
    a.issueToken w = (counter a w, issued a, issuedWorld a w) := by
  simp only [issueToken, counter, issued, issuedWorld]
  split <;> rfl

/-- Nothing that a node holds has changed, nor any answer still to come but the
one that was asked for. -/
structure Quiet (w w' : World) : Prop where
  queues : w'.kernel.queues = w.kernel.queues
  history : w'.kernel.history = w.kernel.history
  answers : w'.kernel.answers = w.kernel.answers
  generator : w'.generator = w.generator

theorem closeFence_kernel (w : World) (fence : Int) : (closeFence w fence).kernel = w.kernel := by
  simp only [closeFence]
  split <;> rfl

theorem closeFence_generator (w : World) (fence : Int) :
    (closeFence w fence).generator = w.generator := by
  simp only [closeFence]
  split <;> rfl

theorem waitForFence_kernel (w : World) (fence : Int) (answer : Option String) :
    (waitForFence w fence answer).2.kernel = w.kernel ∧
      (waitForFence w fence answer).2.generator = w.generator := by
  simp only [waitForFence]
  split <;> exact ⟨rfl, rfl⟩

def boundSlot (token : DriverToken) (bufferFd : Int) (bufferSize : Nat) : V4L2QueuedRequest :=
  { token := token
    bufferFd := bufferFd
    acquireFenceFd := -1
    bufferSize := bufferSize
    queued := true }

private theorem qbuf_refused {k k' : Kernel} {node index : Nat} {fd : Int} {τ : DriverToken}
    {answer : Option String} {error : String}
    (done : k.qbuf node index fd τ answer = (some error, k')) :
    k' = k ∧ (answer ≠ none ∨ ∃ b ∈ k.queues node, b.index = index) := by
  simp only [Kernel.qbuf] at done
  split at done
  · cases done
    exact ⟨rfl, Or.inl (by simp)⟩
  · split at done <;> cases done
    rename_i occupied
    refine ⟨rfl, Or.inr ?_⟩
    simpa using occupied

inductive SlotOutcome (bufferFd : Int) (bufferSize : Nat) (answer : SubmissionAnswer)
    (a : V4L2Adapter) (w : World) : Option DriverToken → V4L2Adapter → World → Prop where
  | full (busy : ∀ slot ∈ a.queuedRequests, slot.queued = true) (error : String) :
    SlotOutcome bufferFd bufferSize answer a w none ((issued a).setError error) (issuedWorld a w)
  | rejected {i : Nat} {slot : V4L2QueuedRequest} (found : a.queuedRequests[i]? = some slot)
    (free : slot.queued = false)
    (refusal : answer.qbuf ≠ none ∨ ∃ b ∈ w.kernel.queues a.node, b.index = i) (error : String) :
    SlotOutcome bufferFd bufferSize answer a w none
      { issued a with queuedRequests := a.queuedRequests.set i {}, lastError := error }
      (issuedWorld a w)
  | unstarted {i : Nat} {slot : V4L2QueuedRequest} {k : Kernel}
    (found : a.queuedRequests[i]? = some slot) (free : slot.queued = false)
    (taken : w.kernel.qbuf a.node i bufferFd (counter a w) answer.qbuf = (none, k))
    (idle : a.deviceStreaming = false) (refusal : answer.streamOn ≠ none) (error : String) :
    SlotOutcome bufferFd bufferSize answer a w none
      { issued a with queuedRequests := a.queuedRequests.set i {}, lastError := error }
      { issuedWorld a w with kernel := k }
  | queued {i : Nat} {slot : V4L2QueuedRequest} {k : Kernel}
    (found : a.queuedRequests[i]? = some slot) (free : slot.queued = false)
    (taken : w.kernel.qbuf a.node i bufferFd (counter a w) answer.qbuf = (none, k))
    (running : a.deviceStreaming = true ∨ answer.streamOn = none) :
    SlotOutcome bufferFd bufferSize answer a w (some (counter a w))
      { issued a with
        queuedRequests := a.queuedRequests.set i (boundSlot (counter a w) bufferFd bufferSize)
        deviceStreaming := true }
      { issuedWorld a w with kernel := k }

theorem submitSlot_outcome {bufferFd : Int} (valid : 0 ≤ bufferFd) (bufferSize : Nat)
    (answer : SubmissionAnswer) (a : V4L2Adapter) (w : World) :
    SlotOutcome bufferFd bufferSize answer a w (submitSlot bufferFd bufferSize answer a w).1
      (submitSlot bufferFd bufferSize answer a w).2.1
      (submitSlot bufferFd bufferSize answer a w).2.2 := by
  simp only [submitSlot, issueToken_eq, bindFreeQueuedRequest]
  cases first : (issued a).queuedRequests.findIdx? fun r => !r.queued with
  | none =>
    refine SlotOutcome.full (fun slot member => ?_) _
    have busy := List.findIdx?_eq_none_iff.mp first slot member
    simpa using busy
  | some i =>
    obtain ⟨inside, free, -⟩ := List.findIdx?_eq_some_iff_getElem.mp first
    have at_i : a.queuedRequests[i]? = some a.queuedRequests[i] := List.getElem?_eq_getElem inside
    have open_slot : a.queuedRequests[i].queued = false := by
      have test : (!a.queuedRequests[i].queued) = true := free
      simpa using test
    simp only [if_neg (Int.not_lt.mpr valid), queueSlot]
    have slots : ∀ slot, ((issued a).queuedRequests.set i slot).set i {} =
        a.queuedRequests.set i {} := by
      intro slot
      exact List.set_set _
    cases taken : w.kernel.qbuf a.node i bufferFd (counter a w) answer.qbuf with
    | mk refusal k =>
      have at_kernel : (issuedWorld a w).kernel.qbuf (issued a).node i bufferFd (counter a w)
          answer.qbuf = (refusal, k) := taken
      rw [at_kernel]
      cases refusal with
      | some error =>
        simp only [clearQueuedRequest, setError, slots]
        obtain ⟨same, why⟩ := qbuf_refused taken
        subst same
        exact SlotOutcome.rejected at_i open_slot why _
      | none =>
        simp only
        split
        · rename_i running
          have already : a.deviceStreaming = true := running
          have outcome : SlotOutcome bufferFd bufferSize answer a w _ _ _ :=
            SlotOutcome.queued at_i open_slot taken (Or.inl already)
          rw [← already] at outcome
          exact outcome
        · rename_i stopped
          have idle : a.deviceStreaming = false := Bool.eq_false_iff.mpr stopped
          cases starts : answer.streamOn with
          | some error =>
            simp only [clearQueuedRequest, setError, slots]
            exact SlotOutcome.unstarted at_i open_slot taken idle (by simp [starts]) _
          | none => exact SlotOutcome.queued at_i open_slot taken (Or.inr starts)

def FencePasses (fence : Int) (answer : SubmissionAnswer) : Prop := fence < 0 ∨ answer.fence = none

theorem waitForFence_passes {w w' : World} {fence : Int} {answer : SubmissionAnswer}
    {r : Option String} (waited : waitForFence w fence answer.fence = (r, w')) :
    r = none ↔ FencePasses fence answer := by
  simp only [waitForFence] at waited
  split at waited
  · rename_i absent
    cases waited
    simp [FencePasses, absent]
  · rename_i present
    cases waited
    simp [FencePasses, present]

def Submittable (a : V4L2Adapter) (bufferFd : Int) (bufferSize : Nat) : Prop :=
  a.streaming = true ∧ 0 ≤ a.fd ∧ 0 ≤ bufferFd ∧ a.bufferSize ≤ bufferSize

/-- A capture buffer is refused before any token is issued, or reaches its slot with
the answers of its own attempt. -/
theorem queueCaptureBuffer_cases (bufferFd fence : Int) (bufferSize : Nat) (a : V4L2Adapter)
    (w : World) :
    ∃ w₁, Quiet w w₁ ∧
      (((∃ error, queueCaptureBuffer bufferFd fence bufferSize a w =
            (none, a.setError error, w₁)) ∧
          ¬ (Submittable a bufferFd bufferSize ∧
            FencePasses fence (w.kernel.answers.submission w.kernel.submissions))) ∨
        (Submittable a bufferFd bufferSize ∧
          FencePasses fence (w.kernel.answers.submission w.kernel.submissions) ∧
          w₁.kernel.submissions = w.kernel.submissions + 1 ∧
          queueCaptureBuffer bufferFd fence bufferSize a w =
            submitSlot bufferFd bufferSize
              (w.kernel.answers.submission w.kernel.submissions) a w₁)) := by
  have rest : Quiet w w := ⟨rfl, rfl, rfl, rfl⟩
  simp only [queueCaptureBuffer]
  split
  · rename_i stopped
    refine ⟨w, rest, Or.inl ⟨⟨_, rfl⟩, fun able => ?_⟩⟩
    rcases stopped with idle | shut
    · rw [able.1.1] at idle
      cases idle
    · exact Int.not_lt.mpr able.1.2.1 shut
  rename_i started
  rw [not_or] at started
  split
  · rename_i invalid
    exact ⟨w, rest, Or.inl ⟨⟨_, rfl⟩, fun able => Int.not_lt.mpr able.1.2.2.1 invalid⟩⟩
  rename_i valid
  split
  · rename_i small
    exact ⟨w, rest, Or.inl ⟨⟨_, rfl⟩, fun able => Nat.not_lt.mpr able.1.2.2.2 small⟩⟩
  rename_i fits
  have after : ∀ w₁ refusal, waitForFence
      { w with kernel := { w.kernel with submissions := w.kernel.submissions + 1 } } fence
      (w.kernel.answers.submission w.kernel.submissions).fence = (refusal, w₁) →
        Quiet w (closeFence w₁ fence) ∧
          (closeFence w₁ fence).kernel.submissions = w.kernel.submissions + 1 := by
    intro w₁ refusal waited
    obtain ⟨kernel, generator⟩ := waitForFence_kernel
      { w with kernel := { w.kernel with submissions := w.kernel.submissions + 1 } } fence
      (w.kernel.answers.submission w.kernel.submissions).fence
    rw [waited] at kernel generator
    simp only at kernel generator
    refine ⟨?_, ?_⟩
    · constructor <;> simp only [closeFence_kernel, closeFence_generator, kernel, generator]
    · simp only [closeFence_kernel, kernel]
  split
  · rename_i error w₁ failed
    refine ⟨closeFence w₁ fence, (after w₁ _ failed).1, Or.inl ⟨⟨_, rfl⟩, fun able => ?_⟩⟩
    cases (waitForFence_passes failed).mpr able.2
  · rename_i w₁ passed
    exact ⟨closeFence w₁ fence, (after w₁ _ passed).1, Or.inr ⟨⟨by simpa using started.1,
      Int.not_lt.mp started.2, Int.not_lt.mp valid, Nat.not_lt.mp fits⟩,
      (waitForFence_passes passed).mp rfl, (after w₁ _ passed).2, rfl⟩⟩

end Submission

section Advances

/-- The queues are explained by the history, and the slots by the queue of the
adapter's own node. -/
structure Sound (a : V4L2Adapter) (w : World) : Prop where
  recorded : Recorded w.kernel (counter a w)
  mirror : Mirror a w.kernel

structure Advance (a : V4L2Adapter) (w : World) (a' : V4L2Adapter) (w' : World) : Prop where
  node : a'.node = a.node
  tokenGenerator : a'.tokenGenerator = a.tokenGenerator
  sound : Sound a' w'
  others : ∀ n, n ≠ a.node → w'.kernel.queues n = w.kernel.queues n
  queue : ∀ b ∈ w'.kernel.queues a.node,
    b ∈ w.kernel.queues a.node ∨ SlotMirror.counter a w ≤ b.token
  answers : w'.kernel.answers = w.kernel.answers
  history : w.kernel.history <+: w'.kernel.history
  counter : SlotMirror.counter a w ≤ SlotMirror.counter a' w'

structure Issued (a : V4L2Adapter) (w : World) (a' : V4L2Adapter) (w' : World) (bufferFd : Int)
    (τ : Nat) : Prop where
  lower : SlotMirror.counter a w ≤ τ
  upper : τ < SlotMirror.counter a' w'
  queued : ∃ j, Event.qbuf a.node j bufferFd τ ∈ w'.kernel.history

theorem Advance.refl (S : Sound a w) : Advance a w a w :=
  ⟨rfl, rfl, S, fun _ _ => rfl, fun _ => Or.inl, rfl, List.prefix_refl _, Nat.le_refl _⟩

theorem Advance.trans {a₁ : V4L2Adapter} {w₁ : World} (first : Advance a w a₁ w₁)
    (second : Advance a₁ w₁ a' w') : Advance a w a' w' where
  node := second.node.trans first.node
  tokenGenerator := second.tokenGenerator.trans first.tokenGenerator
  sound := second.sound
  others := fun n other =>
    (second.others n (by rw [first.node]; exact other)).trans (first.others n other)
  queue := by
    intro b member
    rcases second.queue b (first.node ▸ member) with before | fresh
    · exact first.queue b (first.node ▸ before)
    · exact Or.inr (Nat.le_trans first.counter fresh)
  answers := second.answers.trans first.answers
  history := first.history.trans second.history
  counter := Nat.le_trans first.counter second.counter

theorem Issued.later {a₁ : V4L2Adapter} {w₁ : World} {bufferFd : Int} {τ : Nat}
    (I : Issued a w a₁ w₁ bufferFd τ) (next : Advance a₁ w₁ a' w') :
    Issued a w a' w' bufferFd τ where
  lower := I.lower
  upper := Nat.lt_of_lt_of_le I.upper next.counter
  queued := I.queued.imp fun _ member => next.history.subset member

theorem Issued.earlier {a₁ : V4L2Adapter} {w₁ : World} {bufferFd : Int} {τ : Nat}
    (first : Advance a w a₁ w₁) (I : Issued a₁ w₁ a' w' bufferFd τ) :
    Issued a w a' w' bufferFd τ where
  lower := Nat.le_trans first.counter I.lower
  upper := I.upper
  queued := first.node ▸ I.queued

theorem Sound.quiet (S : Sound a w) (queues : w'.kernel.queues = w.kernel.queues)
    (history : w'.kernel.history = w.kernel.history)
    (answers : w'.kernel.answers = w.kernel.answers) (node : a'.node = a.node)
    (tokenGenerator : a'.tokenGenerator = a.tokenGenerator)
    (slots : ∀ (j : Nat) (slot : V4L2QueuedRequest), a'.queuedRequests[j]? = some slot →
      slot.queued = true → a.queuedRequests[j]? = some slot)
    (grows : counter a w ≤ counter a' w') : Advance a w a' w' where
  node := node
  tokenGenerator := tokenGenerator
  sound := by
    refine ⟨(S.recorded.mono grows).congr queues history, fun j slot found occupied => ?_⟩
    rw [queues, node]
    exact S.mirror j slot (slots j slot found occupied) occupied
  others := fun n _ => by rw [queues]
  queue := fun b member => Or.inl (queues ▸ member)
  answers := answers
  history := history ▸ List.prefix_refl _
  counter := grows

theorem counter_issued (a : V4L2Adapter) (w : World) :
    counter (issued a) (issuedWorld a w) = counter a w + 1 := by
  simp only [counter, issued, issuedWorld]
  split <;> rfl

private theorem cleared_slot {slots : List V4L2QueuedRequest} {i j : Nat}
    {slot : V4L2QueuedRequest} (found : (slots.set i {})[j]? = some slot)
    (occupied : slot.queued = true) : slots[j]? = some slot := by
  rw [List.getElem?_set] at found
  split at found
  · split at found
    · cases found
      cases occupied
    · cases found
  · exact found

private theorem queued_sound (S : Sound a w) (a' : V4L2Adapter) {i : Nat}
    {slot : V4L2QueuedRequest} {k : Kernel} {bufferFd : Int} {answer : Option String}
    (found : a.queuedRequests[i]? = some slot)
    (taken : w.kernel.qbuf a.node i bufferFd (counter a w) answer = (none, k))
    (node : a'.node = a.node) (tokenGenerator : a'.tokenGenerator = a.tokenGenerator)
    (after : counter a' { issuedWorld a w with kernel := k } = counter a w + 1)
    (slots : ∀ (j : Nat) (slot : V4L2QueuedRequest), a'.queuedRequests[j]? = some slot →
      slot.queued = true → a.queuedRequests[j]? = some slot ∨
        (j = i ∧ slot.bufferFd = bufferFd ∧ slot.token = counter a w)) :
    Advance a w a' { issuedWorld a w with kernel := k } ∧
      ∃ j, Event.qbuf a.node j bufferFd (counter a w) ∈ k.history := by
  obtain ⟨recorded, queues, history, answers⟩ := qbuf_recorded S.recorded (Nat.le_refl _) taken
  refine ⟨⟨node, tokenGenerator, ⟨?_, fun j slot at_j occupied => ?_⟩, fun n other => ?_,
    fun b member => ?_, answers, ?_, ?_⟩, i, ?_⟩
  · rw [after]
    exact recorded
  · simp only [queues, node, Function.update_self, List.mem_append, List.mem_singleton]
    rcases slots j slot at_j occupied with old | ⟨rfl, fd, token⟩
    · exact Or.inl (S.mirror j slot old occupied)
    · exact Or.inr (by rw [fd, token])
  · simp only [queues, Function.update_of_ne other]
  · simp only [queues, Function.update_self, List.mem_append, List.mem_singleton] at member
    rcases member with before | rfl
    · exact Or.inl before
    · exact Or.inr (Nat.le_refl _)
  · simp only [history]
    exact List.prefix_append _ _
  · rw [after]
    exact Nat.le_succ _
  · rw [history]
    simp

private theorem submitSlot_advance (S : Sound a w) {bufferFd : Int} {bufferSize : Nat}
    {answer : SubmissionAnswer} {r : Option DriverToken}
    (outcome : SlotOutcome bufferFd bufferSize answer a w r a' w') :
    Advance a w a' w' ∧ ∀ τ, r = some τ → Issued a w a' w' bufferFd τ := by
  have grows := counter_issued a w
  cases outcome with
  | full busy error =>
    refine ⟨S.quiet rfl rfl rfl rfl rfl (fun _ _ found _ => found) ?_, (by intros; contradiction)⟩
    exact Nat.le_of_lt (Nat.lt_of_lt_of_eq (Nat.lt_succ_self _) grows.symm)
  | rejected found free refusal error =>
    refine ⟨S.quiet rfl rfl rfl rfl rfl (fun _ _ => cleared_slot) ?_, (by intros; contradiction)⟩
    exact Nat.le_of_lt (Nat.lt_of_lt_of_eq (Nat.lt_succ_self _) grows.symm)
  | @unstarted i slot k found free taken idle refusal error =>
    refine ⟨(queued_sound S
      { issued a with queuedRequests := a.queuedRequests.set i {}, lastError := error } found taken
      rfl rfl grows ?_).1, fun τ none_left => by cases none_left⟩
    exact fun j slot at_j occupied => Or.inl (cleared_slot at_j occupied)
  | @queued i slot k found free taken running =>
    have slots : ∀ (j : Nat) (slot' : V4L2QueuedRequest),
        (a.queuedRequests.set i (boundSlot (counter a w) bufferFd bufferSize))[j]? = some slot' →
        slot'.queued = true → a.queuedRequests[j]? = some slot' ∨
          (j = i ∧ slot'.bufferFd = bufferFd ∧ slot'.token = counter a w) := by
      intro j slot' at_j occupied
      rw [List.getElem?_set] at at_j
      split at at_j
      · rename_i same
        split at at_j
        · cases at_j
          exact Or.inr ⟨same.symm, rfl, rfl⟩
        · cases at_j
      · exact Or.inl at_j
    obtain ⟨advance, event⟩ := queued_sound S { issued a with
      queuedRequests := a.queuedRequests.set i (boundSlot (counter a w) bufferFd bufferSize)
      deviceStreaming := true } found taken rfl rfl grows slots
    refine ⟨advance, fun τ same => ?_⟩
    cases same
    exact ⟨Nat.le_refl _, Nat.lt_of_lt_of_eq (Nat.lt_succ_self _) grows.symm, event⟩

theorem queueCaptureBuffer_advance (S : Sound a w) {bufferFd fence : Int} {bufferSize : Nat}
    {r : Option DriverToken}
    (run : queueCaptureBuffer bufferFd fence bufferSize a w = (r, a', w')) :
    Advance a w a' w' ∧ ∀ τ, r = some τ → Issued a w a' w' bufferFd τ := by
  obtain ⟨w₁, quiet, ⟨⟨error, refused⟩, -⟩ | ⟨able, -, -, passed⟩⟩ :=
    queueCaptureBuffer_cases bufferFd fence bufferSize a w
  · rw [run] at refused
    cases refused
    refine ⟨S.quiet quiet.queues quiet.history quiet.answers rfl rfl (fun _ _ found _ => found) ?_,
      fun τ none_left => by cases none_left⟩
    simp [counter, setError, quiet.generator]
  · have waited : Advance a w a w₁ := by
      refine S.quiet quiet.queues quiet.history quiet.answers rfl rfl (fun _ _ found _ => found) ?_
      simp [counter, quiet.generator]
    have outcome := submitSlot_outcome able.2.2.1 bufferSize
      (w.kernel.answers.submission w.kernel.submissions) a w₁
    rw [← passed, run] at outcome
    obtain ⟨advance, issued⟩ := submitSlot_advance waited.sound outcome
    exact ⟨waited.trans advance, fun τ same => Issued.earlier waited (issued τ same)⟩

theorem queueAll_advance {buffers : List OutputBufferTarget} (S : Sound a w)
    {r : Option (List DriverToken)} (run : queueAll buffers a w = (r, a', w')) :
    Advance a w a' w' ∧ ∀ tokens, r = some tokens →
      List.Forall₂ (fun τ buffer => Issued a w a' w' buffer.bufferFd τ) tokens buffers := by
  induction buffers generalizing a w a' w' r with
  | nil =>
    cases run
    refine ⟨Advance.refl S, fun tokens same => ?_⟩
    cases same
    exact List.Forall₂.nil
  | cons target rest ih =>
    simp only [queueAll] at run
    cases first :
      queueCaptureBuffer target.bufferFd target.acquireFenceFd target.bufferSize a w with
    | mk answer out =>
      obtain ⟨a₁, w₁⟩ := out
      obtain ⟨advance, issued⟩ := queueCaptureBuffer_advance S first
      rw [first] at run
      cases answer with
      | none =>
        cases run
        exact ⟨advance, fun tokens none_left => by cases none_left⟩
      | some token =>
        simp only at run
        cases later : queueAll rest a₁ w₁ with
        | mk answers out =>
          obtain ⟨a₂, w₂⟩ := out
          obtain ⟨more, tokens⟩ := ih advance.sound later
          rw [later] at run
          cases answers with
          | none =>
            cases run
            exact ⟨advance.trans more, fun tokens none_left => by cases none_left⟩
          | some rest_tokens =>
            cases run
            refine ⟨advance.trans more, fun all same => ?_⟩
            cases same
            refine List.Forall₂.cons ((issued token rfl).later more) ?_
            exact (tokens rest_tokens rfl).imp fun τ buffer => Issued.earlier advance

theorem startContinuousStream_advance {buffers : List OutputBufferTarget} (S : Sound a w)
    {r : Option (List DriverToken)} (run : startContinuousStream buffers a w = (r, a', w')) :
    Advance a w a' w' ∧ ∀ tokens, r = some tokens →
      List.Forall₂ (fun τ buffer => Issued a w a' w' buffer.bufferFd τ) tokens buffers := by
  have marked : Sound { a with continuousStreaming := true } w := ⟨S.recorded, S.mirror⟩
  simp only [startContinuousStream] at run
  split at run
  · cases run
    exact ⟨S.quiet rfl rfl rfl rfl rfl (fun _ _ found _ => found) (Nat.le_refl _),
      fun tokens none_left => by cases none_left⟩
  · cases all : queueAll buffers { a with continuousStreaming := true } w with
    | mk answers out =>
      obtain ⟨a₁, w₁⟩ := out
      obtain ⟨⟨node, generator, sound, others, queue, kept, history, grows⟩, tokens⟩ :=
        queueAll_advance marked all
      rw [all] at run
      cases answers with
      | none =>
        cases run
        exact ⟨⟨node, generator, ⟨sound.recorded, sound.mirror⟩, others, queue, kept, history,
          grows⟩,
          fun tokens none_left => by cases none_left⟩
      | some given =>
        cases run
        refine ⟨⟨node, generator, sound, others, queue, kept, history, grows⟩, fun all same => ?_⟩
        exact (tokens all same).imp fun τ buffer issued =>
          ⟨issued.lower, issued.upper, issued.queued⟩

theorem returnStreamBuffer_advance {lease : StreamBufferLease} (S : Sound a w)
    {r : Option DriverToken} (run : a.returnStreamBuffer lease w = (r, a', w')) :
    Advance a w a' w' ∧ ∀ τ, r = some τ → τ = 0 ∨ Issued a w a' w' lease.bufferFd τ := by
  simp only [V4L2Adapter.returnStreamBuffer] at run
  split at run
  · obtain ⟨advance, issued⟩ := queueCaptureBuffer_advance S run
    exact ⟨advance, fun τ same => Or.inr (issued τ same)⟩
  · cases run
    refine ⟨Advance.refl S, fun τ same => ?_⟩
    cases same
    exact Or.inl rfl

def Finished (k : Kernel) (τ : DriverToken) : Prop :=
  ∃ node index fd p q, Matched k.history node { index := index, fd := fd, token := τ } p q

theorem dequeueCompletion_advance {readyFd : Int} (S : Sound a w) {r : Option DriverCompletion}
    (run : a.dequeueCompletion readyFd w = (r, a', w')) :
    Advance a w a' w' ∧ ∀ completion, r = some completion →
      Finished w'.kernel completion.token ∧ completion.token < counter a w ∧
        ∀ b ∈ w'.kernel.queues a.node, b.token ≠ completion.token := by
  simp only [V4L2Adapter.dequeueCompletion] at run
  split at run
  · cases run
    exact ⟨Advance.refl S, fun completion none_left => by cases none_left⟩
  cases asked : w.kernel.dqbuf a.node with
  | mk answer k =>
    rw [asked] at run
    have untouched : (∀ index bytesUsed timestamp, answer ≠ .buffer index bytesUsed timestamp) →
        ∀ a₁ : V4L2Adapter, a₁.node = a.node → a₁.tokenGenerator = a.tokenGenerator →
          a₁.queuedRequests = a.queuedRequests → a₁.nextToken = a.nextToken →
            Advance a w a₁ { w with kernel := k } := by
      intro idle a₁ node generator slots tokens
      obtain ⟨queues, history, answers⟩ := dqbuf_idle asked idle
      refine S.quiet queues history answers node generator (fun _ _ found _ => slots ▸ found) ?_
      simp [counter, generator, tokens]
    cases answer with
    | again =>
      cases run
      exact ⟨untouched (by simp) a rfl rfl rfl rfl, fun completion none_left => by cases none_left⟩
    | failure error =>
      cases run
      exact ⟨untouched (by simp) _ rfl rfl rfl rfl, fun completion none_left => by cases none_left⟩
    | buffer index bytesUsed timestamp =>
      obtain ⟨recorded, history, answers, others, gone, rest⟩ := dqbuf_recorded S.recorded asked
      have advance : ∀ a₁ : V4L2Adapter, a₁.node = a.node →
          a₁.tokenGenerator = a.tokenGenerator → a₁.nextToken = a.nextToken →
          (∀ (j : Nat) (slot : V4L2QueuedRequest), a₁.queuedRequests[j]? = some slot →
            slot.queued = true → j ≠ index ∧ a.queuedRequests[j]? = some slot) →
              Advance a w a₁ { w with kernel := k } := by
        intro a₁ node generator tokens slots
        have same : counter a₁ { w with kernel := k } = counter a w := by
          simp [counter, generator, tokens]
        refine ⟨node, generator, ⟨same ▸ recorded, fun j slot found occupied => ?_⟩, others,
          fun b member => Or.inl ((rest b).mp member).1, answers, ?_, Nat.le_of_eq same.symm⟩
        · obtain ⟨other, before⟩ := slots j slot found occupied
          rw [node]
          exact (rest _).mpr ⟨S.mirror j slot before occupied, other⟩
        · simp only [history]
          exact List.prefix_append _ _
      simp only at run
      split at run
      · rename_i outside
        cases run
        refine ⟨advance _ rfl rfl rfl fun j slot found _ => ⟨?_, found⟩,
          fun completion none_left => by cases none_left⟩
        rintro rfl
        rw [queuedRequestForIndex] at outside
        exact absurd (found.symm.trans outside) (by simp)
      · rename_i slot at_slot
        split at run
        · rename_i occupied
          cases run
          refine ⟨advance _ rfl rfl rfl fun j slot' found held => ?_, fun completion same => ?_⟩
          · refine ⟨?_, cleared_slot found held⟩
            rintro rfl
            rw [clearQueuedRequest] at found
            rw [List.getElem?_set_self (List.getElem?_eq_some_iff.mp at_slot).1] at found
            cases found
            cases held
          · cases same
            have held := S.mirror index slot at_slot occupied
            obtain ⟨p, matched⟩ := gone _ held rfl
            refine ⟨⟨a.node, index, slot.bufferFd, p, _, matched⟩, S.recorded.token_below held, ?_⟩
            intro b member same
            obtain ⟨before, other⟩ := (rest b).mp member
            rw [S.recorded.token_unique before held same] at other
            exact other rfl
        · rename_i vacant
          cases run
          refine ⟨advance _ rfl rfl rfl fun j slot' found held => ⟨?_, found⟩,
            fun completion none_left => by cases none_left⟩
          rintro rfl
          rw [queuedRequestForIndex] at at_slot
          obtain rfl := Option.some.inj (at_slot.symm.trans found)
          exact vacant held

def Vacant (a : V4L2Adapter) : Prop := ∀ slot ∈ a.queuedRequests, slot.queued = false

theorem Vacant.mirror (free : Vacant a) (k : Kernel) : Mirror a k := by
  intro j slot found occupied
  rw [free slot (List.mem_of_getElem? found)] at occupied
  cases occupied

private theorem vacated_advance (S : Sound a w) {k : Kernel} (free : Vacant a')
    (node : a'.node = a.node) (tokenGenerator : a'.tokenGenerator = a.tokenGenerator)
    (nextToken : a'.nextToken = a.nextToken)
    (answers : k.answers = w.kernel.answers)
    (emptied : (k.queues = w.kernel.queues ∧ k.history = w.kernel.history) ∨
      ∃ e, (e = .streamOff a.node ∨ e = .release a.node) ∧
        k.queues = Function.update w.kernel.queues a.node [] ∧
        k.history = w.kernel.history ++ [e]) : Advance a w a' { w with kernel := k } := by
  have same : counter a' { w with kernel := k } = counter a w := by
    simp [counter, tokenGenerator, nextToken]
  rcases emptied with ⟨queues, history⟩ | ⟨e, whole, queues, history⟩
  · refine ⟨node, tokenGenerator, ⟨?_, free.mirror _⟩, fun n _ => by rw [queues],
      fun b member => Or.inl (queues ▸ member), answers, ?_, Nat.le_of_eq same.symm⟩
    · rw [same]
      exact S.recorded.congr queues history
    · simp only [history]
      exact List.prefix_refl _
  · refine ⟨node, tokenGenerator, ⟨?_, free.mirror _⟩, fun n other => ?_, fun b member => ?_,
      answers, ?_, Nat.le_of_eq same.symm⟩
    · rw [same]
      exact (emptied_recorded S.recorded whole).congr queues history
    · simp only [queues, Function.update_of_ne other]
    · simp only [queues, Function.update_self] at member
      cases member
    · simp only [history]
      exact List.prefix_append _ _

private theorem streamOff_effect (k : Kernel) (node : Nat) :
    ((k.streamOff node).queues = k.queues ∧ (k.streamOff node).history = k.history) ∨
      ((k.streamOff node).queues = Function.update k.queues node [] ∧
        (k.streamOff node).history = k.history ++ [.streamOff node]) := by
  simp only [Kernel.streamOff]
  split
  · exact Or.inr ⟨rfl, rfl⟩
  · exact Or.inl ⟨rfl, rfl⟩

theorem resetQueuedRequests_vacant (a : V4L2Adapter) : Vacant a.resetQueuedRequests := by
  intro slot member
  simp only [resetQueuedRequests, List.mem_map] at member
  obtain ⟨-, -, rfl⟩ := member
  rfl

theorem stopStreaming_advance (S : Sound a w) :
    Advance a w (a.stopStreaming w).1 (a.stopStreaming w).2 := by
  refine vacated_advance S (resetQueuedRequests_vacant a) rfl rfl rfl ?_ ?_
  · split
    · simp only [Kernel.streamOff]
      split <;> rfl
    · rfl
  split
  · rcases streamOff_effect w.kernel a.node with kept | emptied
    · exact Or.inl kept
    · exact Or.inr ⟨_, Or.inl rfl, emptied⟩
  · exact Or.inl ⟨rfl, rfl⟩

theorem close_advance (S : Sound a w) : Advance a w (a.close w).1 (a.close w).2 := by
  have stopped := stopStreaming_advance S
  refine stopped.trans ?_
  refine vacated_advance stopped.sound ?_ rfl rfl rfl ?_ ?_
  · intro slot member
    cases member
  · split <;> rfl
  · split
    · exact Or.inr ⟨_, Or.inr rfl, rfl, rfl⟩
    · exact Or.inl ⟨rfl, rfl⟩

theorem configureStream_advance (S : Sound a w) {ok : Bool}
    (run : a.configureStream w = (ok, a', w')) : Advance a w a' w' := by
  simp only [configureStream] at run
  split at run
  · cases run
    exact Advance.refl S
  have asked : ∀ error, Advance a w (a.setError error)
      { w with kernel := { w.kernel with configures := w.kernel.configures + 1 } } := by
    intro error
    exact S.quiet rfl rfl rfl rfl rfl (fun _ _ found _ => found) (Nat.le_refl _)
  have failed : ∀ error, (false, (a.setError error).close
      { w with kernel := { w.kernel with configures := w.kernel.configures + 1 } }) =
        (ok, a', w') → Advance a w a' w' := by
    intro error same
    cases same
    exact (asked error).trans (close_advance (asked error).sound)
  split at run
  · cases run
    exact asked _
  · exact failed _ run
  · exact failed _ run
  · exact failed _ run
  · exact failed _ run
  · exact failed _ run
  · split at run
    · exact failed _ run
    · cases run
      refine vacated_advance S ?_ rfl rfl rfl rfl (Or.inl ⟨rfl, rfl⟩)
      intro slot member
      rw [(List.mem_replicate.mp member).2]

theorem create_sound (node : Nat) (config : V4L2StreamConfig) (tokenGenerator : Bool)
    (answers : Answers) (generator : Nat) (log : List FenceEvent) :
    Sound (V4L2Adapter.create node config tokenGenerator)
      { kernel := Kernel.boot answers, generator := generator, fences := log } := by
  refine ⟨?_, Vacant.mirror (fun slot member => ?_) _⟩
  · constructor <;> simp [Kernel.boot]
  · simp [V4L2Adapter.create] at member

theorem startStreaming_advance (S : Sound a w) : Advance a w a.startStreaming.2 w := by
  simp only [V4L2Adapter.startStreaming]
  split <;> exact S.quiet rfl rfl rfl rfl rfl (fun _ _ found _ => found) (Nat.le_refl _)

end Advances

end MiniCam.V4L2.SlotMirror
