/- Module: MiniCam/V4L2/FenceUses
   source: hal/v4l2_driver_adapter.cpp
   digest: Which calls of a driver wait for a fence and close it. -/

import MiniCam.Hal.ReleaseFences
import MiniCam.V4L2.MultiStream
import MiniCam.V4L2.SlotMirror

set_option autoImplicit false
set_option relaxedAutoImplicit false

namespace MiniCam.V4L2.FenceUses

open MiniCam.Hal.Interface
open MiniCam.Hal.ReleaseFences (fences fences_cons)
open MiniCam.V4L2.VideoNodes
open MiniCam.V4L2.DriverAdapter
open MiniCam.V4L2.DriverAdapter.V4L2Adapter
open MiniCam.V4L2.MultiStream
open MiniCam.V4L2.SlotMirror

section Uses

def use (fd : Int) : List FenceEvent := [.polled fd, .closed fd]

def bufferFences (buffers : List OutputBufferTarget) : List Int :=
  fences (buffers.map (·.acquireFenceFd))

/-- Some of the offered fences were used, in their order, and nothing else. -/
def Uses (offered : List Int) (before after : List FenceEvent) : Prop :=
  ∃ used : List Int, used.Sublist offered ∧ after = before ++ used.flatMap use

variable {before after later : List FenceEvent} {offered more : List Int}

theorem Uses.nothing (offered : List Int) (log : List FenceEvent) : Uses offered log log :=
  ⟨[], List.nil_sublist _, by simp⟩

theorem Uses.trans (first : Uses offered before after) (second : Uses more after later) :
    Uses (offered ++ more) before later := by
  obtain ⟨used, some_used, rfl⟩ := first
  obtain ⟨used', some_used', rfl⟩ := second
  exact ⟨used ++ used', some_used.append some_used', by simp⟩

theorem Uses.mono (U : Uses offered before after) (sub : offered.Sublist more) :
    Uses more before after := by
  obtain ⟨used, some_used, rfl⟩ := U
  exact ⟨used, some_used.trans sub, rfl⟩

theorem Uses.grows (U : Uses offered before after) : before <+: after := by
  obtain ⟨used, -, rfl⟩ := U
  exact List.prefix_append _ _

theorem bufferFences_cons (buffer : OutputBufferTarget) (buffers : List OutputBufferTarget) :
    bufferFences (buffer :: buffers) = fences [buffer.acquireFenceFd] ++ bufferFences buffers :=
  fences_cons _ _

end Uses

section Adapter

variable {a a' : V4L2Adapter} {w w' : World}

instance submittableDecidable (a : V4L2Adapter) (bufferFd : Int) (bufferSize : Nat) :
    Decidable (Submittable a bufferFd bufferSize) :=
  inferInstanceAs (Decidable (a.streaming = true ∧ 0 ≤ a.fd ∧ 0 ≤ bufferFd ∧
    a.bufferSize ≤ bufferSize))

private theorem waited_fences (w : World) (fence : Int) (answer : Option String) :
    (closeFence (waitForFence w fence answer).2 fence).fences =
      w.fences ++ (fences [fence]).flatMap use := by
  by_cases absent : fence < 0
  · simp [waitForFence, closeFence, absent, fences, Int.not_le.mpr absent]
  · have present := Int.not_lt.mp absent
    simp [waitForFence, closeFence, absent, fences, present, use]

private theorem submitSlot_fences (bufferFd : Int) (bufferSize : Nat) (answer : SubmissionAnswer)
    (a : V4L2Adapter) (w : World) :
    (submitSlot bufferFd bufferSize answer a w).2.2.fences = w.fences := by
  simp only [submitSlot, issueToken_eq, bindFreeQueuedRequest]
  split
  · rfl
  · split
    · rfl
    · simp only [queueSlot]
      split
      · rfl
      · split
        · rfl
        · split <;> rfl

theorem queueCaptureBuffer_fences (bufferFd fence : Int) (bufferSize : Nat) (a : V4L2Adapter)
    (w : World) :
    (queueCaptureBuffer bufferFd fence bufferSize a w).2.2.fences =
      w.fences ++
        if Submittable a bufferFd bufferSize then (fences [fence]).flatMap use else [] := by
  simp only [queueCaptureBuffer]
  split
  · rename_i stopped
    have unable : ¬ Submittable a bufferFd bufferSize := by
      rintro ⟨streaming, opened, -, -⟩
      rcases stopped with idle | shut
      · rw [streaming] at idle
        cases idle
      · omega
    rw [if_neg unable, List.append_nil]
  rename_i started
  split
  · rename_i invalid
    have unable : ¬ Submittable a bufferFd bufferSize := fun able => by
      have := able.2.2.1
      omega
    rw [if_neg unable, List.append_nil]
  rename_i valid
  split
  · rename_i small
    have unable : ¬ Submittable a bufferFd bufferSize := fun able => by
      have := able.2.2.2
      omega
    rw [if_neg unable, List.append_nil]
  rename_i fits
  have able : Submittable a bufferFd bufferSize := by
    rw [not_or] at started
    exact ⟨by simpa using started.1, Int.not_lt.mp started.2, Int.not_lt.mp valid,
      Nat.not_lt.mp fits⟩
  rw [if_pos able]
  have waited := waited_fences
    { w with kernel := { w.kernel with submissions := w.kernel.submissions + 1 } } fence
    (w.kernel.answers.submission w.kernel.submissions).fence
  split
  · rename_i error w₁ failed
    rw [failed] at waited
    exact waited
  · rename_i w₁ passed
    rw [passed] at waited
    rw [submitSlot_fences]
    exact waited

theorem queueCaptureBuffer_uses (bufferFd fence : Int) (bufferSize : Nat) (a : V4L2Adapter)
    (w : World) : Uses (fences [fence]) w.fences
      (queueCaptureBuffer bufferFd fence bufferSize a w).2.2.fences := by
  rw [queueCaptureBuffer_fences]
  split
  · exact ⟨_, List.Sublist.refl _, rfl⟩
  · exact ⟨[], List.nil_sublist _, by simp⟩

theorem queueAll_uses (buffers : List OutputBufferTarget) (a : V4L2Adapter) (w : World) :
    Uses (bufferFences buffers) w.fences (queueAll buffers a w).2.2.fences := by
  induction buffers generalizing a w with
  | nil => exact Uses.nothing _ _
  | cons buffer rest ih =>
    have first := queueCaptureBuffer_uses buffer.bufferFd buffer.acquireFenceFd buffer.bufferSize
      a w
    rw [bufferFences_cons]
    simp only [queueAll]
    cases asked : queueCaptureBuffer buffer.bufferFd buffer.acquireFenceFd buffer.bufferSize a w
      with
    | mk answer out =>
      obtain ⟨a₁, w₁⟩ := out
      rw [asked] at first
      cases answer with
      | none => exact first.mono (List.sublist_append_left _ _)
      | some token =>
        have whole := first.trans (ih a₁ w₁)
        simp only
        cases rested : queueAll rest a₁ w₁ with
        | mk answers out =>
          obtain ⟨a₂, w₂⟩ := out
          rw [rested] at whole
          cases answers <;> exact whole

theorem startContinuousStream_uses (buffers : List OutputBufferTarget) (a : V4L2Adapter)
    (w : World) :
    Uses (bufferFences buffers) w.fences (startContinuousStream buffers a w).2.2.fences := by
  simp only [startContinuousStream]
  split
  · exact Uses.nothing _ _
  · have all := queueAll_uses buffers { a with continuousStreaming := true } w
    cases asked : queueAll buffers { a with continuousStreaming := true } w with
    | mk answers out =>
      obtain ⟨a₁, w₁⟩ := out
      rw [asked] at all
      cases answers <;> exact all

theorem returnStreamBuffer_uses (lease : StreamBufferLease) (a : V4L2Adapter) (w : World) :
    Uses (fences [lease.consumerReleaseFenceFd]) w.fences
      (a.returnStreamBuffer lease w).2.2.fences := by
  simp only [V4L2Adapter.returnStreamBuffer]
  split
  · exact queueCaptureBuffer_uses _ _ _ _ _
  · exact Uses.nothing _ _

theorem stopStreaming_fences (a : V4L2Adapter) (w : World) :
    (a.stopStreaming w).2.fences = w.fences := rfl

theorem close_fences (a : V4L2Adapter) (w : World) : (a.close w).2.fences = w.fences := rfl

theorem configureStream_fences (a : V4L2Adapter) (w : World) :
    (a.configureStream w).2.2.fences = w.fences := by
  simp only [configureStream]
  split
  · rfl
  split
  case h_7 =>
    split <;> rfl
  all_goals rfl

theorem dequeueCompletion_fences (readyFd : Int) (a : V4L2Adapter) (w : World) :
    (a.dequeueCompletion readyFd w).2.2.fences = w.fences := by
  simp only [V4L2Adapter.dequeueCompletion]
  split
  · rfl
  split
  · rfl
  · rfl
  split
  · rfl
  · split <;> rfl

end Adapter

section Drivers

variable {δ : Type}

/-- A driver that uses only the fences it is handed, each call at most once each. -/
structure FenceLog (D : DriverAdapter δ) where
  log : δ → List FenceEvent
  configures : ∀ d, log (D.configureStream d).2 = log d
  starts : ∀ d, log (D.startStreaming d).2 = log d
  stops : ∀ d, log (D.stopStreaming d) = log d
  closes : ∀ d, log (D.close d) = log d
  preflights : ∀ outputs d, log (D.canSubmitCaptureOutputs outputs d).2 = log d
  dequeues : ∀ readyFd d, log (D.dequeueCompletion readyFd d).2 = log d
  submits : ∀ target d,
    Uses (fences [target.acquireFenceFd]) (log d) (log (D.submitCapture target d).2)
  streams : ∀ stream buffers d,
    Uses (bufferFences buffers) (log d) (log (D.startContinuousStream stream buffers d).2)
  returns : ∀ lease d,
    Uses (fences [lease.consumerReleaseFenceFd]) (log d) (log (D.returnStreamBuffer lease d).2)

def singleLog : FenceLog single where
  log := fun d => d.world.fences
  configures := fun d => configureStream_fences d.adapter d.world
  starts := fun _ => rfl
  stops := fun _ => rfl
  closes := fun _ => rfl
  preflights := fun _ _ => rfl
  dequeues := fun readyFd d => dequeueCompletion_fences readyFd d.adapter d.world
  submits := fun target d => queueCaptureBuffer_uses target.bufferFd target.acquireFenceFd
    target.bufferSize d.adapter d.world
  streams := fun _ buffers d => startContinuousStream_uses buffers d.adapter d.world
  returns := fun lease d => returnStreamBuffer_uses lease d.adapter d.world

private theorem callAll_fences (call : V4L2Adapter → World → V4L2Adapter × World)
    (spec : ∀ a w, (call a w).2.fences = w.fences) (endpoints : List Endpoint) (w : World) :
    (MultiDriver.callAll call endpoints w).2.fences = w.fences := by
  induction endpoints generalizing w with
  | nil => rfl
  | cons endpoint rest ih =>
    simp only [MultiDriver.callAll]
    rw [ih, spec]

private theorem tryAll_fences (call : V4L2Adapter → World → Bool × V4L2Adapter × World)
    (spec : ∀ a w, (call a w).2.2.fences = w.fences) (endpoints : List Endpoint) (w : World) :
    (MultiDriver.tryAll call endpoints w).2.2.fences = w.fences := by
  induction endpoints generalizing w with
  | nil => rfl
  | cons endpoint rest ih =>
    have first := spec endpoint.adapter w
    simp only [MultiDriver.tryAll]
    cases answer : call endpoint.adapter w with
    | mk ok out =>
      rw [answer] at first
      cases ok with
      | false => exact first
      | true =>
        simp only
        rw [ih]
        exact first

private theorem forward_uses {α : Type} (m : MultiDriver) (index : Option Nat) (missing : String)
    (call : V4L2Adapter → World → Option α × V4L2Adapter × World) {offered : List Int}
    (spec : ∀ a w, Uses offered w.fences (call a w).2.2.fences) :
    Uses offered m.world.fences (m.forward index missing call).2.world.fences := by
  simp only [MultiDriver.forward]
  split
  · exact Uses.nothing _ _
  · rename_i i endpoint found
    have called := spec endpoint.adapter m.world
    cases answer : call endpoint.adapter m.world with
    | mk r out =>
      rw [answer] at called
      cases r <;> exact called

def multiLog : FenceLog multi where
  log := fun m => m.world.fences
  configures := by
    intro m
    simp only [multi, MultiDriver.configureStream]
    split
    · rfl
    have opened := tryAll_fences V4L2Adapter.configureStream configureStream_fences m.endpoints
      m.world
    split
    · rename_i error endpoints w failed
      rw [failed] at opened
      simp only [MultiDriver.close]
      rw [callAll_fences V4L2Adapter.close close_fences]
      exact opened
    · rename_i endpoints w passed
      rw [passed] at opened
      exact opened
  starts := by
    intro m
    simp only [multi, MultiDriver.startStreaming]
    have started := tryAll_fences (fun a w => (a.startStreaming.1, a.startStreaming.2, w))
      (fun _ _ => rfl) m.endpoints m.world
    split
    · rename_i error endpoints w failed
      rw [failed] at started
      exact started
    · rename_i endpoints w passed
      rw [passed] at started
      exact started
  stops := fun m =>
    callAll_fences V4L2Adapter.stopStreaming stopStreaming_fences m.endpoints m.world
  closes := fun m => callAll_fences V4L2Adapter.close close_fences m.endpoints m.world
  preflights := fun _ _ => rfl
  dequeues := by
    intro readyFd m
    simp only [multi, MultiDriver.dequeueCompletion]
    split
    · rfl
    · rename_i i endpoint found
      have called := dequeueCompletion_fences readyFd endpoint.adapter m.world
      cases answer : endpoint.adapter.dequeueCompletion readyFd m.world with
      | mk r out =>
        rw [answer] at called
        cases r with
        | none =>
          simp only [MultiDriver.callEndpoint]
          split <;> exact called
        | some completion => exact called
  submits := fun _ m => forward_uses m _ _ _ fun _ _ => queueCaptureBuffer_uses _ _ _ _ _
  streams := fun _ buffers m =>
    forward_uses m _ _ _ fun a w => startContinuousStream_uses buffers a w
  returns := fun lease m => forward_uses m _ _ _ fun a w => returnStreamBuffer_uses lease a w

end Drivers

end MiniCam.V4L2.FenceUses
