/- Module: MiniCam/V4L2/ErrorTexts
   source: hal/v4l2_driver_adapter.cpp
   digest: The texts of the V4L2 drivers' last errors, none of which starts as the text of a preview
     does. -/

import MiniCam.Hal.DriverInvariants
import MiniCam.V4L2.MultiStream

set_option autoImplicit false
set_option relaxedAutoImplicit false

namespace MiniCam.V4L2.ErrorTexts

open MiniCam.Hal.Interface
open MiniCam.Hal.DriverInvariants
open MiniCam.V4L2.VideoNodes
open MiniCam.V4L2.DriverAdapter
open MiniCam.V4L2.MultiStream

def PlainText (text : String) : Prop := text.toList.head? ≠ some 'p'

theorem PlainText.ne_preview {text : String} (plain : PlainText text) : text ≠ "preview" := by
  rintro rfl
  exact plain (by decide)

section Adapter

variable {a : V4L2Adapter} {w : World}

def Plain (a : V4L2Adapter) : Prop := PlainText a.lastError

theorem close_plain (plain : Plain a) : Plain (a.close w).1 := plain

theorem configureStream_plain (plain : Plain a) : Plain (a.configureStream w).2.1 := by
  have failed : ∀ {error : String} {w : World}, PlainText error →
      Plain ((a.setError error).close w).1 := fun text => close_plain text
  unfold V4L2Adapter.configureStream
  simp only
  split
  · exact plain
  · split
    · simp [Plain, V4L2Adapter.setError, PlainText]
    · exact failed (by simp [PlainText])
    · exact failed (by simp [PlainText])
    · exact failed (by simp [PlainText])
    · exact failed (by simp [PlainText])
    · exact failed (by simp [PlainText])
    · split
      · exact failed (by simp [PlainText])
      · exact plain

theorem startStreaming_plain (plain : Plain a) : Plain a.startStreaming.2 := by
  unfold V4L2Adapter.startStreaming
  split
  · simp [Plain, V4L2Adapter.setError, PlainText]
  · exact plain

theorem queueSlot_plain (plain : Plain a) (index : Nat) (bufferFd : Int) (token : DriverToken)
    (answer : SubmissionAnswer) :
    Plain (V4L2Adapter.queueSlot index bufferFd token answer a w).2.1 := by
  unfold V4L2Adapter.queueSlot
  split
  · simp [Plain, V4L2Adapter.setError, PlainText]
  · split
    · exact plain
    · split
      · simp [Plain, V4L2Adapter.setError, PlainText]
      · exact plain

theorem submitSlot_plain (plain : Plain a) (bufferFd : Int) (bufferSize : Nat)
    (answer : SubmissionAnswer) :
    Plain (V4L2Adapter.submitSlot bufferFd bufferSize answer a w).2.1 := by
  have issued : Plain (a.issueToken w).2.1 := by
    unfold V4L2Adapter.issueToken
    split <;> exact plain
  have bound : Plain ((a.issueToken w).2.1.bindFreeQueuedRequest (a.issueToken w).1 bufferFd (-1)
      bufferSize).2 := by
    unfold V4L2Adapter.bindFreeQueuedRequest
    split <;> exact issued
  unfold V4L2Adapter.submitSlot
  simp only
  split
  · simp [Plain, V4L2Adapter.setError, PlainText]
  · rename_i index a' slot
    rw [slot] at bound
    split
    · simp [Plain, V4L2Adapter.setError, PlainText]
    · exact queueSlot_plain bound _ _ _ _

theorem queueCaptureBuffer_plain (plain : Plain a) (bufferFd acquireFenceFd : Int)
    (bufferSize : Nat) :
    Plain (V4L2Adapter.queueCaptureBuffer bufferFd acquireFenceFd bufferSize a w).2.1 := by
  unfold V4L2Adapter.queueCaptureBuffer
  split
  · simp [Plain, V4L2Adapter.setError, PlainText]
  · split
    · simp [Plain, V4L2Adapter.setError, PlainText]
    · split
      · simp [Plain, V4L2Adapter.setError, PlainText]
      · simp only
        split
        · simp [Plain, V4L2Adapter.setError, PlainText]
        · exact submitSlot_plain plain _ _ _

theorem queueAll_plain : ∀ (targets : List OutputBufferTarget) (a : V4L2Adapter) (w : World),
    Plain a → Plain (V4L2Adapter.queueAll targets a w).2.1
  | [], _, _, plain => plain
  | target :: rest, a, w, plain => by
    have first : Plain (V4L2Adapter.queueCaptureBuffer target.bufferFd target.acquireFenceFd
        target.bufferSize a w).2.1 := queueCaptureBuffer_plain plain _ _ _
    unfold V4L2Adapter.queueAll
    split
    · rename_i a' w' queued
      rw [queued] at first
      exact first
    · rename_i token a' w' queued
      rw [queued] at first
      have later := queueAll_plain rest a' w' first
      split <;> rename_i others <;> rw [others] at later <;> exact later

theorem startContinuousStream_plain (plain : Plain a) (buffers : List OutputBufferTarget) :
    Plain (V4L2Adapter.startContinuousStream buffers a w).2.1 := by
  unfold V4L2Adapter.startContinuousStream
  split
  · simp [Plain, V4L2Adapter.setError, PlainText]
  · have queued := queueAll_plain buffers { a with continuousStreaming := true } w plain
    split <;> rename_i answer <;> rw [answer] at queued <;> exact queued

theorem dequeueCompletion_plain (plain : Plain a) (readyFd : Int) :
    Plain (V4L2Adapter.dequeueCompletion readyFd a w).2.1 := by
  unfold V4L2Adapter.dequeueCompletion
  split
  · exact plain
  · split
    · exact plain
    · simp [Plain, V4L2Adapter.setError, PlainText]
    · split
      · simp [Plain, V4L2Adapter.setError, PlainText]
      · split
        · exact plain
        · simp [Plain, V4L2Adapter.setError, PlainText]

theorem returnStreamBuffer_plain (plain : Plain a) (lease : StreamBufferLease) :
    Plain (V4L2Adapter.returnStreamBuffer lease a w).2.1 := by
  unfold V4L2Adapter.returnStreamBuffer
  split
  · exact queueCaptureBuffer_plain plain _ _ _
  · exact plain

theorem single_keeps : Keeps single fun d => Plain d.adapter where
  configureStream := fun _ plain => configureStream_plain plain
  startStreaming := fun _ plain => startStreaming_plain plain
  startContinuousStream := fun _ buffers _ plain => startContinuousStream_plain plain buffers
  stopStreaming := fun _ plain => plain
  close := fun _ plain => plain
  canSubmitCaptureOutputs := fun _ _ plain => plain
  submitCapture := fun _ _ plain => queueCaptureBuffer_plain plain _ _ _
  dequeueCompletion := fun readyFd _ plain => dequeueCompletion_plain plain readyFd
  returnStreamBuffer := fun lease _ plain => returnStreamBuffer_plain plain lease

end Adapter

section Endpoints

structure AllPlain (m : MultiDriver) : Prop where
  own : PlainText m.lastError
  endpoints : ∀ endpoint ∈ m.endpoints, Plain endpoint.adapter

variable {m : MultiDriver}

theorem callAll_plain {call : V4L2Adapter → World → V4L2Adapter × World}
    (kept : ∀ a w, Plain a → Plain (call a w).1) :
    ∀ (endpoints : List Endpoint) (w : World), (∀ endpoint ∈ endpoints, Plain endpoint.adapter) →
      ∀ endpoint ∈ (MultiDriver.callAll call endpoints w).1, Plain endpoint.adapter
  | [], _, _, _, member => by cases member
  | first :: rest, w, plain, endpoint, member => by
    rcases List.mem_cons.mp member with rfl | later
    · exact kept first.adapter w (plain first List.mem_cons_self)
    · exact callAll_plain kept rest _ (fun other inside =>
        plain other (List.mem_cons_of_mem first inside)) endpoint later

theorem tryAll_plain {call : V4L2Adapter → World → Bool × V4L2Adapter × World}
    (kept : ∀ a w, Plain a → Plain (call a w).2.1) :
    ∀ (endpoints : List Endpoint) (w : World), (∀ endpoint ∈ endpoints, Plain endpoint.adapter) →
      (∀ error, (MultiDriver.tryAll call endpoints w).1 = some error → PlainText error) ∧
        ∀ endpoint ∈ (MultiDriver.tryAll call endpoints w).2.1, Plain endpoint.adapter
  | [], _, _ => ⟨fun _ refused => (by cases refused), fun _ member => (by cases member)⟩
  | first :: rest, w, plain => by
    have here := kept first.adapter w (plain first List.mem_cons_self)
    have others : ∀ endpoint ∈ rest, Plain endpoint.adapter := fun other inside =>
      plain other (List.mem_cons_of_mem first inside)
    unfold MultiDriver.tryAll
    split
    · rename_i a w' refused
      rw [refused] at here
      refine ⟨fun error same => ?_, fun endpoint member => ?_⟩
      · obtain rfl := Option.some.inj same
        exact here
      · rcases List.mem_cons.mp member with rfl | later
        · exact here
        · exact others endpoint later
    · rename_i a w' done
      rw [done] at here
      obtain ⟨error, after⟩ := tryAll_plain kept rest w' others
      refine ⟨error, fun endpoint member => ?_⟩
      rcases List.mem_cons.mp member with rfl | later
      · exact here
      · exact after endpoint later

theorem stopStreaming_allPlain (plain : AllPlain m) : AllPlain m.stopStreaming :=
  ⟨plain.own, callAll_plain (fun _ _ held => held) m.endpoints m.world plain.endpoints⟩

theorem close_allPlain (plain : AllPlain m) : AllPlain m.close :=
  ⟨plain.own, callAll_plain (fun _ _ held => held) m.endpoints m.world plain.endpoints⟩

theorem configureStream_allPlain (plain : AllPlain m) : AllPlain m.configureStream.2 := by
  obtain ⟨error, after⟩ := tryAll_plain (fun _ w held => configureStream_plain (w := w) held)
    m.endpoints m.world plain.endpoints
  unfold MultiDriver.configureStream
  split
  · exact ⟨by simp [MultiDriver.setError, PlainText], plain.endpoints⟩
  · split <;> rename_i tried <;> rw [tried] at error after
    · exact close_allPlain ⟨error _ rfl, after⟩
    · exact ⟨plain.own, after⟩

theorem startStreaming_allPlain (plain : AllPlain m) : AllPlain m.startStreaming.2 := by
  have kept : ∀ (a : V4L2Adapter) (w : World), Plain a →
      Plain (a.startStreaming.1, a.startStreaming.2, w).2.1 :=
    fun _ _ held => startStreaming_plain held
  obtain ⟨error, after⟩ := tryAll_plain kept m.endpoints m.world plain.endpoints
  unfold MultiDriver.startStreaming
  split <;> rename_i tried <;> rw [tried] at error after
  · exact ⟨error _ rfl, after⟩
  · exact ⟨plain.own, after⟩

theorem callEndpoint_plain {α : Type} (plain : AllPlain m) (i : Nat) (endpoint : Endpoint)
    {out : α × V4L2Adapter × World} (kept : Plain out.2.1) :
    AllPlain (m.callEndpoint i endpoint out).2 := by
  refine ⟨plain.own, fun other member => ?_⟩
  rcases List.mem_or_eq_of_mem_set member with old | rfl
  · exact plain.endpoints other old
  · exact kept

theorem forward_allPlain {α : Type} (plain : AllPlain m) (index : Option Nat) {missing : String}
    (text : PlainText missing) {call : V4L2Adapter → World → Option α × V4L2Adapter × World}
    (kept : ∀ a w, Plain a → Plain (call a w).2.1) :
    AllPlain (m.forward index missing call).2 := by
  unfold MultiDriver.forward
  split
  · exact ⟨text, plain.endpoints⟩
  · rename_i i endpoint found
    obtain ⟨j, -, named⟩ := Option.bind_eq_some_iff.mp found
    obtain ⟨other, there, same⟩ := Option.map_eq_some_iff.mp named
    obtain ⟨rfl, rfl⟩ := Prod.mk.inj same
    have after := kept other.adapter m.world (plain.endpoints other (List.mem_of_getElem? there))
    have called := callEndpoint_plain plain j other after
    split <;> rename_i answer <;> rw [answer] at called
    · exact ⟨after, called.endpoints⟩
    · exact called

theorem dequeueCompletion_allPlain (plain : AllPlain m) (readyFd : Int) :
    AllPlain (m.dequeueCompletion readyFd).2 := by
  unfold MultiDriver.dequeueCompletion
  split
  · exact plain
  · rename_i i endpoint found
    obtain ⟨j, -, named⟩ := Option.bind_eq_some_iff.mp found
    obtain ⟨other, there, same⟩ := Option.map_eq_some_iff.mp named
    obtain ⟨rfl, rfl⟩ := Prod.mk.inj same
    have after := dequeueCompletion_plain (w := m.world)
      (plain.endpoints other (List.mem_of_getElem? there)) readyFd
    have called := callEndpoint_plain plain j other after
    split <;> rename_i answer <;> rw [answer] at called
    · simp only
      split
      · exact called
      · exact ⟨after, called.endpoints⟩
    · exact called

theorem multi_keeps : Keeps multi AllPlain where
  configureStream := fun _ plain => configureStream_allPlain plain
  startStreaming := fun _ plain => startStreaming_allPlain plain
  startContinuousStream := fun _ buffers _ plain =>
    forward_allPlain plain _ (by simp [PlainText]) fun _ _ held =>
      startContinuousStream_plain held buffers
  stopStreaming := fun _ plain => stopStreaming_allPlain plain
  close := fun _ plain => close_allPlain plain
  canSubmitCaptureOutputs := fun _ _ plain => plain
  submitCapture := fun _ _ plain =>
    forward_allPlain plain _ (by simp [PlainText]) fun _ _ held =>
      queueCaptureBuffer_plain held _ _ _
  dequeueCompletion := fun readyFd _ plain => dequeueCompletion_allPlain plain readyFd
  returnStreamBuffer := fun lease _ plain =>
    forward_allPlain plain _ (by simp [PlainText]) fun _ _ held =>
      returnStreamBuffer_plain held lease

end Endpoints

end MiniCam.V4L2.ErrorTexts
