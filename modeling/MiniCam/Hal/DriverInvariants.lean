/- Module: MiniCam/Hal/DriverInvariants
   source: hal/camera_device_session.cpp, hal/driver_adapter.h
   digest: What every method of a driver keeps, every step of a session keeps; the texts of capture
     results. -/

import MiniCam.Hal.MockDriverAdapter
import MiniCam.Hal.DriverProtocol
import MiniCam.Hal.ResultIdentity

set_option autoImplicit false
set_option relaxedAutoImplicit false

namespace MiniCam.Hal.DriverInvariants

open MiniCam.Hal.Interface
open MiniCam.Hal.InFlightRequestTracker
open MiniCam.Hal.CameraDeviceSession
open MiniCam.Hal.TrackerInvariant
open MiniCam.Hal.SessionSpec
open MiniCam.Hal.SessionSystem

variable {δ π : Type}

/-- A property of the driver that no method ends, whatever it answers. -/
structure Keeps (D : DriverAdapter δ) (P : δ → Prop) : Prop where
  configureStream : ∀ d, P d → P (D.configureStream d).2
  startStreaming : ∀ d, P d → P (D.startStreaming d).2
  startContinuousStream : ∀ stream buffers d, P d → P (D.startContinuousStream stream buffers d).2
  stopStreaming : ∀ d, P d → P (D.stopStreaming d)
  close : ∀ d, P d → P (D.close d)
  canSubmitCaptureOutputs : ∀ outputs d, P d → P (D.canSubmitCaptureOutputs outputs d).2
  submitCapture : ∀ target d, P d → P (D.submitCapture target d).2
  dequeueCompletion : ∀ readyFd d, P d → P (D.dequeueCompletion readyFd d).2
  returnStreamBuffer : ∀ lease d, P d → P (D.returnStreamBuffer lease d).2

def Has (P : δ → Prop) (driver : Option δ) : Prop := ∀ d, driver = some d → P d

section Sessions

variable {D : DriverAdapter δ} {P : δ → Prop}

theorem Has.of_some {d : δ} (plain : P d) : Has P (some d) := by
  rintro d' same
  cases same
  exact plain

theorem Has.map {driver : Option δ} (H : Has P driver) {f : δ → δ}
    (kept : ∀ d, P d → P (f d)) : Has P (driver.map f) := by
  rintro d same
  obtain ⟨d', found, rfl⟩ := Option.map_eq_some_iff.mp same
  exact kept d' (H d' found)

theorem submitOutputs_keeps (K : Keeps D P) (frameNumber : Nat) :
    ∀ (pairs : List (OutputBufferTarget × InFlightOutput)) (d : δ) (t : Tracker), P d →
      P (submitOutputs D frameNumber pairs d t).2.1
  | [], _, _, held => held
  | (target, output) :: rest, d, t, held => by
    have next := K.submitCapture target d held
    unfold submitOutputs
    split
    · rename_i d' refused
      rw [refused] at next
      exact next
    · rename_i token d' given
      rw [given] at next
      split
      · exact next
      · exact submitOutputs_keeps K frameNumber rest d' _ next

theorem configureStreams_keeps (K : Keeps D P) {s : Session δ} (H : Has P s.driver)
    (registered : Bool) : Has P (configureStreams D registered s).2.driver := by
  rcases configureStreams_cases D registered s with
    same | ⟨d, d', fds, state, driver, -, rfl, -, same⟩ <;> rw [same]
  · exact H
  · exact Has.of_some (K.configureStream d (H d driver))

theorem startStreaming_keeps (K : Keeps D P) {s : Session δ} (H : Has P s.driver) :
    Has P (startStreaming D s).2.driver := by
  have outcome := startStreaming_outcome D s
  have started : ∀ {d d' : δ} {ok : Bool}, s.driver = some d → D.startStreaming d = (ok, d') →
      P d' := by
    intro d d' ok driver answer
    have kept := K.startStreaming d (H d driver)
    rw [answer] at kept
    exact kept
  have streamed : ∀ {d d' d'' : δ} {ok : Bool} {stream : StreamConfig}
      {buffers : List OutputBufferTarget} {given : Option (List DriverToken)},
      s.driver = some d → D.startStreaming d = (ok, d') →
      D.startContinuousStream stream buffers d' = (given, d'') → P d'' := by
    intro d d' d'' ok stream buffers given driver answer offered
    have kept := K.startContinuousStream stream buffers d' (started driver answer)
    rw [offered] at kept
    exact kept
  generalize (startStreaming D s).2 = after at outcome
  cases outcome with
  | ignored unready => exact H
  | failed driver configured answer => exact Has.of_some (started driver answer)
  | plain driver configured answer preview => exact Has.of_some (started driver answer)
  | unsupplied driver configured answer preview empty => exact Has.of_some (started driver answer)
  | refused driver configured answer preview offered short =>
    exact Has.of_some (streamed driver answer offered)
  | bound driver configured answer preview supplied offered length registered =>
    exact Has.of_some (streamed driver answer offered)

theorem submit_keeps (K : Keeps D P) {now : Int} {request : CaptureRequest} {s s' : Session δ}
    {answer : Option CaptureResult} (H : Has P s.driver)
    (outcome : SubmitOutcome D now request s answer s') : Has P s'.driver := by
  have asked : ∀ {d d' : δ} {ok : Bool}, s.driver = some d →
      D.canSubmitCaptureOutputs (requestOutputsFor request) d = (ok, d') → P d' := by
    intro d d' ok driver answer
    have kept := K.canSubmitCaptureOutputs (requestOutputsFor request) d (H d driver)
    rw [answer] at kept
    exact kept
  have given : ∀ {d d' d'' : δ} {t t' : Tracker} {ok done : Bool}, s.driver = some d →
      D.canSubmitCaptureOutputs (requestOutputsFor request) d = (ok, d') →
      submitOutputs D request.frameNumber (requestPairs request) d' t = (done, d'', t') →
      P d'' := by
    intro d d' d'' t t' ok done driver answer ended
    have kept := submitOutputs_keeps K request.frameNumber (requestPairs request) d' t
      (asked driver answer)
    rw [ended] at kept
    exact kept
  cases outcome with
  | rejected closed => exact H
  | refused driver streaming answer message => exact Has.of_some (asked driver answer)
  | duplicate driver streaming answer live => exact Has.of_some (asked driver answer)
  | failed driver streaming answer absent before stopped =>
    exact Has.of_some (given driver answer stopped)
  | submitted driver streaming answer before finished after bound =>
    exact Has.of_some (given driver answer finished)

theorem return_keeps (K : Keeps D P) {s : Session δ} (H : Has P s.driver)
    (lease : StreamBufferLease) (output : InFlightStreamingOutput) :
    Has P (returnStreamBuffer D lease output s).driver := by
  rcases returnStreamBuffer_cases D lease output s with
    same | ⟨d, d', metrics, driver, -, ⟨answer, same⟩ | ⟨token, answer, same⟩⟩ <;> rw [same]
  · exact H
  all_goals
    have kept := K.returnStreamBuffer lease d (H d driver)
    rw [answer] at kept
    exact Has.of_some kept

theorem step_keeps (K : Keeps D P) {processors : List (Option (OutputProcessor π))}
    {callbacks : Callbacks} {s t : System δ π} {a : Label} (H : Has P s.session.driver)
    (taken : step D processors callbacks s a = some t) : Has P t.session.driver := by
  cases a with
  | configureStreams registered =>
    cases taken
    exact configureStreams_keeps K H registered
  | startStreaming =>
    cases taken
    exact startStreaming_keeps K H
  | processRequest request =>
    simp only [step] at taken
    split at taken <;> cases taken
    exact H
  | post k accepted =>
    rcases postStep_outcome taken with ⟨-, rfl⟩ | ⟨request, -, -, rfl⟩ <;> exact H
  | runTask k now =>
    obtain ⟨id, request, -, ⟨result, session, outcome, rfl⟩ | ⟨session, outcome, rfl⟩⟩ :=
      runTaskStep_outcome D taken <;> exact submit_keeps K H outcome
  | dequeue readyFd =>
    cases taken
    simp only [dequeueStep]
    rcases dequeueCompletion_cases D readyFd s.session with same | ⟨d, driver, -, same⟩ <;>
      rw [same]
    · exact H
    · exact Has.of_some (K.dequeueCompletion readyFd d (H d driver))
  | process k now =>
    simp only [step, processStep] at taken
    split at taken
    · cases taken
    · rename_i completion at_completion
      cases taken
      have kept : Has P (tryFillResultFromCompletion processors completion now s.processorState
          s.session).2.2.driver := by
        rw [(DriverProtocol.tryFill_frame processors completion now s.processorState
          s.session).1]
        exact H
      simp only [afterCompletion]
      split <;> exact kept
  | dispatch k =>
    simp only [step, dispatchStep] at taken
    split at taken <;> cases taken
    exact H
  | streamCallback k lease =>
    simp only [step, streamCallbackStep] at taken
    split at taken <;> cases taken
    exact H
  | returnStream k =>
    simp only [step, returnStep] at taken
    split at taken <;> cases taken
    exact return_keeps K H _ _
  | flush now =>
    cases taken
    simp only [withResults]
    by_cases active : s.session.state = .streaming ∨ s.session.state = .configured
    · rw [flush_active D now active]
      exact H.map K.stopStreaming
    · rw [flush_inactive D now active]
      exact H
  | close now =>
    cases taken
    simp only [withResults]
    by_cases stopped : s.session.state = .stopped
    · rw [close_stopped D now stopped]
      exact H
    · rw [close_open D now stopped]
      exact (H.map K.stopStreaming).map K.close

end Sessions

section Texts

variable {D : DriverAdapter δ} {P : δ → Prop} {s t : System δ π}

/-- The prepared results are not taken for previews by their text. -/
def CaptureTexts (s : System δ π) : Prop := ∀ entry ∈ s.prepared, entry.2.message ≠ "preview"

theorem submitCaptureRequest_text (K : Keeps D P)
    (spoken : ∀ d, P d → D.lastError d ≠ "preview") {now : Int} {request : CaptureRequest}
    {session : Session δ} (H : Has P session.driver) {result : CaptureResult}
    {after : Session δ}
    (ended : submitCaptureRequest D now request session = (some result, after)) :
    result.message ≠ "preview" := by
  have outcome := submitCaptureRequest_outcome D now request session
  rw [ended] at outcome
  have driven := submit_keeps K H outcome
  simp only [submitCaptureRequest] at ended
  split at ended
  · rename_i d driver accepting
    split at ended
    · rename_i d' answer
      have asked := K.canSubmitCaptureOutputs (requestOutputsFor request) d (H d driver)
      rw [answer] at asked
      simp only [fillFailedResult_eq, Prod.mk.injEq, Option.some.injEq] at ended
      obtain ⟨rfl, -⟩ := ended
      have text := spoken d' asked
      simp only [failedResult, makeResult]
      split
      · decide
      · exact text
    · split at ended
      · simp only [fillFailedResult_eq, Prod.mk.injEq, Option.some.injEq] at ended
        obtain ⟨rfl, -⟩ := ended
        simp [failedResult, makeResult]
      · split at ended
        · rename_i d'' tracker submitted
          simp only [fillFailedResult_eq, Prod.mk.injEq, Option.some.injEq] at ended
          obtain ⟨rfl, rfl⟩ := ended
          exact spoken d'' (driven d'' rfl)
        · cases ended
  · cases ended
    simp [makeResult]

theorem flushResults_text {message : String} (named : message ≠ "preview") {now : Int}
    {session : Session δ} {result : CaptureResult}
    (member : result ∈ flushResults message now session) : result.message ≠ "preview" := by
  simp only [flushResults, flushedResults, List.mem_map] at member
  obtain ⟨row, -, rfl⟩ := member
  exact named

private theorem flushed_texts (C : CaptureTexts s) {message : String}
    (named : message ≠ "preview") (now : Int) (session : Session δ) :
    CaptureTexts (withResults s (flushResults message now s.session, session)) := by
  intro entry member
  rcases List.mem_append.mp member with before | here
  · exact C entry before
  · obtain ⟨result, flushed, rfl⟩ := List.mem_map.mp here
    exact flushResults_text named flushed

theorem filled_text {processors : List (Option (OutputProcessor π))}
    {completion : DriverCompletion} {now : Int} {p : π} {session : Session δ}
    {result : CaptureResult}
    (filled : (tryFillResultFromCompletion processors completion now p session).1 =
      .capture result) : result.message ≠ "preview" := by
  simp only [tryFillResultFromCompletion] at filled
  split at filled
  · cases filled
  split at filled
  · cases filled
  split at filled <;> cases filled
  simp [captureResultFromOutputCompletion]

theorem step_texts (K : Keeps D P) (spoken : ∀ d, P d → D.lastError d ≠ "preview")
    {processors : List (Option (OutputProcessor π))} {callbacks : Callbacks} {a : Label}
    (H : Has P s.session.driver) (C : CaptureTexts s)
    (taken : step D processors callbacks s a = some t) : CaptureTexts t := by
  have passive : Passive a → CaptureTexts t := by
    intro label entry member
    rw [(step_frame D label taken).prepared] at member
    exact C entry member
  cases a with
  | configureStreams registered => exact passive trivial
  | startStreaming => exact passive trivial
  | processRequest request => exact passive trivial
  | dequeue readyFd => exact passive trivial
  | returnStream k => exact passive trivial
  | post k accepted =>
    rcases postStep_outcome taken with ⟨-, rfl⟩ | ⟨request, -, -, rfl⟩ <;> exact C
  | runTask k now =>
    simp only [step, runTaskStep] at taken
    split at taken
    · cases taken
    · rename_i id request at_task
      split at taken
      · rename_i result session ended
        cases taken
        intro entry member
        rcases List.mem_append.mp member with before | here
        · exact C entry before
        · obtain rfl := List.mem_singleton.mp here
          exact submitCaptureRequest_text K spoken H ended
      · cases taken
        exact C
  | process k now =>
    simp only [step, processStep] at taken
    split at taken
    · cases taken
    · rename_i completion at_completion
      cases taken
      simp only [afterCompletion]
      split
      · exact C
      · rename_i result filled
        intro entry member
        rcases List.mem_append.mp member with before | here
        · exact C entry before
        · obtain rfl := List.mem_singleton.mp here
          exact filled_text filled
      · exact C
  | dispatch k =>
    simp only [step, dispatchStep] at taken
    split at taken <;> cases taken
    exact fun entry member => C entry (List.mem_of_mem_eraseIdx member)
  | streamCallback k lease =>
    simp only [step, streamCallbackStep] at taken
    split at taken <;> cases taken
    exact C
  | flush now =>
    cases taken
    by_cases active : s.session.state = .streaming ∨ s.session.state = .configured
    · rw [flush_active D now active]
      exact flushed_texts C (by decide) now _
    · rw [flush_inactive D now active]
      simpa [withResults, CaptureTexts] using C
  | close now =>
    cases taken
    by_cases stopped : s.session.state = .stopped
    · rw [close_stopped D now stopped]
      simpa [withResults, CaptureTexts] using C
    · rw [close_open D now stopped]
      exact flushed_texts C (by decide) now _

end Texts

section Mock

open MiniCam.Hal.MockDriverAdapter

def PlainMock (m : MockDriver) : Prop := m.lastError ≠ "preview"

private theorem tagged_ne_preview {tag text : String}
    (apart : ¬ tag.toList <+: "preview".toList) : tag ++ text ≠ "preview" := by
  intro same
  refine apart ⟨text.toList, ?_⟩
  rw [← String.toList_append, same]

theorem complete_plain {width height : Int} {m : MockDriver} (plain : PlainMock m) :
    PlainMock (complete width height m).2 := by
  unfold complete
  simp only
  split
  · exact plain
  · exact tagged_ne_preview (by decide)

theorem completeAll_plain : ∀ (sizes : List (Int × Int)) (m : MockDriver), PlainMock m →
    PlainMock (completeAll sizes m).2
  | [], _, plain => plain
  | (width, height) :: rest, m, plain => by
    have next : PlainMock (complete width height m).2 := complete_plain plain
    unfold completeAll
    split
    · rename_i m' refused
      rw [refused] at next
      exact next
    · rename_i token m' given
      rw [given] at next
      have later := completeAll_plain rest m' next
      split
      · rename_i m'' refused
        rw [refused] at later
        exact later
      · rename_i tokens m'' given
        rw [given] at later
        exact later

theorem mock_keeps : Keeps adapter PlainMock where
  configureStream := by
    intro m plain
    have opened : PlainMock (openPipe m).2 := by
      unfold openPipe
      split
      · exact plain
      · split
        · exact plain
        · exact tagged_ne_preview (by decide)
        · exact tagged_ne_preview (by decide)
    simp only [adapter, MockDriverAdapter.configureStream]
    split
    · rename_i m' refused
      rw [refused] at opened
      exact opened
    · rename_i m' ready
      rw [ready] at opened
      exact opened
  startStreaming := by
    intro m plain
    simp only [adapter, MockDriverAdapter.startStreaming]
    split
    · exact plain
    · simp [PlainMock]
  startContinuousStream := by
    intro stream buffers m plain
    simp only [adapter, MockDriverAdapter.startContinuousStream]
    split
    · split <;> exact completeAll_plain _ m plain
    · simp [PlainMock]
  stopStreaming := fun m plain => plain
  close := fun m plain => plain
  canSubmitCaptureOutputs := fun outputs m plain => plain
  submitCapture := by
    intro target m plain
    simp only [adapter, MockDriverAdapter.submitCapture]
    split
    · split
      · simp [PlainMock]
      · exact complete_plain plain
    · simp [PlainMock]
  dequeueCompletion := by
    intro readyFd m plain
    simp only [adapter, MockDriverAdapter.dequeueCompletion]
    split
    · split <;> exact plain
    · exact plain
  returnStreamBuffer := by
    intro lease m plain
    simp only [adapter, MockDriverAdapter.returnStreamBuffer]
    split
    · exact plain
    · simp [PlainMock]

end Mock

end MiniCam.Hal.DriverInvariants
