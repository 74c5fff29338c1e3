/- Module: MiniCam/Hal/SessionSpec
   source: hal/camera_device_session.cpp
   digest: What each locked section does to the tables, stated once for every user. -/

import MiniCam.Hal.SessionSystem
import MiniCam.Hal.TrackerInvariant

set_option autoImplicit false
set_option relaxedAutoImplicit false

namespace MiniCam.Hal.SessionSpec

open MiniCam.Foundation.KeyedTable
open MiniCam.Hal.Interface
open MiniCam.Hal.InFlightRequestTracker
open MiniCam.Hal.CameraDeviceSession
open MiniCam.Hal.TrackerInvariant
open MiniCam.Hal.SessionSystem

variable {δ π : Type} (D : DriverAdapter δ)

theorem configureStreams_cases (registered : Bool) (s : Session δ) :
    (configureStreams D registered s).2 = s ∨
      ∃ d d' fds state, s.driver = some d ∧ s.state = .created ∧ d' = (D.configureStream d).2 ∧
        (state = .configured ∨ state = .error) ∧
        (configureStreams D registered s).2 =
          { s with driver := some d', driverFds := fds, state := state } := by
  simp only [configureStreams]
  split
  · exact Or.inl rfl
  · rename_i d at_driver
    split
    · rename_i created
      right
      split
      · rename_i d' answer
        exact ⟨d, d', s.driverFds, .error, at_driver, created, by rw [answer], Or.inr rfl, rfl⟩
      · rename_i d' answer
        split
        · exact ⟨d, d', D.eventFds d', .configured, at_driver, created, by rw [answer],
            Or.inl rfl, rfl⟩
        · exact ⟨d, d', D.eventFds d', .error, at_driver, created, by rw [answer], Or.inr rfl, rfl⟩
    · exact Or.inl rfl

def previewSubmissions (s : Session δ) (d : δ) : Option (List DriverToken) × δ :=
  match s.config.continuousPreviewConfig with
  | none => (some [], (D.startStreaming d).2)
  | some stream =>
    D.startContinuousStream stream s.config.continuousPreviewBuffers (D.startStreaming d).2

inductive StartOutcome (s : Session δ) : Session δ → Prop where
  | ignored (unready : s.driver = none ∨ s.state ≠ .configured) : StartOutcome s s
  | failed {d d' : δ} (driver : s.driver = some d) (configured : s.state = .configured)
    (answer : D.startStreaming d = (false, d')) :
    StartOutcome s { s with driver := some d', state := .error }
  | plain {d d' : δ} (driver : s.driver = some d) (configured : s.state = .configured)
    (answer : D.startStreaming d = (true, d'))
    (preview : s.config.continuousPreviewConfig = none) :
    StartOutcome s { s with driver := some d', state := .streaming }
  | unsupplied {d d' : δ} {stream : StreamConfig} (driver : s.driver = some d)
    (configured : s.state = .configured) (answer : D.startStreaming d = (true, d'))
    (preview : s.config.continuousPreviewConfig = some stream)
    (empty : s.config.continuousPreviewBuffers = []) :
    StartOutcome s { s with driver := some d', state := .error }
  | refused {d d' d'' : δ} {stream : StreamConfig} {given : Option (List DriverToken)}
    (driver : s.driver = some d) (configured : s.state = .configured)
    (answer : D.startStreaming d = (true, d'))
    (preview : s.config.continuousPreviewConfig = some stream)
    (offered : D.startContinuousStream stream s.config.continuousPreviewBuffers d' = (given, d''))
    (short : ∀ tokens, given = some tokens →
      tokens.length ≠ s.config.continuousPreviewBuffers.length) :
    StartOutcome s
      { s with
        driver := some d''
        state := .error
        nextStreamingFrameNumber :=
          s.nextStreamingFrameNumber + s.config.continuousPreviewBuffers.length }
  | bound {d d' d'' : δ} {stream : StreamConfig} {tokens : List DriverToken} {ok : Bool}
    {tracker : Tracker} (driver : s.driver = some d) (configured : s.state = .configured)
    (answer : D.startStreaming d = (true, d'))
    (preview : s.config.continuousPreviewConfig = some stream)
    (supplied : s.config.continuousPreviewBuffers ≠ [])
    (offered : D.startContinuousStream stream s.config.continuousPreviewBuffers d' =
      (some tokens, d''))
    (length : tokens.length = s.config.continuousPreviewBuffers.length)
    (registered : bindStreamingOutputs (tokens.zip (streamingOutputsFrom
      s.nextStreamingFrameNumber s.config.continuousPreviewBuffers)) s.inFlight = (ok, tracker)) :
    StartOutcome s
      { s with
        driver := some d''
        state := if ok then .streaming else .error
        nextStreamingFrameNumber :=
          s.nextStreamingFrameNumber + s.config.continuousPreviewBuffers.length
        inFlight := tracker }

theorem startStreaming_outcome (s : Session δ) : StartOutcome D s (startStreaming D s).2 := by
  simp only [startStreaming]
  split
  · rename_i absent
    exact StartOutcome.ignored (Or.inl absent)
  rename_i d driver
  split
  case isFalse unready => exact StartOutcome.ignored (Or.inr unready)
  rename_i configured
  split
  · rename_i d' answer
    exact StartOutcome.failed driver configured answer
  rename_i d' answer
  split
  · rename_i preview
    exact StartOutcome.plain driver configured answer preview
  rename_i stream preview
  split
  · rename_i empty
    exact StartOutcome.unsupplied driver configured answer preview empty
  rename_i supplied
  split
  · rename_i d'' offered
    exact StartOutcome.refused driver configured answer preview offered (by simp)
  rename_i tokens d'' offered
  split
  · rename_i lengths
    refine StartOutcome.refused driver configured answer preview offered ?_
    intro tokens' same
    cases same
    simpa [streamingOutputsFrom] using lengths
  rename_i lengths
  have length : tokens.length = s.config.continuousPreviewBuffers.length := by
    simpa [streamingOutputsFrom] using lengths
  split <;> rename_i tracker registered <;>
    exact StartOutcome.bound driver configured answer preview supplied offered length registered

theorem startStreaming_cases (s : Session δ) :
    (startStreaming D s).2 = s ∨
      ∃ d d' next state, s.driver = some d ∧ s.state = .configured ∧
        (state = .streaming ∨ state = .error) ∧ s.nextStreamingFrameNumber ≤ next ∧
        (((startStreaming D s).2 =
            { s with driver := some d', state := state, nextStreamingFrameNumber := next } ∧
          (d' = (D.startStreaming d).2 ∨
            (d' = (previewSubmissions D s d).2 ∧ state = .error))) ∨
          ∃ submissions, previewSubmissions D s d = (some submissions, d') ∧
            s.config.continuousPreviewBuffers ≠ [] ∧
            submissions.length = s.config.continuousPreviewBuffers.length ∧
            next = s.nextStreamingFrameNumber + submissions.length ∧
            (startStreaming D s).2 =
              { s with
                driver := some d'
                state := state
                nextStreamingFrameNumber := next
                inFlight := (bindStreamingOutputs
                  (submissions.zip (streamingOutputsFrom s.nextStreamingFrameNumber
                    s.config.continuousPreviewBuffers)) s.inFlight).2 }) := by
  have outcome := startStreaming_outcome D s
  generalize (startStreaming D s).2 = s' at outcome ⊢
  cases outcome with
  | ignored unready => exact Or.inl rfl
  | @failed d d' driver configured answer =>
    exact Or.inr ⟨d, d', _, .error, driver, configured, Or.inr rfl, le_rfl,
      Or.inl ⟨rfl, Or.inl (by rw [answer])⟩⟩
  | @plain d d' driver configured answer preview =>
    exact Or.inr ⟨d, d', _, .streaming, driver, configured, Or.inl rfl, le_rfl,
      Or.inl ⟨rfl, Or.inl (by rw [answer])⟩⟩
  | @unsupplied d d' stream driver configured answer preview empty =>
    exact Or.inr ⟨d, d', _, .error, driver, configured, Or.inr rfl, le_rfl,
      Or.inl ⟨rfl, Or.inl (by rw [answer])⟩⟩
  | @refused d d' d'' stream given driver configured answer preview offered short =>
    refine Or.inr ⟨d, d'', _, .error, driver, configured, Or.inr rfl, Nat.le_add_right _ _,
      Or.inl ⟨rfl, Or.inr ⟨?_, rfl⟩⟩⟩
    simp [previewSubmissions, preview, answer, offered]
  | @bound d d' d'' stream tokens ok tracker driver configured answer preview supplied offered
      length registered =>
    refine Or.inr ⟨d, d'', _, if ok then .streaming else .error, driver, configured, ?_,
      Nat.le_add_right _ _, Or.inr ⟨tokens, ?_, supplied, length, by rw [length], ?_⟩⟩
    · cases ok
      · exact Or.inr rfl
      · exact Or.inl rfl
    · simp [previewSubmissions, preview, answer, offered]
    · rw [registered]

section Requests

def failedResult (row : Option InFlightRequest) (frameNumber : Nat) (status : CaptureStatus)
    (message : String) (fallbackBuffers : List CompletedOutputBuffer)
    (fallbackSubmittedAt now : Int) : CaptureResult :=
  makeResult frameNumber status
    ((row.map fun r => completedBuffersFor r.outputBuffers status).getD fallbackBuffers) message
    (latencySince now ((row.map fun r => r.submittedAt).getD fallbackSubmittedAt))

theorem fillFailedResult_eq (frameNumber : Nat) (status : CaptureStatus) (message : String)
    (fallbackBuffers : List CompletedOutputBuffer) (fallbackSubmittedAt now : Int)
    (s : Session δ) :
    fillFailedResult frameNumber status message fallbackBuffers fallbackSubmittedAt now s =
      (failedResult (s.inFlight.requests.lookup frameNumber) frameNumber status message
          fallbackBuffers fallbackSubmittedAt now,
        { s with
          inFlight := dropFrame s.inFlight frameNumber
          metrics := s.metrics.recordFailure }) := by
  have dropped := fail_clear s.inFlight frameNumber
  cases found : s.inFlight.requests.lookup frameNumber with
  | none =>
    simp only [Tracker.fail, found] at dropped
    simp [fillFailedResult, Tracker.fail, found, failedResult, dropped]
  | some row =>
    simp only [Tracker.fail, found] at dropped
    simp [fillFailedResult, Tracker.fail, found, failedResult, dropped]

inductive SubmitOutcome (now : Int) (request : CaptureRequest) (s : Session δ) :
    Option CaptureResult → Session δ → Prop where
  | rejected (closed : rejectRequest s = true) :
    SubmitOutcome now request s
      (some (makeResult request.frameNumber .flushed [] "session is not accepting requests"
        (latencySince now request.submittedAt)))
      { s with metrics := s.metrics.recordFailure }
  | refused {d d' : δ} (driver : s.driver = some d) (streaming : s.state = .streaming)
    (answer : D.canSubmitCaptureOutputs (requestOutputsFor request) d = (false, d'))
    (message : String) :
    SubmitOutcome now request s
      (some (failedResult (s.inFlight.requests.lookup request.frameNumber) request.frameNumber
        .sensorError message
        (completedBuffersFor (makeInFlightOutputs (requestOutputsFor request)) .processingError)
        request.submittedAt now))
      { s with
        driver := some d'
        inFlight := dropFrame s.inFlight request.frameNumber
        metrics := s.metrics.recordFailure }
  | duplicate {d d' : δ} {row : InFlightRequest} (driver : s.driver = some d)
    (streaming : s.state = .streaming)
    (answer : D.canSubmitCaptureOutputs (requestOutputsFor request) d = (true, d'))
    (live : s.inFlight.requests.lookup request.frameNumber = some row) :
    SubmitOutcome now request s
      (some (failedResult (some row) request.frameNumber .processingError "duplicate frame number"
        (completedBuffersFor (makeInFlightOutputs (requestOutputsFor request)) .processingError)
        request.submittedAt now))
      { s with
        driver := some d'
        inFlight := dropFrame s.inFlight request.frameNumber
        metrics := s.metrics.recordFailure }
  | failed {d d' d'' : δ} {t t' : Tracker} (driver : s.driver = some d)
    (streaming : s.state = .streaming)
    (answer : D.canSubmitCaptureOutputs (requestOutputsFor request) d = (true, d'))
    (absent : request.frameNumber ∉ s.inFlight.requests)
    (before : t.driverOutputs = s.inFlight.driverOutputs)
    (stopped : submitOutputs D request.frameNumber (requestPairs request) d' t =
      (false, d'', t')) :
    SubmitOutcome now request s
      (some (failedResult (some (queuedRow request)) request.frameNumber .sensorError
        (D.lastError d'') [] now now))
      { s with
        driver := some d''
        inFlight := dropFrame s.inFlight request.frameNumber
        metrics := s.metrics.recordFailure }
  | submitted {d d' d'' : δ} {t t' t'' : Tracker} {tokens : List DriverToken}
    (driver : s.driver = some d) (streaming : s.state = .streaming)
    (answer : D.canSubmitCaptureOutputs (requestOutputsFor request) d = (true, d'))
    (before : t.driverOutputs = s.inFlight.driverOutputs)
    (finished : submitOutputs D request.frameNumber (requestPairs request) d' t = (true, d'', t'))
    (after : t''.driverOutputs = t'.driverOutputs)
    (bound : Submitted s.inFlight t'' request tokens) :
    SubmitOutcome now request s none { s with driver := some d'', inFlight := t'' }

theorem submitCaptureRequest_outcome (now : Int) (request : CaptureRequest) (s : Session δ) :
    SubmitOutcome D now request s (submitCaptureRequest D now request s).1
      (submitCaptureRequest D now request s).2 := by
  simp only [submitCaptureRequest]
  split
  case h_2 uncertain =>
    apply SubmitOutcome.rejected
    cases closed : rejectRequest s
    · cases at_driver : s.driver with
      | none => simp [rejectRequest, at_driver] at closed
      | some d => exact (uncertain d at_driver closed).elim
    · rfl
  rename_i d at_driver accepting
  have streaming : s.state = .streaming := by
    simpa [rejectRequest, at_driver] using accepting
  split
  · rename_i d' answer
    rw [fillFailedResult_eq]
    exact SubmitOutcome.refused at_driver streaming answer _
  rename_i d' answer
  split
  · rename_i t started
    rw [fillFailedResult_eq]
    simp only [Tracker.start] at started
    split at started <;> cases started
    rename_i blocked
    rcases blocked with member | empty
    · obtain ⟨row, found⟩ := Option.isSome_iff_exists.mp (AList.lookup_isSome.mpr member)
      simp only [found]
      exact SubmitOutcome.duplicate at_driver streaming answer found
    · have length := congrArg List.length empty
      have nonempty := List.length_pos_iff.mpr (requestOutputsFor_ne_nil request)
      simp [makeInFlightOutputs] at length
      exact (requestOutputsFor_ne_nil request length).elim
  rename_i t started
  split
  · rename_i d'' t' run
    obtain ⟨absent, before, t₂, ⟨-, stopped, dropped, found⟩ | ⟨done, -⟩⟩ :=
      submitRequestToDriver_spec D started run
    · rw [fillFailedResult_eq]
      simp only [found, dropped]
      exact SubmitOutcome.failed at_driver streaming answer absent before stopped
    · cases done
  · rename_i d'' t' run
    obtain ⟨absent, before, t₂, ⟨done, -⟩ | ⟨-, finished, after, tokens, bound⟩⟩ :=
      submitRequestToDriver_spec D started run
    · cases done
    · exact SubmitOutcome.submitted at_driver streaming answer before finished after bound

theorem submit_counts {D : DriverAdapter δ} {now : Int} {request : CaptureRequest}
    {session session' : Session δ} {answer : Option CaptureResult}
    (outcome : SubmitOutcome D now request session answer session') :
    (answer = none ∧ session'.metrics = session.metrics) ∨
      ∃ result, answer = some result ∧ result.status ≠ .ok ∧
        session'.metrics = session.metrics.recordFailure := by
  cases outcome with
  | rejected closed => exact Or.inr ⟨_, rfl, by simp [makeResult], rfl⟩
  | refused driver streaming preflight message =>
    exact Or.inr ⟨_, rfl, by simp [failedResult, makeResult], rfl⟩
  | duplicate driver streaming preflight live =>
    exact Or.inr ⟨_, rfl, by simp [failedResult, makeResult], rfl⟩
  | failed driver streaming preflight absent before stopped =>
    exact Or.inr ⟨_, rfl, by simp [failedResult, makeResult], rfl⟩
  | submitted driver streaming preflight before finished after bound => exact Or.inl ⟨rfl, rfl⟩

theorem failed_submit_rows {D : DriverAdapter δ} {now : Int} {request : CaptureRequest}
    {session session' : Session δ} {result : CaptureResult}
    (outcome : SubmitOutcome D now request session (some result) session')
    {f : Nat} {row : InFlightRequest} (held : session'.inFlight.requests.lookup f = some row) :
    session.inFlight.requests.lookup f = some row := by
  cases outcome with
  | rejected closed => exact held
  | refused driver streaming preflight message => exact (lookup_dropFrame_rows.mp held).2
  | duplicate driver streaming preflight live => exact (lookup_dropFrame_rows.mp held).2
  | failed driver streaming preflight absent before stopped =>
    exact (lookup_dropFrame_rows.mp held).2

end Requests

section Completions

def resolvedFor (c : DriverOutputContext) (target : OutputBufferTarget)
    (streamingOutput : Option InFlightStreamingOutput) : ResolvedDriverOutput :=
  { frameNumber := c.frameNumber
    outputIndex := c.outputIndex
    target := target
    streamingOutput := streamingOutput }

/-- Every way `try_fill_result_from_completion_locked` can end on consistent tables.
The branch that finds no row for a resolved token is not among them. -/
inductive FillOutcome (processors : List (Option (OutputProcessor π)))
    (completion : DriverCompletion) (now : Int) (p : π) (s : Session δ) :
    Filled → π → Session δ → Prop where
  | unknown (unbound : s.inFlight.driverOutputs.lookup completion.token = none) :
    FillOutcome processors completion now p s .nothing p
      { s with metrics := s.metrics.recordFailure }
  | preview {c : DriverOutputContext} {output : InFlightStreamingOutput} {fence : Int} {p' : π}
    (bound : s.inFlight.driverOutputs.lookup completion.token = some c)
    (negative : c.outputIndex < 0)
    (row : s.inFlight.streamingOutputs.lookup c.frameNumber = some output)
    (processed : runProcessors (resolvedFor c output.target (some output)) processors (-1) p =
      (fence, p')) :
    FillOutcome processors completion now p s
      (.preview (captureResultFromStandaloneCompletion output fence)
        (streamBufferLeaseFromCompletion output) output) p'
      { s with
        inFlight := { s.inFlight with
          driverOutputs := s.inFlight.driverOutputs.erase completion.token
          streamingOutputs := s.inFlight.streamingOutputs.erase c.frameNumber }
        metrics := s.metrics.recordSuccess 0 }
  | waiting {c : DriverOutputContext} {row : InFlightRequest} {output : InFlightOutput}
    {fence : Int} {p' : π}
    (bound : s.inFlight.driverOutputs.lookup completion.token = some c)
    (live : s.inFlight.requests.lookup c.frameNumber = some row)
    (member : output ∈ row.outputBuffers) (index : output.outputIndex = c.outputIndex)
    (still : output.completed = false)
    (processed : runProcessors (resolvedFor c output.target none) processors (-1) p = (fence, p'))
    (pending : ∃ o ∈ (markedRow row output.outputIndex fence).outputBuffers,
      o.completed = false) :
    FillOutcome processors completion now p s .nothing p'
      { s with
        inFlight := { s.inFlight with
          driverOutputs := s.inFlight.driverOutputs.erase completion.token
          requests := s.inFlight.requests.insert c.frameNumber
            (markedRow row output.outputIndex fence) } }
  | complete {c : DriverOutputContext} {row : InFlightRequest} {output : InFlightOutput}
    {fence : Int} {p' : π}
    (bound : s.inFlight.driverOutputs.lookup completion.token = some c)
    (live : s.inFlight.requests.lookup c.frameNumber = some row)
    (member : output ∈ row.outputBuffers) (index : output.outputIndex = c.outputIndex)
    (still : output.completed = false)
    (processed : runProcessors (resolvedFor c output.target none) processors (-1) p = (fence, p'))
    (finished : ∀ o ∈ (markedRow row output.outputIndex fence).outputBuffers,
      o.completed = true) :
    FillOutcome processors completion now p s
      (.capture (captureResultFromOutputCompletion (markedRow row output.outputIndex fence)
        output.target now)) p'
      { s with
        inFlight := { s.inFlight with
          driverOutputs := s.inFlight.driverOutputs.erase completion.token
          requests := s.inFlight.requests.erase c.frameNumber }
        metrics := s.metrics.recordSuccess (latencySince now row.submittedAt) }

theorem tryFill_outcome (processors : List (Option (OutputProcessor π)))
    (completion : DriverCompletion) (now : Int) (p : π) {s : Session δ} {next : Nat}
    (C : Consistent s.inFlight next) {filled : Filled} {p' : π} {s' : Session δ}
    (run : tryFillResultFromCompletion processors completion now p s = (filled, p', s')) :
    FillOutcome processors completion now p s filled p' s' := by
  simp only [tryFillResultFromCompletion] at run
  cases bound : s.inFlight.driverOutputs.lookup completion.token with
  | none =>
    simp only [Tracker.takeDriverOutputContext, bound] at run
    cases run
    exact FillOutcome.unknown bound
  | some c =>
    by_cases negative : c.outputIndex < 0
    · obtain ⟨output, row, taken⟩ := take_stream C bound negative
      simp only [taken] at run
      cases processed : runProcessors (resolvedFor c output.target (some output)) processors
        (-1) p with
      | mk fence p₁ =>
        rw [resolvedFor] at processed
        simp only [processed] at run
        cases run
        exact FillOutcome.preview bound negative row processed
    · obtain ⟨row, output, live, member, index, still, taken⟩ :=
        take_output C bound (Int.not_lt.mp negative)
      simp only [taken] at run
      cases processed : runProcessors (resolvedFor c output.target none) processors (-1) p with
      | mk fence p₁ =>
        have found : ({ s.inFlight with
            driverOutputs := s.inFlight.driverOutputs.erase completion.token } :
              Tracker).requests.lookup c.frameNumber = some row := live
        rw [resolvedFor] at processed
        simp only [processed] at run
        simp only [← index] at run
        rcases completeOutput_spec found member fence
          { sensorTimestamp := completion.timestamp } with ⟨pending, done⟩ | ⟨finished, done⟩
        · simp only [done] at run
          cases run
          exact FillOutcome.waiting bound live member index still processed pending
        · simp only [done] at run
          cases run
          exact FillOutcome.complete bound live member index still processed finished

theorem returnStreamBuffer_cases (lease : StreamBufferLease) (output : InFlightStreamingOutput)
    (s : Session δ) :
    returnStreamBuffer D lease output s = s ∨
      ∃ d d' metrics, s.driver = some d ∧ s.state = .streaming ∧
        ((D.returnStreamBuffer lease d = (none, d') ∧
          returnStreamBuffer D lease output s = { s with driver := some d', metrics := metrics }) ∨
          ∃ token, D.returnStreamBuffer lease d = (some token, d') ∧
            returnStreamBuffer D lease output s =
              { s with
                driver := some d'
                metrics := metrics
                nextStreamingFrameNumber := s.nextStreamingFrameNumber + 1
                inFlight := (bindStreamingOutputs
                  [(token, { output with frameNumber := s.nextStreamingFrameNumber })]
                  s.inFlight).2 }) := by
  simp only [returnStreamBuffer]
  split
  · exact Or.inl rfl
  rename_i d at_driver
  split
  case isFalse => exact Or.inl rfl
  rename_i streaming
  right
  split
  · rename_i d' refused
    exact ⟨d, d', _, at_driver, streaming, Or.inl ⟨refused, rfl⟩⟩
  · rename_i token d' returned
    exact ⟨d, d', _, at_driver, streaming, Or.inr ⟨token, returned, rfl⟩⟩

theorem dequeueCompletion_cases (readyFd : Int) (s : Session δ) :
    dequeueCompletion D readyFd s = (none, s) ∨
      ∃ d, s.driver = some d ∧ s.state = .streaming ∧
        dequeueCompletion D readyFd s =
          ((D.dequeueCompletion readyFd d).1,
            { s with driver := some (D.dequeueCompletion readyFd d).2 }) := by
  simp only [dequeueCompletion]
  split
  · exact Or.inl rfl
  rename_i d at_driver
  split
  · rename_i streaming
    exact Or.inr ⟨d, at_driver, streaming, rfl⟩
  · exact Or.inl rfl

end Completions

section Flushing

def flushResults (message : String) (now : Int) (s : Session δ) : List CaptureResult :=
  flushedResults message now s.inFlight.flushAll.1

theorem flushResults_status {message : String} {now : Int} {s : Session δ} {result : CaptureResult}
    (member : result ∈ flushResults message now s) : result.status = .flushed := by
  simp only [flushResults, flushedResults, List.mem_map] at member
  obtain ⟨row, -, rfl⟩ := member
  rfl

theorem flush_active (now : Int) {s : Session δ}
    (active : s.state = .streaming ∨ s.state = .configured) :
    flush D now s =
      (flushResults "request flushed" now s,
        { s with
          state := .configured
          driver := s.driver.map D.stopStreaming
          inFlight := Tracker.empty
          metrics := s.metrics.recordFailures s.inFlight.flushAll.1.length }) := by
  simp only [flush, if_pos active]
  rfl

theorem flush_inactive (now : Int) {s : Session δ}
    (inactive : ¬ (s.state = .streaming ∨ s.state = .configured)) : flush D now s = ([], s) := by
  simp only [flush, if_neg inactive]

theorem close_open (now : Int) {s : Session δ} (running : s.state ≠ .stopped) :
    close D now s =
      (flushResults "session closed" now s,
        { s with
          state := .stopped
          driver := (s.driver.map D.stopStreaming).map D.close
          driverFds := []
          inFlight := Tracker.empty
          metrics := s.metrics.recordFailures s.inFlight.flushAll.1.length }) := by
  simp only [close, if_neg running]
  rfl

theorem close_stopped (now : Int) {s : Session δ} (stopped : s.state = .stopped) :
    close D now s = ([], s) := by
  simp only [close, if_pos stopped]

end Flushing

section Ignored

variable {s : Session δ}

theorem configureStreams_ignored (late : s.state ≠ .created) (registered : Bool) :
    configureStreams D registered s = (false, s) := by
  simp only [configureStreams, if_neg late]
  split <;> rfl

theorem startStreaming_ignored (unready : s.state ≠ .configured) :
    startStreaming D s = (false, s) := by
  simp only [startStreaming, if_neg unready]
  split <;> rfl

theorem dequeueCompletion_ignored (idle : s.state ≠ .streaming) (readyFd : Int) :
    dequeueCompletion D readyFd s = (none, s) := by
  simp only [dequeueCompletion, if_neg idle]
  split <;> rfl

theorem returnStreamBuffer_ignored (idle : s.state ≠ .streaming) (lease : StreamBufferLease)
    (output : InFlightStreamingOutput) : returnStreamBuffer D lease output s = s := by
  simp only [returnStreamBuffer, if_neg idle]
  split <;> rfl

theorem rejectRequest_of_idle (idle : s.state ≠ .streaming) : rejectRequest s = true := by
  simp [rejectRequest, idle]

theorem submitCaptureRequest_rejected (rejected : rejectRequest s = true) (now : Int)
    (request : CaptureRequest) :
    submitCaptureRequest D now request s =
      (some (makeResult request.frameNumber .flushed [] "session is not accepting requests"
        (latencySince now request.submittedAt)),
        { s with metrics := s.metrics.recordFailure }) := by
  simp only [submitCaptureRequest, rejected]
  cases s.driver <;> rfl

end Ignored

section Steps

theorem postStep_outcome {s t : System δ π} {k : Nat} {accepted : Bool}
    (taken : postStep k accepted s = some t) :
    (accepted = false ∧ t = { s with admitting := s.admitting.eraseIdx k }) ∨
      ∃ request, s.admitting[k]? = some request ∧ accepted = true ∧
        t = { s with
          admitting := s.admitting.eraseIdx k
          accepted := s.accepted ++ [request]
          tasks := s.tasks ++ [(s.accepted.length, request)] } := by
  simp only [postStep] at taken
  split at taken
  · cases taken
  rename_i request found
  cases accepted with
  | false =>
    cases taken
    exact Or.inl ⟨rfl, rfl⟩
  | true =>
    cases taken
    exact Or.inr ⟨request, found, rfl, rfl⟩

def Passive : Label → Prop
  | .configureStreams _ | .startStreaming | .processRequest _ | .dequeue _ | .returnStream _ =>
    True
  | _ => False

structure Frame (s t : System δ π) : Prop where
  rows : t.session.inFlight.requests = s.session.inFlight.requests
  closed : t.session.closedFences = s.session.closedFences
  accepted : t.accepted = s.accepted
  tasks : t.tasks = s.tasks
  callbacks : t.callbacks = s.callbacks
  returning : ∀ handler ∈ t.returning, handler ∈ s.returning
  prepared : t.prepared = s.prepared
  dispatched : t.dispatched = s.dispatched
  submissions : t.submissions = s.submissions
  owner : t.owner = s.owner
  credits : t.credits = s.credits

theorem startStreaming_rows (s : Session δ) :
    (startStreaming D s).2.inFlight.requests = s.inFlight.requests ∧
      (startStreaming D s).2.closedFences = s.closedFences := by
  rcases startStreaming_cases D s with
    same | ⟨d, d', next, state, -, -, -, -, ⟨same, -⟩ | ⟨submissions, -, -, -, -, same⟩⟩ <;>
    rw [same]
  · exact ⟨rfl, rfl⟩
  · exact ⟨rfl, rfl⟩
  · exact ⟨(bindStreamingOutputs_adds _ _).1, rfl⟩

theorem returnStreamBuffer_rows (lease : StreamBufferLease) (output : InFlightStreamingOutput)
    (s : Session δ) :
    (returnStreamBuffer D lease output s).inFlight.requests = s.inFlight.requests ∧
      (returnStreamBuffer D lease output s).closedFences = s.closedFences := by
  rcases returnStreamBuffer_cases D lease output s with
    same | ⟨d, d', metrics, -, -, ⟨-, same⟩ | ⟨token, -, same⟩⟩ <;> rw [same]
  · exact ⟨rfl, rfl⟩
  · exact ⟨rfl, rfl⟩
  · exact ⟨(bindStreamingOutputs_adds _ _).1, rfl⟩

theorem step_frame {processors : List (Option (OutputProcessor π))} {callbacks : Callbacks}
    {s t : System δ π} {a : Label} (passive : Passive a)
    (taken : step D processors callbacks s a = some t) : Frame s t := by
  have of_session : ∀ (session : Session δ) (admitting : List CaptureRequest)
      (dequeued : List DriverCompletion) (returning : List PreviewHandler)
      (boundFor : DriverToken → Option Binding),
      session.inFlight.requests = s.session.inFlight.requests ∧
        session.closedFences = s.session.closedFences →
      (∀ handler ∈ returning, handler ∈ s.returning) →
      Frame s { s with
        session := session
        admitting := admitting
        dequeued := dequeued
        returning := returning
        boundFor := boundFor } := by
    intro session admitting dequeued returning boundFor same handlers
    exact ⟨same.1, same.2, rfl, rfl, rfl, handlers, rfl, rfl, rfl, rfl, rfl⟩
  cases a with
  | configureStreams registered =>
    cases taken
    refine of_session _ _ _ _ _ ?_ fun _ => id
    rcases configureStreams_cases D registered s.session with
      same | ⟨d, d', fds, state, -, -, -, -, same⟩ <;> rw [same] <;> exact ⟨rfl, rfl⟩
  | startStreaming =>
    cases taken
    exact of_session _ _ _ _ _ (startStreaming_rows D s.session) fun _ => id
  | processRequest request =>
    simp only [step] at taken
    split at taken <;> cases taken
    exact of_session _ _ _ _ _ ⟨rfl, rfl⟩ fun _ => id
  | dequeue readyFd =>
    cases taken
    refine of_session _ _ _ _ _ ?_ fun _ => id
    rcases dequeueCompletion_cases D readyFd s.session with same | ⟨d, -, -, same⟩ <;>
      rw [same] <;> exact ⟨rfl, rfl⟩
  | returnStream k =>
    simp only [step, returnStep] at taken
    split at taken <;> cases taken
    rename_i handler at_handler
    refine of_session _ _ _ _ _ (returnStreamBuffer_rows D _ _ s.session) ?_
    exact fun _ => List.mem_of_mem_eraseIdx
  | post _ _ => exact passive.elim
  | runTask _ _ => exact passive.elim
  | process _ _ => exact passive.elim
  | dispatch _ => exact passive.elim
  | streamCallback _ _ => exact passive.elim
  | flush _ => exact passive.elim
  | close _ => exact passive.elim

theorem runTaskStep_outcome {s t : System δ π} {k : Nat} {now : Int}
    (taken : runTaskStep D k now s = some t) :
    ∃ id request, s.tasks[k]? = some (id, request) ∧
      ((∃ result session, SubmitOutcome D now request s.session (some result) session ∧
          t = { s with
            tasks := s.tasks.eraseIdx k
            session := session
            submissions := s.submissions ++ [(id, s.session.driver, session.driver)]
            prepared := s.prepared ++ [(id, result)] }) ∨
        ∃ session, SubmitOutcome D now request s.session none session ∧
          t = { s with
            tasks := s.tasks.eraseIdx k
            session := session
            submissions := s.submissions ++ [(id, s.session.driver, session.driver)]
            owner := Function.update s.owner request.frameNumber id
            boundFor := recordBindings s.session.inFlight session.inFlight
              (fun _ => .capture id) s.boundFor }) := by
  simp only [runTaskStep] at taken
  split at taken
  · cases taken
  rename_i id request at_task
  refine ⟨id, request, at_task, ?_⟩
  have outcome := submitCaptureRequest_outcome D now request s.session
  split at taken
  · rename_i result session run
    cases taken
    rw [run] at outcome
    exact Or.inl ⟨result, session, outcome, rfl⟩
  · rename_i session run
    cases taken
    rw [run] at outcome
    exact Or.inr ⟨session, outcome, rfl⟩

theorem processStep_outcome {processors : List (Option (OutputProcessor π))} {s t : System δ π}
    {k : Nat} {now : Int} {next : Nat} (C : Consistent s.session.inFlight next)
    (taken : processStep processors k now s = some t) :
    ∃ completion filled p session, s.dequeued[k]? = some completion ∧
      FillOutcome processors completion now s.processorState s.session filled p session ∧
      t = afterCompletion k completion.token filled p session s := by
  simp only [processStep] at taken
  split at taken
  · cases taken
  rename_i completion at_completion
  cases taken
  exact ⟨completion, _, _, _, at_completion, tryFill_outcome processors completion now _ C rfl, rfl⟩

theorem creditOf_unbound {s : System δ π} {token : DriverToken}
    (unbound : s.session.inFlight.driverOutputs.lookup token = none) : creditOf s token = [] := by
  simp only [creditOf, Tracker.takeDriverOutputContext, unbound]

theorem creditOf_stream {s : System δ π} {token : DriverToken} {c : DriverOutputContext}
    {next : Nat} (C : Consistent s.session.inFlight next)
    (bound : s.session.inFlight.driverOutputs.lookup token = some c)
    (negative : c.outputIndex < 0) :
    creditOf s token =
      [{ token := token, use := .preview c.frameNumber, outputIndex := c.outputIndex }] := by
  obtain ⟨output, -, taken⟩ := take_stream C bound negative
  simp only [creditOf, taken, Option.isSome_some, if_true]

theorem creditOf_output {s : System δ π} {token : DriverToken} {c : DriverOutputContext}
    {next : Nat} (C : Consistent s.session.inFlight next)
    (bound : s.session.inFlight.driverOutputs.lookup token = some c)
    (nonnegative : 0 ≤ c.outputIndex) :
    creditOf s token =
      [{ token := token
         use := .capture (s.owner c.frameNumber)
         outputIndex := c.outputIndex }] := by
  obtain ⟨row, output, -, -, -, -, taken⟩ := take_output C bound nonnegative
  simp only [creditOf, taken, Option.isSome_none, Bool.false_eq_true, if_false]

end Steps

end MiniCam.Hal.SessionSpec
