/- Module: MiniCam/Hal/CameraDeviceSession
   source: hal/camera_device_session.h, hal/camera_device_session.cpp
   digest: The mutex-protected sections of a session as functions of its members. -/

import MiniCam.Hal.InFlightRequestTracker

set_option autoImplicit false
set_option relaxedAutoImplicit false

namespace MiniCam.Hal.CameraDeviceSession

open MiniCam.Hal.Interface
open MiniCam.Hal.InFlightRequestTracker

structure CameraDeviceSessionConfig where
  sessionId : Int := 0
  continuousPreviewConfig : Option StreamConfig := none
  continuousPreviewBuffers : List OutputBufferTarget := []

inductive CameraSessionState where
  | created
  | configured
  | streaming
  | flushing
  | stopping
  | stopped
  | error
  deriving DecidableEq

/-- The members guarded by `mutex_`. The driver pointer may be null, and the fences
the session itself closes are kept in order. The 64 bits of the next streaming frame number, which
starts at `10 ^ 12`, last for `2 ^ 64 - 10 ^ 12` preview buffers. -/
structure Session (δ : Type) where
  config : CameraDeviceSessionConfig
  state : CameraSessionState
  driver : Option δ
  driverFds : List Int
  inFlight : Tracker
  metrics : FrameMetrics
  nextStreamingFrameNumber : Nat
  closedFences : List Int

variable {δ π : Type}

def Session.create (config : CameraDeviceSessionConfig) (driver : Option δ) : Session δ :=
  { config := config
    state := .created
    driver := driver
    driverFds := []
    inFlight := Tracker.empty
    metrics := {}
    nextStreamingFrameNumber := 1000000000000
    closedFences := [] }

section Results

def latencySince (now start : Int) : Int := now - start

def makeResult (frameNumber : Nat) (status : CaptureStatus)
    (completedBuffers : List CompletedOutputBuffer) (message : String) (latency : Int) :
    CaptureResult :=
  { frameNumber := frameNumber
    status := status
    completedOutputBuffers := completedBuffers
    message := message
    latency := latency }

def requestOutputsFor (request : CaptureRequest) : List OutputBufferTarget :=
  if request.outputBuffers ≠ [] then request.outputBuffers
  else
    [{ streamId := 0
       bufferId := -1
       bufferFd := -1
       bufferSize := 0
       streamType := .still
       width := request.width
       height := request.height
       format := .rgb24 }]

def completedBuffer (status : CaptureStatus) (output : InFlightOutput) : CompletedOutputBuffer :=
  { streamId := output.target.streamId
    bufferId := output.target.bufferId
    outputIndex := output.outputIndex
    status := status
    releaseFenceFd := output.releaseFenceFd }

def completedBuffersFor (buffers : List InFlightOutput) (status : CaptureStatus) :
    List CompletedOutputBuffer :=
  buffers.map (completedBuffer status)

def payloadFormatFor : PixelFormat → FramePayloadFormat
  | .rgb24 => .rgb24
  | .yuyv422 => .yuyv422

def captureResultFromStandaloneCompletion (output : InFlightStreamingOutput)
    (releaseFenceFd : Int) : CaptureResult :=
  { frameNumber := output.frameNumber
    status := .ok
    completedOutputBuffers :=
      [{ streamId := output.target.streamId
         bufferId := output.target.bufferId
         outputIndex := -1
         status := .ok
         releaseFenceFd := releaseFenceFd }]
    message := "preview"
    latency := 0
    width := output.target.width
    height := output.target.height
    payloadFormat := payloadFormatFor output.target.format }

def streamBufferLeaseFromCompletion (output : InFlightStreamingOutput) : StreamBufferLease :=
  { frameNumber := output.frameNumber
    streamId := output.target.streamId
    streamType := output.streamType
    bufferId := output.target.bufferId
    bufferFd := output.target.bufferFd
    bufferSize := output.target.bufferSize
    consumerReleaseFenceFd := -1 }

/-- The result of a completed row; size and format come from the output whose
completion was the last one. -/
def captureResultFromOutputCompletion (request : InFlightRequest) (target : OutputBufferTarget)
    (now : Int) : CaptureResult :=
  { frameNumber := request.frameNumber
    status := .ok
    completedOutputBuffers := completedBuffersFor request.outputBuffers .ok
    message := "ok"
    latency := latencySince now request.submittedAt
    width := target.width
    height := target.height
    payloadFormat := payloadFormatFor target.format }

def makeInFlightOutputs (outputs : List OutputBufferTarget) : List InFlightOutput :=
  outputs.zipIdx.map fun (target, i) => { target := target, outputIndex := (i : Int) }

end Results

section Lifecycle

variable (D : DriverAdapter δ)

/-- `configure_streams`; the runtime's answer to `register_session` is an input. -/
def configureStreams (registered : Bool) (s : Session δ) : Bool × Session δ :=
  match s.driver with
  | none => (false, s)
  | some d =>
    if s.state = .created then
      match D.configureStream d with
      | (false, d') => (false, { s with driver := some d', state := .error })
      | (true, d') =>
        let opened := { s with driver := some d', driverFds := D.eventFds d' }
        if registered then (true, { opened with state := .configured })
        else (false, { opened with state := .error })
    else (false, s)

def bindStreamingOutputs : List (DriverToken × InFlightStreamingOutput) → Tracker → Bool × Tracker
  | [], t => (true, t)
  | (token, output) :: rest, t =>
    match t.registerStreamingOutput output with
    | (false, t') => (false, t')
    | (true, t') =>
      match t'.bindDriverOutput token { frameNumber := output.frameNumber, outputIndex := -1 } with
      | (false, t'') => (false, t'')
      | (true, t'') => bindStreamingOutputs rest t''

def streamingOutputsFrom (next : Nat) (buffers : List OutputBufferTarget) :
    List InFlightStreamingOutput :=
  (buffers.zipIdx next).map fun (target, frameNumber) =>
    { frameNumber := frameNumber, target := target, streamType := target.streamType }

def startStreaming (s : Session δ) : Bool × Session δ :=
  match s.driver with
  | none => (false, s)
  | some d =>
    if s.state = .configured then
      match D.startStreaming d with
      | (false, d') => (false, { s with driver := some d', state := .error })
      | (true, d') =>
        match s.config.continuousPreviewConfig with
        | none => (true, { s with driver := some d', state := .streaming })
        | some stream =>
          let buffers := s.config.continuousPreviewBuffers
          if buffers = [] then (false, { s with driver := some d', state := .error })
          else
            let outputs := streamingOutputsFrom s.nextStreamingFrameNumber buffers
            let next := s.nextStreamingFrameNumber + buffers.length
            match D.startContinuousStream stream buffers d' with
            | (none, d'') =>
              (false, { s with
                driver := some d'', state := .error, nextStreamingFrameNumber := next })
            | (some submissions, d'') =>
              if submissions.length ≠ outputs.length then
                (false, { s with
                  driver := some d'', state := .error, nextStreamingFrameNumber := next })
              else
                match bindStreamingOutputs (submissions.zip outputs) s.inFlight with
                | (false, t) =>
                  (false, { s with
                    driver := some d''
                    state := .error
                    nextStreamingFrameNumber := next
                    inFlight := t })
                | (true, t) =>
                  (true, { s with
                    driver := some d''
                    state := .streaming
                    nextStreamingFrameNumber := next
                    inFlight := t })
    else (false, s)

def flushedResults (message : String) (now : Int) (rows : List InFlightRequest) :
    List CaptureResult :=
  rows.map fun row =>
    makeResult row.frameNumber .flushed (completedBuffersFor row.outputBuffers .flushed) message
      (latencySince now row.submittedAt)

def flushInFlight (message : String) (now : Int) (s : Session δ) : List CaptureResult × Session δ :=
  match s.inFlight.flushAll with
  | (rows, t) =>
    (flushedResults message now rows, { s with
      inFlight := t.clearStreamingOutputs
      metrics := s.metrics.recordFailures rows.length })

def flush (now : Int) (s : Session δ) : List CaptureResult × Session δ :=
  if s.state = .streaming ∨ s.state = .configured then
    match flushInFlight "request flushed" now
        { s with state := .flushing, driver := s.driver.map D.stopStreaming } with
    | (results, s') => (results, { s' with state := .configured })
  else ([], s)

def close (now : Int) (s : Session δ) : List CaptureResult × Session δ :=
  if s.state = .stopped then ([], s)
  else
    match flushInFlight "session closed" now
        { s with state := .stopping, driver := s.driver.map D.stopStreaming } with
    | (results, s') =>
      (results, { s' with
        driver := s'.driver.map D.close
        driverFds := []
        state := .stopped })

end Lifecycle

section Requests

variable (D : DriverAdapter δ)

def rejectRequest (s : Session δ) : Bool := s.state ≠ .streaming || s.driver.isNone

def submitOutputs (frameNumber : Nat) :
    List (OutputBufferTarget × InFlightOutput) → δ → Tracker → Bool × δ × Tracker
  | [], d, t => (true, d, t)
  | (target, output) :: rest, d, t =>
    match D.submitCapture target d with
    | (none, d') => (false, d', t)
    | (some token, d') =>
      match t.bindDriverOutput token
          { frameNumber := frameNumber, outputIndex := output.outputIndex } with
      | (false, t') => (false, d', t')
      | (true, t') => submitOutputs frameNumber rest d' t'

def submitRequestToDriver (request : CaptureRequest) (outputs : List OutputBufferTarget)
    (inFlightOutputs : List InFlightOutput) (d : δ) (t : Tracker) : Bool × δ × Tracker :=
  match submitOutputs D request.frameNumber (outputs.zip inFlightOutputs) d t with
  | (false, d', t') => (false, d', t'.clearDriverOutputsForFrame request.frameNumber)
  | (true, d', t') =>
    match t'.markQueuedToDriver request.frameNumber with
    | (marked, t'') => (marked, d', t'')

/-- The cleanup shared by the failure exits: it removes whatever row and tokens
carry the frame number, and lists the buffers of that row when there was one. -/
def fillFailedResult (frameNumber : Nat) (status : CaptureStatus) (message : String)
    (fallbackBuffers : List CompletedOutputBuffer) (fallbackSubmittedAt now : Int)
    (s : Session δ) : CaptureResult × Session δ :=
  match s.inFlight.fail frameNumber with
  | (request, t) =>
    let buffers :=
      match request with
      | some row => completedBuffersFor row.outputBuffers status
      | none => fallbackBuffers
    let submittedAt :=
      match request with
      | some row => row.submittedAt
      | none => fallbackSubmittedAt
    (makeResult frameNumber status buffers message (latencySince now submittedAt), { s with
      inFlight := t.clearDriverOutputsForFrame frameNumber
      metrics := s.metrics.recordFailure })

/-- A submitted request has no result yet. -/
def submitCaptureRequest (now : Int) (request : CaptureRequest) (s : Session δ) :
    Option CaptureResult × Session δ :=
  let finish : CaptureResult × Session δ → Option CaptureResult × Session δ :=
    fun (result, s') => (some result, s')
  match s.driver, rejectRequest s with
  | some d, false =>
    let outputs := requestOutputsFor request
    let inFlightOutputs := makeInFlightOutputs outputs
    let failedBuffers := completedBuffersFor inFlightOutputs .processingError
    match D.canSubmitCaptureOutputs outputs d with
    | (false, d') =>
      let message :=
        if D.lastError d' = "" then "driver cannot accept every output" else D.lastError d'
      finish (fillFailedResult request.frameNumber .sensorError message failedBuffers
        request.submittedAt now { s with driver := some d' })
    | (true, d') =>
      match s.inFlight.start request inFlightOutputs with
      | (false, t) =>
        finish (fillFailedResult request.frameNumber .processingError "duplicate frame number"
          failedBuffers request.submittedAt now { s with driver := some d', inFlight := t })
      | (true, t) =>
        match submitRequestToDriver D request outputs inFlightOutputs d' t with
        | (false, d'', t') =>
          finish (fillFailedResult request.frameNumber .sensorError (D.lastError d'') [] now now
            { s with driver := some d'', inFlight := t' })
        | (true, d'', t') => (none, { s with driver := some d'', inFlight := t' })
  | _, _ =>
    (some (makeResult request.frameNumber .flushed [] "session is not accepting requests"
      (latencySince now request.submittedAt)), { s with metrics := s.metrics.recordFailure })

end Requests

section Completions

variable (D : DriverAdapter δ)

def dequeueCompletion (readyFd : Int) (s : Session δ) : Option DriverCompletion × Session δ :=
  match s.driver with
  | none => (none, s)
  | some d =>
    if s.state = .streaming then
      match D.dequeueCompletion readyFd d with
      | (completion, d') => (completion, { s with driver := some d' })
    else (none, s)

def processRequestFor (resolved : ResolvedDriverOutput) (inputFence : Int) :
    OutputProcessRequest :=
  { frameNumber := resolved.frameNumber
    outputIndex := resolved.outputIndex
    streamId := resolved.target.streamId
    bufferId := resolved.target.bufferId
    bufferFd := resolved.target.bufferFd
    bufferSize := resolved.target.bufferSize
    inputAcquireFenceFd := inputFence
    width := resolved.target.width
    height := resolved.target.height
    payloadFormat := payloadFormatFor resolved.target.format }

/-- The processors run in order, each on the previous one's fence; null entries are
skipped. -/
def runProcessors (resolved : ResolvedDriverOutput) :
    List (Option (OutputProcessor π)) → Int → π → Int × π
  | [], fence, p => (fence, p)
  | none :: rest, fence, p => runProcessors resolved rest fence p
  | some process :: rest, fence, p =>
    match process (processRequestFor resolved fence) p with
    | (fence', p') => runProcessors resolved rest fence' p'

inductive Filled where
  | nothing
  | capture (result : CaptureResult)
  | preview (result : CaptureResult) (lease : StreamBufferLease) (output : InFlightStreamingOutput)
  deriving DecidableEq

def closeFenceFd (fence : Int) (s : Session δ) : Session δ :=
  if 0 ≤ fence then { s with closedFences := s.closedFences ++ [fence] } else s

def tryFillResultFromCompletion (processors : List (Option (OutputProcessor π)))
    (completion : DriverCompletion) (now : Int) (p : π) (s : Session δ) :
    Filled × π × Session δ :=
  match s.inFlight.takeDriverOutputContext completion.token with
  | (none, t) => (.nothing, p, { s with inFlight := t, metrics := s.metrics.recordFailure })
  | (some resolved, t) =>
    match runProcessors resolved processors (-1) p with
    | (fence, p') =>
      match resolved.streamingOutput with
      | some output =>
        (.preview (captureResultFromStandaloneCompletion output fence)
            (streamBufferLeaseFromCompletion output) output, p',
          { s with inFlight := t, metrics := s.metrics.recordSuccess 0 })
      | none =>
        match t.completeOutput resolved.frameNumber resolved.outputIndex fence
            { sensorTimestamp := completion.timestamp } with
        | (.waitingForMoreOutputs, t') => (.nothing, p', { s with inFlight := t' })
        | (.notFound, t') =>
          (.nothing, p', closeFenceFd fence
            { s with inFlight := t', metrics := s.metrics.recordFailure })
        | (.requestComplete row, t') =>
          let result := captureResultFromOutputCompletion row resolved.target now
          (.capture result, p',
            { s with inFlight := t', metrics := s.metrics.recordSuccess result.latency })

/-- The second locked section of a preview completion. -/
def returnStreamBuffer (lease : StreamBufferLease) (output : InFlightStreamingOutput)
    (s : Session δ) : Session δ :=
  match s.driver with
  | none => s
  | some d =>
    if s.state = .streaming then
      match D.returnStreamBuffer lease d with
      | (none, d') => { s with driver := some d', metrics := s.metrics.recordFailure }
      | (some token, d') =>
        let next := { output with frameNumber := s.nextStreamingFrameNumber }
        let bound := bindStreamingOutputs [(token, next)] s.inFlight
        { s with
          driver := some d'
          nextStreamingFrameNumber := s.nextStreamingFrameNumber + 1
          inFlight := bound.2
          metrics := if bound.1 then s.metrics else s.metrics.recordFailure }
    else s

end Completions

end MiniCam.Hal.CameraDeviceSession
