/- Module: MiniCam/Hal/Interface
   source: interface/capture_request.h, interface/capture_result.h, hal/driver_adapter.h,
     hal/output_processor.h, hal/frame_metrics.cpp, hal/latency_tracker.cpp
   digest: The data that crosses the session boundary, the driver and processor hooks. -/

import Mathlib.Logic.Function.Iterate

set_option autoImplicit false
set_option relaxedAutoImplicit false

namespace MiniCam.Hal.Interface

inductive StreamType where
  | preview
  | still
  | video
  deriving DecidableEq

inductive PixelFormat where
  | rgb24
  | yuyv422
  deriving DecidableEq

structure StreamConfig where
  streamId : Int := 0
  streamType : StreamType := .preview
  width : Int := 640
  height : Int := 480
  format : PixelFormat := .rgb24
  deriving DecidableEq

/-- One output of a request. `DriverOutputBuffer` wraps exactly one of these. -/
structure OutputBufferTarget where
  streamId : Int := 0
  bufferId : Int := -1
  bufferFd : Int := -1
  acquireFenceFd : Int := -1
  bufferSize : Nat := 0
  streamType : StreamType := .still
  width : Int := 640
  height : Int := 480
  format : PixelFormat := .rgb24
  deriving DecidableEq

/-- A framework request. Time points are microseconds of the steady clock. -/
structure CaptureRequest where
  frameNumber : Nat := 0
  width : Int := 640
  height : Int := 480
  outputBuffers : List OutputBufferTarget := []
  submittedAt : Int := 0
  deriving DecidableEq

inductive CaptureStatus where
  | ok
  | flushed
  | sensorError
  | processingError
  deriving DecidableEq

inductive FramePayloadFormat where
  | none
  | rgb24
  | yuyv422
  deriving DecidableEq

structure CompletedOutputBuffer where
  streamId : Int := 0
  bufferId : Int := -1
  outputIndex : Int := -1
  status : CaptureStatus := .ok
  releaseFenceFd : Int := -1
  deriving DecidableEq

structure CaptureResult where
  frameNumber : Nat := 0
  status : CaptureStatus := .ok
  completedOutputBuffers : List CompletedOutputBuffer := []
  message : String := ""
  latency : Int := 0
  width : Int := 0
  height : Int := 0
  payloadFormat : FramePayloadFormat := .none
  deriving DecidableEq

/-- `DriverToken`, and `DriverSubmission` that wraps one. A driver that counts its tokens does so in
64 bits; counted in `Nat` they are its tokens up to the first `2 ^ 64`. -/
abbrev DriverToken := Nat

structure DriverCompletion where
  token : DriverToken
  bytesUsed : Nat := 0
  timestamp : Int := 0
  deriving DecidableEq

structure StreamBufferLease where
  frameNumber : Nat := 0
  streamId : Int := 0
  streamType : StreamType := .preview
  bufferId : Int := -1
  bufferFd : Int := -1
  bufferSize : Nat := 0
  consumerReleaseFenceFd : Int := -1
  deriving DecidableEq

/-- The virtual methods of `DriverAdapter` over a driver state. Any behaviour of a
backend is some state type with some such record; the const preflight may still
read hardware, so it returns a state as well. -/
structure DriverAdapter (δ : Type) where
  configureStream : δ → Bool × δ
  startStreaming : δ → Bool × δ
  startContinuousStream : StreamConfig → List OutputBufferTarget → δ →
    Option (List DriverToken) × δ
  stopStreaming : δ → δ
  close : δ → δ
  canSubmitCaptureOutputs : List OutputBufferTarget → δ → Bool × δ
  submitCapture : OutputBufferTarget → δ → Option DriverToken × δ
  dequeueCompletion : Int → δ → Option DriverCompletion × δ
  returnStreamBuffer : StreamBufferLease → δ → Option DriverToken × δ
  eventFds : δ → List Int
  lastError : δ → String

structure OutputProcessRequest where
  frameNumber : Nat := 0
  outputIndex : Int := -1
  streamId : Int := 0
  bufferId : Int := -1
  bufferFd : Int := -1
  bufferSize : Nat := 0
  inputAcquireFenceFd : Int := -1
  width : Int := 0
  height : Int := 0
  payloadFormat : FramePayloadFormat := .none
  deriving DecidableEq

/-- `process_output` of one processor, over a state shared by the processors; the
result is the release fence. -/
abbrev OutputProcessor (π : Type) := OutputProcessRequest → π → Int × π

/-- `FrameMetrics` with its `LatencyTracker` inlined. The counters of the source have 64 bits; these
are theirs as long as fewer than `2 ^ 64` frames have ended. -/
structure FrameMetrics where
  completed : Nat := 0
  failed : Nat := 0
  latencyCount : Nat := 0
  latencyTotal : Int := 0
  deriving DecidableEq

def FrameMetrics.recordSuccess (m : FrameMetrics) (latency : Int) : FrameMetrics :=
  { m with
    completed := m.completed + 1
    latencyCount := m.latencyCount + 1
    latencyTotal := m.latencyTotal + latency }

def FrameMetrics.recordFailure (m : FrameMetrics) : FrameMetrics :=
  { m with failed := m.failed + 1 }

def FrameMetrics.recordFailures (m : FrameMetrics) (n : Nat) : FrameMetrics :=
  Nat.iterate FrameMetrics.recordFailure n m

end MiniCam.Hal.Interface
