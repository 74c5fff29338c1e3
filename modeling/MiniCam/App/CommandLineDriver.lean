/- Module: MiniCam/App/CommandLineDriver
   source: app/minicam_cli.cpp
   digest: The driver that the command line program makes for its session. -/

import MiniCam.App.CommandLine
import MiniCam.V4L2.ErrorTexts

set_option autoImplicit false
set_option relaxedAutoImplicit false

namespace MiniCam.App.CommandLineDriver

open MiniCam.Hal.Interface
open MiniCam.Hal.DriverInvariants
open MiniCam.Hal.MockDriverAdapter (MockDriver PipeAnswer)
open MiniCam.V4L2.DriverAdapter (V4L2StreamConfig SingleDriver single)
open MiniCam.V4L2.ErrorTexts
open MiniCam.V4L2.MultiStream (MultiDriver multi)
open MiniCam.App.CommandLine

inductive Driver where
  | mock (driver : MockDriver)
  | single (driver : SingleDriver)
  | multi (driver : MultiDriver)

/-- What the system answers a driver: the video nodes, and for the mock its pipe, the byte that
wakes the session up, and the clock. -/
structure DriverAnswers where
  nodes : MiniCam.V4L2.VideoNodes.Answers
  pipe : PipeAnswer := .opened 5 6
  wakeFailure : Option String := none
  clock : Int := 0

def makeDriver (options : CliOptions) (answers : DriverAnswers) : Driver :=
  let stream : V4L2StreamConfig :=
    { width := options.width, height := options.height, bufferCount := options.bufferCount }
  if options.useV4l2 then
    if options.previewDevicePath.isSome && options.stillDevicePath.isSome then
      .multi (MultiDriver.create
        [{ streamType := .preview, stream := stream }, { streamType := .still, stream := stream }]
        answers.nodes)
    else .single (SingleDriver.create stream answers.nodes)
  else
    .mock
      { pipe := answers.pipe
        wakeFailure := answers.wakeFailure
        clock := answers.clock }

namespace Driver

/-- A virtual call that changes the object. -/
def change (method : ∀ {δ : Type}, DriverAdapter δ → δ → δ) : Driver → Driver
  | .mock m => .mock (method MiniCam.Hal.MockDriverAdapter.adapter m)
  | .single d => .single (method MiniCam.V4L2.DriverAdapter.single d)
  | .multi m => .multi (method MiniCam.V4L2.MultiStream.multi m)

/-- A virtual call that answers. -/
def call {α : Type} (method : ∀ {δ : Type}, DriverAdapter δ → δ → α × δ) : Driver → α × Driver
  | .mock m =>
    ((method MiniCam.Hal.MockDriverAdapter.adapter m).1,
      .mock (method MiniCam.Hal.MockDriverAdapter.adapter m).2)
  | .single d =>
    ((method MiniCam.V4L2.DriverAdapter.single d).1,
      .single (method MiniCam.V4L2.DriverAdapter.single d).2)
  | .multi m =>
    ((method MiniCam.V4L2.MultiStream.multi m).1,
      .multi (method MiniCam.V4L2.MultiStream.multi m).2)

/-- A virtual call that only reads. -/
def read {α : Type} (method : ∀ {δ : Type}, DriverAdapter δ → δ → α) : Driver → α
  | .mock m => method MiniCam.Hal.MockDriverAdapter.adapter m
  | .single d => method MiniCam.V4L2.DriverAdapter.single d
  | .multi m => method MiniCam.V4L2.MultiStream.multi m

def adapter : DriverAdapter Driver where
  configureStream := call fun D => D.configureStream
  startStreaming := call fun D => D.startStreaming
  startContinuousStream := fun stream buffers =>
    call fun D => D.startContinuousStream stream buffers
  stopStreaming := change fun D => D.stopStreaming
  close := change fun D => D.close
  canSubmitCaptureOutputs := fun outputs => call fun D => D.canSubmitCaptureOutputs outputs
  submitCapture := fun target => call fun D => D.submitCapture target
  dequeueCompletion := fun readyFd => call fun D => D.dequeueCompletion readyFd
  returnStreamBuffer := fun lease => call fun D => D.returnStreamBuffer lease
  eventFds := read fun D => D.eventFds
  lastError := read fun D => D.lastError

def PlainTexts : Driver → Prop
  | .mock m => PlainMock m
  | .single d => Plain d.adapter
  | .multi m => AllPlain m

theorem lastError_plain : ∀ d : Driver, PlainTexts d → adapter.lastError d ≠ "preview"
  | .mock _, plain => plain
  | .single _, plain => plain.ne_preview
  | .multi _, plain => plain.own.ne_preview

theorem keeps_plain : Keeps adapter PlainTexts where
  configureStream
    | .mock m, plain => mock_keeps.configureStream m plain
    | .single d, plain => single_keeps.configureStream d plain
    | .multi m, plain => multi_keeps.configureStream m plain
  startStreaming
    | .mock m, plain => mock_keeps.startStreaming m plain
    | .single d, plain => single_keeps.startStreaming d plain
    | .multi m, plain => multi_keeps.startStreaming m plain
  startContinuousStream
    | stream, buffers, .mock m, plain => mock_keeps.startContinuousStream stream buffers m plain
    | stream, buffers, .single d, plain =>
      single_keeps.startContinuousStream stream buffers d plain
    | stream, buffers, .multi m, plain => multi_keeps.startContinuousStream stream buffers m plain
  stopStreaming
    | .mock m, plain => mock_keeps.stopStreaming m plain
    | .single d, plain => single_keeps.stopStreaming d plain
    | .multi m, plain => multi_keeps.stopStreaming m plain
  close
    | .mock m, plain => mock_keeps.close m plain
    | .single d, plain => single_keeps.close d plain
    | .multi m, plain => multi_keeps.close m plain
  canSubmitCaptureOutputs
    | outputs, .mock m, plain => mock_keeps.canSubmitCaptureOutputs outputs m plain
    | outputs, .single d, plain => single_keeps.canSubmitCaptureOutputs outputs d plain
    | outputs, .multi m, plain => multi_keeps.canSubmitCaptureOutputs outputs m plain
  submitCapture
    | target, .mock m, plain => mock_keeps.submitCapture target m plain
    | target, .single d, plain => single_keeps.submitCapture target d plain
    | target, .multi m, plain => multi_keeps.submitCapture target m plain
  dequeueCompletion
    | readyFd, .mock m, plain => mock_keeps.dequeueCompletion readyFd m plain
    | readyFd, .single d, plain => single_keeps.dequeueCompletion readyFd d plain
    | readyFd, .multi m, plain => multi_keeps.dequeueCompletion readyFd m plain
  returnStreamBuffer
    | lease, .mock m, plain => mock_keeps.returnStreamBuffer lease m plain
    | lease, .single d, plain => single_keeps.returnStreamBuffer lease d plain
    | lease, .multi m, plain => multi_keeps.returnStreamBuffer lease m plain

theorem makeDriver_plain (options : CliOptions) (answers : DriverAnswers) :
    PlainTexts (makeDriver options answers) := by
  have silent : PlainText "" := by simp [PlainText]
  unfold makeDriver
  simp only
  split
  · split
    · refine ⟨silent, fun endpoint member => ?_⟩
      obtain ⟨entry, -, rfl⟩ := List.mem_map.mp member
      exact silent
    · exact silent
  · simp [PlainTexts, PlainMock]

end Driver

end MiniCam.App.CommandLineDriver
