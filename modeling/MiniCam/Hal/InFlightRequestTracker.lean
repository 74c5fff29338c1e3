/- Module: MiniCam/Hal/InFlightRequestTracker
   source: hal/in_flight_request_tracker.h, hal/in_flight_request_tracker.cpp
   digest: The three tables that tie frames, outputs and driver tokens together. -/

import MiniCam.Foundation.KeyedTable
import MiniCam.Hal.Interface

set_option autoImplicit false
set_option relaxedAutoImplicit false

namespace MiniCam.Hal.InFlightRequestTracker

open MiniCam.Foundation.KeyedTable (Table retain)
open MiniCam.Hal.Interface

inductive InFlightState where
  | submitted
  | queuedToDriver
  | completed
  | failed
  | flushed
  deriving DecidableEq

structure CaptureMetadata where
  sensorTimestamp : Int := 0
  exposureTime : Int := 0
  deriving DecidableEq

structure InFlightOutput where
  target : OutputBufferTarget
  outputIndex : Int := -1
  completed : Bool := false
  releaseFenceFd : Int := -1
  deriving DecidableEq

structure InFlightRequest where
  frameNumber : Nat
  request : CaptureRequest
  outputBuffers : List InFlightOutput
  metadata : CaptureMetadata := {}
  state : InFlightState := .submitted
  submittedAt : Int
  deriving DecidableEq

structure InFlightStreamingOutput where
  frameNumber : Nat := 0
  target : OutputBufferTarget
  streamType : StreamType := .preview
  deriving DecidableEq

structure DriverOutputContext where
  frameNumber : Nat := 0
  outputIndex : Int := -1
  deriving DecidableEq

structure ResolvedDriverOutput where
  frameNumber : Nat
  outputIndex : Int
  target : OutputBufferTarget
  streamingOutput : Option InFlightStreamingOutput
  deriving DecidableEq

/-- `OutputCompletionResult`: the request is present exactly with `RequestComplete`. -/
inductive OutputCompletion where
  | notFound
  | waitingForMoreOutputs
  | requestComplete (request : InFlightRequest)
  deriving DecidableEq

structure Tracker where
  requests : Table Nat InFlightRequest
  streamingOutputs : Table Nat InFlightStreamingOutput
  driverOutputs : Table DriverToken DriverOutputContext

namespace Tracker

def empty : Tracker :=
  { requests := ∅
    streamingOutputs := ∅
    driverOutputs := ∅ }

def start (t : Tracker) (request : CaptureRequest) (outputBuffers : List InFlightOutput) :
    Bool × Tracker :=
  if request.frameNumber ∈ t.requests ∨ outputBuffers = [] then (false, t)
  else
    (true, { t with
      requests := t.requests.insert request.frameNumber
        { frameNumber := request.frameNumber
          request := request
          outputBuffers := outputBuffers
          submittedAt := request.submittedAt } })

def markQueuedToDriver (t : Tracker) (frameNumber : Nat) : Bool × Tracker :=
  match t.requests.lookup frameNumber with
  | none => (false, t)
  | some row =>
    if row.state = .submitted then
      (true, { t with
        requests := t.requests.insert frameNumber { row with state := .queuedToDriver } })
    else (false, t)

def complete (t : Tracker) (frameNumber : Nat) (metadata : CaptureMetadata) :
    Option InFlightRequest × Tracker :=
  match t.requests.lookup frameNumber with
  | none => (none, t)
  | some row =>
    (some { row with metadata := metadata, state := .completed },
      { t with requests := t.requests.erase frameNumber })

def markOutput (index releaseFenceFd : Int) (output : InFlightOutput) : InFlightOutput :=
  if output.outputIndex = index then
    { output with completed := true, releaseFenceFd := releaseFenceFd }
  else output

/-- Once an output matches, the marks stay in the row even while others are open. -/
def completeOutput (t : Tracker) (frameNumber : Nat) (outputIndex releaseFenceFd : Int)
    (metadata : CaptureMetadata) : OutputCompletion × Tracker :=
  match t.requests.lookup frameNumber with
  | none => (.notFound, t)
  | some row =>
    let outputs := row.outputBuffers.map (markOutput outputIndex releaseFenceFd)
    if row.outputBuffers.any fun output => output.outputIndex = outputIndex then
      if outputs.all fun output => output.completed then
        (.requestComplete
            { row with outputBuffers := outputs, metadata := metadata, state := .completed },
          { t with requests := t.requests.erase frameNumber })
      else
        (.waitingForMoreOutputs,
          { t with
            requests := t.requests.insert frameNumber { row with outputBuffers := outputs } })
    else (.notFound, t)

def registerStreamingOutput (t : Tracker) (output : InFlightStreamingOutput) : Bool × Tracker :=
  if output.frameNumber ∈ t.streamingOutputs then (false, t)
  else (true, { t with
    streamingOutputs := t.streamingOutputs.insert output.frameNumber output })

def takeStreamingOutput (t : Tracker) (frameNumber : Nat) :
    Option InFlightStreamingOutput × Tracker :=
  match t.streamingOutputs.lookup frameNumber with
  | none => (none, t)
  | some output =>
    (some output, { t with streamingOutputs := t.streamingOutputs.erase frameNumber })

def bindDriverOutput (t : Tracker) (token : DriverToken) (context : DriverOutputContext) :
    Bool × Tracker :=
  if token = 0 ∨ token ∈ t.driverOutputs then (false, t)
  else (true, { t with driverOutputs := t.driverOutputs.insert token context })

def outputTarget (t : Tracker) (frameNumber : Nat) (outputIndex : Int) :
    Option OutputBufferTarget :=
  (t.requests.lookup frameNumber).bind fun row =>
    (row.outputBuffers.find? fun output => output.outputIndex = outputIndex).map (·.target)

/-- The token is consumed before its context is resolved. -/
def takeDriverOutputContext (t : Tracker) (token : DriverToken) :
    Option ResolvedDriverOutput × Tracker :=
  match t.driverOutputs.lookup token with
  | none => (none, t)
  | some context =>
    let taken := { t with driverOutputs := t.driverOutputs.erase token }
    if context.outputIndex < 0 then
      match taken.takeStreamingOutput context.frameNumber with
      | (none, rest) => (none, rest)
      | (some output, rest) =>
        (some
          { frameNumber := context.frameNumber
            outputIndex := context.outputIndex
            target := output.target
            streamingOutput := some output }, rest)
    else
      ((taken.outputTarget context.frameNumber context.outputIndex).map fun target =>
        { frameNumber := context.frameNumber
          outputIndex := context.outputIndex
          target := target
          streamingOutput := none }, taken)

def clearDriverOutputsForFrame (t : Tracker) (frameNumber : Nat) : Tracker :=
  { t with
    driverOutputs := retain t.driverOutputs fun context => context.frameNumber ≠ frameNumber }

def clearStreamingOutputs (t : Tracker) : Tracker := { t with streamingOutputs := ∅ }

def fail (t : Tracker) (frameNumber : Nat) : Option InFlightRequest × Tracker :=
  match t.requests.lookup frameNumber with
  | none => (none, t)
  | some row =>
    (some { row with state := .failed }, { t with requests := t.requests.erase frameNumber })

/-- The rows come back in table order; a hash map promises none. -/
def flushAll (t : Tracker) : List InFlightRequest × Tracker :=
  (t.requests.entries.map fun entry => { entry.2 with state := .flushed },
    { t with requests := ∅, driverOutputs := ∅ })

end Tracker

end MiniCam.Hal.InFlightRequestTracker
