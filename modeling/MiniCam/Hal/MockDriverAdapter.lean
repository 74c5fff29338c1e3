/- Module: MiniCam/Hal/MockDriverAdapter
   source: hal/mock_driver_adapter.h, hal/mock_driver_adapter.cpp
   digest: The repository's test driver, whose completions are ready at submission. -/

import MiniCam.Foundation.IntEvaluation
import MiniCam.Hal.Interface

set_option autoImplicit false
set_option relaxedAutoImplicit false

namespace MiniCam.Hal.MockDriverAdapter

open MiniCam.Foundation.IntEvaluation (castSize)
open MiniCam.Hal.Interface

inductive PipeAnswer where
  | opened (readFd writeFd : Int)
  | pipeFailed (error : String)
  | fcntlFailed (error : String)

/-- The members of the mock, with what its environment answers: `pipe`, the text of `errno` if the
wake-up write fails with another than `EAGAIN`, and the clock. -/
structure MockDriver where
  completions : List DriverCompletion := []
  lastError : String := ""
  readFd : Int := -1
  writeFd : Int := -1
  configured : Bool := false
  streaming : Bool := false
  canSubmit : Bool := true
  failSubmit : Bool := false
  submitCount : Nat := 0
  returnedStreamBufferCount : Nat := 0
  lastReturnedStreamBuffer : Option StreamBufferLease := none
  nextToken : Nat := 1
  pipe : PipeAnswer := .opened 5 6
  wakeFailure : Option String := none
  clock : Int := 0

def openPipe (m : MockDriver) : Bool × MockDriver :=
  if 0 ≤ m.readFd ∧ 0 ≤ m.writeFd then (true, m)
  else
    match m.pipe with
    | .opened readFd writeFd => (true, { m with readFd := readFd, writeFd := writeFd })
    | .pipeFailed error => (false, { m with lastError := "pipe failed: " ++ error })
    | .fcntlFailed error =>
      (false, { m with
        readFd := -1
        writeFd := -1
        lastError := "fcntl O_NONBLOCK failed: " ++ error })

def configureStream (m : MockDriver) : Bool × MockDriver :=
  match openPipe m with
  | (false, m') => (false, m')
  | (true, m') => (true, { m' with configured := true })

def startStreaming (m : MockDriver) : Bool × MockDriver :=
  if m.configured then (true, { m with streaming := true })
  else (false, { m with lastError := "mock driver is not configured" })

def complete (width height : Int) (m : MockDriver) : Option DriverToken × MockDriver :=
  let completion :=
    { token := m.nextToken, bytesUsed := castSize (width * height * 3), timestamp := m.clock }
  let pushed := { m with
    nextToken := m.nextToken + 1
    completions := m.completions ++ [completion] }
  match m.wakeFailure with
  | none => (some m.nextToken, pushed)
  | some error => (none, { pushed with lastError := "mock wake write failed: " ++ error })

def completeAll : List (Int × Int) → MockDriver → Option (List DriverToken) × MockDriver
  | [], m => (some [], m)
  | (width, height) :: rest, m =>
    match complete width height m with
    | (none, m') => (none, m')
    | (some token, m') =>
      match completeAll rest m' with
      | (none, m'') => (none, m'')
      | (some tokens, m'') => (some (token :: tokens), m'')

/-- Without buffers one completion of the stream's own size is made. -/
def startContinuousStream (stream : StreamConfig) (buffers : List OutputBufferTarget)
    (m : MockDriver) : Option (List DriverToken) × MockDriver :=
  if m.streaming then
    if buffers = [] then completeAll [(stream.width, stream.height)] m
    else completeAll (buffers.map fun b => (b.width, b.height)) m
  else (none, { m with lastError := "mock driver is not streaming" })

def close (m : MockDriver) : MockDriver :=
  { m with
    readFd := -1
    writeFd := -1
    configured := false
    streaming := false
    completions := [] }

def submitCapture (output : OutputBufferTarget) (m : MockDriver) :
    Option DriverToken × MockDriver :=
  if m.streaming then
    if m.failSubmit then (none, { m with lastError := "mock submit failure" })
    else complete output.width output.height { m with submitCount := m.submitCount + 1 }
  else (none, { m with lastError := "mock driver is not streaming" })

def dequeueCompletion (readyFd : Int) (m : MockDriver) : Option DriverCompletion × MockDriver :=
  if readyFd = m.readFd then
    match m.completions with
    | [] => (none, m)
    | completion :: rest => (some completion, { m with completions := rest })
  else (none, m)

def returnStreamBuffer (lease : StreamBufferLease) (m : MockDriver) :
    Option DriverToken × MockDriver :=
  if m.streaming then
    (some m.nextToken, { m with
      nextToken := m.nextToken + 1
      returnedStreamBufferCount := m.returnedStreamBufferCount + 1
      lastReturnedStreamBuffer := some lease })
  else (none, { m with lastError := "mock driver is not streaming" })

def adapter : DriverAdapter MockDriver where
  configureStream := configureStream
  startStreaming := startStreaming
  startContinuousStream := startContinuousStream
  stopStreaming := fun m => { m with streaming := false }
  close := close
  canSubmitCaptureOutputs := fun _ m => (m.canSubmit, m)
  submitCapture := submitCapture
  dequeueCompletion := dequeueCompletion
  returnStreamBuffer := returnStreamBuffer
  eventFds := fun m => if m.readFd < 0 then [] else [m.readFd]
  lastError := fun m => m.lastError

end MiniCam.Hal.MockDriverAdapter
