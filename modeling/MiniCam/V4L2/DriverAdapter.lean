/- Module: MiniCam/V4L2/DriverAdapter
   source: hal/v4l2_driver_adapter.h, hal/v4l2_driver_adapter.cpp
   digest: The adapter of one capture node: slots, tokens, fences and ioctls. -/

import MiniCam.Foundation.IntEvaluation
import MiniCam.V4L2.VideoNodes

set_option autoImplicit false
set_option relaxedAutoImplicit false

namespace MiniCam.V4L2.DriverAdapter

open MiniCam.Foundation.IntEvaluation (castSize)
open MiniCam.Hal.Interface
open MiniCam.V4L2.VideoNodes

structure V4L2StreamConfig where
  width : Int := 640
  height : Int := 480
  bufferCount : Nat := 4

/-- `V4L2QueuedRequest`. Its `index` is its place in the table from `configure_stream`
on, so the place stands for it. -/
structure V4L2QueuedRequest where
  token : DriverToken := 0
  bufferFd : Int := -1
  acquireFenceFd : Int := -1
  bufferSize : Nat := 0
  queued : Bool := false
  deriving DecidableEq

/-- The members of `V4L2DriverAdapter`. `node` names its device and
`tokenGenerator` tells whether it was constructed with a generator. -/
structure V4L2Adapter where
  node : Nat
  config : V4L2StreamConfig
  queuedRequests : List V4L2QueuedRequest
  lastError : String
  tokenGenerator : Bool
  fd : Int
  bufferSize : Nat
  nextToken : Nat
  streaming : Bool
  deviceStreaming : Bool
  continuousStreaming : Bool

def V4L2Adapter.create (node : Nat) (config : V4L2StreamConfig) (tokenGenerator : Bool) :
    V4L2Adapter :=
  { node := node
    config := config
    queuedRequests := []
    lastError := ""
    tokenGenerator := tokenGenerator
    fd := -1
    bufferSize := 0
    nextToken := 1
    streaming := false
    deviceStreaming := false
    continuousStreaming := false }

inductive FenceEvent where
  | polled (fd : Int)
  | closed (fd : Int)
  deriving DecidableEq

/-- What the adapter acts on: the kernel, the shared token generator, whose 64 bits last for
`2 ^ 64 - 1` tokens, and the fences. -/
structure World where
  kernel : Kernel
  generator : Nat
  fences : List FenceEvent

namespace V4L2Adapter

def setError (a : V4L2Adapter) (error : String) : V4L2Adapter := { a with lastError := error }

def queuedRequestForIndex (a : V4L2Adapter) (index : Nat) : Option V4L2QueuedRequest :=
  a.queuedRequests[index]?

def freeQueuedRequestCount (a : V4L2Adapter) : Nat :=
  a.queuedRequests.countP fun r => !r.queued

def bindFreeQueuedRequest (a : V4L2Adapter) (token : DriverToken) (bufferFd acquireFenceFd : Int)
    (bufferSize : Nat) : Option Nat × V4L2Adapter :=
  match a.queuedRequests.findIdx? fun r => !r.queued with
  | none => (none, a)
  | some i =>
    (some i, { a with
      queuedRequests := a.queuedRequests.set i
        { token := token
          bufferFd := bufferFd
          acquireFenceFd := acquireFenceFd
          bufferSize := bufferSize
          queued := true } })

def clearQueuedRequest (a : V4L2Adapter) (index : Nat) : V4L2Adapter :=
  { a with queuedRequests := a.queuedRequests.set index {} }

def resetQueuedRequests (a : V4L2Adapter) : V4L2Adapter :=
  { a with queuedRequests := a.queuedRequests.map fun _ => {} }

def issueToken (a : V4L2Adapter) (w : World) : DriverToken × V4L2Adapter × World :=
  if a.tokenGenerator then (w.generator, a, { w with generator := w.generator + 1 })
  else (a.nextToken, { a with nextToken := a.nextToken + 1 }, w)

def stopStreaming (a : V4L2Adapter) (w : World) : V4L2Adapter × World :=
  let kernel :=
    if 0 ≤ a.fd ∧ a.deviceStreaming = true then w.kernel.streamOff a.node else w.kernel
  ({ a.resetQueuedRequests with
      deviceStreaming := false
      streaming := false
      continuousStreaming := false }, { w with kernel := kernel })

def close (a : V4L2Adapter) (w : World) : V4L2Adapter × World :=
  match a.stopStreaming w with
  | (a', w') =>
    let kernel := if 0 ≤ a'.fd then w'.kernel.release a'.node else w'.kernel
    ({ a' with
        queuedRequests := []
        fd := -1
        deviceStreaming := false
        streaming := false }, { w' with kernel := kernel })

/-- Failures after `open` close the node again; the error is set before. -/
def configureStream (a : V4L2Adapter) (w : World) : Bool × V4L2Adapter × World :=
  if 0 ≤ a.fd then (true, a, w)
  else
    let asked := { w with kernel := { w.kernel with configures := w.kernel.configures + 1 } }
    let fail (error : String) : Bool × V4L2Adapter × World :=
      (false, (a.setError error).close asked)
    match w.kernel.answers.configure w.kernel.configures with
    | .openFailed error => (false, a.setError ("open failed: " ++ error), asked)
    | .queryCapFailed error => fail ("VIDIOC_QUERYCAP failed: " ++ error)
    | .notCapture => fail "device does not support single-plane V4L2 capture"
    | .notStreaming => fail "device does not support V4L2 streaming I/O"
    | .setFormatFailed error => fail ("VIDIOC_S_FMT failed: " ++ error)
    | .requestBuffersFailed error => fail ("VIDIOC_REQBUFS failed: " ++ error)
    | .granted fd sizeImage count =>
      if count = 0 then fail "VIDIOC_REQBUFS returned zero buffers"
      else
        (true, { a with
          fd := fd
          bufferSize :=
            if sizeImage = 0 then
              castSize a.config.width * castSize a.config.height * 2 % 2 ^ 64
            else sizeImage
          queuedRequests := List.replicate count {} }, asked)

def startStreaming (a : V4L2Adapter) : Bool × V4L2Adapter :=
  if a.fd < 0 ∨ a.queuedRequests = [] then
    (false, a.setError "V4L2 stream is not configured")
  else (true, { a with streaming := true })

def canSubmitCaptureOutputs (a : V4L2Adapter) (outputs : List OutputBufferTarget) : Bool :=
  a.streaming && decide (0 ≤ a.fd) && decide (outputs.length ≤ a.freeQueuedRequestCount) &&
    outputs.all fun o => decide (0 ≤ o.bufferFd) && decide (a.bufferSize ≤ o.bufferSize)

/-- `wait_for_fence`: a negative descriptor is no fence and is not polled. -/
def waitForFence (w : World) (fence : Int) (answer : Option String) : Option String × World :=
  if fence < 0 then (none, w)
  else (answer, { w with fences := w.fences ++ [.polled fence] })

def closeFence (w : World) (fence : Int) : World :=
  if 0 ≤ fence then { w with fences := w.fences ++ [.closed fence] } else w

/-- The two ioctls on a bound slot. A slot whose QBUF or STREAMON failed is cleared;
after a failed STREAMON the node still holds the buffer. -/
def queueSlot (index : Nat) (bufferFd : Int) (token : DriverToken) (answer : SubmissionAnswer)
    (a : V4L2Adapter) (w : World) : Option DriverToken × V4L2Adapter × World :=
  match w.kernel.qbuf a.node index bufferFd token answer.qbuf with
  | (some error, k) =>
    (none, (a.clearQueuedRequest index).setError ("VIDIOC_QBUF failed: " ++ error),
      { w with kernel := k })
  | (none, k) =>
    if a.deviceStreaming then (some token, a, { w with kernel := k })
    else
      match answer.streamOn with
      | some error =>
        (none, (a.clearQueuedRequest index).setError ("VIDIOC_STREAMON failed: " ++ error),
          { w with kernel := k })
      | none => (some token, { a with deviceStreaming := true }, { w with kernel := k })

/-- From the issue of the token on; the acquire fence has been waited for and closed. -/
def submitSlot (bufferFd : Int) (bufferSize : Nat) (answer : SubmissionAnswer) (a : V4L2Adapter)
    (w : World) : Option DriverToken × V4L2Adapter × World :=
  match a.issueToken w with
  | (token, a', w') =>
    match a'.bindFreeQueuedRequest token bufferFd (-1) bufferSize with
    | (none, a'') => (none, a''.setError "V4L2 queue is full", w')
    | (some index, a'') =>
      if bufferFd < 0 then (none, a''.setError "V4L2 queued request binding failed", w')
      else queueSlot index bufferFd token answer a'' w'

def queueCaptureBuffer (bufferFd acquireFenceFd : Int) (bufferSize : Nat) (a : V4L2Adapter)
    (w : World) : Option DriverToken × V4L2Adapter × World :=
  if a.streaming = false ∨ a.fd < 0 then (none, a.setError "V4L2 stream is not started", w)
  else if bufferFd < 0 then
    (none, a.setError "V4L2 capture requires a valid dma-buf from the request", w)
  else if bufferSize < a.bufferSize then
    (none, a.setError "request dma-buf is smaller than the configured V4L2 frame", w)
  else
    let answer := w.kernel.answers.submission w.kernel.submissions
    let asked := { w with kernel := { w.kernel with submissions := w.kernel.submissions + 1 } }
    match waitForFence asked acquireFenceFd answer.fence with
    | (some error, w') =>
      (none, a.setError ("acquire fence wait failed: " ++ error), closeFence w' acquireFenceFd)
    | (none, w') => submitSlot bufferFd bufferSize answer a (closeFence w' acquireFenceFd)

def queueAll : List OutputBufferTarget → V4L2Adapter → World →
    Option (List DriverToken) × V4L2Adapter × World
  | [], a, w => (some [], a, w)
  | target :: rest, a, w =>
    match queueCaptureBuffer target.bufferFd target.acquireFenceFd target.bufferSize a w with
    | (none, a', w') => (none, a', w')
    | (some token, a', w') =>
      match queueAll rest a' w' with
      | (none, a'', w'') => (none, a'', w'')
      | (some tokens, a'', w'') => (some (token :: tokens), a'', w'')

def startContinuousStream (buffers : List OutputBufferTarget) (a : V4L2Adapter) (w : World) :
    Option (List DriverToken) × V4L2Adapter × World :=
  if a.streaming = false ∨ a.fd < 0 then (none, a.setError "V4L2 stream is not started", w)
  else
    match queueAll buffers { a with continuousStreaming := true } w with
    | (none, a', w') => (none, { a' with continuousStreaming := false }, w')
    | (some tokens, a', w') => (some tokens, a', w')

def submitCapture (output : OutputBufferTarget) (a : V4L2Adapter) (w : World) :
    Option DriverToken × V4L2Adapter × World :=
  queueCaptureBuffer output.bufferFd output.acquireFenceFd output.bufferSize a w

/-- The slot named by the dequeued index gives its token and is cleared. -/
def dequeueCompletion (readyFd : Int) (a : V4L2Adapter) (w : World) :
    Option DriverCompletion × V4L2Adapter × World :=
  if readyFd ≠ a.fd ∨ a.deviceStreaming = false ∨ a.fd < 0 then (none, a, w)
  else
    match w.kernel.dqbuf a.node with
    | (.again, k) => (none, a, { w with kernel := k })
    | (.failure error, k) =>
      (none, a.setError ("VIDIOC_DQBUF failed: " ++ error), { w with kernel := k })
    | (.buffer index bytesUsed timestamp, k) =>
      match a.queuedRequestForIndex index with
      | none =>
        (none, a.setError "VIDIOC_DQBUF returned an out-of-range buffer index",
          { w with kernel := k })
      | some slot =>
        if slot.queued then
          (some { token := slot.token, bytesUsed := bytesUsed, timestamp := timestamp },
            a.clearQueuedRequest index, { w with kernel := k })
        else
          (none, a.setError "VIDIOC_DQBUF returned a buffer that is not queued",
            { w with kernel := k })

/-- Outside continuous streaming the buffer is not queued and the token is 0. -/
def returnStreamBuffer (lease : StreamBufferLease) (a : V4L2Adapter) (w : World) :
    Option DriverToken × V4L2Adapter × World :=
  if a.continuousStreaming then
    queueCaptureBuffer lease.bufferFd lease.consumerReleaseFenceFd lease.bufferSize a w
  else (some 0, a, w)

def eventFds (a : V4L2Adapter) : List Int := if a.fd < 0 then [] else [a.fd]

end V4L2Adapter

structure SingleDriver where
  adapter : V4L2Adapter
  world : World

def SingleDriver.create (config : V4L2StreamConfig) (answers : Answers) : SingleDriver :=
  { adapter := V4L2Adapter.create 0 config false
    world := { kernel := Kernel.boot answers, generator := 1, fences := [] } }

def SingleDriver.pack {α : Type} (out : α × V4L2Adapter × World) : α × SingleDriver :=
  (out.1, { adapter := out.2.1, world := out.2.2 })

def single : DriverAdapter SingleDriver where
  configureStream := fun d => SingleDriver.pack (d.adapter.configureStream d.world)
  startStreaming := fun d =>
    (d.adapter.startStreaming.1, { d with adapter := d.adapter.startStreaming.2 })
  startContinuousStream := fun _ buffers d =>
    SingleDriver.pack (d.adapter.startContinuousStream buffers d.world)
  stopStreaming := fun d =>
    { adapter := (d.adapter.stopStreaming d.world).1, world := (d.adapter.stopStreaming d.world).2 }
  close := fun d =>
    { adapter := (d.adapter.close d.world).1, world := (d.adapter.close d.world).2 }
  canSubmitCaptureOutputs := fun outputs d => (d.adapter.canSubmitCaptureOutputs outputs, d)
  submitCapture := fun output d => SingleDriver.pack (d.adapter.submitCapture output d.world)
  dequeueCompletion := fun readyFd d =>
    SingleDriver.pack (d.adapter.dequeueCompletion readyFd d.world)
  returnStreamBuffer := fun lease d =>
    SingleDriver.pack (d.adapter.returnStreamBuffer lease d.world)
  eventFds := fun d => d.adapter.eventFds
  lastError := fun d => d.adapter.lastError

end MiniCam.V4L2.DriverAdapter
