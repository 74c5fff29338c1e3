/- Module: MiniCam/App/CommandLine
   source: app/minicam_cli.cpp
   digest: The command line program: what it prepares, its main thread, and the callbacks that it
     gives to a session. -/

import MiniCam.App.FenceAwareResultWriter
import MiniCam.Foundation.IntEvaluation
import MiniCam.Foundation.Runs
import MiniCam.Hal.SessionSystem

set_option autoImplicit false
set_option relaxedAutoImplicit false

namespace MiniCam.App.CommandLine

open MiniCam.Foundation.IntEvaluation (castInt castSize)
open MiniCam.Foundation.KeyedTable
open MiniCam.Hal.Interface
open MiniCam.Hal.CameraDeviceSession (CameraDeviceSessionConfig)
open MiniCam.Hal.SessionSystem (System Callbacks)
open MiniCam.Buffers.DmaBufAllocator
open MiniCam.Buffers.BufferTracker (Tracker)
open MiniCam.App.JpegEncoderProcessor (EncodedFrameStore)
open MiniCam.App.FenceAwareResultWriter

section Lines

/-- `isspace` in the classic locale. -/
def isSpace (c : Char) : Bool := c == ' ' || ('\t' ≤ c && c ≤ '\r')

def readWord (input : List Char) : String × List Char :=
  let rest := input.dropWhile isSpace
  (String.ofList (rest.takeWhile fun c => !isSpace c), rest.dropWhile fun c => !isSpace c)

/-- The path to write to; the empty path ends the program. -/
def parseCapturePath (line : String) : Option String :=
  let (command, rest) := readWord line.toList
  if command = "" then none
  else if command = "quit" || command = "exit" then some ""
  else if command = "capture" || command = "snap" then
    let (path, _) := readWord rest
    if path ≠ "" then some path else none
  else some command

end Lines

section Preparation

structure CliOptions where
  useV4l2 : Bool := false
  previewDevicePath : Option String := none
  stillDevicePath : Option String := none
  previewOutputPath : Option String := none
  previewFrameCount : Nat := 0
  width : Int := 640
  height : Int := 480
  bufferCount : Nat := 4

namespace CliOptions

def bufferSize (options : CliOptions) : Nat :=
  castSize options.width * castSize options.height * 2 % 2 ^ 64

def poolSize (options : CliOptions) : Nat :=
  if options.useV4l2 then
    if options.previewDevicePath.isSome then (options.bufferCount + 1) % 2 ^ 64
    else options.bufferCount
  else 0

def ownsPreviews (options : CliOptions) : Bool :=
  options.useV4l2 && options.previewDevicePath.isSome

def savesPreviews (options : CliOptions) : Bool :=
  options.previewOutputPath.isSome && 0 < options.previewFrameCount

end CliOptions

/-- What the system answers for one fence: the two ends of the pipe, and whether the byte is
written. -/
structure FenceAnswers where
  pipe : Option (Int × Int) := none
  written : Bool := true
  deriving DecidableEq

def makeSignaledAcquireFence (answers : FenceAnswers) : Int :=
  match answers.pipe with
  | none => -1
  | some (readFd, _) => if answers.written then readFd else -1

def acquireOutputBuffer (pools : List DmaBufPool) : DmaBufLease × List DmaBufPool :=
  match pools with
  | [] => ({}, [])
  | pool :: rest => ((pool.acquire 0).1, (pool.acquire 0).2 :: rest)

def pointee (lease : DmaBufLease) (pools : List DmaBufPool) : DmaBuf :=
  ((lease.buffer.bind fun buffer =>
    (pools.flatMap DmaBufPool.buffers).find? fun owned => owned.1 == buffer).map
      Prod.snd).getD {}

def previewTarget (options : CliOptions) (bufferId : Int) (buffer : DmaBuf) (fence : FenceAnswers) :
    OutputBufferTarget :=
  { streamId := 1
    bufferId := bufferId
    bufferFd := buffer.fd
    acquireFenceFd := makeSignaledAcquireFence fence
    bufferSize := buffer.size
    streamType := .preview
    width := options.width
    height := options.height
    format := .yuyv422 }

/-- The loop that takes the preview buffers, one answer for each round; `none` where `main` gives
up. -/
def preparePreviews (options : CliOptions) : List FenceAnswers → Nat → List OutputBufferTarget →
    Tracker → List DmaBufPool → Option (List OutputBufferTarget × Tracker × List DmaBufPool)
  | [], _, targets, tracker, pools => some (targets, tracker, pools)
  | fence :: rest, i, targets, tracker, pools =>
    let (lease, pools) := acquireOutputBuffer pools
    if lease.live then
      let buffer := pointee lease pools
      match tracker.registerBuffer (castInt i) lease buffer pools with
      | (false, _, _) => none
      | (true, tracker, pools) =>
        preparePreviews options rest (i + 1)
          (targets ++ [previewTarget options (castInt i) buffer fence]) tracker pools
    else none

/-- What the pool of the runtime is when the session is made; `none` where `main` gives up. -/
def preparePool (options : CliOptions) (answers : List Allocation) : Option DmaBufPool :=
  if options.useV4l2 then
    match DmaBufPool.initializePool options.bufferSize true answers {} with
    | (false, _) => none
    | (true, pool) => some pool
  else some {}

def sessionConfig (options : CliOptions) (previews : List OutputBufferTarget) :
    CameraDeviceSessionConfig :=
  { sessionId := 1
    continuousPreviewConfig :=
      if options.previewDevicePath.isSome then
        some
          { streamId := 1
            streamType := .preview
            width := options.width
            height := options.height
            format := .yuyv422 }
      else none
    continuousPreviewBuffers := previews }

end Preparation

section States

/-- Where `main` is. A request is between the registration of its path and its admission in
`requesting`, and between the check and the post in `posting`. -/
inductive Stage where
  | prepared
  | configured
  | previewing
  | prompting
  | requesting (request : CaptureRequest)
  | posting (frameNumber : Nat)
  | refused (frameNumber : Nat)
  | awaiting (frameNumber : Nat)
  | joining (workers : List Nat) (success : Bool)
  | leaving (success : Bool)
  | closed (success : Bool)
  | left (success : Bool)
  deriving DecidableEq

/-- The program with the session around which it runs. The writer holds the trackers, the pool
and the encoded frames. `timedOut` is a history: the frames that `main` has stopped waiting for. -/
structure Program (δ π : Type) where
  system : System δ π
  writer : Writer
  stage : Stage
  nextFrame : Nat
  previewFramesWritten : Nat
  previewWorkers : List Nat
  timedOut : List Nat

variable {δ π : Type}

/-- `main` up to the construction of the session. There is one answer for each buffer of the pool
and for each preview fence, and the heap hands out distinct addresses. -/
def prepare (options : CliOptions) (answers : List Allocation) (fences : List FenceAnswers)
    (driver : Option δ) (p : π) : Option (Program δ π) :=
  if answers.length = options.poolSize ∧ (answers.map Allocation.address).Nodup ∧
      fences.length = (if options.ownsPreviews then options.bufferCount else 0) then
    (preparePool options answers).bind fun pool =>
      (preparePreviews options fences 0 [] {} [pool]).map fun (targets, tracker, pools) =>
        { system := System.initial (sessionConfig options targets) driver p
          writer := { previewBuffers := tracker, encodedFrames := some {}, pools := pools }
          stage := .prepared
          nextFrame := 1
          previewFramesWritten := 0
          previewWorkers := []
          timedOut := [] }
  else none

def Stage.frame : Stage → List Nat
  | .requesting request => [request.frameNumber]
  | .posting frameNumber | .refused frameNumber | .awaiting frameNumber => [frameNumber]
  | _ => []

end States

section Main

/-- The steps of `main`, of the threads that run the session, of the threads that save previews,
and of the encoder. -/
inductive Label where
  | configure (registered : Bool)
  | start
  | waitForPreviews (completed : Bool)
  | readLine (line : Option String) (fence : FenceAnswers) (now : Int)
  | processRequest
  | post (taken : Bool)
  | withdraw
  | write (answers : Answers)
  | timeOut
  | join
  | close (now : Int)
  | releaseAll (previews captures : List DmaBufLease)
  | runTask (k : Nat) (now : Int)
  | dequeue (readyFd : Int)
  | process (k : Nat) (now : Int)
  | dispatch (k : Nat)
  | streamCallback (k : Nat) (pipe : Option (Int × Int)) (answers : Answers)
  | returnStream (k : Nat)
  | writePreview (k : Nat) (answers : Answers)
  | encode (store : EncodedFrameStore)

def callbacks : Callbacks := ⟨true, true⟩

def stillTarget (options : CliOptions) (bufferId : Int) (buffer : DmaBuf) (fence : FenceAnswers) :
    OutputBufferTarget :=
  { streamId :=
      if options.previewDevicePath.isSome && options.stillDevicePath.isSome then 2 else 0
    bufferId := bufferId
    bufferFd := buffer.fd
    acquireFenceFd := makeSignaledAcquireFence fence
    bufferSize := buffer.size
    streamType := .still
    width := options.width
    height := options.height
    format := .yuyv422 }

def captureRequest (options : CliOptions) (frameNumber : Nat) (outputs : List OutputBufferTarget)
    (now : Int) : CaptureRequest :=
  { frameNumber := frameNumber
    width := options.width
    height := options.height
    outputBuffers := outputs
    submittedAt := now }

variable {δ π : Type}

def request (path : String) (r : CaptureRequest) (s : Program δ π) : Program δ π :=
  { s with
    writer := FenceAwareResultWriter.registerPath r.frameNumber path s.writer
    stage := .requesting r }

/-- One round of the loop up to the request, which takes a buffer with `--v4l2`. -/
def capture (options : CliOptions) (path : String) (fence : FenceAnswers) (now : Int)
    (s : Program δ π) : Program δ π :=
  let frameNumber := s.nextFrame
  let s := { s with nextFrame := frameNumber + 1 }
  if options.useV4l2 then
    let (lease, pools) := acquireOutputBuffer s.writer.pools
    if lease.live then
      let buffer := pointee lease pools
      let bufferId := castInt frameNumber
      match s.writer.captureBuffers.registerBuffer bufferId lease buffer pools with
      | (registered, captures, pools) =>
        let s := { s with
          writer := { s.writer with captureBuffers := captures, pools := pools } }
        if registered then
          request path
            (captureRequest options frameNumber [stillTarget options bufferId buffer fence] now) s
        else s
    else { s with writer := { s.writer with pools := pools } }
  else request path (captureRequest options frameNumber [] now) s

def readLine (options : CliOptions) (line : Option String) (fence : FenceAnswers) (now : Int)
    (s : Program δ π) : Program δ π :=
  match line with
  | none => { s with stage := .joining s.previewWorkers true }
  | some line =>
    match parseCapturePath line with
    | none => s
    | some path =>
      if path = "" then { s with stage := .joining s.previewWorkers true }
      else capture options path fence now s

/-- After a rejection. The outputs were moved into the request, so that `close_output_fences` finds
none to close. -/
def withdraw (frameNumber : Nat) (s : Program δ π) : Program δ π :=
  let w := FenceAwareResultWriter.cancel frameNumber s.writer
  let (captures, pools) := w.captureBuffers.release (castInt frameNumber) w.pools
  { s with
    writer := { w with captureBuffers := captures, pools := pools }
    stage := .prompting }

def Program.registered (frameNumber : Nat) (s : Program δ π) : Bool :=
  (s.writer.pendingWrites.lookup frameNumber).any fun pending =>
    pending.outputPath ≠ "" && pending.result.isSome

end Main

section Callbacks

variable {δ π : Type} (options : CliOptions)

/-- A thread that saves a preview, or the callback in its place, to its end. -/
def writePreview (frameNumber : Nat) (answers : Answers) (s : Program δ π) :
    Option (Program δ π) :=
  (blockWaitAndWrite frameNumber answers s.writer).map fun outcome =>
    { s with
      writer := outcome.writer
      previewFramesWritten :=
        if outcome.answer.any WriteResult.wroteImage then s.previewFramesWritten + 1
        else s.previewFramesWritten }

/-- The stream callback: the program without its session, and the lease that it returns. -/
def streamResultCallback (result : CaptureResult) (lease : StreamBufferLease)
    (pipe : Option (Int × Int)) (answers : Answers) (s : Program δ π) :
    Option (Program δ π × StreamBufferLease) :=
  match options.previewOutputPath with
  | none => some (s, lease)
  | some path =>
    if options.previewFrameCount ≤ s.previewFramesWritten then some (s, lease)
    else
      let s := { s with
        writer := registerResult result
          (FenceAwareResultWriter.registerPath result.frameNumber path s.writer) }
      match pipe with
      | none => (writePreview result.frameNumber answers s).map fun s => (s, lease)
      | some (readFd, _) =>
        some ({ s with previewWorkers := s.previewWorkers ++ [result.frameNumber] },
          { lease with consumerReleaseFenceFd := readFd })

end Callbacks

section Steps

variable {δ π : Type} (D : DriverAdapter δ) (processors : List (Option (OutputProcessor π)))
  (options : CliOptions)

def onSession (a : Hal.SessionSystem.Label) (s : Program δ π) : Option (Program δ π) :=
  (Hal.SessionSystem.step D processors callbacks s.system a).map fun system =>
    { s with system := system }

def mainStep (s : Program δ π) : Label → Option (Program δ π)
  | .configure registered =>
    if s.stage = .prepared then
      (onSession D processors (.configureStreams registered) s).map fun t =>
        { t with
          stage := if t.system.session.state = .configured then .configured else .leaving false }
    else none
  | .start =>
    if s.stage = .configured then
      (onSession D processors .startStreaming s).map fun t =>
        { t with
          stage :=
            if t.system.session.state = .streaming then
              if options.savesPreviews then .previewing else .prompting
            else .leaving false }
    else none
  | .waitForPreviews completed =>
    if s.stage = .previewing ∧
        completed = decide (options.previewFrameCount ≤ s.previewFramesWritten) then
      some { s with stage := .joining s.previewWorkers completed }
    else none
  | .readLine line fence now =>
    if s.stage = .prompting then some (readLine options line fence now s) else none
  | .processRequest =>
    match s.stage with
    | .requesting r =>
      match onSession D processors (.processRequest r) s with
      | none => some { s with stage := .refused r.frameNumber }
      | some t => some { t with stage := .posting r.frameNumber }
    | _ => none
  | .post taken =>
    match s.stage with
    | .posting frameNumber =>
      (onSession D processors (.post 0 taken) s).map fun t =>
        { t with stage := if taken then .awaiting frameNumber else .refused frameNumber }
    | _ => none
  | .withdraw =>
    match s.stage with
    | .refused frameNumber => some (withdraw frameNumber s)
    | _ => none
  | .write answers =>
    match s.stage with
    | .awaiting frameNumber =>
      match blockWaitAndWrite frameNumber answers s.writer with
      | some outcome =>
        if outcome.answer.isSome then
          some { s with writer := outcome.writer, stage := .prompting }
        else none
      | none => none
    | _ => none
  | .timeOut =>
    match s.stage with
    | .awaiting frameNumber =>
      if s.registered frameNumber then none
      else some { s with stage := .prompting, timedOut := s.timedOut ++ [frameNumber] }
    | _ => none
  | .join =>
    match s.stage with
    | .joining workers success =>
      -- Only the threads that were there at the swap are joined.
      if workers.all fun frameNumber => frameNumber ∉ s.previewWorkers then
        some { s with stage := .leaving success }
      else none
    | _ => none
  | .close now =>
    match s.stage with
    | .leaving success =>
      (onSession D processors (.close now) s).map fun t => { t with stage := .closed success }
    | _ => none
  | .releaseAll previews captures =>
    match s.stage with
    | .closed success =>
      if previews.Perm s.writer.previewBuffers.leases ∧
          captures.Perm s.writer.captureBuffers.leases then
        some { s with
          writer := { s.writer with
            previewBuffers := {}
            captureBuffers := {}
            pools := destroyAll captures (destroyAll previews s.writer.pools) }
          stage := .left success }
      else none
    | _ => none
  | _ => none

def threadStep (s : Program δ π) : Label → Option (Program δ π)
  | .runTask k now => onSession D processors (.runTask k now) s
  | .dequeue readyFd => onSession D processors (.dequeue readyFd) s
  | .process k now => onSession D processors (.process k now) s
  | .dispatch k =>
    match s.system.prepared[k]? with
    | none => none
    | some (_, result) =>
      onSession D processors (.dispatch k) { s with writer := registerResult result s.writer }
  | .streamCallback k pipe answers =>
    match s.system.callbacks[k]? with
    | none => none
    | some handler =>
      (streamResultCallback options handler.result handler.lease pipe answers s).bind
        fun (s, lease) => onSession D processors (.streamCallback k lease) s
  | .returnStream k => onSession D processors (.returnStream k) s
  | .writePreview k answers =>
    match s.previewWorkers[k]? with
    | none => none
    | some frameNumber =>
      (writePreview frameNumber answers s).map fun s =>
        { s with previewWorkers := s.previewWorkers.eraseIdx k }
  | .encode store => some { s with writer := { s.writer with encodedFrames := some store } }
  | _ => none

def step (s : Program δ π) (a : Label) : Option (Program δ π) :=
  match mainStep D processors options s a with
  | some t => some t
  | none => threadStep D processors options s a

end Steps

end MiniCam.App.CommandLine
