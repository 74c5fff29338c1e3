/- Module: MiniCam/App/EncodePipeline
   source: app/jpeg_encoder_processor.cpp, app/fence_aware_result_writer.cpp, app/minicam_cli.cpp
   digest: The threads of the encoder and of the writer, one system call or locked section at a
     time, over the descriptors that they share. -/

import MiniCam.App.FenceAwareResultWriter
import MiniCam.Foundation.Runs

set_option autoImplicit false
set_option relaxedAutoImplicit false

namespace MiniCam.App.EncodePipeline

open MiniCam.Foundation.KeyedTable
open MiniCam.Hal.Interface
open MiniCam.Buffers.DmaBufAllocator
open MiniCam.Buffers.BufferTracker
open MiniCam.App.JpegEncoderProcessor
open MiniCam.App.FenceAwareResultWriter

section States

/-- What an open descriptor is: the input fence that a worker of the encoder was given, an end
of the pipe behind its release fence, or something of the rest of the process. -/
inductive Holder where
  | other
  | input (worker : Nat)
  | readEnd (worker : Nat)
  | writeEnd (worker : Nat)
  deriving DecidableEq

inductive EncodeStage where
  | waiting
  | encoding
  | storing
  | signalling
  | closing
  | finished
  deriving DecidableEq

/-- The byte is in the pipe, or the pipe has no writer any more. -/
def EncodeStage.signalled : EncodeStage → Bool
  | .closing | .finished => true
  | _ => false

def EncodeStage.stored : EncodeStage → Bool
  | .signalling | .closing | .finished => true
  | _ => false

structure EncodeWorker where
  job : EncodeJob
  stage : EncodeStage := .waiting
  encoded : Option (List UInt8) := none

def requestKey (request : OutputProcessRequest) : EncodedFrameKey :=
  ⟨request.frameNumber, request.bufferId⟩

def EncodeWorker.key (worker : EncodeWorker) : EncodedFrameKey := requestKey worker.job.request

/-- Where a call of `block_wait_and_write` is when it has taken its registration. -/
inductive WriteStage where
  | awaiting
  | closing (fenceReady : Bool)
  | writing (fenceReady : Bool)
  deriving DecidableEq

structure WriteCall where
  outputPath : String
  result : CaptureResult
  completed : CompletedOutputBuffer
  stage : WriteStage := .awaiting

/-- A release fence of the encoder, with the frame whose image it stands for. -/
structure Claim where
  key : EncodedFrameKey
  fence : Int
  deriving DecidableEq

def claimOf (result : CaptureResult) (buffer : CompletedOutputBuffer) : Claim :=
  ⟨⟨result.frameNumber, buffer.bufferId⟩, buffer.releaseFenceFd⟩

/-- Every output of an `Ok` result went through the encoder; of another result, those that have
a fence did. -/
def handedOver (result : CaptureResult) (buffers : List CompletedOutputBuffer) : List Claim :=
  (buffers.map (claimOf result)).filter fun claim => result.status = .ok || 0 ≤ claim.fence

inductive User where
  | session
  | encoder (worker : Nat)
  | writer (key : EncodedFrameKey)
  deriving DecidableEq

inductive AccessKind where
  | wait
  | signal
  | close
  deriving DecidableEq

/-- One system call on a descriptor, with what the descriptor was when it was made. -/
structure Access where
  user : User
  kind : AccessKind
  fd : Int
  found : Option Holder
  deriving DecidableEq

/-- An image that was written in full, with the frame it was looked up for. -/
structure Image where
  key : EncodedFrameKey
  outputPath : String
  bytes : List UInt8
  deriving DecidableEq

/-- `outstanding` are the release fences that the session holds. The last five fields are
histories: the frames that went to the encoder, those that a write is through with, the paths
that were registered, the images, and the system calls on descriptors. -/
structure Pipeline where
  descriptors : Table Int Holder
  workers : Table Nat EncodeWorker
  outstanding : List Claim
  writer : Writer
  calls : Table Nat WriteCall
  processed : List EncodedFrameKey
  consumed : List EncodedFrameKey
  paths : List (Nat × String)
  images : List Image
  accesses : List Access

/-- Encoder and writer share one store. `fds` are the descriptors that are open already. -/
def Pipeline.initial (fds : List Int) (preview capture : Tracker) (pools : List DmaBufPool) :
    Pipeline :=
  { descriptors := fds.foldl (fun table fd => table.insert fd .other) ∅
    workers := ∅
    outstanding := []
    writer :=
      { previewBuffers := preview
        captureBuffers := capture
        encodedFrames := some {}
        pools := pools }
    calls := ∅
    processed := []
    consumed := []
    paths := []
    images := []
    accesses := [] }

end States

section Steps

def useDescriptor (user : User) (kind : AccessKind) (fd : Int) (s : Pipeline) : Pipeline :=
  if 0 ≤ fd then
    { s with accesses := s.accesses ++ [⟨user, kind, fd, s.descriptors.lookup fd⟩] }
  else s

def closeDescriptor (user : User) (fd : Int) (s : Pipeline) : Pipeline :=
  if 0 ≤ fd then
    { s with
      descriptors := s.descriptors.erase fd
      accesses := s.accesses ++ [⟨user, .close, fd, s.descriptors.lookup fd⟩] }
  else s

def setWorker (id : Nat) (worker : EncodeWorker) (s : Pipeline) : Pipeline :=
  { s with workers := s.workers.insert id worker }

def setCall (id : Nat) (call : WriteCall) (s : Pipeline) : Pipeline :=
  { s with calls := s.calls.insert id call }

/-- What `pipe` answers is open nowhere else, and the input is not anybody's in the pipeline. -/
def Available (id : Nat) (input : Int) (pipe : Option (Int × Int)) (s : Pipeline) : Prop :=
  (0 ≤ input → s.descriptors.lookup input = some .other) ∧
    match pipe with
    | none => True
    | some (readFd, writeFd) =>
      0 ≤ readFd ∧ 0 ≤ writeFd ∧ readFd ≠ writeFd ∧ readFd ∉ s.descriptors ∧
        writeFd ∉ s.descriptors ∧ id ∉ s.workers

instance (id : Nat) (input : Int) (pipe : Option (Int × Int)) (s : Pipeline) :
    Decidable (Available id input pipe s) := by
  unfold Available
  cases pipe <;> exact inferInstance

def handInput (id : Nat) (input : Int) (table : Table Int Holder) : Table Int Holder :=
  if 0 ≤ input then table.insert input (.input id) else table

/-- `process_output` in the thread of the session: the pipe, and the worker that is started. -/
def startWorker (id : Nat) (request : OutputProcessRequest) (pipe : Option (Int × Int))
    (s : Pipeline) : Pipeline :=
  let answer := processOutput s.writer.previewBuffers s.writer.captureBuffers pipe request
  let s :=
    { s with
      outstanding := s.outstanding ++ [⟨requestKey request, answer.releaseFenceFd⟩]
      processed := s.processed ++ [requestKey request] }
  match answer.worker with
  | none => answer.closed.foldl (fun s fd => closeDescriptor .session fd s) s
  | some job =>
    { s with
      descriptors := ((handInput id request.inputAcquireFenceFd s.descriptors).insert
        answer.releaseFenceFd (.readEnd id)).insert job.writeFd (.writeEnd id)
      workers := s.workers.insert id { job := job } }

/-- The answer of `poll` on a fence ends the wait well: the pipe has a byte or no writer. Of a
descriptor that is no release fence nothing is known; a closed one has `POLLNVAL`. -/
def Pipeline.readable (s : Pipeline) (fd : Int) : Bool :=
  match s.descriptors.lookup fd with
  | none => false
  | some (.readEnd id) => (s.workers.lookup id).any fun worker => worker.stage.signalled
  | some _ => true

/-- The wait on a negative fence ends at once and well; the wait on another one can end badly,
and well when the fence is readable. -/
def Awaited (fence : Int) (ready : Bool) (s : Pipeline) : Prop :=
  if fence < 0 then ready = true else ready = true → s.readable fence = true

instance (fence : Int) (ready : Bool) (s : Pipeline) : Decidable (Awaited fence ready s) := by
  unfold Awaited
  exact inferInstance

def putEncoded (worker : EncodeWorker) (w : Writer) : Writer :=
  { w with
    encodedFrames := w.encodedFrames.map fun store =>
      match worker.encoded with
      | none => store
      | some bytes => store.put worker.key bytes }

/-- The last part of `block_wait_and_write`, from the lookup of the buffer on. -/
def finishWrite (call : WriteCall) (fenceReady : Bool) (answers : Answers) (w : Writer) :
    Bool × Writer :=
  let (found, lease, w) := lookupBuffer call.result call.completed.bufferId w
  let image := writeImage call.outputPath call.result call.completed fenceReady
    (metadataFor call.completed found) answers w
  (image.1, { image.2 with pools := destroyAll lease.toList w.pools })

def imageOf (call : WriteCall) (wrote : Bool) (w : Writer) : List Image :=
  let key : EncodedFrameKey := ⟨call.result.frameNumber, call.completed.bufferId⟩
  if wrote then
    (w.encodedFrames.bind fun store => store.frames.lookup key).toList.map fun bytes =>
      ⟨key, call.outputPath, bytes⟩
  else []

/-- The steps of the encoder's workers carry their id, those of a write the id of its thread.
`drop` is the session or the client closing a release fence without reading the image;
`retrack` is the client registering and releasing buffers. -/
inductive Label where
  | process (id : Nat) (request : OutputProcessRequest) (pipe : Option (Int × Int))
  | admitInput (id : Nat)
  | encode (id : Nat) (answer : Option (List UInt8))
  | store (id : Nat)
  | signal (id : Nat)
  | closeWrite (id : Nat)
  | drop (claim : Claim)
  | deliver (result : CaptureResult)
  | registerPath (frameNumber : Nat) (outputPath : String)
  | cancel (frameNumber : Nat)
  | take (id frameNumber : Nat)
  | await (id : Nat) (ready : Bool)
  | closeFence (id : Nat)
  | finish (id : Nat) (answers : Answers)
  | openOther (fd : Int)
  | closeOther (fd : Int)
  | retrack (preview capture : Tracker) (pools : List DmaBufPool)

def atStage (id : Nat) (stage : EncodeStage) (s : Pipeline)
    (next : EncodeWorker → Pipeline) : Option Pipeline :=
  match s.workers.lookup id with
  | some worker => if worker.stage = stage then some (next worker) else none
  | none => none

/-- The locked section of `block_wait_and_write`; a result without buffers ends the call. -/
def takePending (id frameNumber : Nat) (s : Pipeline) : Option Pipeline :=
  match s.writer.pendingWrites.lookup frameNumber with
  | some ⟨outputPath, some result⟩ =>
    if outputPath ≠ "" ∧ id ∉ s.calls then
      let rest := { s with writer := FenceAwareResultWriter.cancel frameNumber s.writer }
      match firstCompletedBuffer result with
      | none => some rest
      | some completed => some (setCall id ⟨outputPath, result, completed, .awaiting⟩ rest)
    else none
  | _ => none

/-- That the session drops or delivers a fence once is a guard of its steps here, and what
`Hal/ReleaseFences` shows of the session. -/
def step (s : Pipeline) : Label → Option Pipeline
  | .process id request pipe =>
    if Available id request.inputAcquireFenceFd pipe s then some (startWorker id request pipe s)
    else none
  | .admitInput id =>
    atStage id .waiting s fun worker =>
      let input := worker.job.request.inputAcquireFenceFd
      closeDescriptor (.encoder id) input
        (useDescriptor (.encoder id) .wait input
          (setWorker id { worker with stage := .encoding } s))
  | .encode id answer =>
    atStage id .encoding s fun worker =>
      setWorker id { worker with stage := .storing, encoded := answer } s
  | .store id =>
    atStage id .storing s fun worker =>
      { setWorker id { worker with stage := .signalling } s with
        writer := putEncoded worker s.writer }
  | .signal id =>
    atStage id .signalling s fun worker =>
      useDescriptor (.encoder id) .signal worker.job.writeFd
        (setWorker id { worker with stage := .closing } s)
  | .closeWrite id =>
    atStage id .closing s fun worker =>
      closeDescriptor (.encoder id) worker.job.writeFd
        (setWorker id { worker with stage := .finished } s)
  | .drop claim =>
    if claim ∈ s.outstanding then
      some (closeDescriptor .session claim.fence
        { s with outstanding := s.outstanding.erase claim })
    else none
  | .deliver result =>
    let claims := handedOver result result.completedOutputBuffers
    if claims.Subperm s.outstanding then
      some { s with
        outstanding := s.outstanding.diff claims
        writer := registerResult result s.writer }
    else none
  | .registerPath frameNumber outputPath =>
    some { s with
      writer := FenceAwareResultWriter.registerPath frameNumber outputPath s.writer
      paths := s.paths ++ [(frameNumber, outputPath)] }
  | .cancel frameNumber =>
    some { s with writer := FenceAwareResultWriter.cancel frameNumber s.writer }
  | .take id frameNumber => takePending id frameNumber s
  | .await id ready =>
    match s.calls.lookup id with
    | some ⟨outputPath, result, completed, .awaiting⟩ =>
      if Awaited completed.releaseFenceFd ready s then
        some (useDescriptor (.writer ⟨result.frameNumber, completed.bufferId⟩) .wait
          completed.releaseFenceFd
          (setCall id ⟨outputPath, result, completed, .closing ready⟩ s))
      else none
    | _ => none
  | .closeFence id =>
    match s.calls.lookup id with
    | some ⟨outputPath, result, completed, .closing ready⟩ =>
      some (closeDescriptor (.writer ⟨result.frameNumber, completed.bufferId⟩)
        completed.releaseFenceFd
        (setCall id ⟨outputPath, result, completed, .writing ready⟩ s))
    | _ => none
  | .finish id answers =>
    match s.calls.lookup id with
    | some ⟨outputPath, result, completed, .writing ready⟩ =>
      let call : WriteCall := ⟨outputPath, result, completed, .writing ready⟩
      let image := finishWrite call ready answers s.writer
      some { s with
        calls := s.calls.erase id
        writer := image.2
        consumed := s.consumed ++ (handedOver result [completed]).map (·.key)
        images := s.images ++ imageOf call image.1 s.writer }
    | _ => none
  | .openOther fd =>
    if 0 ≤ fd ∧ fd ∉ s.descriptors then
      some { s with descriptors := s.descriptors.insert fd .other }
    else none
  | .closeOther fd =>
    if s.descriptors.lookup fd = some .other then
      some { s with descriptors := s.descriptors.erase fd }
    else none
  | .retrack preview capture pools =>
    some { s with
      writer := { s.writer with
        previewBuffers := preview
        captureBuffers := capture
        pools := pools } }

/-- The client uses a frame number and a buffer id together once. -/
def FreshKey (s : Pipeline) : Label → Prop
  | .process _ request _ => requestKey request ∉ s.processed
  | _ => True

instance (s : Pipeline) (label : Label) : Decidable (FreshKey s label) := by
  cases label <;> unfold FreshKey <;> exact inferInstance

end Steps

section Alone

/-- Without other threads between its steps, a write does what `writeFirst` does. -/
theorem writeFirst_eq_steps (outputPath : String) (result : CaptureResult)
    (completed : CompletedOutputBuffer) (answers : Answers) (w : Writer) :
    writeFirst outputPath result completed answers w =
      (waitForReleaseFence completed.releaseFenceFd answers.polls).map fun waited =>
        let image := finishWrite ⟨outputPath, result, completed, .writing waited.1⟩ waited.1
          answers w
        { answer := some { result := result, wroteImage := image.1 }
          writer := image.2
          fences := waited.2 ++ closeReleaseFence completed.releaseFenceFd
          returned := (lookupBuffer result completed.bufferId w).2.1.toList } := by
  rfl

/-- Without other threads between its steps, a worker does to the store what its job does. -/
theorem run_eq_steps (encodeJpeg : OutputProcessRequest → Address → Option (List UInt8))
    (encodeSynthetic : OutputProcessRequest → Option (List UInt8)) (job : EncodeJob)
    (w : Writer) :
    (job.run encodeJpeg encodeSynthetic w.encodedFrames).1 =
      (putEncoded
        { job := job
          encoded :=
            match job.outputBuffer with
            | some buffer => encodeJpeg job.request buffer
            | none => encodeSynthetic job.request } w).encodedFrames := by
  rfl

end Alone

end MiniCam.App.EncodePipeline
