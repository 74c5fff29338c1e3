/- Module: MiniCam/App/JpegEncoderProcessor
   source: app/jpeg_encoder_processor.h, app/jpeg_encoder_processor.cpp
   digest: The encoder stage, and which tracked buffer it reads for an output. -/

import MiniCam.Buffers.BufferTracker
import MiniCam.Hal.Interface

set_option autoImplicit false
set_option relaxedAutoImplicit false

namespace MiniCam.App.JpegEncoderProcessor

open MiniCam.Foundation.KeyedTable
open MiniCam.Hal.Interface (OutputProcessRequest)
open MiniCam.Buffers.DmaBufAllocator
open MiniCam.Buffers.BufferTracker

section Encoding

structure EncodedFrameKey where
  frameNumber : Nat := 0
  bufferId : Int := -1
  deriving DecidableEq

structure EncodedFrameStore where
  frames : Table EncodedFrameKey (List UInt8) := ∅

namespace EncodedFrameStore

def put (key : EncodedFrameKey) (bytes : List UInt8) (store : EncodedFrameStore) :
    EncodedFrameStore :=
  { frames := store.frames.insert key bytes }

def take (key : EncodedFrameKey) (store : EncodedFrameStore) :
    Option (List UInt8) × EncodedFrameStore :=
  match store.frames.lookup key with
  | none => (none, store)
  | some bytes => (some bytes, { frames := store.frames.erase key })

end EncodedFrameStore

/-- A buffer id is looked up among the captures first. -/
def resolveBuffer (preview capture : Tracker) (bufferId : Int) : Option Address :=
  match capture.resolve bufferId with
  | some buffer => some buffer
  | none => preview.resolve bufferId

structure EncodeJob where
  request : OutputProcessRequest
  outputBuffer : Option Address
  writeFd : Int
  deriving DecidableEq

/-- What `process_output` answers and leaves behind: the release fence, the worker, and the
fence that is closed at once where `pipe` fails. -/
structure Processed where
  releaseFenceFd : Int
  worker : Option EncodeJob
  closed : List Int
  deriving DecidableEq

def closeFd (fd : Int) : List Int := if 0 ≤ fd then [fd] else []

def processOutput (preview capture : Tracker) (pipe : Option (Int × Int))
    (request : OutputProcessRequest) : Processed :=
  match pipe with
  | none =>
    { releaseFenceFd := -1
      worker := none
      closed := closeFd request.inputAcquireFenceFd }
  | some (readFd, writeFd) =>
    { releaseFenceFd := readFd
      worker := some
        { request := request
          outputBuffer := resolveBuffer preview capture request.bufferId
          writeFd := writeFd }
      closed := [] }

/-- The worker waits for its input, encodes, puts the frame away and signals. `encodeJpeg` and
`encodeSynthetic` are the codec; the result is the store and the descriptors that are closed. -/
def EncodeJob.run (encodeJpeg : OutputProcessRequest → Address → Option (List UInt8))
    (encodeSynthetic : OutputProcessRequest → Option (List UInt8)) (job : EncodeJob)
    (store : Option EncodedFrameStore) : Option EncodedFrameStore × List Int :=
  let encoded :=
    match job.outputBuffer with
    | some buffer => encodeJpeg job.request buffer
    | none => encodeSynthetic job.request
  let store := store.map fun store =>
    match encoded with
    | none => store
    | some bytes =>
      store.put ⟨job.request.frameNumber, job.request.bufferId⟩ bytes
  (store, closeFd job.request.inputAcquireFenceFd ++ closeFd job.writeFd)

end Encoding

section Registrations

inductive Side where
  | preview
  | capture
  deriving DecidableEq

structure Registration where
  side : Side
  bufferId : Int
  lease : DmaBufLease
  deriving DecidableEq

structure Trackers where
  preview : Tracker := {}
  capture : Tracker := {}
  pools : List DmaBufPool := []

variable (heap : Address → DmaBuf)

/-- The object a lease points to; a lease without one is not read. -/
def bufferOf (lease : DmaBufLease) : DmaBuf := (lease.buffer.map heap).getD {}

def Registration.fd (r : Registration) : Int := (bufferOf heap r.lease).fd

def register (s : Trackers) (r : Registration) : Trackers :=
  match r.side with
  | .preview =>
    let out := s.preview.registerBuffer r.bufferId r.lease (bufferOf heap r.lease) s.pools
    { s with preview := out.2.1, pools := out.2.2 }
  | .capture =>
    let out := s.capture.registerBuffer r.bufferId r.lease (bufferOf heap r.lease) s.pools
    { s with capture := out.2.1, pools := out.2.2 }

def registerAll (pools : List DmaBufPool) (registrations : List Registration) : Trackers :=
  registrations.foldl (register heap) { pools := pools }

def Trackers.side (s : Trackers) : Side → Tracker
  | .preview => s.preview
  | .capture => s.capture

/-- What is tracked points to a buffer, and the metadata name that buffer's descriptor. -/
def Faithful (tracker : Tracker) : Prop :=
  ∀ id tracked, tracker.buffers.lookup id = some tracked →
    ∃ buffer, tracked.lease.buffer = some buffer ∧
      tracked.metadata.bufferFd = (heap buffer).fd

variable {heap}

theorem registerBuffer_faithful {tracker : Tracker} (F : Faithful heap tracker) (bufferId : Int)
    (lease : DmaBufLease) (pools : List DmaBufPool) :
    Faithful heap (tracker.registerBuffer bufferId lease (bufferOf heap lease) pools).2.1 := by
  unfold Tracker.registerBuffer
  split
  · rename_i live
    split
    · exact F
    · intro id tracked found
      rcases lookup_insert_eq_some.mp found with ⟨-, rfl⟩ | ⟨-, before⟩
      · obtain ⟨buffer, points⟩ := Option.isSome_iff_exists.mp live
        refine ⟨buffer, points, ?_⟩
        simp [bufferOf, points]
      · exact F id tracked before
  · exact F

theorem register_faithful {s : Trackers} (F : ∀ side, Faithful heap (s.side side))
    (r : Registration) (side : Side) : Faithful heap ((register heap s r).side side) := by
  unfold register
  cases r.side with
  | preview =>
    cases side with
    | preview => exact registerBuffer_faithful (F .preview) r.bufferId r.lease s.pools
    | capture => exact F .capture
  | capture =>
    cases side with
    | preview => exact F .preview
    | capture => exact registerBuffer_faithful (F .capture) r.bufferId r.lease s.pools

theorem registerAll_faithful (pools : List DmaBufPool) (registrations : List Registration) :
    ∀ side, Faithful heap ((registerAll heap pools registrations).side side) := by
  have fold : ∀ s : Trackers, (∀ side, Faithful heap (s.side side)) →
      ∀ side, Faithful heap ((registrations.foldl (register heap) s).side side) := by
    induction registrations with
    | nil =>
      intro s F
      exact F
    | cons r rest ih =>
      intro s F
      exact ih (register heap s r) (register_faithful F r)
  apply fold
  intro side id tracked found
  cases side <;> cases found

theorem Faithful.resolve {tracker : Tracker} (F : Faithful heap tracker) (bufferId : Int) :
    (tracker.resolve bufferId).map (fun buffer => (heap buffer).fd) =
      (tracker.resolveMetadata bufferId).map fun metadata => metadata.bufferFd := by
  unfold Tracker.resolve Tracker.resolveMetadata
  cases found : tracker.buffers.lookup bufferId with
  | none => rfl
  | some tracked =>
    obtain ⟨buffer, points, fd⟩ := F bufferId tracked found
    simp [points, fd]

end Registrations

section Resolution

def encodedFd (heap : Address → DmaBuf) (s : Trackers) (bufferId : Int) : Option Int :=
  (resolveBuffer s.preview s.capture bufferId).map fun buffer => (heap buffer).fd

def registeredFd (tracker : Tracker) (bufferId : Int) : Option Int :=
  (tracker.resolveMetadata bufferId).map fun metadata => metadata.bufferFd

theorem encodedFd_eq {heap : Address → DmaBuf} {s : Trackers}
    (F : ∀ side, Faithful heap (s.side side)) (bufferId : Int) :
    encodedFd heap s bufferId =
      (registeredFd s.capture bufferId).or (registeredFd s.preview bufferId) := by
  have capture := (F .capture).resolve bufferId
  have preview := (F .preview).resolve bufferId
  simp only [Trackers.side] at capture preview
  unfold encodedFd resolveBuffer registeredFd
  rw [← capture, ← preview]
  cases s.capture.resolve bufferId <;> rfl

/-- After any registrations, the encoder reads the buffer of an output whose id and descriptor
are registered exactly when no capture buffer with another descriptor has that id. -/
theorem encoder_reads_completed_buffer (heap : Address → DmaBuf) (pools : List DmaBufPool)
    (registrations : List Registration) (request : OutputProcessRequest)
    (registered : ∃ side, registeredFd ((registerAll heap pools registrations).side side)
      request.bufferId = some request.bufferFd) :
    encodedFd heap (registerAll heap pools registrations) request.bufferId =
        some request.bufferFd ↔
      ∀ fd, registeredFd (registerAll heap pools registrations).capture request.bufferId =
        some fd → fd = request.bufferFd := by
  rw [encodedFd_eq (registerAll_faithful pools registrations)]
  cases found : registeredFd (registerAll heap pools registrations).capture request.bufferId with
  | none =>
    have preview : registeredFd (registerAll heap pools registrations).preview
        request.bufferId = some request.bufferFd := by
      obtain ⟨side, at_side⟩ := registered
      cases side with
      | preview => exact at_side
      | capture =>
        rw [Trackers.side, found] at at_side
        cases at_side
    rw [Option.none_or, preview]
    simp
  | some fd => simp

/-- The objects of the two runs below: the one at address `a` has the descriptor `20 + a`. -/
def sampleHeap (a : Address) : DmaBuf := { fd := 20 + a, size := 64 }

def sampleLease (a : Address) : DmaBufLease := { pool := some 0, buffer := some a }

theorem encoder_reads_completed_buffer_apart :
    registeredFd (registerAll sampleHeap [] [⟨.preview, 0, sampleLease 0⟩,
        ⟨.preview, 1, sampleLease 1⟩, ⟨.capture, 2, sampleLease 2⟩]).preview 1 = some 21 ∧
      encodedFd sampleHeap (registerAll sampleHeap [] [⟨.preview, 0, sampleLease 0⟩,
        ⟨.preview, 1, sampleLease 1⟩, ⟨.capture, 2, sampleLease 2⟩]) 1 = some 21 := by
  refine ⟨by decide +kernel, ?_⟩
  apply (encoder_reads_completed_buffer sampleHeap [] _ { bufferId := 1, bufferFd := 21 }
    ⟨.preview, by decide +kernel⟩).mpr
  intro fd found
  have none_there : registeredFd (registerAll sampleHeap [] [⟨.preview, 0, sampleLease 0⟩,
      ⟨.preview, 1, sampleLease 1⟩, ⟨.capture, 2, sampleLease 2⟩]).capture 1 = none := by
    decide +kernel
  rw [none_there] at found
  cases found

/-- Two preview buffers and the first capture, as the CLI numbers them: while the capture is
registered, the encoder reads its buffer for the second preview buffer. -/
theorem encoder_reads_capture_for_preview :
    ∃ registrations : List Registration,
      (registrations.map fun r => (r.side, r.bufferId)).Nodup ∧
      (registrations.map fun r => r.fd sampleHeap).Nodup ∧
      registeredFd (registerAll sampleHeap [] registrations).preview 1 = some 21 ∧
      encodedFd sampleHeap (registerAll sampleHeap [] registrations) 1 = some 22 := by
  refine ⟨[⟨.preview, 0, sampleLease 0⟩, ⟨.preview, 1, sampleLease 1⟩,
    ⟨.capture, 1, sampleLease 2⟩], ?_, ?_, ?_, ?_⟩ <;> decide +kernel

end Resolution

end MiniCam.App.JpegEncoderProcessor
