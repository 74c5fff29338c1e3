/- Module: MiniCam/App/FenceAwareResultWriter
   source: app/fence_aware_result_writer.h, app/fence_aware_result_writer.cpp
   digest: The app's writer of results, and what it gives up of the buffers a result lists. -/

import MiniCam.App.JpegEncoderProcessor
import MiniCam.Foundation.Histories

set_option autoImplicit false
set_option relaxedAutoImplicit false

namespace MiniCam.App.FenceAwareResultWriter

open MiniCam.Foundation.Histories
open MiniCam.Foundation.KeyedTable
open MiniCam.Hal.Interface (CaptureResult CompletedOutputBuffer)
open MiniCam.Buffers.DmaBufAllocator
open MiniCam.Buffers.BufferTracker
open MiniCam.App.JpegEncoderProcessor (EncodedFrameStore)

structure WriteResult where
  result : CaptureResult
  wroteImage : Bool := false
  deriving DecidableEq

structure PendingWrite where
  outputPath : String := ""
  result : Option CaptureResult := none
  deriving DecidableEq

/-- The writer with what it refers to: the two trackers, the encoded frames, the pools that
leases go back to, and the files that were written in full. -/
structure Writer where
  previewBuffers : Tracker := {}
  captureBuffers : Tracker := {}
  encodedFrames : Option EncodedFrameStore := none
  pendingWrites : Table Nat PendingWrite := ∅
  pools : List DmaBufPool := []
  files : List (String × List UInt8) := []

/-- One answer of `poll` on a fence: `EINTR`, another failure, or events, which either hold
one that ends the wait well or do not. -/
inductive Poll where
  | interrupted
  | failed
  | ready (signalled : Bool)
  deriving DecidableEq

/-- What the system answers in one call: `poll` in turn, and whether the file opens and takes
the bytes. -/
structure Answers where
  polls : List Poll := []
  opened : Bool := true
  written : Bool := true
  deriving DecidableEq

inductive FenceEvent where
  | waited (fd : Int)
  | closed (fd : Int)
  deriving DecidableEq

def FenceEvent.fd : FenceEvent → Int
  | .waited fd => fd
  | .closed fd => fd

structure Outcome where
  answer : Option WriteResult
  writer : Writer
  fences : List FenceEvent
  returned : List DmaBufLease

section Registration

def registerPath (frameNumber : Nat) (outputPath : String) (w : Writer) : Writer :=
  let pending := (w.pendingWrites.lookup frameNumber).getD {}
  { w with
    pendingWrites := w.pendingWrites.insert frameNumber { pending with outputPath := outputPath } }

def registerResult (result : CaptureResult) (w : Writer) : Writer :=
  let pending := (w.pendingWrites.lookup result.frameNumber).getD {}
  { w with
    pendingWrites := w.pendingWrites.insert result.frameNumber
      { pending with result := some result } }

def cancel (frameNumber : Nat) (w : Writer) : Writer :=
  { w with pendingWrites := w.pendingWrites.erase frameNumber }

end Registration

section Writing

/-- The loop on `poll`; it does not end while every answer is `EINTR`. -/
def pollFence : List Poll → Option Bool
  | [] => none
  | .interrupted :: rest => pollFence rest
  | .failed :: _ => some false
  | .ready signalled :: _ => some signalled

def waitForReleaseFence (releaseFenceFd : Int) (polls : List Poll) :
    Option (Bool × List FenceEvent) :=
  if releaseFenceFd < 0 then some (true, [])
  else (pollFence polls).map fun ready => (ready, [.waited releaseFenceFd])

def closeReleaseFence (releaseFenceFd : Int) : List FenceEvent :=
  if 0 ≤ releaseFenceFd then [.closed releaseFenceFd] else []

def firstCompletedBuffer (result : CaptureResult) : Option CompletedOutputBuffer :=
  result.completedOutputBuffers.head?

def writeEncodedFrame (outputPath : String) (frameNumber : Nat) (bufferId : Int)
    (answers : Answers) (w : Writer) : Bool × Writer :=
  match w.encodedFrames with
  | none => (false, w)
  | some store =>
    match store.take ⟨frameNumber, bufferId⟩ with
    | (none, _) => (false, w)
    | (some encoded, rest) =>
      let taken := { w with encodedFrames := some rest }
      if answers.opened && answers.written then
        (true, { taken with files := w.files ++ [(outputPath, encoded)] })
      else (false, taken)

/-- The lookup of the first buffer: previews keep theirs, a capture takes it out. -/
def lookupBuffer (result : CaptureResult) (bufferId : Int) (w : Writer) :
    Option TrackedBufferMetadata × Option DmaBufLease × Writer :=
  if result.message = "preview" then (w.previewBuffers.resolveMetadata bufferId, none, w)
  else
    match w.captureBuffers.takeMetadata bufferId with
    | (none, _) => (none, none, w)
    | (some tracked, rest) =>
      (some tracked.metadata, some tracked.lease, { w with captureBuffers := rest })

def metadataFor (completed : CompletedOutputBuffer) (found : Option TrackedBufferMetadata) :
    Option TrackedBufferMetadata :=
  if found.isNone && completed.bufferId == -1 then
    some { bufferId := completed.bufferId, bufferFd := -1, bufferSize := 0 }
  else found

def writeImage (outputPath : String) (result : CaptureResult) (completed : CompletedOutputBuffer)
    (fenceReady : Bool) (metadata : Option TrackedBufferMetadata) (answers : Answers)
    (w : Writer) : Bool × Writer :=
  if result.status = .ok && fenceReady && metadata.isSome && outputPath != "" then
    writeEncodedFrame outputPath result.frameNumber completed.bufferId answers w
  else (false, w)

/-- What happens outside the lock to a result with a first buffer. The captured lease goes out
of scope when the call returns. -/
def writeFirst (outputPath : String) (result : CaptureResult)
    (completed : CompletedOutputBuffer) (answers : Answers) (w : Writer) : Option Outcome :=
  (waitForReleaseFence completed.releaseFenceFd answers.polls).map fun (fenceReady, waits) =>
    let (found, lease, w) := lookupBuffer result completed.bufferId w
    let image :=
      writeImage outputPath result completed fenceReady (metadataFor completed found) answers w
    { answer := some { result := result, wroteImage := image.1 }
      writer := { image.2 with pools := destroyAll lease.toList w.pools }
      fences := waits ++ closeReleaseFence completed.releaseFenceFd
      returned := lease.toList }

/-- One call, from the moment its wait on the registrations ends. Without a path and a result
it has timed out; `none` is a call that still waits for a fence. -/
def blockWaitAndWrite (frameNumber : Nat) (answers : Answers) (w : Writer) : Option Outcome :=
  match w.pendingWrites.lookup frameNumber with
  | some ⟨outputPath, some result⟩ =>
    if outputPath = "" then some ⟨none, w, [], []⟩
    else
      let rest := { w with pendingWrites := w.pendingWrites.erase frameNumber }
      match firstCompletedBuffer result with
      | none => some ⟨some { result := result, wroteImage := false }, rest, [], []⟩
      | some completed => writeFirst outputPath result completed answers rest
  | _ => some ⟨none, w, [], []⟩

end Writing

inductive Call where
  | registerPath (frameNumber : Nat) (outputPath : String)
  | registerResult (result : CaptureResult)
  | cancel (frameNumber : Nat)
  | blockWaitAndWrite (frameNumber : Nat) (answers : Answers)
  deriving DecidableEq

/-- A write that does not return has still taken its registration. -/
def perform (w : Writer) : Call → Writer
  | .registerPath frameNumber outputPath => registerPath frameNumber outputPath w
  | .registerResult result => registerResult result w
  | .cancel frameNumber => cancel frameNumber w
  | .blockWaitAndWrite frameNumber answers =>
    match blockWaitAndWrite frameNumber answers w with
    | some outcome => outcome.writer
    | none => cancel frameNumber w

section Outcomes

variable {w : Writer} {result : CaptureResult} {completed : CompletedOutputBuffer}
  {answers : Answers} {outcome : Outcome}

theorem lookupBuffer_preview (preview : result.message = "preview") (bufferId : Int) :
    lookupBuffer result bufferId w = (w.previewBuffers.resolveMetadata bufferId, none, w) := by
  simp only [lookupBuffer, preview, if_true]

theorem lookupBuffer_capture (capture : result.message ≠ "preview") (bufferId : Int) :
    lookupBuffer result bufferId w =
      ((w.captureBuffers.buffers.lookup bufferId).map TrackedBuffer.metadata,
        (w.captureBuffers.buffers.lookup bufferId).map TrackedBuffer.lease,
        { w with captureBuffers := { buffers := w.captureBuffers.buffers.erase bufferId } }) := by
  simp only [lookupBuffer, if_neg capture, Tracker.takeMetadata]
  cases found : w.captureBuffers.buffers.lookup bufferId with
  | none => simp [erase_of_fresh (AList.lookup_eq_none.mp found)]
  | some tracked => rfl

theorem writeEncodedFrame_frame (outputPath : String) (frameNumber : Nat) (bufferId : Int)
    (answers : Answers) (w : Writer) :
    ∃ store files, (writeEncodedFrame outputPath frameNumber bufferId answers w).2 =
      { w with encodedFrames := store, files := files } := by
  unfold writeEncodedFrame
  split
  · exact ⟨_, _, rfl⟩
  · split
    · exact ⟨_, _, rfl⟩
    · simp only
      split
      · exact ⟨_, _, rfl⟩
      · exact ⟨_, _, rfl⟩

theorem writeImage_frame (outputPath : String) (result : CaptureResult)
    (completed : CompletedOutputBuffer) (fenceReady : Bool)
    (metadata : Option TrackedBufferMetadata) (answers : Answers) (w : Writer) :
    ∃ store files, (writeImage outputPath result completed fenceReady metadata answers w).2 =
      { w with encodedFrames := store, files := files } := by
  unfold writeImage
  split
  · exact writeEncodedFrame_frame _ _ _ _ _
  · exact ⟨_, _, rfl⟩

def firstLease (w : Writer) (result : CaptureResult) (bufferId : Int) : Option DmaBufLease :=
  if result.message = "preview" then none
  else (w.captureBuffers.buffers.lookup bufferId).map TrackedBuffer.lease

def afterFirst (w : Writer) (result : CaptureResult) (bufferId : Int) : Tracker :=
  if result.message = "preview" then w.captureBuffers
  else { buffers := w.captureBuffers.buffers.erase bufferId }

theorem lookupBuffer_effects (result : CaptureResult) (bufferId : Int) (w : Writer) :
    (lookupBuffer result bufferId w).2 =
      (firstLease w result bufferId,
        { w with captureBuffers := afterFirst w result bufferId }) := by
  by_cases preview : result.message = "preview"
  · simp only [lookupBuffer_preview preview, firstLease, afterFirst, preview, if_true]
  · simp only [lookupBuffer_capture preview, firstLease, afterFirst, preview, if_false]

/-- A call that handles a first buffer waits for its fence and closes it, and gives up its
lease. -/
structure Handled (w : Writer) (result : CaptureResult) (completed : CompletedOutputBuffer)
    (outcome : Outcome) : Prop where
  answer : ∃ wroteImage, outcome.answer = some { result := result, wroteImage := wroteImage }
  fences : outcome.fences =
    if 0 ≤ completed.releaseFenceFd then
      [.waited completed.releaseFenceFd, .closed completed.releaseFenceFd]
    else []
  returned : outcome.returned = (firstLease w result completed.bufferId).toList
  capture : outcome.writer.captureBuffers = afterFirst w result completed.bufferId
  pools : outcome.writer.pools = destroyAll outcome.returned w.pools
  pending : outcome.writer.pendingWrites = w.pendingWrites

theorem writeFirst_handled {outputPath : String}
    (returns : writeFirst outputPath result completed answers w = some outcome) :
    Handled w result completed outcome := by
  obtain ⟨⟨ready, waits⟩, waited, rfl⟩ := Option.map_eq_some_iff.mp returns
  have effects := lookupBuffer_effects result completed.bufferId w
  cases looked : lookupBuffer result completed.bufferId w with
  | mk found rest =>
    obtain ⟨lease, after⟩ := rest
    rw [looked] at effects
    obtain ⟨rfl, rfl⟩ := Prod.mk.inj effects
    simp only
    have fences : waits ++ closeReleaseFence completed.releaseFenceFd =
        if 0 ≤ completed.releaseFenceFd then
          [.waited completed.releaseFenceFd, .closed completed.releaseFenceFd]
        else [] := by
      simp only [waitForReleaseFence] at waited
      split at waited
      · rename_i negative
        cases waited
        simp only [closeReleaseFence, if_neg (Int.not_le.mpr negative), List.append_nil]
      · rename_i fence
        obtain ⟨_, -, same⟩ := Option.map_eq_some_iff.mp waited
        obtain ⟨-, rfl⟩ := Prod.mk.inj same
        simp only [closeReleaseFence, if_pos (Int.not_lt.mp fence), List.singleton_append]
    obtain ⟨store, files, same⟩ := writeImage_frame outputPath result completed ready
      (metadataFor completed found) answers
      { w with captureBuffers := afterFirst w result completed.bufferId }
    refine ⟨⟨_, rfl⟩, fences, rfl, ?_, rfl, ?_⟩
    · rw [same]
    · rw [same]

theorem writeFirst_previews {outputPath : String}
    (returns : writeFirst outputPath result completed answers w = some outcome) :
    outcome.writer.previewBuffers = w.previewBuffers := by
  obtain ⟨⟨ready, waits⟩, -, rfl⟩ := Option.map_eq_some_iff.mp returns
  have after : (lookupBuffer result completed.bufferId w).2.2.previewBuffers =
      w.previewBuffers := by
    rw [lookupBuffer_effects]
  obtain ⟨store, files, same⟩ := writeImage_frame outputPath result completed ready
    (metadataFor completed (lookupBuffer result completed.bufferId w).1) answers
    (lookupBuffer result completed.bufferId w).2.2
  simp only [same, after]

theorem blockWaitAndWrite_previews {frameNumber : Nat}
    (returns : blockWaitAndWrite frameNumber answers w = some outcome) :
    outcome.writer.previewBuffers = w.previewBuffers := by
  unfold blockWaitAndWrite at returns
  split at returns
  · split at returns
    · cases returns
      rfl
    · simp only at returns
      split at returns
      · cases returns
        rfl
      · have kept := writeFirst_previews returns
        exact kept
  · cases returns
    rfl

theorem blockWaitAndWrite_outcome {frameNumber : Nat} {outputPath : String}
    (pending : w.pendingWrites.lookup frameNumber = some ⟨outputPath, some result⟩)
    {written : WriteResult}
    (returns : blockWaitAndWrite frameNumber answers w = some outcome)
    (answered : outcome.answer = some written) :
    written.result = result ∧
      match result.completedOutputBuffers with
      | [] => outcome.fences = [] ∧ outcome.returned = [] ∧
          outcome.writer.captureBuffers = w.captureBuffers ∧ outcome.writer.pools = w.pools
      | first :: _ =>
        Handled { w with pendingWrites := w.pendingWrites.erase frameNumber } result first
          outcome := by
  simp only [blockWaitAndWrite, pending] at returns
  split at returns
  · cases returns
    cases answered
  · simp only [firstCompletedBuffer] at returns
    cases listed : result.completedOutputBuffers with
    | nil =>
      simp only [listed, List.head?_nil] at returns
      cases returns
      cases answered
      exact ⟨rfl, rfl, rfl, rfl, rfl⟩
    | cons first rest =>
      simp only [listed, List.head?_cons] at returns
      have handled := writeFirst_handled returns
      obtain ⟨wroteImage, same⟩ := handled.answer
      rw [answered] at same
      obtain rfl := Option.some.inj same
      exact ⟨rfl, handled⟩

end Outcomes

section Pending

variable {w : Writer} {frameNumber : Nat}

/-- The registration of a frame is dropped, or taken by a write. -/
def Ends (frameNumber : Nat) (call : Call) : Prop :=
  call = .cancel frameNumber ∨ ∃ answers, call = .blockWaitAndWrite frameNumber answers

/-- The frame has been given this path, and no other since. -/
def HasPath (calls : List Call) (frameNumber : Nat) (outputPath : String) : Prop :=
  Since (fun call => call = .registerPath frameNumber outputPath)
    (fun call => (∃ other, call = .registerPath frameNumber other) ∨ Ends frameNumber call) calls

/-- The result has been registered, and no other for its frame since. -/
def HasResult (calls : List Call) (result : CaptureResult) : Prop :=
  Since (fun call => call = .registerResult result)
    (fun call => (∃ other, call = .registerResult other ∧
      other.frameNumber = result.frameNumber) ∨ Ends result.frameNumber call) calls

theorem blockWaitAndWrite_pending {answers : Answers} {outcome : Outcome}
    (returns : blockWaitAndWrite frameNumber answers w = some outcome) :
    outcome.writer.pendingWrites = w.pendingWrites ∨
      outcome.writer.pendingWrites = w.pendingWrites.erase frameNumber := by
  unfold blockWaitAndWrite at returns
  split at returns
  · split at returns
    · cases returns
      exact Or.inl rfl
    · simp only at returns
      split at returns
      · cases returns
        exact Or.inr rfl
      · exact Or.inr (writeFirst_handled returns).pending
  · cases returns
    exact Or.inl rfl

theorem perform_lookup {call : Call} (goes : ¬ Ends frameNumber call) :
    (∃ outputPath, call = .registerPath frameNumber outputPath ∧
      (perform w call).pendingWrites.lookup frameNumber =
        some { (w.pendingWrites.lookup frameNumber).getD {} with outputPath := outputPath }) ∨
    (∃ result, call = .registerResult result ∧ result.frameNumber = frameNumber ∧
      (perform w call).pendingWrites.lookup frameNumber =
        some { (w.pendingWrites.lookup frameNumber).getD {} with result := some result }) ∨
    (perform w call).pendingWrites.lookup frameNumber = w.pendingWrites.lookup frameNumber := by
  cases call with
  | registerPath other outputPath =>
    by_cases same : frameNumber = other
    · subst same
      exact Or.inl ⟨outputPath, rfl, AList.lookup_insert _⟩
    · exact Or.inr (Or.inr (AList.lookup_insert_ne same))
  | registerResult result =>
    by_cases same : frameNumber = result.frameNumber
    · subst same
      exact Or.inr (Or.inl ⟨result, rfl, rfl, AList.lookup_insert _⟩)
    · exact Or.inr (Or.inr (AList.lookup_insert_ne same))
  | cancel other =>
    have different : frameNumber ≠ other := by
      rintro rfl
      exact goes (Or.inl rfl)
    exact Or.inr (Or.inr (AList.lookup_erase_ne different))
  | blockWaitAndWrite other answers =>
    have different : frameNumber ≠ other := by
      rintro rfl
      exact goes (Or.inr ⟨answers, rfl⟩)
    refine Or.inr (Or.inr ?_)
    simp only [perform]
    split
    · rename_i outcome returns
      rcases blockWaitAndWrite_pending returns with same | taken
      · rw [same]
      · rw [taken]
        exact AList.lookup_erase_ne different
    · exact AList.lookup_erase_ne different

theorem path_of_hasPath {calls : List Call} {outputPath : String}
    (has : HasPath calls frameNumber outputPath) (w : Writer) :
    ∃ pending, (calls.foldl perform w).pendingWrites.lookup frameNumber = some pending ∧
      pending.outputPath = outputPath := by
  refine has.holds perform (fun w => ∃ pending,
    w.pendingWrites.lookup frameNumber = some pending ∧ pending.outputPath = outputPath) ?_ ?_ w
  · rintro w call rfl
    exact ⟨_, AList.lookup_insert _, rfl⟩
  · rintro w call ⟨pending, found, same⟩ goes
    obtain ⟨unset, running⟩ := not_or.mp goes
    rcases perform_lookup running with ⟨other, at_path, -⟩ | ⟨result, -, -, set⟩ | kept
    · exact absurd ⟨other, at_path⟩ unset
    · rw [found] at set
      exact ⟨_, set, same⟩
    · exact ⟨pending, kept.trans found, same⟩

theorem result_of_hasResult {calls : List Call} {result : CaptureResult}
    (has : HasResult calls result) (w : Writer) :
    ∃ pending, (calls.foldl perform w).pendingWrites.lookup result.frameNumber = some pending ∧
      pending.result = some result := by
  refine has.holds perform (fun w => ∃ pending,
    w.pendingWrites.lookup result.frameNumber = some pending ∧ pending.result = some result)
    ?_ ?_ w
  · rintro w call rfl
    exact ⟨_, AList.lookup_insert _, rfl⟩
  · rintro w call ⟨pending, found, same⟩ goes
    obtain ⟨unset, running⟩ := not_or.mp goes
    rcases perform_lookup running with ⟨outputPath, -, set⟩ | ⟨other, at_result, frame, -⟩ | kept
    · rw [found] at set
      exact ⟨_, set, same⟩
    · exact absurd ⟨other, at_result, frame⟩ unset
    · exact ⟨pending, kept.trans found, same⟩

end Pending

section Consumption

/-- The call has waited for every fence of the result and closed it, once, and for a capture
has given up the lease of every listed buffer that was tracked. -/
def Consumed (w : Writer) (result : CaptureResult) (outcome : Outcome) : Prop :=
  (∀ buffer ∈ result.completedOutputBuffers, 0 ≤ buffer.releaseFenceFd →
    (outcome.fences.filter fun event => event.fd = buffer.releaseFenceFd) =
      [.waited buffer.releaseFenceFd, .closed buffer.releaseFenceFd]) ∧
  (result.message ≠ "preview" → ∀ buffer ∈ result.completedOutputBuffers, ∀ tracked,
    w.captureBuffers.buffers.lookup buffer.bufferId = some tracked →
      buffer.bufferId ∉ outcome.writer.captureBuffers.buffers ∧
        tracked.lease ∈ outcome.returned)

/-- The buffers after the first have no fence of their own, and in a capture none of them is
a tracked buffer of its own. -/
def FirstOnly (w : Writer) (result : CaptureResult) : Prop :=
  ∀ first rest, result.completedOutputBuffers = first :: rest → ∀ buffer ∈ rest,
    (buffer.releaseFenceFd < 0 ∨ buffer.releaseFenceFd = first.releaseFenceFd) ∧
    (result.message = "preview" ∨ buffer.bufferId = first.bufferId ∨
      buffer.bufferId ∉ w.captureBuffers.buffers)

variable {w : Writer} {result : CaptureResult} {outcome : Outcome}

theorem fence_settled_iff {first : CompletedOutputBuffer} (H : Handled w result first outcome)
    {fd : Int} (fence : 0 ≤ fd) :
    (outcome.fences.filter fun event => event.fd = fd) = [.waited fd, .closed fd] ↔
      fd = first.releaseFenceFd := by
  rw [H.fences]
  constructor
  · intro settled
    by_contra other
    split at settled
    · simp [FenceEvent.fd, Ne.symm other] at settled
    · simp at settled
  · rintro rfl
    simp [fence, FenceEvent.fd]

theorem lease_settled_iff {first : CompletedOutputBuffer} (H : Handled w result first outcome)
    (capture : result.message ≠ "preview") {bufferId : Int} {tracked : TrackedBuffer}
    (found : w.captureBuffers.buffers.lookup bufferId = some tracked) :
    (bufferId ∉ outcome.writer.captureBuffers.buffers ∧ tracked.lease ∈ outcome.returned) ↔
      bufferId = first.bufferId := by
  rw [H.capture, H.returned]
  simp only [afterFirst, firstLease, if_neg capture]
  constructor
  · rintro ⟨removed, -⟩
    by_contra other
    exact removed (AList.mem_erase.mpr ⟨other, mem_of_lookup found⟩)
  · rintro rfl
    refine ⟨?_, by simp [found]⟩
    intro still
    exact (AList.mem_erase.mp still).1 rfl

theorem consumed_iff {first : CompletedOutputBuffer} {rest : List CompletedOutputBuffer}
    (listed : result.completedOutputBuffers = first :: rest)
    (H : Handled w result first outcome) : Consumed w result outcome ↔ FirstOnly w result := by
  constructor
  · rintro ⟨fences, leases⟩ first' rest' listed' buffer member
    rw [listed] at listed'
    obtain ⟨rfl, rfl⟩ := List.cons.inj listed'
    have among : buffer ∈ result.completedOutputBuffers := by
      rw [listed]
      exact List.mem_cons_of_mem _ member
    refine ⟨?_, ?_⟩
    · by_cases fence : 0 ≤ buffer.releaseFenceFd
      · exact Or.inr ((fence_settled_iff H fence).mp (fences buffer among fence))
      · exact Or.inl (Int.not_le.mp fence)
    · by_cases preview : result.message = "preview"
      · exact Or.inl preview
      · right
        by_cases tracked : buffer.bufferId ∈ w.captureBuffers.buffers
        · obtain ⟨entry, found⟩ := Option.isSome_iff_exists.mp (AList.lookup_isSome.mpr tracked)
          have settled := leases preview buffer among entry found
          exact Or.inl ((lease_settled_iff H preview found).mp settled)
        · exact Or.inr tracked
  · intro only
    have others := only first rest listed
    refine ⟨?_, ?_⟩
    · intro buffer member fence
      rw [listed] at member
      rcases List.mem_cons.mp member with rfl | later
      · exact (fence_settled_iff H fence).mpr rfl
      · rcases (others buffer later).1 with negative | same
        · omega
        · exact (fence_settled_iff H fence).mpr same
    · intro capture buffer member tracked found
      rw [listed] at member
      rcases List.mem_cons.mp member with rfl | later
      · exact (lease_settled_iff H capture found).mpr rfl
      · rcases (others buffer later).2 with preview | same | untracked
        · exact absurd preview capture
        · exact (lease_settled_iff H capture found).mpr same
        · exact absurd (mem_of_lookup found) untracked

/-- After any calls that leave a frame with a path and a result, a write that returns has
consumed what the result hands over exactly when only its first buffer hands over anything. -/
theorem writer_consumes_result (w : Writer) (calls : List Call) (result : CaptureResult)
    (outputPath : String) (named : HasPath calls result.frameNumber outputPath)
    (registered : HasResult calls result) (answers : Answers) (outcome : Outcome)
    (written : WriteResult)
    (returns : blockWaitAndWrite result.frameNumber answers (calls.foldl perform w) =
      some outcome)
    (answered : outcome.answer = some written) :
    written.result = result ∧
    outcome.writer.pools = destroyAll outcome.returned (calls.foldl perform w).pools ∧
    (Consumed (calls.foldl perform w) result outcome ↔
      FirstOnly (calls.foldl perform w) result) := by
  obtain ⟨pending, found, path⟩ := path_of_hasPath named w
  obtain ⟨pending', found', same⟩ := result_of_hasResult registered w
  obtain rfl := Option.some.inj (found.symm.trans found')
  have entry : (calls.foldl perform w).pendingWrites.lookup result.frameNumber =
      some ⟨outputPath, some result⟩ := by
    rw [found, ← path, ← same]
  obtain ⟨handed, effects⟩ := blockWaitAndWrite_outcome entry returns answered
  refine ⟨handed, ?_⟩
  cases listed : result.completedOutputBuffers with
  | nil =>
    rw [listed] at effects
    obtain ⟨-, none_returned, -, pools⟩ := effects
    refine ⟨by rw [pools, none_returned]; rfl, ?_⟩
    simp [Consumed, FirstOnly, listed]
  | cons first rest =>
    rw [listed] at effects
    have handled : Handled { calls.foldl perform w with
      pendingWrites := (calls.foldl perform w).pendingWrites.erase result.frameNumber }
        result first outcome := effects
    have settled := consumed_iff listed handled
    exact ⟨handled.pools, settled⟩

def trackedCapture (bufferId : Nat) : TrackedBuffer :=
  { metadata := { bufferId := bufferId, bufferFd := 30 + bufferId, bufferSize := 64 }
    lease := { pool := some 0, buffer := some bufferId } }

def twoCaptures : Writer :=
  { captureBuffers :=
      { buffers := (AList.insert 2 (trackedCapture 2) ∅).insert 1 (trackedCapture 1) } }

/-- Frame 5, whose buffers 1 and 2 have the fences 7 and 8, and the others none. -/
def captureOf (bufferIds : List Int) : CaptureResult :=
  { frameNumber := 5
    completedOutputBuffers := bufferIds.map fun bufferId =>
      { bufferId := bufferId, outputIndex := bufferId - 1,
        releaseFenceFd := if bufferId ≤ 2 then 6 + bufferId else -1 } }

def resultFirst (bufferIds : List Int) : List Call :=
  [.registerResult (captureOf bufferIds), .registerPath 6 "b.jpg", .registerPath 5 "a.jpg"]

theorem resultFirst_registered (bufferIds : List Int) :
    HasPath (resultFirst bufferIds) 5 "a.jpg" ∧
      HasResult (resultFirst bufferIds) (captureOf bufferIds) := by
  refine ⟨⟨[.registerResult (captureOf bufferIds), .registerPath 6 "b.jpg"], _, [], rfl, rfl,
      by simp⟩,
    ⟨[], _, [.registerPath 6 "b.jpg", .registerPath 5 "a.jpg"], rfl, rfl, ?_⟩⟩
  simp [Ends]

theorem writer_consumes_result_one_fence :
    ∃ outcome, blockWaitAndWrite 5 { polls := [.interrupted, .ready true] }
        ((resultFirst [1, 3]).foldl perform twoCaptures) = some outcome ∧
      outcome.fences = [.waited 7, .closed 7] ∧
      outcome.returned = [(trackedCapture 1).lease] ∧
      Consumed ((resultFirst [1, 3]).foldl perform twoCaptures) (captureOf [1, 3]) outcome := by
  obtain ⟨outcome, returns, fences, returned, answered⟩ : ∃ outcome,
      blockWaitAndWrite 5 { polls := [.interrupted, .ready true] }
        ((resultFirst [1, 3]).foldl perform twoCaptures) = some outcome ∧
      outcome.fences = [.waited 7, .closed 7] ∧
      outcome.returned = [(trackedCapture 1).lease] ∧
      outcome.answer = some { result := captureOf [1, 3], wroteImage := false } :=
    ⟨_, rfl, rfl, rfl, rfl⟩
  obtain ⟨named, registered⟩ := resultFirst_registered [1, 3]
  refine ⟨outcome, returns, fences, returned, ?_⟩
  apply (writer_consumes_result twoCaptures (resultFirst [1, 3]) (captureOf [1, 3]) "a.jpg" named
    registered _ outcome _ returns answered).2.2.mpr
  intro first rest listed buffer member
  cases listed
  obtain rfl := List.mem_singleton.mp member
  decide

/-- A capture with the buffers 1 and 2: the fence 8 is neither waited for nor closed, and the
lease of buffer 2 stays in the tracker. -/
theorem second_buffer_leaks :
    ∃ outcome, blockWaitAndWrite 5 { polls := [.ready true] }
        ((resultFirst [1, 2]).foldl perform twoCaptures) = some outcome ∧
      outcome.answer = some { result := captureOf [1, 2], wroteImage := false } ∧
      outcome.fences = [.waited 7, .closed 7] ∧
      2 ∈ outcome.writer.captureBuffers.buffers ∧
      outcome.returned = [(trackedCapture 1).lease] ∧
      ¬ Consumed ((resultFirst [1, 2]).foldl perform twoCaptures) (captureOf [1, 2]) outcome := by
  refine ⟨_, rfl, rfl, rfl, by decide, rfl, ?_⟩
  rintro ⟨fences, -⟩
  have second := fences { bufferId := 2, outputIndex := 1, releaseFenceFd := 8 } (by decide)
    (by decide)
  cases second

end Consumption

end MiniCam.App.FenceAwareResultWriter
