/- Module: MiniCam/App/EncodedImages
   source: app/jpeg_encoder_processor.cpp, app/fence_aware_result_writer.cpp, app/minicam_cli.cpp
   digest: A release fence orders the encoder before the writer: what is written is what the
     encoder made of the frame, in full and once. -/

import MiniCam.App.EncodeCustody

set_option autoImplicit false
set_option relaxedAutoImplicit false

namespace MiniCam.App.EncodedImages

open MiniCam.Foundation.KeyedTable
open MiniCam.Foundation.Runs
open MiniCam.Hal.Interface
open MiniCam.Buffers.DmaBufAllocator (DmaBufPool destroyAll)
open MiniCam.Buffers.BufferTracker (Tracker)
open MiniCam.App.JpegEncoderProcessor
open MiniCam.App.FenceAwareResultWriter
open MiniCam.App.EncodePipeline
open MiniCam.App.EncodeCustody

section Writes

def callKey (call : WriteCall) : EncodedFrameKey :=
  ⟨call.result.frameNumber, call.completed.bufferId⟩

def Wanted (call : WriteCall) (ready : Bool) (w : Writer) : Prop :=
  call.result.status = .ok ∧ ready = true ∧ call.outputPath ≠ "" ∧
    (metadataFor call.completed
      (lookupBuffer call.result call.completed.bufferId w).1).isSome = true

instance (call : WriteCall) (ready : Bool) (w : Writer) : Decidable (Wanted call ready w) := by
  unfold Wanted
  exact inferInstance

/-- What the end of a write does with the images: its answer, the store and the files. -/
def imageEffect (call : WriteCall) (ready : Bool) (answers : Answers) (w : Writer)
    (store : EncodedFrameStore) : Bool × EncodedFrameStore × List (String × List UInt8) :=
  if Wanted call ready w then
    match store.frames.lookup (callKey call) with
    | none => (false, store, w.files)
    | some bytes =>
      let rest : EncodedFrameStore := { frames := store.frames.erase (callKey call) }
      if answers.opened && answers.written then
        (true, rest, w.files ++ [(call.outputPath, bytes)])
      else (false, rest, w.files)
  else (false, store, w.files)

variable (call : WriteCall) (ready : Bool) (answers : Answers) {w : Writer}
  {store : EncodedFrameStore}

theorem finishWrite_images (shared : w.encodedFrames = some store) :
    (finishWrite call ready answers w).1 = (imageEffect call ready answers w store).1 ∧
      (finishWrite call ready answers w).2.encodedFrames =
        some (imageEffect call ready answers w store).2.1 ∧
      (finishWrite call ready answers w).2.files =
        (imageEffect call ready answers w store).2.2 := by
  have effects := lookupBuffer_effects call.result call.completed.bufferId w
  have wanted : Wanted call ready w ↔ (call.result.status = .ok && ready &&
      (metadataFor call.completed (lookupBuffer call.result call.completed.bufferId w).1).isSome
      && call.outputPath != "") = true := by
    simp only [Wanted, Bool.and_eq_true, decide_eq_true_eq, bne_iff_ne]
    tauto
  cases looked : lookupBuffer call.result call.completed.bufferId w with
  | mk found rest =>
    obtain ⟨lease, after⟩ := rest
    rw [looked] at effects wanted
    obtain ⟨rfl, rfl⟩ := Prod.mk.inj effects
    simp only [finishWrite, looked, writeImage, imageEffect]
    by_cases goes : Wanted call ready w
    · rw [if_pos goes, if_pos (wanted.mp goes)]
      simp only [writeEncodedFrame, shared, EncodedFrameStore.take, callKey]
      cases store.frames.lookup ⟨call.result.frameNumber, call.completed.bufferId⟩ with
      | none => exact ⟨rfl, rfl, rfl⟩
      | some bytes =>
        simp only
        split
        · exact ⟨rfl, rfl, rfl⟩
        · exact ⟨rfl, rfl, rfl⟩
    · rw [if_neg goes, if_neg (mt wanted.mpr goes)]
      exact ⟨rfl, shared, rfl⟩

theorem imageEffect_store (w : Writer) (store : EncodedFrameStore) (key : EncodedFrameKey) :
    (imageEffect call ready answers w store).2.1.frames.lookup key = store.frames.lookup key ∨
      call.result.status = .ok ∧ key = callKey call ∧
        (imageEffect call ready answers w store).2.1.frames.lookup key = none := by
  unfold imageEffect
  split
  · rename_i goes
    cases store.frames.lookup (callKey call) with
    | none => exact Or.inl rfl
    | some bytes =>
      have erased : (store.frames.erase (callKey call)).lookup key = store.frames.lookup key ∨
          call.result.status = .ok ∧ key = callKey call ∧
            (store.frames.erase (callKey call)).lookup key = none := by
        by_cases same : key = callKey call
        · exact Or.inr ⟨goes.1, same, by rw [same, AList.lookup_erase]⟩
        · exact Or.inl (AList.lookup_erase_ne same)
      simp only
      split
      · exact erased
      · exact erased
  · exact Or.inl rfl

variable {call ready answers}

theorem imageEffect_written (wrote : (imageEffect call ready answers w store).1 = true) :
    call.result.status = .ok ∧ ready = true ∧ ∃ bytes,
      store.frames.lookup (callKey call) = some bytes ∧
      (imageEffect call ready answers w store).2.2 = w.files ++ [(call.outputPath, bytes)] := by
  unfold imageEffect at wrote ⊢
  split at wrote
  · rename_i goes
    rw [if_pos goes]
    cases found : store.frames.lookup (callKey call) with
    | none => simp [found] at wrote
    | some bytes =>
      simp only [found] at wrote ⊢
      split at wrote
      · rename_i opens
        rw [if_pos opens]
        exact ⟨goes.1, goes.2.1, bytes, rfl, rfl⟩
      · cases wrote
  · cases wrote

theorem imageEffect_unwritten (unwritten : (imageEffect call ready answers w store).1 = false) :
    (imageEffect call ready answers w store).2.2 = w.files := by
  unfold imageEffect at unwritten ⊢
  split
  · rename_i goes
    rw [if_pos goes] at unwritten
    split
    · rfl
    · rename_i bytes found
      simp only [found] at unwritten
      split at unwritten
      · cases unwritten
      · rename_i fails
        simp only [if_neg fails]
  · rfl

theorem imageEffect_wanted (goes : Wanted call ready w) (opened : answers.opened = true)
    (written : answers.written = true) :
    (imageEffect call ready answers w store).2.2 =
      w.files ++ (store.frames.lookup (callKey call)).toList.map fun bytes =>
        (call.outputPath, bytes) := by
  unfold imageEffect
  rw [if_pos goes]
  cases store.frames.lookup (callKey call) with
  | none => simp
  | some bytes => simp [opened, written]

end Writes

section Images

/-- The images in the store are those that the workers put there and no write took. -/
structure Stored (workers : Table Nat EncodeWorker) (consumed : List EncodedFrameKey)
    (store : EncodedFrameStore) : Prop where
  made : ∀ key bytes, store.frames.lookup key = some bytes → ∃ id worker,
    workers.lookup id = some worker ∧ worker.key = key ∧ worker.stage.stored = true ∧
      worker.encoded = some bytes
  kept : ∀ id worker bytes, workers.lookup id = some worker → worker.stage.stored = true →
    worker.encoded = some bytes → worker.key ∉ consumed →
      store.frames.lookup worker.key = some bytes

def waited : WriteStage → Bool
  | .closing ready | .writing ready => ready
  | .awaiting => false

/-- An image was asked for under a path of its frame, and a worker of its frame made it. -/
def Genuine (s : Pipeline) (image : Image) : Prop :=
  (image.key.frameNumber, image.outputPath) ∈ s.paths ∧ ∃ id worker,
    s.workers.lookup id = some worker ∧ worker.key = image.key ∧
      worker.stage.stored = true ∧ worker.encoded = some image.bytes

/-- When a write of an `Ok` result has waited, the worker of its frame has put its image away;
every file is an image of a frame, and each frame has one file at most. -/
structure Ordered (s : Pipeline) : Prop where
  store : ∃ store, s.writer.encodedFrames = some store ∧ Stored s.workers s.consumed store
  ready : ∀ id call, s.calls.lookup id = some call → call.result.status = .ok →
    waited call.stage = true → ∀ k worker, s.workers.lookup k = some worker →
      worker.key = callKey call → worker.stage.signalled = true
  pending : ∀ frame pending, s.writer.pendingWrites.lookup frame = some pending →
    (pending.outputPath ≠ "" → (frame, pending.outputPath) ∈ s.paths) ∧
      ∀ result, pending.result = some result → result.frameNumber = frame
  calls : ∀ id call, s.calls.lookup id = some call →
    call.outputPath ≠ "" ∧ (call.result.frameNumber, call.outputPath) ∈ s.paths
  images : ∀ image ∈ s.images, Genuine s image
  images_once : (s.images.map Image.key).Sublist s.consumed
  files : s.writer.files = s.images.map fun image => (image.outputPath, image.bytes)

variable {s t : Pipeline}

theorem stored_of_signalled {stage : EncodeStage} (signalled : stage.signalled = true) :
    stage.stored = true := by
  cases stage <;> first | rfl | cases signalled

theorem Ordered.use (O : Ordered s) (user : User) (kind : AccessKind) (fd : Int) :
    Ordered (useDescriptor user kind fd s) := by
  unfold useDescriptor
  split
  · exact { O with }
  · exact O

theorem Ordered.close (O : Ordered s) (user : User) (fd : Int) :
    Ordered (closeDescriptor user fd s) := by
  unfold closeDescriptor
  split
  · exact { O with }
  · exact O

theorem ok_claims {call : WriteCall} (ok : call.result.status = .ok) :
    callClaims call = [claimOf call.result call.completed] := by
  simp [callClaims, handedOver, ok]

theorem call_ticket {id : Nat} {call : WriteCall} (at_id : s.calls.lookup id = some call)
    (ok : call.result.status = .ok) : callKey call ∈ (pledged s).map (fun claim => claim.key) := by
  refine List.mem_map.mpr ⟨claimOf call.result call.completed, ?_, rfl⟩
  have mine : claimOf call.result call.completed ∈ callClaims call := by
    rw [ok_claims ok]
    exact List.mem_singleton.mpr rfl
  have member := mem_values.mpr ⟨id, at_id⟩
  cases is_open : fenceOpen call.stage with
  | true =>
    refine List.mem_append_left _ (List.mem_append_right _
      (List.mem_flatMap.mpr ⟨call, member, ?_⟩))
    rw [openClaims, if_pos is_open]
    exact mine
  | false =>
    refine List.mem_append_right _ (List.mem_flatMap.mpr ⟨call, member, ?_⟩)
    rw [closedClaims, is_open]
    exact mine

theorem call_frame (S : Sound s) {id : Nat} {call : WriteCall}
    (at_id : s.calls.lookup id = some call) (ok : call.result.status = .ok) :
    callKey call ∈ s.processed ∧ callKey call ∉ s.consumed := by
  have ticket := call_ticket at_id ok
  have distinct := S.tickets_distinct
  unfold tickets at distinct
  exact ⟨S.tickets_processed _ (List.mem_append_left _ ticket),
    List.disjoint_of_nodup_append distinct ticket⟩

theorem Ordered.advance (O : Ordered s) {id : Nat} {worker worker' : EncodeWorker}
    (at_id : s.workers.lookup id = some worker) (job : worker'.job = worker.job)
    (same : worker'.stage.stored = worker.stage.stored)
    (encoded : worker.stage.stored = true → worker'.encoded = worker.encoded)
    (signalled : worker.stage.signalled = true → worker'.stage.signalled = true) :
    Ordered (setWorker id worker' s) := by
  have key : worker'.key = worker.key := by simp only [EncodeWorker.key, job]
  have forth : ∀ k w bytes, s.workers.lookup k = some w → w.stage.stored = true →
      w.encoded = some bytes → ∃ v, (s.workers.insert id worker').lookup k = some v ∧
        v.key = w.key ∧ v.stage.stored = true ∧ v.encoded = some bytes := by
    intro k w bytes found stored made
    by_cases here : k = id
    · subst here
      obtain rfl := Option.some.inj (at_id.symm.trans found)
      exact ⟨worker', AList.lookup_insert _, key, same.trans stored,
        (encoded stored).trans made⟩
    · exact ⟨w, (AList.lookup_insert_ne here).trans found, rfl, stored, made⟩
  obtain ⟨store, shared, stored⟩ := O.store
  refine { O with
    store := ⟨store, shared, ?_, ?_⟩
    ready := ?_
    images := ?_ }
  · intro key bytes found
    obtain ⟨k, w, at_k, rfl, past, made⟩ := stored.made key bytes found
    exact ⟨k, (forth k w bytes at_k past made)⟩
  · intro k v bytes found past made unconsumed
    rcases lookup_insert_eq_some.mp found with ⟨rfl, rfl⟩ | ⟨-, before⟩
    · rw [key] at unconsumed ⊢
      have past := same.symm.trans past
      exact stored.kept k worker bytes at_id past ((encoded past).symm.trans made) unconsumed
    · exact stored.kept k v bytes before past made unconsumed
  · intro c call at_c ok done k v found own
    rcases lookup_insert_eq_some.mp found with ⟨rfl, rfl⟩ | ⟨-, before⟩
    · exact signalled (O.ready c call at_c ok done k worker at_id (key.symm.trans own))
    · exact O.ready c call at_c ok done k v before own
  · intro image member
    obtain ⟨path, k, w, at_k, own, past, made⟩ := O.images image member
    obtain ⟨v, found, key, past, made⟩ := forth k w image.bytes at_k past made
    exact ⟨path, k, v, found, key.trans own, past, made⟩

theorem Ordered.put (S : Sound s) (O : Ordered s) {id : Nat} {worker : EncodeWorker}
    (at_id : s.workers.lookup id = some worker) (at_stage : worker.stage = .storing) :
    Ordered { setWorker id { worker with stage := .signalling } s with
      writer := putEncoded worker s.writer } := by
  obtain ⟨store, shared, stored⟩ := O.store
  have forth : ∀ k w bytes, s.workers.lookup k = some w → w.stage.stored = true →
      w.encoded = some bytes →
        (s.workers.insert id { worker with stage := .signalling }).lookup k = some w := by
    intro k w bytes found past made
    have other : k ≠ id := by
      rintro rfl
      obtain rfl := Option.some.inj (at_id.symm.trans found)
      rw [at_stage] at past
      cases past
    exact (AList.lookup_insert_ne other).trans found
  refine { O with
    store := ?_
    ready := ?_
    images := ?_ }
  · rcases Option.eq_none_or_eq_some worker.encoded with made | ⟨image, made⟩
    · refine ⟨store, by simp only [putEncoded, shared, Option.map_some, made], ?_, ?_⟩
      · intro key bytes found
        obtain ⟨k, w, at_k, own, past, same⟩ := stored.made key bytes found
        exact ⟨k, w, forth k w bytes at_k past same, own, past, same⟩
      · intro k v bytes found past same unconsumed
        rcases lookup_insert_eq_some.mp found with ⟨rfl, rfl⟩ | ⟨-, before⟩
        · exact absurd (made.symm.trans same) (by simp)
        · exact stored.kept k v bytes before past same unconsumed
    · refine ⟨store.put worker.key image, ?_, ?_, ?_⟩
      · simp only [putEncoded, shared, Option.map_some, made]
      · intro key bytes found
        rcases lookup_insert_eq_some.mp found with ⟨rfl, rfl⟩ | ⟨-, before⟩
        · exact ⟨id, _, AList.lookup_insert _, rfl, rfl, made⟩
        · obtain ⟨k, w, at_k, own, past, same⟩ := stored.made key bytes before
          exact ⟨k, w, forth k w bytes at_k past same, own, past, same⟩
      · intro k v bytes found past same unconsumed
        rcases lookup_insert_eq_some.mp found with ⟨rfl, rfl⟩ | ⟨elsewhere, before⟩
        · obtain rfl := Option.some.inj (made.symm.trans same)
          exact AList.lookup_insert _
        · have other : v.key ≠ worker.key := by
            intro own
            exact elsewhere (S.workers_distinct k id v worker before at_id own)
          exact (AList.lookup_insert_ne other).trans
            (stored.kept k v bytes before past same unconsumed)
  · intro c call at_c ok done k v found own
    rcases lookup_insert_eq_some.mp found with ⟨rfl, rfl⟩ | ⟨-, before⟩
    · have early := O.ready c call at_c ok done k worker at_id own
      rw [at_stage] at early
      cases early
    · exact O.ready c call at_c ok done k v before own
  · intro image member
    obtain ⟨path, k, w, at_k, own, past, made⟩ := O.images image member
    exact ⟨path, k, w, forth k w image.bytes at_k past made, own, past, made⟩

theorem startWorker_ordered (S : Sound s) (O : Ordered s) {id : Nat}
    {request : OutputProcessRequest} {pipe : Option (Int × Int)}
    (available : Available id request.inputAcquireFenceFd pipe s)
    (fresh : requestKey request ∉ s.processed) : Ordered (startWorker id request pipe s) := by
  cases pipe with
  | none =>
    have noted : Ordered { s with
        outstanding := s.outstanding ++ [⟨requestKey request, -1⟩]
        processed := s.processed ++ [requestKey request] } := { O with }
    simp only [startWorker, processOutput, closeFd]
    split
    · exact noted.close _ _
    · exact noted
  | some ends =>
    obtain ⟨readFd, writeFd⟩ := ends
    have new_id : id ∉ s.workers := available.2.2.2.2.2.2
    have forth : ∀ k w v, s.workers.lookup k = some w →
        (s.workers.insert id v).lookup k = some w := by
      intro k w v found
      have old : k ≠ id := by
        rintro rfl
        exact new_id (mem_of_lookup found)
      exact (AList.lookup_insert_ne old).trans found
    obtain ⟨store, shared, stored⟩ := O.store
    refine { O with
      store := ⟨store, shared, ?_, ?_⟩
      ready := ?_
      images := ?_ }
    · intro key bytes found
      obtain ⟨k, w, at_k, rest⟩ := stored.made key bytes found
      exact ⟨k, w, forth k w _ at_k, rest⟩
    · intro k v bytes found past made unconsumed
      rcases lookup_insert_eq_some.mp found with ⟨rfl, rfl⟩ | ⟨-, before⟩
      · cases past
      · exact stored.kept k v bytes before past made unconsumed
    · intro c call at_c ok done k v found own
      rcases lookup_insert_eq_some.mp found with ⟨rfl, rfl⟩ | ⟨-, before⟩
      · have known := (call_frame S at_c ok).1
        rw [← own] at known
        exact absurd known fresh
      · exact O.ready c call at_c ok done k v before own
    · intro image member
      obtain ⟨path, k, w, at_k, rest⟩ := O.images image member
      exact ⟨path, k, w, forth k w _ at_k, rest⟩

theorem Ordered.name (O : Ordered s) (frameNumber : Nat) (outputPath : String) :
    Ordered { s with
      writer := FenceAwareResultWriter.registerPath frameNumber outputPath s.writer
      paths := s.paths ++ [(frameNumber, outputPath)] } := by
  refine { O with
    pending := ?_
    calls := ?_
    images := ?_ }
  · intro frame pending found
    rcases lookup_insert_eq_some.mp found with ⟨rfl, rfl⟩ | ⟨-, before⟩
    · refine ⟨fun _ => by simp, ?_⟩
      intro result named
      cases earlier : s.writer.pendingWrites.lookup frame with
      | none => simp [earlier] at named
      | some pending =>
        rw [earlier] at named
        exact (O.pending frame pending earlier).2 result named
    · obtain ⟨path, result⟩ := O.pending frame pending before
      exact ⟨fun nonempty => List.mem_append_left _ (path nonempty), result⟩
  · intro id call at_id
    obtain ⟨nonempty, path⟩ := O.calls id call at_id
    exact ⟨nonempty, List.mem_append_left _ path⟩
  · intro image member
    obtain ⟨path, rest⟩ := O.images image member
    exact ⟨List.mem_append_left _ path, rest⟩

theorem Ordered.register (O : Ordered s) (result : CaptureResult) :
    Ordered { s with writer := registerResult result s.writer } := by
  refine { O with pending := ?_ }
  intro frame pending found
  rcases lookup_insert_eq_some.mp found with ⟨rfl, rfl⟩ | ⟨-, before⟩
  · refine ⟨?_, ?_⟩
    · intro nonempty
      cases earlier : s.writer.pendingWrites.lookup result.frameNumber with
      | none => simp [earlier] at nonempty
      | some pending =>
        rw [earlier] at nonempty
        exact (O.pending _ pending earlier).1 nonempty
    · intro other named
      obtain rfl := Option.some.inj named
      rfl
  · exact O.pending frame pending before

theorem Ordered.cancel (O : Ordered s) (frameNumber : Nat) :
    Ordered { s with writer := FenceAwareResultWriter.cancel frameNumber s.writer } := by
  refine { O with pending := ?_ }
  intro frame pending found
  exact O.pending frame pending (lookup_erase_eq_some.mp found).2

theorem Ordered.call (O : Ordered s) {id : Nat} {call : WriteCall}
    (path : call.outputPath ≠ "" ∧ (call.result.frameNumber, call.outputPath) ∈ s.paths)
    (done : call.result.status = .ok → waited call.stage = true → ∀ k worker,
      s.workers.lookup k = some worker → worker.key = callKey call →
        worker.stage.signalled = true) : Ordered (setCall id call s) := by
  refine { O with
    ready := ?_
    calls := ?_ }
  · intro c other at_c
    rcases lookup_insert_eq_some.mp at_c with ⟨rfl, rfl⟩ | ⟨-, before⟩
    · exact done
    · exact O.ready c other before
  · intro c other at_c
    rcases lookup_insert_eq_some.mp at_c with ⟨rfl, rfl⟩ | ⟨-, before⟩
    · exact path
    · exact O.calls c other before

theorem takePending_ordered (O : Ordered s) {id frameNumber : Nat}
    (taken : takePending id frameNumber s = some t) : Ordered t := by
  unfold takePending at taken
  split at taken
  · rename_i outputPath result found
    split at taken
    · rename_i free
      obtain ⟨path, named⟩ := O.pending frameNumber _ found
      simp only at taken
      split at taken
      · obtain rfl := Option.some.inj taken
        exact O.cancel frameNumber
      · obtain rfl := Option.some.inj taken
        refine (O.cancel frameNumber).call ⟨free.1, ?_⟩ ?_
        · rw [named result rfl]
          exact path free.1
        · intro _ done
          cases done
    · cases taken
  · cases taken

theorem awaited_signalled (S : Sound s) {id : Nat} {call : WriteCall}
    (at_id : s.calls.lookup id = some call) (is_open : fenceOpen call.stage = true)
    (ok : call.result.status = .ok)
    (awaited : Awaited call.completed.releaseFenceFd true s) {k : Nat} {worker : EncodeWorker}
    (at_k : s.workers.lookup k = some worker) (own : worker.key = callKey call) :
    worker.stage.signalled = true := by
  have member : claimOf call.result call.completed ∈ held s := by
    refine List.mem_append_right _ (List.mem_flatMap.mpr
      ⟨call, mem_values.mpr ⟨id, at_id⟩, ?_⟩)
    rw [openClaims, if_pos is_open, ok_claims ok]
    exact List.mem_singleton.mpr rfl
  have keyed := S.keyed _ member
  unfold Keyed at keyed
  split at keyed
  · rename_i fence
    obtain ⟨k', worker', at_fence, at_k', own'⟩ := keyed
    obtain rfl := S.workers_distinct k k' worker worker' at_k at_k' (own.trans own'.symm)
    obtain rfl := Option.some.inj (at_k.symm.trans at_k')
    change 0 ≤ call.completed.releaseFenceFd at fence
    change s.descriptors.lookup call.completed.releaseFenceFd = _ at at_fence
    rw [Awaited, if_neg (Int.not_lt.mpr fence)] at awaited
    have readable := awaited rfl
    simp only [Pipeline.readable, at_fence, at_k, Option.any_some] at readable
    exact readable
  · exact absurd own (keyed k worker at_k)

theorem finish_ordered (O : Ordered s) {id : Nat} {call : WriteCall}
    (at_id : s.calls.lookup id = some call) (ready : Bool) (answers : Answers) :
    Ordered { s with
      calls := s.calls.erase id
      writer := (finishWrite call ready answers s.writer).2
      consumed := s.consumed ++ (callClaims call).map (fun claim => claim.key)
      images := s.images ++ imageOf call (finishWrite call ready answers s.writer).1
        s.writer } := by
  obtain ⟨store, shared, stored⟩ := O.store
  obtain ⟨answer, left, files⟩ := finishWrite_images call ready answers shared
  have pending := finishWrite_pending call ready answers s.writer
  refine ⟨⟨_, left, ?_, ?_⟩, ?_, ?_, ?_, ?_, ?_, ?_⟩
  · intro key bytes found
    rcases imageEffect_store call ready answers s.writer store key with same | ⟨-, -, gone⟩
    · exact stored.made key bytes (same.symm.trans found)
    · exact absurd (gone.symm.trans found) (by simp)
  · intro k worker bytes at_k past made unconsumed
    obtain ⟨earlier, now⟩ := not_or.mp (mt List.mem_append.mpr unconsumed)
    rcases imageEffect_store call ready answers s.writer store worker.key with same | ⟨ok, own, -⟩
    · rw [same]
      exact stored.kept k worker bytes at_k past made earlier
    · rw [ok_claims ok] at now
      exact absurd (List.mem_singleton.mpr own) now
  · intro c other at_c
    exact O.ready c other (lookup_erase_eq_some.mp at_c).2
  · intro frame entry found
    rw [pending] at found
    exact O.pending frame entry found
  · intro c other at_c
    exact O.calls c other (lookup_erase_eq_some.mp at_c).2
  · intro image member
    rcases List.mem_append.mp member with old | new
    · exact O.images image old
    · simp only [imageOf, shared, Option.bind_some] at new
      split at new
      · obtain ⟨bytes, found, rfl⟩ := List.mem_map.mp new
        refine ⟨(O.calls id call at_id).2, ?_⟩
        exact stored.made _ bytes (Option.mem_toList.mp found)
      · cases new
  · simp only [List.map_append]
    cases wrote : (finishWrite call ready answers s.writer).1 with
    | false =>
      rw [imageOf, if_neg (by simp)]
      exact List.sublist_append_of_sublist_left (by simpa using O.images_once)
    | true =>
      obtain ⟨ok, -, bytes, found, -⟩ := imageEffect_written (answer.symm.trans wrote)
      rw [ok_claims ok]
      refine O.images_once.append ?_
      simp only [callKey] at found
      simp only [imageOf, shared, Option.bind_some, if_true, found]
      exact List.Sublist.refl _
  · change (finishWrite call ready answers s.writer).2.files = _
    rw [files, List.map_append, ← O.files]
    cases wrote : (finishWrite call ready answers s.writer).1 with
    | false =>
      rw [imageEffect_unwritten (answer.symm.trans wrote), imageOf, if_neg (by simp)]
      simp
    | true =>
      obtain ⟨-, -, bytes, found, written⟩ := imageEffect_written (answer.symm.trans wrote)
      simp only [callKey] at found
      rw [written]
      simp only [imageOf, shared, Option.bind_some, if_true, found]
      rfl

theorem step_ordered (S : Sound s) (O : Ordered s) {label : Label}
    (fresh : FreshKey s label) (taken : step s label = some t) : Ordered t := by
  cases label with
  | process id request pipe =>
    simp only [step] at taken
    split at taken
    · rename_i available
      obtain rfl := Option.some.inj taken
      exact startWorker_ordered S O available fresh
    · cases taken
  | admitInput id =>
    obtain ⟨worker, at_id, at_stage, rfl⟩ := atStage_eq_some taken
    have advanced : Ordered (setWorker id { worker with stage := .encoding } s) :=
      O.advance at_id rfl (by rw [at_stage]; rfl) (fun _ => rfl) (by simp [at_stage,
        EncodeStage.signalled])
    exact (advanced.use _ _ _).close _ _
  | encode id answer =>
    obtain ⟨worker, at_id, at_stage, rfl⟩ := atStage_eq_some taken
    exact O.advance at_id rfl (by rw [at_stage]; rfl) (by simp [at_stage, EncodeStage.stored])
      (by simp [at_stage, EncodeStage.signalled])
  | store id =>
    obtain ⟨worker, at_id, at_stage, rfl⟩ := atStage_eq_some taken
    exact O.put S at_id at_stage
  | signal id =>
    obtain ⟨worker, at_id, at_stage, rfl⟩ := atStage_eq_some taken
    have advanced : Ordered (setWorker id { worker with stage := .closing } s) :=
      O.advance at_id rfl (by rw [at_stage]; rfl) (fun _ => rfl) (fun _ => rfl)
    exact advanced.use _ _ _
  | closeWrite id =>
    obtain ⟨worker, at_id, at_stage, rfl⟩ := atStage_eq_some taken
    have advanced : Ordered (setWorker id { worker with stage := .finished } s) :=
      O.advance at_id rfl (by rw [at_stage]; rfl) (fun _ => rfl) (fun _ => rfl)
    exact advanced.close _ _
  | drop claim =>
    simp only [step] at taken
    split at taken
    · obtain rfl := Option.some.inj taken
      have dropped : Ordered { s with outstanding := s.outstanding.erase claim } := { O with }
      exact dropped.close _ _
    · cases taken
  | deliver result =>
    simp only [step] at taken
    split at taken
    · obtain rfl := Option.some.inj taken
      exact { O.register result with }
    · cases taken
  | registerPath frameNumber outputPath =>
    obtain rfl := Option.some.inj taken
    exact O.name frameNumber outputPath
  | cancel frameNumber =>
    obtain rfl := Option.some.inj taken
    exact O.cancel frameNumber
  | take id frameNumber => exact takePending_ordered O taken
  | await id ready =>
    simp only [step] at taken
    split at taken
    · rename_i outputPath result completed at_id
      split at taken
      · rename_i awaited
        obtain rfl := Option.some.inj taken
        have path := O.calls id _ at_id
        refine Ordered.use ?_ _ _ _
        refine O.call path ?_
        rintro ok done k worker at_k own
        obtain rfl : ready = true := done
        exact awaited_signalled S at_id rfl ok awaited at_k own
      · cases taken
    · cases taken
  | closeFence id =>
    simp only [step] at taken
    split at taken
    · rename_i outputPath result completed ready at_id
      obtain rfl := Option.some.inj taken
      have path := O.calls id _ at_id
      have done := O.ready id _ at_id
      refine Ordered.close ?_ _ _
      exact O.call path done
    · cases taken
  | finish id answers =>
    simp only [step] at taken
    split at taken
    · rename_i outputPath result completed ready at_id
      obtain rfl := Option.some.inj taken
      exact finish_ordered O at_id ready answers
    · cases taken
  | openOther fd =>
    simp only [step] at taken
    split at taken
    · obtain rfl := Option.some.inj taken
      exact { O with }
    · cases taken
  | closeOther fd =>
    simp only [step] at taken
    split at taken
    · obtain rfl := Option.some.inj taken
      exact { O with }
    · cases taken
  | retrack preview capture pools =>
    obtain rfl := Option.some.inj taken
    exact { O with }

end Images

section Results

variable {fds : List Int} {preview capture : Tracker} {pools : List DmaBufPool} {s : Pipeline}

theorem initial_ordered (fds : List Int) (preview capture : Tracker)
    (pools : List DmaBufPool) : Ordered (Pipeline.initial fds preview capture pools) := by
  refine ⟨⟨{}, rfl, ?_, ?_⟩, ?_, ?_, ?_, ?_, List.Sublist.refl _, rfl⟩
  · intro key bytes found
    cases found
  · intro id worker bytes found
    cases found
  · intro id call found
    cases found
  · intro frame pending found
    cases found
  · intro id call found
    cases found
  · intro image member
    cases member

theorem reachable_ordered
    (run : Reaches step FreshKey (Pipeline.initial fds preview capture pools) s) :
    Sound s ∧ Ordered s := by
  refine run.invariant (fun s => Sound s ∧ Ordered s) ?_
    ⟨initial_sound fds preview capture pools, initial_ordered fds preview capture pools⟩
  rintro s label t ⟨S, O⟩ fresh taken
  exact ⟨step_sound S fresh taken, step_ordered S O fresh taken⟩

/-- A write that has waited well for the fence of an `Ok` result does not race with the encoder:
whatever the order of the steps, it writes all that the worker of the frame made, or nothing
where the encoder made nothing or had no pipe. -/
theorem fence_orders_encoder_before_writer (fds : List Int) (preview capture : Tracker)
    (pools : List DmaBufPool) (s t : Pipeline)
    (run : Reaches step FreshKey (Pipeline.initial fds preview capture pools) s) (id : Nat)
    (call : WriteCall) (at_id : s.calls.lookup id = some call)
    (at_stage : call.stage = .writing true) (wanted : Wanted call true s.writer)
    (answers : Answers) (opened : answers.opened = true) (written : answers.written = true)
    (taken : step s (.finish id answers) = some t) :
    (∀ k worker, s.workers.lookup k = some worker → worker.key = callKey call →
      worker.stage.signalled = true ∧
        t.writer.files = s.writer.files ++
          worker.encoded.toList.map fun bytes => (call.outputPath, bytes)) ∧
      ((∀ k worker, s.workers.lookup k = some worker → worker.key ≠ callKey call) →
        t.writer.files = s.writer.files) := by
  obtain ⟨S, O⟩ := reachable_ordered run
  obtain ⟨store, shared, stored⟩ := O.store
  obtain ⟨outputPath, result, completed, stage⟩ := call
  obtain rfl : stage = .writing true := at_stage
  have ok := wanted.1
  have unconsumed := (call_frame S at_id ok).2
  have files : t.writer.files = s.writer.files ++
      (store.frames.lookup (callKey ⟨outputPath, result, completed, .writing true⟩)).toList.map
        fun bytes => (outputPath, bytes) := by
    simp only [step, at_id] at taken
    obtain rfl := Option.some.inj taken
    exact (finishWrite_images _ true answers shared).2.2.trans
      (imageEffect_wanted wanted opened written)
  refine ⟨?_, ?_⟩
  · intro k worker at_k own
    have signalled := O.ready id _ at_id ok rfl k worker at_k own
    refine ⟨signalled, ?_⟩
    rw [files]
    have same : store.frames.lookup (callKey ⟨outputPath, result, completed, .writing true⟩) =
        worker.encoded := by
      rw [← own] at unconsumed ⊢
      cases made : worker.encoded with
      | some bytes =>
        exact stored.kept k worker bytes at_k (stored_of_signalled signalled) made unconsumed
      | none =>
        cases found : store.frames.lookup worker.key with
        | none => rfl
        | some bytes =>
          obtain ⟨k', worker', at_k', own', -, made'⟩ := stored.made worker.key bytes found
          obtain rfl := S.workers_distinct k k' worker worker' at_k at_k' own'.symm
          obtain rfl := Option.some.inj (at_k.symm.trans at_k')
          rw [made] at made'
          cases made'
    rw [same]
  · intro unworked
    rw [files]
    cases found : store.frames.lookup (callKey ⟨outputPath, result, completed,
        .writing true⟩) with
    | none => simp
    | some bytes =>
      obtain ⟨k, worker, at_k, own, -⟩ := stored.made _ bytes found
      exact absurd own (unworked k worker at_k)

theorem fence_orders_encoder_before_writer_single :
    ∃ s t, Reaches step FreshKey (Pipeline.initial [3] {} {} []) s ∧
      step s (.finish 0 {}) = some t ∧
      t.writer.files = s.writer.files ++ [("a.jpg", [1, 2])] := by
  obtain ⟨s, run, seen⟩ := exists_reaches_of_replay step FreshKey
    (Pipeline.initial [3] {} {} []) (sampleScript.take 12)
    (fun s => decide ((s.calls.lookup 0).map (fun call =>
          (call.outputPath, call.result, call.completed, call.stage)) =
        some ("a.jpg", sampleResult, { releaseFenceFd := 4 }, .writing true) ∧
      (s.workers.lookup 0).map (fun worker => (worker.key, worker.encoded)) =
        some (⟨7, -1⟩, some [1, 2]) ∧
      (metadataFor { releaseFenceFd := 4 }
        (lookupBuffer sampleResult (-1) s.writer).1).isSome = true ∧
      (step s (.finish 0 {})).isSome = true)) (by decide +kernel)
  obtain ⟨at_call, at_worker, metadata, defined⟩ := of_decide_eq_true seen
  obtain ⟨⟨path, result, completed, stage⟩, at_id, parts⟩ := Option.map_eq_some_iff.mp at_call
  obtain ⟨rfl, rfl, rfl, rfl⟩ : path = "a.jpg" ∧ result = sampleResult ∧
      completed = { releaseFenceFd := 4 } ∧ stage = .writing true := by simpa using parts
  obtain ⟨worker, at_zero, made⟩ := Option.map_eq_some_iff.mp at_worker
  obtain ⟨own, encoded⟩ := Prod.mk.inj made
  obtain ⟨t, taken⟩ := Option.isSome_iff_exists.mp defined
  refine ⟨s, t, run, taken, ?_⟩
  have files := (fence_orders_encoder_before_writer [3] {} {} [] s t run 0 _ at_id rfl
    ⟨rfl, rfl, by simp, metadata⟩ {} rfl rfl taken).1 0 worker at_zero own
  rw [files.2, encoded]
  rfl

end Results

end MiniCam.App.EncodedImages
