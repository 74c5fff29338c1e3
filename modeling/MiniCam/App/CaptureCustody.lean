/- Module: MiniCam/App/CaptureCustody
   source: app/minicam_cli.cpp, app/buffer_tracker.cpp, app/fence_aware_result_writer.cpp,
     hal/dma_buf_allocator.cpp, hal/camera_device_session.cpp
   digest: The buffers of the command line program: who holds one, from its lease to its return. -/

import MiniCam.App.CaptureBooks
import MiniCam.App.CommandLineDriver
import MiniCam.Buffers.LeaseConservation

set_option autoImplicit false
set_option relaxedAutoImplicit false

namespace MiniCam.App.CaptureCustody

open MiniCam.Foundation.IntEvaluation (castInt)
open MiniCam.Foundation.KeyedTable
open MiniCam.Foundation.Runs
open MiniCam.Hal.Interface
open MiniCam.Hal.SessionSystem (System Use)
open MiniCam.Hal.SessionSpec
open MiniCam.Hal.ResultAccounting
open MiniCam.Hal.DriverInvariants
open MiniCam.Hal.ResultOrigins (listed requestEntries)
open MiniCam.Buffers.DmaBufAllocator
open MiniCam.Buffers.BufferTracker (Tracker TrackedBuffer)
open MiniCam.Buffers.LeaseConservation
open MiniCam.App.FenceAwareResultWriter
open MiniCam.App.CommandLine
open MiniCam.App.CommandLineDriver (Driver DriverAnswers makeDriver)
open MiniCam.App.CommandLineSteps
open MiniCam.App.CaptureBooks

variable {δ π : Type}

section Pool

def described (pool : DmaBufPool) : List (Address × Int × Nat) :=
  pool.buffers.map fun owned => (owned.1, owned.2.fd, owned.2.size)

/-- The runtime's pool is the only one, it has these buffers, and all leases are on them. -/
structure SolePool (pools : List DmaBufPool) (leases : List DmaBufLease)
    (stock : List (Address × Int × Nat)) : Prop where
  balanced : Balanced pools leases
  sole : ∃ pool, pools = [pool] ∧ described pool = stock ∧
    ∀ lease ∈ leases, Current 0 pool.generation lease

variable {pools : List DmaBufPool} {leases leases' : List DmaBufLease} {lease : DmaBufLease}
  {stock : List (Address × Int × Nat)}

theorem SolePool.reorder (S : SolePool pools leases stock) (same : leases'.Perm leases) :
    SolePool pools leases' stock := by
  obtain ⟨pool, only, buffers, current⟩ := S.sole
  exact ⟨S.balanced.reorder same, pool, only, buffers, fun lease member =>
    current lease (same.subset member)⟩

theorem described_setAcquired (buffer : Address) (flag : Bool) (pool : DmaBufPool) :
    described (pool.setAcquired buffer flag) = described pool := by
  simp only [described, DmaBufPool.setAcquired, List.map_map]
  apply List.map_congr_left
  intro owned member
  simp only [Function.comp]
  split <;> rfl

theorem described_release (buffer : Option Address) (generation : Nat) (pool : DmaBufPool) :
    described (pool.release buffer generation) = described pool := by
  unfold DmaBufPool.release
  split
  · rfl
  · split
    · rfl
    · split
      · rfl
      · split
        · exact described_setAcquired _ false pool
        · rfl

theorem SolePool.drop (S : SolePool pools (lease :: leases) stock) :
    SolePool (lease.reset pools).2 leases stock := by
  obtain ⟨pool, rfl, buffers, current⟩ := S.sole
  refine ⟨S.balanced.drop, ?_⟩
  obtain ⟨live, named, generation⟩ := current lease List.mem_cons_self
  obtain ⟨buffer, points⟩ := Option.isSome_iff_exists.mp live
  have back : (lease.reset [pool]).2 = [pool.release (some buffer) lease.generation] := by
    simp [DmaBufLease.reset, named, points]
  rw [back]
  refine ⟨_, rfl, (described_release _ _ _).trans buffers, ?_⟩
  intro other member
  rw [release_generation]
  exact current other (List.mem_cons_of_mem _ member)

theorem SolePool.dropAll (dropped : List DmaBufLease) :
    ∀ pools : List DmaBufPool, SolePool pools (dropped ++ leases) stock →
      SolePool (destroyAll dropped pools) leases stock := by
  induction dropped with
  | nil => exact fun pools S => S
  | cons lease rest ih => exact fun pools S => ih (lease.reset pools).2 S.drop

/-- What a lease points to is in the stock, under the buffer of the lease. -/
def Backed (stock : List (Address × Int × Nat)) (lease : DmaBufLease) (fd : Int) (size : Nat) :
    Prop :=
  ∃ buffer, lease.buffer = some buffer ∧ (buffer, fd, size) ∈ stock

theorem pointee_backed {pool : DmaBufPool} {buffer : Address} (points : lease.buffer = some buffer)
    (owned : buffer ∈ pool.addresses) :
    Backed (described pool) lease (pointee lease [pool]).fd (pointee lease [pool]).size := by
  obtain ⟨entry, member, at_buffer⟩ := List.mem_map.mp owned
  have some_entry : (pool.buffers.find? fun owned => owned.1 == buffer).isSome = true :=
    List.find?_isSome.mpr ⟨entry, member, by simp [at_buffer]⟩
  obtain ⟨found, at_found⟩ := Option.isSome_iff_exists.mp some_entry
  have same : pointee lease [pool] = found.2 := by
    simp [pointee, points, at_found]
  have named : found.1 = buffer := by
    have equal := List.find?_some at_found
    simpa using equal
  refine ⟨buffer, points, List.mem_map.mpr ⟨found, List.mem_of_find?_eq_some at_found, ?_⟩⟩
  rw [same, named]

theorem SolePool.acquire (S : SolePool pools leases stock) :
    ((acquireOutputBuffer pools).1.live = true ∧
        SolePool (acquireOutputBuffer pools).2 ((acquireOutputBuffer pools).1 :: leases) stock ∧
        Backed stock (acquireOutputBuffer pools).1
          (pointee (acquireOutputBuffer pools).1 (acquireOutputBuffer pools).2).fd
          (pointee (acquireOutputBuffer pools).1 (acquireOutputBuffer pools).2).size) ∨
      ((acquireOutputBuffer pools).1.live = false ∧
        SolePool (acquireOutputBuffer pools).2 leases stock) := by
  obtain ⟨pool, rfl, buffers, current⟩ := S.sole
  have balanced : Balanced [(pool.acquire 0).2] ((pool.acquire 0).1 :: leases) :=
    S.balanced.acquire (p := 0) rfl
  simp only [acquireOutputBuffer]
  cases free : pool.freeBuffers with
  | nil =>
    have result : pool.acquire 0 = ({}, pool.setError "no free dma-buf available") := by
      simp only [DmaBufPool.acquire, free]
    rw [result] at balanced ⊢
    have dropped : Balanced [pool.setError "no free dma-buf available"] leases := balanced.drop
    exact Or.inr ⟨rfl, dropped, _, rfl, buffers, current⟩
  | cons buffer rest =>
    have result : pool.acquire 0 = (⟨some 0, some buffer, pool.generation⟩,
        { pool.setAcquired buffer true with freeBuffers := rest }) := by
      simp only [DmaBufPool.acquire, free]
    rw [result] at balanced ⊢
    have after : described { pool.setAcquired buffer true with freeBuffers := rest } = stock :=
      (described_setAcquired buffer true pool).trans buffers
    have lends : buffer ∈ pool.addresses := by
      have kept := S.balanced.kept 0 pool rfl
      exact kept.conserved.owned_of_free (by rw [free]; exact List.mem_cons_self)
    refine Or.inl ⟨rfl, ⟨balanced, _, rfl, after, ?_⟩, ?_⟩
    · intro lease member
      rcases List.mem_cons.mp member with rfl | old
      · exact ⟨rfl, rfl, rfl⟩
      · exact current lease old
    · rw [← after]
      apply pointee_backed rfl
      rw [← addresses_setAcquired buffer true pool] at lends
      exact lends

theorem SolePool.total (S : SolePool pools leases stock) :
    ∃ pool, pools = [pool] ∧ described pool = stock ∧ PoolConserved 0 pool leases ∧
      pool.available + leases.length = stock.length ∧
      ∀ lease ∈ leases, Current 0 pool.generation lease := by
  obtain ⟨pool, rfl, buffers, current⟩ := S.sole
  have conserved := (S.balanced.kept 0 pool rfl).poolConserved
  refine ⟨pool, rfl, buffers, conserved, ?_, current⟩
  have total := conserved.total
  have all : (leases.countP fun lease => Current 0 pool.generation lease) = leases.length :=
    List.countP_eq_length.mpr fun lease member => decide_eq_true (current lease member)
  have size : stock.length = pool.capacity := by
    rw [← buffers]
    exact List.length_map _
  rw [all] at total
  exact total.trans size.symm

theorem allocateBuffers_length (size : Nat) (map : Bool) (answers : List Allocation) :
    ∀ pool pool' : DmaBufPool, pool.allocateBuffers size map answers = (true, pool') →
      pool'.capacity = pool.capacity + answers.length := by
  induction answers with
  | nil =>
    rintro pool pool' ended
    cases ended
    rfl
  | cons answer rest ih =>
    rintro pool pool' ended
    have frame := allocateLocked_frame answer size map pool
    unfold DmaBufPool.allocateBuffers at ended
    split at ended
    · cases ended
    · rename_i buffer pool₁ allocated
      rw [allocated] at frame
      have later := ih _ pool' ended
      have before : pool₁.buffers.length = pool.buffers.length := congrArg List.length frame.1
      simp only [DmaBufPool.capacity, List.length_append, List.length_singleton] at later
      simp only [DmaBufPool.capacity, List.length_cons]
      omega

theorem solePool_new : SolePool [{}] [] [] := by
  refine ⟨⟨?_, ?_⟩, _, rfl, rfl, fun lease member => (List.not_mem_nil member).elim⟩
  · intro p pool found
    have stocked : Stocked ({} : DmaBufPool) := ⟨rfl, fun owned member =>
      (List.not_mem_nil member).elim⟩
    cases p with
    | zero =>
      obtain rfl := Option.some.inj found
      exact stocked.kept List.nodup_nil
    | succ p => simp at found
  · exact fun lease member => (List.not_mem_nil member).elim

theorem preparePool_sole {options : CliOptions} {answers : List Allocation} {pool : DmaBufPool}
    (length : answers.length = options.poolSize)
    (distinct : (answers.map Allocation.address).Nodup)
    (made : preparePool options answers = some pool) :
    SolePool [pool] [] (described pool) ∧ (described pool).length = options.poolSize := by
  unfold preparePool at made
  split at made
  · split at made
    · cases made
    · rename_i pool' initialized
      cases made
      have balanced : Balanced [(DmaBufPool.initializePool options.bufferSize true answers {}).2]
          [] := solePool_new.balanced.initializePool (p := 0) rfl _ _ distinct
      rw [initialized] at balanced
      refine ⟨⟨balanced, _, rfl, rfl, fun lease member => (List.not_mem_nil member).elim⟩, ?_⟩
      unfold DmaBufPool.initializePool at initialized
      split at initialized
      · cases initialized
      · split at initialized
        · cases initialized
        · have filled := allocateBuffers_length _ _ answers _ _ initialized
          have size : (described pool).length = pool.capacity := List.length_map _
          rw [size, filled, ← length]
          exact Nat.zero_add _
  · rename_i mock
    cases made
    have empty : options.poolSize = 0 := if_neg mock
    exact ⟨solePool_new, empty.symm⟩

theorem preparePreviews_sole {options : CliOptions} :
    ∀ (fences : List FenceAnswers) (i : Nat) (targets : List OutputBufferTarget)
      (tracker : Tracker) (pools : List DmaBufPool) {targets' : List OutputBufferTarget}
      {tracker' : Tracker} {pools' : List DmaBufPool}, SolePool pools tracker.leases stock →
      preparePreviews options fences i targets tracker pools = some (targets', tracker', pools') →
      SolePool pools' tracker'.leases stock ∧
        tracker'.leases.length = tracker.leases.length + fences.length
  | [], i, targets, tracker, pools, _, _, _, S, prepared => by
    cases prepared
    exact ⟨S, rfl⟩
  | fence :: rest, i, targets, tracker, pools, _, _, _, S, prepared => by
    unfold preparePreviews at prepared
    simp only at prepared
    rcases S.acquire with ⟨live, lent, -⟩ | ⟨dead, -⟩
    · rw [if_pos live] at prepared
      rcases registerBuffer_cases (castInt i) (acquireOutputBuffer pools).1
          (pointee (acquireOutputBuffer pools).1 (acquireOutputBuffer pools).2) tracker
          (acquireOutputBuffer pools).2 with ⟨kept, leases, registered⟩ | refused
      · rw [registered] at prepared
        rw [← leases] at lent
        obtain ⟨sole, length⟩ := preparePreviews_sole rest (i + 1) _ kept _ lent prepared
        refine ⟨sole, ?_⟩
        rw [length, leases]
        simp only [List.length_cons]
        omega
      · rw [refused] at prepared
        cases prepared
    · rw [dead] at prepared
      cases prepared

end Pool

section Stock

variable {D : DriverAdapter δ} {processors : List (Option (OutputProcessor π))}
  {options : CliOptions} {s t : Program δ π} {P : δ → Prop}
  {stock : List (Address × Int × Nat)}

def gone : Stage → Bool
  | .left _ => true
  | _ => false

/-- The frames whose buffer `main` holds: those it has stopped waiting for, and the one at hand. -/
def heldFrames (options : CliOptions) (s : Program δ π) : List Nat :=
  if options.useV4l2 && !gone s.stage then s.timedOut ++ s.stage.frame else []

def heldPreviews (options : CliOptions) (s : Program δ π) : Nat :=
  if options.ownsPreviews && !gone s.stage then options.bufferCount else 0

def asked (s : Program δ π) : List CaptureRequest :=
  s.system.accepted ++ s.system.admitting ++ inRequest s.stage

/-- The leases in the program: the pool lends to its two trackers alone, the captures are tracked
under their frames, and a request carries what its lease points to. -/
structure Stock (options : CliOptions) (stock : List (Address × Int × Nat)) (s : Program δ π) :
    Prop where
  pool : SolePool s.writer.pools
    (s.writer.previewBuffers.leases ++ s.writer.captureBuffers.leases) stock
  previews : s.writer.previewBuffers.leases.length = heldPreviews options s
  captures : s.writer.captureBuffers.buffers.keys.Perm ((heldFrames options s).map castInt)
  backed : ∀ id tracked, s.writer.captureBuffers.buffers.lookup id = some tracked →
    Backed stock tracked.lease tracked.metadata.bufferFd tracked.metadata.bufferSize
  carried : ∀ r ∈ asked s, r.frameNumber ∈ heldFrames options s → ∀ tracked,
    s.writer.captureBuffers.buffers.lookup (castInt r.frameNumber) = some tracked →
      r.outputBuffers.map (fun target => (target.bufferFd, target.bufferSize)) =
        [(tracked.metadata.bufferFd, tracked.metadata.bufferSize)]

theorem heldFrames_move (frames : t.timedOut ++ t.stage.frame = s.timedOut ++ s.stage.frame)
    (stays : gone t.stage = gone s.stage) : heldFrames options t = heldFrames options s := by
  simp only [heldFrames, frames, stays]

theorem heldFrames_mock (mock : options.useV4l2 = false) (s : Program δ π) :
    heldFrames options s = [] := by
  simp [heldFrames, mock]

theorem Stock.keep (S : Stock options stock s) (pools : t.writer.pools = s.writer.pools)
    (previews : t.writer.previewBuffers = s.writer.previewBuffers)
    (captures : t.writer.captureBuffers = s.writer.captureBuffers)
    (held : heldFrames options t = heldFrames options s)
    (stays : gone t.stage = gone s.stage) (fewer : asked t ⊆ asked s) :
    Stock options stock t := by
  have many : heldPreviews options t = heldPreviews options s := by
    simp only [heldPreviews, stays]
  refine ⟨?_, ?_, ?_, ?_, ?_⟩
  · rw [pools, previews, captures]
    exact S.pool
  · rw [previews, many]
    exact S.previews
  · rw [captures, held]
    exact S.captures
  · rw [captures]
    exact S.backed
  · intro r member
    rw [captures, held]
    exact S.carried r (fewer member)

theorem Stock.giveBack (S : Stock options stock s) {f : Nat} (v4l2 : options.useV4l2 = true)
    (held : s.stage.frame = [f]) (open_ : gone s.stage = false) {tracked : TrackedBuffer}
    (found : s.writer.captureBuffers.buffers.lookup (castInt f) = some tracked)
    (pools : t.writer.pools = (tracked.lease.reset s.writer.pools).2)
    (previews : t.writer.previewBuffers = s.writer.previewBuffers)
    (captures : t.writer.captureBuffers.buffers =
      s.writer.captureBuffers.buffers.erase (castInt f))
    (stage : t.stage = .prompting) (late : t.timedOut = s.timedOut) (fewer : asked t ⊆ asked s) :
    Stock options stock t := by
  have before : heldFrames options s = s.timedOut ++ [f] := by
    simp [heldFrames, v4l2, open_, held]
  have after : heldFrames options t = s.timedOut := by
    simp [heldFrames, v4l2, stage, gone, late, Stage.frame]
  refine ⟨?_, ?_, ?_, ?_, ?_⟩
  · have apart : s.writer.captureBuffers.leases.Perm
        (tracked.lease :: t.writer.captureBuffers.leases) := by
      have values := (values_perm_cons_erase found).map TrackedBuffer.lease
      rw [← captures] at values
      exact values
    have first := S.pool.reorder
      (List.perm_middle.symm.trans (apart.symm.append_left s.writer.previewBuffers.leases))
    rw [pools, previews]
    exact first.drop
  · have still : gone t.stage = gone s.stage := by
      rw [stage, open_]
      rfl
    rw [previews, S.previews]
    simp only [heldPreviews, still]
  · have keys := (keys_perm_cons_erase found).symm.trans S.captures
    rw [before, List.map_append, List.map_cons, List.map_nil] at keys
    rw [captures, after]
    exact (keys.trans (List.perm_append_singleton _ _)).cons_inv
  · intro id other at_id
    rw [captures] at at_id
    exact S.backed id other (lookup_erase_eq_some.mp at_id).2
  · intro r member inside other at_frame
    rw [captures] at at_frame
    rw [after] at inside
    refine S.carried r (fewer member) ?_ other (lookup_erase_eq_some.mp at_frame).2
    rw [before]
    exact List.mem_append_left _ inside

theorem Stock.untracked (S : Stock options stock s) (mock : options.useV4l2 = false) (id : Int) :
    id ∉ s.writer.captureBuffers.buffers := by
  have keys := S.captures
  rw [heldFrames_mock mock] at keys
  intro member
  have listed := keys.subset (AList.mem_keys.mp member)
  cases listed

theorem Stock.tracked (S : Stock options stock s) (v4l2 : options.useV4l2 = true)
    (open_ : gone s.stage = false) {f : Nat} (held : f ∈ s.timedOut ++ s.stage.frame) :
    ∃ tracked, s.writer.captureBuffers.buffers.lookup (castInt f) = some tracked := by
  have inside : f ∈ heldFrames options s := by
    simpa [heldFrames, v4l2, open_] using held
  have key := S.captures.symm.subset (List.mem_map_of_mem inside)
  exact Option.isSome_iff_exists.mp (AList.lookup_isSome.mpr (AList.mem_keys.mpr key))

theorem written_untracked {w : Writer} (empty : ∀ id, id ∉ w.captureBuffers.buffers)
    {frameNumber : Nat} {answers : Answers} {outcome : Outcome}
    (returns : blockWaitAndWrite frameNumber answers w = some outcome) :
    outcome.writer.captureBuffers = w.captureBuffers ∧ outcome.writer.pools = w.pools := by
  have handled : ∀ {w' : Writer} {result : CaptureResult} {completed : CompletedOutputBuffer},
      w'.captureBuffers = w.captureBuffers → w'.pools = w.pools →
      Handled w' result completed outcome →
      outcome.writer.captureBuffers = w.captureBuffers ∧ outcome.writer.pools = w.pools := by
    intro w' result completed captures pools H
    have absent := empty completed.bufferId
    rw [← captures] at absent
    have none_left : outcome.returned = [] := by
      rw [H.returned]
      simp [firstLease, AList.lookup_eq_none.mpr absent]
    have kept : outcome.writer.captureBuffers = w'.captureBuffers := by
      rw [H.capture]
      simp [afterFirst, erase_of_fresh absent]
    refine ⟨kept.trans captures, ?_⟩
    rw [H.pools, none_left]
    exact pools
  unfold blockWaitAndWrite at returns
  split at returns
  · split at returns
    · cases returns
      exact ⟨rfl, rfl⟩
    · simp only at returns
      split at returns
      · cases returns
        exact ⟨rfl, rfl⟩
      · have H := writeFirst_handled returns
        exact handled (by rfl) (by rfl) H
  · cases returns
    exact ⟨rfl, rfl⟩

theorem calls_untracked (calls : List Call) : ∀ w : Writer,
    (∀ id, id ∉ w.captureBuffers.buffers) →
    (calls.foldl perform w).captureBuffers = w.captureBuffers ∧
      (calls.foldl perform w).pools = w.pools ∧
      (calls.foldl perform w).previewBuffers = w.previewBuffers := by
  induction calls with
  | nil => exact fun w _ => ⟨rfl, rfl, rfl⟩
  | cons call rest ih =>
    intro w empty
    have one : (perform w call).captureBuffers = w.captureBuffers ∧
        (perform w call).pools = w.pools ∧
        (perform w call).previewBuffers = w.previewBuffers := by
      cases call with
      | registerPath f path => exact ⟨rfl, rfl, rfl⟩
      | registerResult result => exact ⟨rfl, rfl, rfl⟩
      | cancel f => exact ⟨rfl, rfl, rfl⟩
      | blockWaitAndWrite f answers =>
        simp only [perform]
        split
        · rename_i outcome returns
          obtain ⟨captures, pools⟩ := written_untracked empty returns
          exact ⟨captures, pools, blockWaitAndWrite_previews returns⟩
        · exact ⟨rfl, rfl, rfl⟩
    obtain ⟨captures, pools, previews⟩ := one
    obtain ⟨captures', pools', previews'⟩ := ih (perform w call) (by rw [captures]; exact empty)
    exact ⟨captures'.trans captures, pools'.trans pools, previews'.trans previews⟩

theorem written_buffer (R : Requests options s) (S : Service P s.system s.stage)
    (B : Books options s) (v4l2 : options.useV4l2 = true) {frameNumber : Nat} {answers : Answers}
    {outcome : Outcome} {written : WriteResult} (awaiting : s.stage = .awaiting frameNumber)
    (returns : blockWaitAndWrite frameNumber answers s.writer = some outcome)
    (answered : outcome.answer = some written) :
    ∃ path r first, s.writer.pendingWrites.lookup frameNumber = some ⟨path, some r⟩ ∧
      r.message ≠ "preview" ∧ r.completedOutputBuffers = [first] ∧
      first.bufferId = castInt frameNumber := by
  have held : s.stage.frame = [frameNumber] := by rw [awaiting]; rfl
  obtain ⟨path, r, found⟩ := pending_of_written returns answered
  obtain ⟨frame, id, sent⟩ := B.registered (B.captures held) frameNumber path r found
  have open_ : ended s.stage = false := by rw [awaiting]; rfl
  obtain ⟨request, at_id, back⟩ := (S.answered open_).sent id r sent
  have same := (delivered_request R.accounted sent at_id).trans frame
  have known : request ∈ s.system.accepted ++ s.system.admitting ++ inRequest s.stage :=
    List.mem_append_left _ (List.mem_append_left _ (List.mem_of_getElem? at_id))
  have buffers := B.outputs request known
  rw [same] at buffers
  simp only [bufferIds, v4l2, if_true] at buffers
  obtain ⟨target, rest, outputs, named, none_left⟩ := List.map_eq_cons_iff.mp buffers
  obtain rfl := List.map_eq_nil_iff.mp none_left
  have lists := back (by rw [outputs]; exact List.cons_ne_nil _ _)
  simp only [listed, requestEntries, outputs, List.zipIdx_cons, List.zipIdx_nil, List.map_cons,
    List.map_nil] at lists
  obtain ⟨first, rest, completed, entry, none_left⟩ := List.map_eq_cons_iff.mp lists
  obtain rfl := List.map_eq_nil_iff.mp none_left
  obtain ⟨-, place⟩ := Prod.mk.inj entry
  obtain ⟨at_buffer, -⟩ := Prod.mk.inj place
  exact ⟨path, r, first, found, S.spoken.sent id r sent, completed, at_buffer.trans named⟩

theorem Stock.steady (S : Stock options stock s) {a : Hal.SessionSystem.Label}
    {system : System δ π}
    (taken : Hal.SessionSystem.step D processors callbacks s.system a = some system)
    (steady : Steady a) (stage : Stage) (frame : stage.frame = s.stage.frame)
    (stays : gone stage = gone s.stage) (asks : inRequest stage = inRequest s.stage) :
    Stock options stock { s with system := system, stage := stage } := by
  obtain ⟨accepted, admitting⟩ := steady_frame steady taken
  refine S.keep rfl rfl rfl (heldFrames_move (by simp only [frame]) stays) stays ?_
  simp only [asked, accepted, admitting, asks]
  exact fun r member => member

private theorem posted_stock (S : Stock options stock s) {frameNumber : Nat} {accepted : Bool}
    {system : System δ π} (posting : s.stage = .posting frameNumber)
    (moved : Hal.SessionSystem.step D processors callbacks s.system (.post 0 accepted) =
      some system) :
    Stock options stock
      { s with
        system := system
        stage := if accepted then .awaiting frameNumber else .refused frameNumber } := by
  have stays : gone (if accepted then Stage.awaiting frameNumber else .refused frameNumber) =
      gone s.stage := by
    rw [posting]
    cases accepted <;> rfl
  refine S.keep rfl rfl rfl (heldFrames_move ?_ stays) stays ?_
  · rw [posting]
    cases accepted <;> rfl
  · intro r member
    simp only [asked, posting, inRequest, List.append_nil]
    rcases postStep_outcome moved with ⟨rfl, rfl⟩ | ⟨request, found, rfl, rfl⟩
    · simp only [asked, inRequest, List.append_nil, if_false, Bool.false_eq_true] at member
      rcases List.mem_append.mp member with before | here
      · exact List.mem_append_left _ before
      · exact List.mem_append_right _ (List.mem_of_mem_eraseIdx here)
    · simp only [asked, inRequest, List.append_nil, if_true] at member
      rcases List.mem_append.mp member with before | here
      · rcases List.mem_append.mp before with before | last
        · exact List.mem_append_left _ before
        · obtain rfl := List.mem_singleton.mp last
          exact List.mem_append_right _ (List.mem_of_getElem? found)
      · exact List.mem_append_right _ (List.mem_of_mem_eraseIdx here)

private theorem leased_stock (R : Requests options s) (S : Stock options stock s)
    (prompting : s.stage = .prompting) (v4l2 : options.useV4l2 = true) {kept : Tracker}
    {target : OutputBufferTarget} {now : Int} {path : String} {lease : DmaBufLease}
    {pools : List DmaBufPool} {metadata : MiniCam.Buffers.BufferTracker.TrackedBufferMetadata}
    (lent : SolePool pools
      (lease :: (s.writer.previewBuffers.leases ++ s.writer.captureBuffers.leases)) stock)
    (described : Backed stock lease metadata.bufferFd metadata.bufferSize)
    (fresh : castInt s.nextFrame ∉ s.writer.captureBuffers.buffers)
    (inserted : kept.buffers =
      s.writer.captureBuffers.buffers.insert (castInt s.nextFrame) ⟨metadata, lease⟩)
    (carried : (target.bufferFd, target.bufferSize) =
      (metadata.bufferFd, metadata.bufferSize)) :
    Stock options stock
      (request path (captureRequest options s.nextFrame [target] now)
        { s with
          nextFrame := s.nextFrame + 1
          writer := { s.writer with captureBuffers := kept, pools := pools } }) := by
  have open_ : gone s.stage = false := by rw [prompting]; rfl
  have before : heldFrames options s = s.timedOut := by
    simp [heldFrames, v4l2, prompting, gone, Stage.frame]
  have after : heldFrames options (request path (captureRequest options s.nextFrame [target] now)
      { s with
        nextFrame := s.nextFrame + 1
        writer := { s.writer with captureBuffers := kept, pools := pools } }) =
      s.timedOut ++ [s.nextFrame] := by
    simp [heldFrames, v4l2, request, gone, Stage.frame, captureRequest]
  have old_keys := S.captures
  rw [before] at old_keys
  refine ⟨?_, ?_, ?_, ?_, ?_⟩
  · have more : kept.leases = lease :: s.writer.captureBuffers.leases := by
      simp only [Tracker.leases, inserted, values_insert_of_fresh fresh, List.map_cons]
    change SolePool pools (s.writer.previewBuffers.leases ++ kept.leases) stock
    rw [more]
    exact lent.reorder List.perm_middle
  · have same := S.previews
    simp only [heldPreviews, open_] at same
    exact same
  · rw [after]
    change kept.buffers.keys.Perm _
    have keys : kept.buffers.keys =
        castInt s.nextFrame :: s.writer.captureBuffers.buffers.keys := by
      rw [inserted, AList.keys_insert, List.erase_of_not_mem]
      exact fun member => fresh (AList.mem_keys.mpr member)
    rw [keys, List.map_append]
    exact (old_keys.cons _).trans (List.perm_append_singleton _ _).symm
  · intro id tracked found
    change kept.buffers.lookup id = some tracked at found
    rw [inserted] at found
    rcases lookup_insert_eq_some.mp found with ⟨-, rfl⟩ | ⟨-, old⟩
    · exact described
    · exact S.backed id tracked old
  · intro r member inside tracked found
    change kept.buffers.lookup _ = some tracked at found
    rw [inserted] at found
    rw [after] at inside
    have none_admitting := R.admitting
    simp only [prompting, inPost, List.map_eq_nil_iff] at none_admitting
    have at_member : r ∈ s.system.accepted ++
        [captureRequest options s.nextFrame [target] now] := by
      simp only [asked, request, inRequest, none_admitting, List.append_nil] at member
      exact member
    rcases List.mem_append.mp at_member with known | last
    · have small := R.below r known
      simp only [floor, prompting] at small
      have late : r.frameNumber ∈ s.timedOut := by
        rcases List.mem_append.mp inside with late | here
        · exact late
        · have equal := List.mem_singleton.mp here
          omega
      rcases lookup_insert_eq_some.mp found with ⟨same, -⟩ | ⟨-, old⟩
      · have tracked_id := old_keys.symm.subset (List.mem_map_of_mem late)
        rw [same] at tracked_id
        exact (fresh (AList.mem_keys.mpr tracked_id)).elim
      · refine S.carried r ?_ (by rw [before]; exact late) tracked old
        exact List.mem_append_left _ (List.mem_append_left _ known)
    · obtain rfl := List.mem_singleton.mp last
      rcases lookup_insert_eq_some.mp found with ⟨-, rfl⟩ | ⟨different, -⟩
      · simp only [captureRequest, List.map_cons, List.map_nil, carried]
      · exact (different rfl).elim

private theorem captured_stock (R : Requests options s) (S : Stock options stock s)
    (prompting : s.stage = .prompting) {path : String} (C : CaptureOutcome options path s t) :
    Stock options stock t := by
  cases C with
  | @unbuffered now mock =>
    have open_ : gone s.stage = false := by rw [prompting]; rfl
    have none_held : ∀ u : Program δ π, heldFrames options u = [] := heldFrames_mock mock
    have keys := S.captures
    rw [none_held] at keys
    refine ⟨S.pool, ?_, ?_, S.backed, ?_⟩
    · have same := S.previews
      simp only [heldPreviews, open_] at same
      exact same
    · rw [none_held]
      exact keys
    · intro r _ inside
      rw [none_held] at inside
      cases inside
  | empty v4l2 dead =>
    rcases S.pool.acquire with ⟨live, -⟩ | ⟨-, same⟩
    · rw [dead] at live
      cases live
    · exact ⟨same, S.previews, S.captures, S.backed, S.carried⟩
  | refused v4l2 live =>
    rcases S.pool.acquire with ⟨-, lent, -⟩ | ⟨dead, -⟩
    · exact ⟨lent.drop, S.previews, S.captures, S.backed, S.carried⟩
    · rw [dead] at live
      cases live
  | leased v4l2 live fresh metadata inserted named points carried =>
    rcases S.pool.acquire with ⟨-, lent, backed⟩ | ⟨dead, -⟩
    · obtain ⟨fd, size⟩ := Prod.mk.inj points
      rw [← fd, ← size] at backed
      exact leased_stock R S prompting v4l2 lent backed fresh inserted carried
    · rw [dead] at live
      cases live

private theorem withdrawn_stock (S : Stock options stock s) {frameNumber : Nat}
    (refused : s.stage = .refused frameNumber) :
    Stock options stock (withdraw frameNumber s) := by
  have held : s.stage.frame = [frameNumber] := by rw [refused]; rfl
  have open_ : gone s.stage = false := by rw [refused]; rfl
  have fewer : asked (withdraw frameNumber s) ⊆ asked s := by
    simp only [asked, withdraw, refused, inRequest]
    exact fun r member => member
  cases mode : options.useV4l2 with
  | false =>
    have absent := AList.lookup_eq_none.mpr (S.untracked mode (castInt frameNumber))
    have none_given : (s.writer.captureBuffers.release (castInt frameNumber) s.writer.pools) =
        (s.writer.captureBuffers, s.writer.pools) := by
      simp only [Tracker.release, Tracker.takeMetadata, absent]
    refine S.keep ?_ rfl ?_ ?_ ?_ fewer
    · simp only [withdraw, FenceAwareResultWriter.cancel, none_given]
    · simp only [withdraw, FenceAwareResultWriter.cancel, none_given]
    · rw [heldFrames_mock mode, heldFrames_mock mode]
    · rw [open_]
      rfl
  | true =>
    obtain ⟨tracked, found⟩ := S.tracked mode open_ (f := frameNumber)
      (by rw [held]; exact List.mem_append_right _ (List.mem_singleton_self _))
    have given : (s.writer.captureBuffers.release (castInt frameNumber) s.writer.pools) =
        ({ buffers := s.writer.captureBuffers.buffers.erase (castInt frameNumber) },
          (tracked.lease.reset s.writer.pools).2) := by
      simp only [Tracker.release, Tracker.takeMetadata, found]
    refine S.giveBack mode held open_ found ?_ rfl ?_ rfl rfl fewer
    · simp only [withdraw, FenceAwareResultWriter.cancel, given]
    · simp only [withdraw, FenceAwareResultWriter.cancel, given]

private theorem written_stock (R : Requests options s) (V : Service P s.system s.stage)
    (B : Books options s) (S : Stock options stock s) {frameNumber : Nat} {answers : Answers}
    {outcome : Outcome} {written : WriteResult} (awaiting : s.stage = .awaiting frameNumber)
    (returns : blockWaitAndWrite frameNumber answers s.writer = some outcome)
    (answered : outcome.answer = some written) :
    Stock options stock { s with writer := outcome.writer, stage := .prompting } := by
  have held : s.stage.frame = [frameNumber] := by rw [awaiting]; rfl
  have open_ : gone s.stage = false := by rw [awaiting]; rfl
  have previews := blockWaitAndWrite_previews returns
  have fewer : asked { s with writer := outcome.writer, stage := .prompting } ⊆ asked s := by
    simp only [asked, awaiting, inRequest]
    exact fun r member => member
  cases mode : options.useV4l2 with
  | false =>
    obtain ⟨captures, pools⟩ := written_untracked (S.untracked mode) returns
    refine S.keep pools previews captures ?_ ?_ fewer
    · rw [heldFrames_mock mode, heldFrames_mock mode]
    · rw [open_]
      rfl
  | true =>
    obtain ⟨tracked, found⟩ := S.tracked mode open_ (f := frameNumber)
      (by rw [held]; exact List.mem_append_right _ (List.mem_singleton_self _))
    obtain ⟨path, r, first, registered, capture, completed, named⟩ :=
      written_buffer R V B mode awaiting returns answered
    obtain ⟨-, handled⟩ := blockWaitAndWrite_outcome registered returns answered
    rw [completed] at handled
    obtain ⟨-, -, returned, captures, pools, -⟩ := handled
    have at_first : s.writer.captureBuffers.buffers.lookup first.bufferId = some tracked := by
      rw [named]
      exact found
    have one : outcome.returned = [tracked.lease] := by
      rw [returned]
      simp only [firstLease, if_neg capture, at_first, Option.map_some, Option.toList_some]
    rw [one] at pools
    refine S.giveBack mode held open_ found pools previews ?_ rfl rfl fewer
    rw [captures]
    simp only [afterFirst, capture, named, if_false]

private theorem released_stock (S : Stock options stock s) {success : Bool}
    {previews captures : List DmaBufLease}
    (allPreviews : previews.Perm s.writer.previewBuffers.leases)
    (allCaptures : captures.Perm s.writer.captureBuffers.leases) :
    Stock options stock
      { s with
        writer := { s.writer with
          previewBuffers := {}
          captureBuffers := {}
          pools := destroyAll captures (destroyAll previews s.writer.pools) }
        stage := .left success } := by
  have first := S.pool.reorder (allPreviews.append_right s.writer.captureBuffers.leases)
  have second := first.dropAll previews s.writer.pools
  have third : SolePool (destroyAll previews s.writer.pools) (captures ++ []) stock := by
    rw [List.append_nil]
    exact second.reorder allCaptures
  have last := third.dropAll captures _
  have none_held : ∀ u : Program δ π, u.stage = .left success → heldFrames options u = [] := by
    intro u left
    simp [heldFrames, left, gone]
  refine ⟨last, ?_, ?_, ?_, ?_⟩
  · simp [heldPreviews, gone, Tracker.leases, values]
  · rw [none_held _ rfl]
    exact List.Perm.refl _
  · intro id tracked found
    cases found
  · intro r _ inside
    rw [none_held _ rfl] at inside
    cases inside

theorem effect_stock (E : Effect D processors options s t) (R : Requests options s)
    (V : Service P s.system s.stage) (B : Books options s) (S : Stock options stock s) :
    Stock options stock t := by
  cases E with
  | configured prepared taken next =>
    rcases next with rfl | rfl
    · exact S.steady taken trivial _ (by rw [prepared]; rfl) (by rw [prepared]; rfl)
        (by rw [prepared]; rfl)
    · exact S.steady taken trivial _ (by rw [prepared]; rfl) (by rw [prepared]; rfl)
        (by rw [prepared]; rfl)
  | started configured taken next =>
    rcases next with ⟨-, rfl⟩ | rfl
    · split
      · exact S.steady taken trivial _ (by rw [configured]; rfl) (by rw [configured]; rfl)
          (by rw [configured]; rfl)
      · exact S.steady taken trivial _ (by rw [configured]; rfl) (by rw [configured]; rfl)
          (by rw [configured]; rfl)
    · exact S.steady taken trivial _ (by rw [configured]; rfl) (by rw [configured]; rfl)
        (by rw [configured]; rfl)
  | @ending stage may ends =>
    have before : s.stage.frame = [] ∧ gone s.stage = false := by
      revert may
      cases s.stage <;> first | exact fun _ => ⟨rfl, rfl⟩ | exact fun no => no.elim
    have after : stage.frame = [] ∧ gone stage = false ∧ inRequest stage = [] := by
      rcases ends with ⟨workers, success, rfl⟩ | ⟨success, rfl⟩ <;> exact ⟨rfl, rfl, rfl⟩
    have stays : gone stage = gone s.stage := after.2.1.trans before.2.symm
    refine S.keep rfl rfl rfl (heldFrames_move ?_ stays) stays ?_
    · rw [before.1, after.1]
    · simp only [asked, after.2.2, List.append_nil]
      exact fun r member => List.mem_append_left _ member
  | asked => exact S
  | captured prompting named => exact captured_stock R S prompting (capture_outcome _ _ _)
  | rejected requesting =>
    refine S.keep rfl rfl rfl (heldFrames_move (by rw [requesting]; rfl) (by rw [requesting]; rfl))
      (by rw [requesting]; rfl) ?_
    simp only [asked, inRequest, List.append_nil]
    exact fun r member => List.mem_append_left _ member
  | admitted requesting serving =>
    refine S.keep rfl rfl rfl (heldFrames_move (by rw [requesting]; rfl) (by rw [requesting]; rfl))
      (by rw [requesting]; rfl) ?_
    simp only [asked, requesting, inRequest, List.append_nil, List.append_assoc]
    exact fun r member => member
  | posted posting moved => exact posted_stock S posting moved
  | @withdrawn frameNumber refused => exact withdrawn_stock S refused
  | written awaiting returns answered => exact written_stock R V B S awaiting returns answered
  | @timedOut frameNumber awaiting =>
    have stays : gone Stage.prompting = gone s.stage := by rw [awaiting]; rfl
    refine S.keep rfl rfl rfl (heldFrames_move ?_ stays) stays ?_
    · rw [awaiting]
      exact List.append_nil _
    · simp only [asked, awaiting, inRequest]
      exact fun r member => member
  | closed leaving taken =>
    exact S.steady taken trivial _ (by rw [leaving]; rfl) (by rw [leaving]; rfl)
      (by rw [leaving]; rfl)
  | released closed allPreviews allCaptures => exact released_stock S allPreviews allCaptures
  | thread a own taken => exact S.steady taken own.steady s.stage rfl rfl rfl
  | @dispatched k id result found =>
    exact S.keep rfl rfl rfl rfl rfl fun r member => member
  | @saving calls system written workers saves moved =>
    have empty : ∀ id, id ∉ s.writer.captureBuffers.buffers := by
      obtain ⟨none_late, none_held, -⟩ := B.saving saves
      have keys := S.captures
      have none_left : heldFrames options s = [] := by
        simp [heldFrames, none_late, none_held]
      rw [none_left] at keys
      intro id member
      have listed := keys.subset (AList.mem_keys.mp member)
      cases listed
    obtain ⟨captures, pools, previews⟩ := calls_untracked calls s.writer empty
    have steady : Stock options stock { s with system := system, stage := s.stage } := by
      rcases moved with rfl | ⟨k, lease, taken⟩
      · exact S
      · exact S.steady taken trivial s.stage rfl rfl rfl
    exact steady.keep pools previews captures rfl rfl fun r member => member
  | encoded => exact S.keep rfl rfl rfl rfl rfl fun r member => member

end Stock

section Runs

variable {D : DriverAdapter δ} {processors : List (Option (OutputProcessor π))}
  {options : CliOptions} {s t : Program δ π} {P : δ → Prop}
  {stock : List (Address × Int × Nat)}

structure Sound (P : δ → Prop) (options : CliOptions) (stock : List (Address × Int × Nat))
    (s : Program δ π) : Prop where
  requests : Requests options s
  service : Service P s.system s.stage
  books : Books options s
  stock : Stock options stock s

theorem prepare_sound {answers : List Allocation} {fences : List FenceAnswers}
    {driver : Option δ} {p : π} (H : Has P driver)
    (prepared : prepare options answers fences driver p = some s) :
    ∃ stock, stock.length = options.poolSize ∧ Sound P options stock s := by
  have R := prepare_requests prepared
  obtain ⟨pool, targets, tracker, pools, answered, ⟨made, taken⟩, rfl⟩ := prepare_cases prepared
  obtain ⟨whole, size⟩ := preparePool_sole answered.buffers answered.distinct made
  obtain ⟨lent, previews⟩ := preparePreviews_sole fences 0 [] {} [pool] whole taken
  refine ⟨described pool, size, R, ?_, ?_, ?_⟩
  · refine ⟨⟨H, ?_, ?_, ?_⟩, fun _ => Or.inr ⟨rfl, rfl⟩, fun _ => ⟨rfl, rfl⟩, ?_, fun _ => ?_⟩
    · exact fun entry member => by cases member
    · exact fun id result member => by cases member
    · constructor <;> simp [System.initial]
    · exact fun open_ => by cases open_
    · constructor <;> simp [System.initial, Hal.CameraDeviceSession.Session.create,
        Hal.InFlightRequestTracker.Tracker.empty]
  · refine ⟨?_, ?_, ?_, List.nodup_nil, ?_, fun _ => ⟨rfl, rfl, by simp⟩⟩
    · exact fun r member => by cases member
    · exact fun _ f path r found => by cases found
    · exact fun r member => by cases member
    · exact fun f member => by cases member
  · have none_held : heldFrames options
        { system := System.initial (sessionConfig options targets) driver p
          writer := { previewBuffers := tracker, encodedFrames := some {}, pools := pools }
          stage := .prepared
          nextFrame := 1
          previewFramesWritten := 0
          previewWorkers := []
          timedOut := [] } = [] := by
      simp [heldFrames, Stage.frame]
    refine ⟨?_, ?_, ?_, ?_, ?_⟩
    · exact lent.reorder (by simp [Tracker.leases, values])
    · rw [previews, answered.previews]
      simp [heldPreviews, gone, Tracker.leases, values]
    · rw [none_held]
      exact List.Perm.refl _
    · exact fun id tracked found => by cases found
    · exact fun r member => by cases member

theorem reachable_sound (K : Keeps D P) (plain : ∀ d, P d → D.lastError d ≠ "preview")
    {s₀ : Program δ π} (initial : Sound P options stock s₀)
    (run : Reaches (step D processors options) always s₀ s) : Sound P options stock s := by
  refine run.invariant (Sound P options stock) ?_ initial
  intro s a t I _ taken
  have E := step_effect I.requests.saves taken
  exact ⟨E.requests I.requests, effect_service K plain E I.requests I.service,
    effect_books E I.requests I.books, effect_stock E I.requests I.service I.books I.stock⟩

theorem program_sound {processors : List (Option (OutputProcessor π))}
    {answers : List Allocation} {fences : List FenceAnswers} {driverAnswers : DriverAnswers} {p : π}
    {s₀ s : Program Driver π}
    (prepared : prepare options answers fences (some (makeDriver options driverAnswers)) p =
      some s₀)
    (run : Reaches (step Driver.adapter processors options) always s₀ s) :
    ∃ stock, stock.length = options.poolSize ∧ Sound Driver.PlainTexts options stock s := by
  obtain ⟨stock, size, initial⟩ :=
    prepare_sound (Has.of_some (Driver.makeDriver_plain options driverAnswers)) prepared
  exact ⟨stock, size,
    reachable_sound Driver.keeps_plain Driver.lastError_plain initial run⟩

/-- The buffers of the program are conserved through its whole run, whatever lines it reads,
whatever the system answers and whenever it stops waiting: its only pool has lent one to each
preview and one to each frame that it holds, under the frame's own id, and has the others free. -/
theorem captures_conserved (processors : List (Option (OutputProcessor π))) (options : CliOptions)
    (answers : List Allocation) (fences : List FenceAnswers) (driverAnswers : DriverAnswers)
    (p : π) (s₀ s : Program Driver π)
    (prepared : prepare options answers fences (some (makeDriver options driverAnswers)) p =
      some s₀)
    (run : Reaches (step Driver.adapter processors options) always s₀ s) :
    s.writer.captureBuffers.buffers.keys.Perm ((heldFrames options s).map castInt) ∧
      ∃ pool, s.writer.pools = [pool] ∧
        PoolConserved 0 pool
          (s.writer.previewBuffers.leases ++ s.writer.captureBuffers.leases) ∧
        pool.available + heldPreviews options s + (heldFrames options s).length =
          options.poolSize ∧
        (gone s.stage = true → pool.available = options.poolSize) := by
  obtain ⟨stock, size, I⟩ := program_sound prepared run
  have S := I.stock
  obtain ⟨pool, only, -, conserved, total, -⟩ := S.pool.total
  have captures : s.writer.captureBuffers.leases.length = (heldFrames options s).length := by
    have keys := S.captures.length_eq
    rw [List.length_map] at keys
    rw [← keys]
    simp only [Tracker.leases, values, List.length_map, AList.keys, List.keys]
  rw [List.length_append, S.previews, captures, size, ← Nat.add_assoc] at total
  refine ⟨S.captures, pool, only, conserved, total, fun done => ?_⟩
  simpa [heldFrames, heldPreviews, done] using total

/-- A target is a buffer of the program's pool which is lent under the target's id, to one holder
alone, and which the pool does not have free. -/
def OnLoan (s : Program δ π) (target : OutputBufferTarget) : Prop :=
  ∃ pool tracked owned, s.writer.pools = [pool] ∧
    s.writer.captureBuffers.buffers.lookup target.bufferId = some tracked ∧
    owned ∈ pool.buffers ∧ tracked.lease.buffer = some owned.1 ∧
    (owned.2.fd, owned.2.size) = (target.bufferFd, target.bufferSize) ∧
    owned.2.acquired = true ∧ owned.1 ∉ pool.freeBuffers ∧
    ((s.writer.previewBuffers.leases ++ s.writer.captureBuffers.leases).countP fun lease =>
      lease.buffer = some owned.1) = 1

theorem Stock.onLoan (S : Stock options stock s) {r : CaptureRequest} (known : r ∈ asked s)
    (held : r.frameNumber ∈ heldFrames options s) {target : OutputBufferTarget}
    (outputs : r.outputBuffers = [target]) (named : target.bufferId = castInt r.frameNumber) :
    OnLoan s target := by
  have key := S.captures.symm.subset (List.mem_map_of_mem held)
  obtain ⟨tracked, found⟩ :=
    Option.isSome_iff_exists.mp (AList.lookup_isSome.mpr (AList.mem_keys.mpr key))
  have carried := S.carried r known held tracked found
  rw [outputs, List.map_singleton] at carried
  obtain ⟨buffer, points, listed⟩ := S.backed _ tracked found
  obtain ⟨pool, only, buffers, conserved, -, current⟩ := S.pool.total
  rw [← buffers] at listed
  obtain ⟨owned, member, entry⟩ := List.mem_map.mp listed
  obtain ⟨rfl, description⟩ := Prod.mk.inj entry
  have among : tracked.lease ∈
      s.writer.previewBuffers.leases ++ s.writer.captureBuffers.leases :=
    List.mem_append_right _ (List.mem_map_of_mem (mem_values.mpr ⟨_, found⟩))
  have busy : owned.1 ∉ pool.freeBuffers := by
    intro free
    exact (conserved.free_iff_unleased owned member).mp free _ among (current _ among) points
  have one : ((s.writer.previewBuffers.leases ++ s.writer.captureBuffers.leases).countP
      fun lease => lease.buffer = some owned.1) = 1 := by
    have most := conserved.one_lease owned.1
    have same : (s.writer.previewBuffers.leases ++ s.writer.captureBuffers.leases).countP
          (fun lease => Current 0 pool.generation lease ∧ lease.buffer = some owned.1) =
        (s.writer.previewBuffers.leases ++ s.writer.captureBuffers.leases).countP
          (fun lease => lease.buffer = some owned.1) := by
      apply List.countP_congr
      intro lease inside
      simp [current lease inside]
    have least : 0 < (s.writer.previewBuffers.leases ++ s.writer.captureBuffers.leases).countP
        (fun lease => lease.buffer = some owned.1) :=
      List.countP_pos_iff.mpr ⟨tracked.lease, among, decide_eq_true points⟩
    omega
  refine ⟨pool, tracked, owned, only, ?_, member, points, ?_, ?_, busy, one⟩
  · rw [named]
    exact found
  · exact description.trans (List.singleton_injective carried).symm
  · cases flag : owned.2.acquired with
    | true => rfl
    | false => exact absurd ((conserved.free_iff_unflagged owned member).mpr flag) busy

theorem Sound.pending_held (I : Sound P options stock s) {id f : Nat}
    (awaiting : (id, f) ∈ pending s.system) :
    ∃ request, s.system.accepted[id]? = some request ∧ request.frameNumber = f ∧
      f ∈ s.timedOut ++ s.stage.frame := by
  have R := I.requests
  have accepted := R.accounted.partition.subset (List.mem_append_left _ awaiting)
  obtain ⟨⟨request, n⟩, inside, same⟩ := List.mem_map.mp accepted
  obtain ⟨rfl, rfl⟩ := Prod.mk.inj same
  have at_id := List.mem_zipIdx_iff_getElem?.mp inside
  refine ⟨request, at_id, rfl, ?_⟩
  rcases I.books.settled request (List.mem_of_getElem? at_id) with held | done
  · exact held
  · -- A delivered frame awaits no result: the accepted frames rise.
    have distinct := R.frames.nodup_iff.mpr (R.rising.imp Nat.ne_of_lt)
    have here : request.frameNumber ∈ (pending s.system).map Prod.snd :=
      List.mem_map.mpr ⟨_, awaiting, rfl⟩
    exact ((List.nodup_append.mp distinct).2.2 _ here _ done rfl).elim

/-- With `--v4l2`, until `main` gives all buffers back, every request in the session's hands,
queued, in flight or with a result to come, carries one buffer of the pool, which no one else has.
By then the session has nothing in flight. -/
theorem pending_buffers_on_loan (processors : List (Option (OutputProcessor π)))
    (options : CliOptions) (answers : List Allocation) (fences : List FenceAnswers)
    (driverAnswers : DriverAnswers) (p : π) (s₀ s : Program Driver π)
    (v4l2 : options.useV4l2 = true)
    (prepared : prepare options answers fences (some (makeDriver options driverAnswers)) p =
      some s₀)
    (run : Reaches (step Driver.adapter processors options) always s₀ s) :
    (gone s.stage = false → ∀ id f, (id, f) ∈ pending s.system →
      ∃ request target, s.system.accepted[id]? = some request ∧ request.frameNumber = f ∧
        request.outputBuffers = [target] ∧ OnLoan s target) ∧
      (gone s.stage = true →
        s.system.session.inFlight = Hal.InFlightRequestTracker.Tracker.empty) := by
  obtain ⟨stock, size, I⟩ := program_sound prepared run
  refine ⟨fun open_ id f awaiting => ?_, fun done => ?_⟩
  · obtain ⟨request, at_id, rfl, held⟩ := I.pending_held awaiting
    have known : request ∈ asked s :=
      List.mem_append_left _ (List.mem_append_left _ (List.mem_of_getElem? at_id))
    have outputs := I.books.outputs request known
    simp only [bufferIds, v4l2, if_true] at outputs
    obtain ⟨target, rest, same, named, none_left⟩ := List.map_eq_cons_iff.mp outputs
    obtain rfl := List.map_eq_nil_iff.mp none_left
    have inside : request.frameNumber ∈ heldFrames options s := by
      simpa [heldFrames, v4l2, open_] using held
    exact ⟨request, target, at_id, rfl, same, I.stock.onLoan known inside same named⟩
  · have closed : ended s.stage = true := by
      revert done
      cases s.stage <;> first | exact fun _ => rfl | exact fun no => by cases no
    exact I.requests.accounted.tracked.stopped (I.service.stopped closed)

end Runs

section Witness

private def twoNodes : CliOptions :=
  { useV4l2 := true
    previewDevicePath := some "/dev/video0"
    stillDevicePath := some "/dev/video1"
    width := 2
    height := 2
    bufferCount := 1 }

private def grantedBuffers : List Allocation :=
  [{ opened := some 3, granted := some 20, mapping := some 500, address := 100 },
   { opened := some 3, granted := some 21, mapping := some 600, address := 104 }]

private def grantedNodes : DriverAnswers :=
  { nodes :=
      { configure := fun n => .granted (30 + n) 8 1
        submission := fun _ => {}
        dequeue := fun _ => .buffer 0 8 0
        streamOff := fun _ => true } }

/-- The capture is in flight when the wait for it ends, and the next line finds no buffer. -/
private def givenUp : List Label :=
  [.configure true, .start, .readLine (some "a.jpg") {} 0, .processRequest, .post true,
   .runTask 0 1, .timeOut, .readLine (some "b.jpg") {} 2]

/-- The result comes, is not written, and leaves the buffer where it is until the end. -/
private def inputEnds : List Label :=
  [.dequeue 31, .process 0 3, .dispatch 0, .readLine none {} 4, .join, .close 5,
   .releaseAll [⟨some 0, some 100, 1⟩] [⟨some 0, some 104, 1⟩]]

theorem captures_conserved_given_up :
    (∃ s : Program Driver Unit, s.nextFrame = 3 ∧ s.timedOut = [1] ∧
        ∃ pool, s.writer.pools = [pool] ∧ pool.available = 0) ∧
      ∃ s : Program Driver Unit, s.system.dispatched.length = 1 ∧ s.timedOut = [1] ∧
        ∃ pool, s.writer.pools = [pool] ∧ pool.available = 2 := by
  constructor
  · obtain ⟨s₀, s, prepared, run, passed⟩ := exists_prepared_run Driver.adapter [] twoNodes always
      grantedBuffers [{}] (some (makeDriver twoNodes grantedNodes)) () givenUp
      (fun s => s.nextFrame == 3 && s.timedOut == [1] && s.stage == .prompting)
      (by decide +kernel)
    simp only [Bool.and_eq_true, beq_iff_eq] at passed
    obtain ⟨⟨next, late⟩, stage⟩ := passed
    obtain ⟨-, pool, only, -, total, -⟩ :=
      captures_conserved [] twoNodes grantedBuffers [{}] grantedNodes () s₀ s prepared run
    refine ⟨s, next, late, pool, only, ?_⟩
    have held : heldFrames twoNodes s = [1] := by
      simp [heldFrames, twoNodes, stage, gone, late, Stage.frame]
    have previews : heldPreviews twoNodes s = 1 := by
      simp [heldPreviews, CliOptions.ownsPreviews, twoNodes, stage, gone]
    have size : twoNodes.poolSize = 2 := rfl
    rw [held, previews, size, List.length_singleton] at total
    omega
  · obtain ⟨s₀, s, prepared, run, passed⟩ := exists_prepared_run Driver.adapter [] twoNodes always
      grantedBuffers [{}] (some (makeDriver twoNodes grantedNodes)) () (givenUp ++ inputEnds)
      (fun s => s.system.dispatched.length == 1 && s.timedOut == [1] && gone s.stage)
      (by decide +kernel)
    simp only [Bool.and_eq_true, beq_iff_eq] at passed
    obtain ⟨⟨sent, late⟩, done⟩ := passed
    obtain ⟨-, pool, only, -, -, all⟩ :=
      captures_conserved [] twoNodes grantedBuffers [{}] grantedNodes () s₀ s prepared run
    exact ⟨s, sent, late, pool, only, all done⟩

theorem pending_buffers_on_loan_given_up :
    ∃ (s : Program Driver Unit) (target : OutputBufferTarget),
      pending s.system = [(0, 1)] ∧ s.stage = .prompting ∧ OnLoan s target := by
  obtain ⟨s₀, s, prepared, run, passed⟩ := exists_prepared_run Driver.adapter [] twoNodes always
    grantedBuffers [{}] (some (makeDriver twoNodes grantedNodes)) () givenUp
    (fun s => pending s.system == [(0, 1)] && s.stage == .prompting) (by decide +kernel)
  simp only [Bool.and_eq_true, beq_iff_eq] at passed
  obtain ⟨awaits, stage⟩ := passed
  obtain ⟨request, target, -, -, -, loan⟩ :=
    (pending_buffers_on_loan [] twoNodes grantedBuffers [{}] grantedNodes () s₀ s rfl prepared
      run).1 (by rw [stage]; rfl) 0 1 (by rw [awaits]; exact List.mem_singleton_self _)
  exact ⟨s, target, awaits, stage, loan⟩

end Witness

end MiniCam.App.CaptureCustody
