/- Module: MiniCam/Buffers/BufferTracker
   source: app/buffer_tracker.h, app/buffer_tracker.cpp, hal/dma_buf_allocator.cpp
   digest: Trackers of leased buffers, and pools, leases and trackers in use together. -/

import MiniCam.Foundation.KeyedTable
import MiniCam.Buffers.DmaBufAllocator

set_option autoImplicit false
set_option relaxedAutoImplicit false

namespace MiniCam.Buffers.BufferTracker

open MiniCam.Foundation.KeyedTable
open MiniCam.Buffers.DmaBufAllocator

structure TrackedBufferMetadata where
  bufferId : Int := -1
  bufferFd : Int := -1
  bufferSize : Nat := 0
  deriving DecidableEq, Repr

structure TrackedBuffer where
  metadata : TrackedBufferMetadata
  lease : DmaBufLease
  deriving DecidableEq, Repr

structure Tracker where
  buffers : Table Int TrackedBuffer := ∅

namespace Tracker

def leases (tracker : Tracker) : List DmaBufLease :=
  (values tracker.buffers).map TrackedBuffer.lease

/-- Keep a lease under an id. The lease is the function's own: where it is not kept it is
destroyed on return. `target` is the object its pointer is read through. -/
def registerBuffer (bufferId : Int) (lease : DmaBufLease) (target : DmaBuf) (tracker : Tracker)
    (pools : List DmaBufPool) : Bool × Tracker × List DmaBufPool :=
  if lease.live then
    let tracked : TrackedBuffer := ⟨⟨bufferId, target.fd, target.size⟩, lease⟩
    if bufferId ∈ tracker.buffers then (false, tracker, (tracked.lease.reset pools).2)
    else (true, { buffers := tracker.buffers.insert bufferId tracked }, pools)
  else (false, tracker, (lease.reset pools).2)

def resolveMetadata (bufferId : Int) (tracker : Tracker) : Option TrackedBufferMetadata :=
  (tracker.buffers.lookup bufferId).map TrackedBuffer.metadata

def resolve (bufferId : Int) (tracker : Tracker) : Option Address :=
  (tracker.buffers.lookup bufferId).bind fun tracked => tracked.lease.buffer

def takeMetadata (bufferId : Int) (tracker : Tracker) : Option TrackedBuffer × Tracker :=
  match tracker.buffers.lookup bufferId with
  | none => (none, tracker)
  | some tracked => (some tracked, { buffers := tracker.buffers.erase bufferId })

def release (bufferId : Int) (tracker : Tracker) (pools : List DmaBufPool) :
    Tracker × List DmaBufPool :=
  match takeMetadata bufferId tracker with
  | (none, tracker) => (tracker, pools)
  | (some tracked, tracker) => (tracker, (tracked.lease.reset pools).2)

end Tracker

structure System where
  pools : List DmaBufPool := []
  held : Table Nat DmaBufLease := ∅
  trackers : List Tracker := []

namespace System

def leases (s : System) : List DmaBufLease := values s.held ++ s.trackers.flatMap Tracker.leases

def addressesBut (p : PoolId) (s : System) : List Address :=
  (s.pools.eraseIdx p).flatMap DmaBufPool.addresses

/-- Read through a lease's pointer. After its buffer was destroyed the read is of whatever now
lies there: a new buffer, or storage of unknown content. -/
def target (unknown : DmaBuf) (lease : DmaBufLease) (s : System) : DmaBuf :=
  ((lease.buffer.bind fun buffer =>
    (s.pools.flatMap DmaBufPool.buffers).find? fun owned => owned.1 == buffer).map
      Prod.snd).getD unknown

end System

inductive Operation
  | createPool (heapPath : String)
  | initializePool (p : PoolId) (bufferSize : Nat) (map : Bool) (answers : List Allocation)
  | acquire (p : PoolId) (x : Nat)
  | close (p : PoolId)
  | defaultConstruct (x : Nat)
  | moveConstruct (x other : Nat)
  | moveAssign (x other : Nat)
  | reset (x : Nat)
  | destroy (x : Nat)
  | createTracker
  | registerBuffer (t : Nat) (bufferId : Int) (x : Nat) (unknown : DmaBuf)
  | takeMetadata (t : Nat) (bufferId : Int) (x : Nat)
  | release (t : Nat) (bufferId : Int)
  | releaseAll (t : Nat) (order : List DmaBufLease)
  deriving DecidableEq

/-- The effect of one operation; none where a pool, tracker or variable is not there, or a
variable to construct is. -/
def step (s : System) : Operation → Option System
  | .createPool heapPath => some { s with pools := s.pools ++ [{ heapPath := heapPath }] }
  | .initializePool p bufferSize map answers =>
    -- The heap hands out distinct addresses that no living object has. The buffers of the
    -- pool itself are gone by then, so theirs may come again.
    if (answers.map Allocation.address).Nodup ∧
        ∀ answer ∈ answers, answer.address ∉ s.addressesBut p then
      s.pools[p]?.map fun pool =>
        { s with pools := s.pools.set p (pool.initializePool bufferSize map answers).2 }
    else none
  | .acquire p x =>
    if x ∈ s.held then none
    else s.pools[p]?.map fun pool =>
      { s with
        pools := s.pools.set p (pool.acquire p).2
        held := s.held.insert x (pool.acquire p).1 }
  | .close p => s.pools[p]?.map fun pool => { s with pools := s.pools.set p pool.close }
  | .defaultConstruct x =>
    if x ∈ s.held then none else some { s with held := s.held.insert x {} }
  | .moveConstruct x other =>
    if x ∈ s.held then none
    else (s.held.lookup other).map fun lease =>
      { s with held := (s.held.insert other {}).insert x lease }
  | .moveAssign x other =>
    (s.held.lookup x).bind fun mine =>
      (s.held.lookup other).map fun lease =>
        if x = other then s
        else
          { s with
            pools := (mine.reset s.pools).2
            held := (s.held.insert other {}).insert x lease }
  | .reset x =>
    (s.held.lookup x).map fun lease =>
      { s with
        pools := (lease.reset s.pools).2
        held := s.held.insert x (lease.reset s.pools).1 }
  | .destroy x =>
    (s.held.lookup x).map fun lease =>
      { s with pools := (lease.reset s.pools).2, held := s.held.erase x }
  | .createTracker => some { s with trackers := s.trackers ++ [{}] }
  | .registerBuffer t bufferId x unknown =>
    -- The parameter is constructed from the variable, which is empty from then on.
    s.trackers[t]?.bind fun tracker =>
      (s.held.lookup x).map fun lease =>
        let (_, tracker, pools) :=
          tracker.registerBuffer bufferId lease (s.target unknown lease) s.pools
        { pools := pools
          held := s.held.insert x {}
          trackers := s.trackers.set t tracker }
  | .takeMetadata t bufferId x =>
    if x ∈ s.held then none
    else s.trackers[t]?.map fun tracker =>
      match tracker.takeMetadata bufferId with
      | (none, _) => s
      | (some tracked, tracker) =>
        { s with
          held := s.held.insert x tracked.lease
          trackers := s.trackers.set t tracker }
  | .release t bufferId =>
    s.trackers[t]?.map fun tracker =>
      let (tracker, pools) := tracker.release bufferId s.pools
      { s with pools := pools, trackers := s.trackers.set t tracker }
  | .releaseAll t order =>
    -- The order in which a map destroys its entries is its own.
    s.trackers[t]?.bind fun tracker =>
      if order.Perm tracker.leases then
        some { s with pools := destroyAll order s.pools, trackers := s.trackers.set t {} }
      else none

end MiniCam.Buffers.BufferTracker
