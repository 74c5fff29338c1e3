/- Module: MiniCam/Buffers/DmaBufAllocator
   source: hal/dma_buf_allocator.h, hal/dma_buf_allocator.cpp
   digest: The dma-buf pool, its free list and generations, and the leases on its buffers. -/

import Mathlib.Data.List.Basic

set_option autoImplicit false
set_option relaxedAutoImplicit false

namespace MiniCam.Buffers.DmaBufAllocator

/-- The address of an object on the heap; a null pointer is `none` where one can occur. -/
abbrev Address := Nat

abbrev PoolId := Nat

structure DmaBuf where
  fd : Int := -1
  size : Nat := 0
  mappedData : Option Address := none
  acquired : Bool := false
  deriving DecidableEq, Repr

namespace DmaBuf

def valid (b : DmaBuf) : Bool := decide (0 ≤ b.fd)

/-- Map the buffer; `mapping` is the answer of `mmap`, `none` for `MAP_FAILED`. -/
def map (mapping : Option Address) (b : DmaBuf) : Bool × DmaBuf :=
  if !b.valid || b.size == 0 then (false, b)
  else if b.mappedData.isSome then (true, b)
  else
    match mapping with
    | none => (false, b)
    | some data => (true, { b with mappedData := some data })

def setAcquired (acquired : Bool) (b : DmaBuf) : DmaBuf := { b with acquired := acquired }

/-- The move constructor takes everything over but the flag, which starts out clear. -/
def moveConstruct (other : DmaBuf) : DmaBuf :=
  { fd := other.fd, size := other.size, mappedData := other.mappedData }

end DmaBuf

structure DmaBufLease where
  pool : Option PoolId := none
  buffer : Option Address := none
  generation : Nat := 0
  deriving DecidableEq, Repr

/-- What the system answers while one buffer is allocated: `open` on the heap, the allocation
ioctl, `mmap`, the text of `errno` where one of them fails, and where `make_unique` puts the
object. -/
structure Allocation where
  opened : Option Nat := none
  granted : Option Nat := none
  mapping : Option Address := none
  errno : String := ""
  address : Address
  deriving DecidableEq, Repr

/-- A pool. The owned objects stand with their addresses; the free list holds addresses. The
generations have 64 bits and are apart as long as fewer than `2 ^ 64` refills were made. -/
structure DmaBufPool where
  heapPath : String := "/dev/dma_heap/system"
  heapFd : Int := -1
  lastError : String := ""
  bufferSize : Nat := 0
  generation : Nat := 0
  buffers : List (Address × DmaBuf) := []
  freeBuffers : List Address := []
  deriving DecidableEq, Repr

namespace DmaBufPool

def addresses (pool : DmaBufPool) : List Address := pool.buffers.map Prod.fst

def available (pool : DmaBufPool) : Nat := pool.freeBuffers.length

def capacity (pool : DmaBufPool) : Nat := pool.buffers.length

def setError (error : String) (pool : DmaBufPool) : DmaBufPool := { pool with lastError := error }

def setAcquired (buffer : Address) (acquired : Bool) (pool : DmaBufPool) : DmaBufPool :=
  { pool with buffers := pool.buffers.map fun owned =>
      if owned.1 = buffer then (owned.1, owned.2.setAcquired acquired) else owned }

def ensureOpenLocked (answer : Allocation) (pool : DmaBufPool) : Bool × DmaBufPool :=
  if 0 ≤ pool.heapFd then (true, pool)
  else
    match answer.opened with
    | some fd => (true, { pool with heapFd := fd })
    | none =>
      (false, { pool with heapFd := -1 }.setError ("open dma heap failed: " ++ answer.errno))

def allocateLocked (answer : Allocation) (size : Nat) (map : Bool) (pool : DmaBufPool) :
    Option DmaBuf × DmaBufPool :=
  match ensureOpenLocked answer pool with
  | (false, pool) => (none, pool)
  | (true, pool) =>
    match answer.granted with
    | none => (none, pool.setError ("DMA_HEAP_IOCTL_ALLOC failed: " ++ answer.errno))
    | some fd =>
      let buffer : DmaBuf := { fd := fd, size := size }
      if map then
        match buffer.map answer.mapping with
        | (true, buffer) => (some buffer, pool)
        | (false, _) => (none, pool.setError ("mmap dma-buf failed: " ++ answer.errno))
      else (some buffer, pool)

/-- Forget the buffers, in a new generation. The flags are cleared before the objects go. -/
def retire (pool : DmaBufPool) : DmaBufPool :=
  { pool with generation := pool.generation + 1, buffers := [], freeBuffers := [] }

def allocateBuffers (size : Nat) (map : Bool) : List Allocation → DmaBufPool → Bool × DmaBufPool
  | [], pool => (true, pool)
  | answer :: rest, pool =>
    match allocateLocked answer size map pool with
    | (none, pool) => (false, { pool with buffers := [], freeBuffers := [] })
    | (some buffer, pool) =>
      allocateBuffers size map rest
        { pool with
          buffers := pool.buffers ++ [(answer.address, buffer.moveConstruct)]
          freeBuffers := pool.freeBuffers ++ [answer.address] }

/-- `DmaBufPool::initialize`: refill the pool. The buffer count is the number of answers. -/
def initializePool (bufferSize : Nat) (map : Bool) (answers : List Allocation) (pool : DmaBufPool) :
    Bool × DmaBufPool :=
  if bufferSize = 0 then (false, pool.setError "dma-buf allocation size must be non-zero")
  else if answers.length = 0 then
    (false, pool.setError "dma-buf pool buffer count must be non-zero")
  else allocateBuffers bufferSize map answers { pool.retire with bufferSize := bufferSize }

def acquire (self : PoolId) (pool : DmaBufPool) : DmaBufLease × DmaBufPool :=
  match pool.freeBuffers with
  | [] => ({}, pool.setError "no free dma-buf available")
  | buffer :: rest =>
    (⟨some self, some buffer, pool.generation⟩,
      { pool.setAcquired buffer true with freeBuffers := rest })

def close (pool : DmaBufPool) : DmaBufPool := { pool.retire with bufferSize := 0, heapFd := -1 }

/-- Take a buffer back. Only a buffer that the pool owns and has lent in this generation
counts. -/
def release (buffer : Option Address) (generation : Nat) (pool : DmaBufPool) : DmaBufPool :=
  match buffer with
  | none => pool
  | some buffer =>
    if generation ≠ pool.generation then pool
    else
      match pool.buffers.find? fun owned => owned.1 == buffer with
      | none => pool
      | some owned =>
        if owned.2.acquired then
          { pool.setAcquired buffer false with freeBuffers := pool.freeBuffers ++ [buffer] }
        else pool

end DmaBufPool

namespace DmaBufLease

def live (lease : DmaBufLease) : Bool := lease.buffer.isSome

/-- Return the buffer, if there is one, to its pool; the lease is then empty. -/
def reset (lease : DmaBufLease) (pools : List DmaBufPool) : DmaBufLease × List DmaBufPool :=
  match lease.pool, lease.buffer with
  | some p, some buffer =>
    match pools[p]? with
    | some pool => ({}, pools.set p (pool.release (some buffer) lease.generation))
    | none => ({}, pools)
  | _, _ => ({}, pools)

end DmaBufLease

def destroyAll (leases : List DmaBufLease) (pools : List DmaBufPool) : List DmaBufPool :=
  leases.foldl (fun pools lease => (lease.reset pools).2) pools

end MiniCam.Buffers.DmaBufAllocator
