/- Module: MiniCam/Buffers/LeaseConservation
   source: hal/dma_buf_allocator.cpp, app/buffer_tracker.cpp
   digest: Every buffer of a pool is free or held by one lease, whoever passes leases around. -/

import MiniCam.Foundation.Runs
import MiniCam.Foundation.Custody
import MiniCam.Buffers.BufferTracker

set_option autoImplicit false
set_option relaxedAutoImplicit false

namespace MiniCam.Buffers.LeaseConservation

open MiniCam.Foundation.Runs
open MiniCam.Foundation.KeyedTable
open MiniCam.Foundation.Custody
open MiniCam.Buffers.DmaBufAllocator
open MiniCam.Buffers.BufferTracker

section Lent

/-- A live lease on a buffer of the pool's present generation. -/
def Current (p : PoolId) (generation : Nat) (lease : DmaBufLease) : Prop :=
  lease.live = true ∧ lease.pool = some p ∧ lease.generation = generation

instance currentDecidable (p : PoolId) (generation : Nat) (lease : DmaBufLease) :
    Decidable (Current p generation lease) :=
  inferInstanceAs (Decidable (lease.live = true ∧ lease.pool = some p ∧
    lease.generation = generation))

def lentBy (p : PoolId) (generation : Nat) (lease : DmaBufLease) : Option Address :=
  if Current p generation lease then lease.buffer else none

def lent (p : PoolId) (generation : Nat) (leases : List DmaBufLease) : List Address :=
  leases.filterMap (lentBy p generation)

variable {p q : PoolId} {g : Nat} {lease : DmaBufLease} {leases leases' : List DmaBufLease}

theorem lentBy_eq_some {buffer : Address} :
    lentBy p g lease = some buffer ↔ Current p g lease ∧ lease.buffer = some buffer := by
  unfold lentBy
  split <;> simp [*]

theorem lentBy_isSome : (lentBy p g lease).isSome = true ↔ Current p g lease := by
  unfold lentBy
  split
  · rename_i current
    exact ⟨fun _ => current, fun _ => current.1⟩
  · rename_i other
    simp [other]

theorem mem_lent {buffer : Address} :
    buffer ∈ lent p g leases ↔
      ∃ lease ∈ leases, Current p g lease ∧ lease.buffer = some buffer := by
  simp only [lent, List.mem_filterMap, lentBy_eq_some]

theorem lent_perm (same : leases.Perm leases') : (lent p g leases).Perm (lent p g leases') :=
  same.filterMap _

theorem lent_cons_current {buffer : Address} (current : Current p g lease)
    (points : lease.buffer = some buffer) :
    lent p g (lease :: leases) = buffer :: lent p g leases :=
  List.filterMap_cons_some (lentBy_eq_some.mpr ⟨current, points⟩)

theorem lent_cons_other (other : ¬ Current p g lease) :
    lent p g (lease :: leases) = lent p g leases :=
  List.filterMap_cons_none (if_neg other)

theorem length_lent : (lent p g leases).length = leases.countP fun lease => Current p g lease := by
  rw [lent, List.length_filterMap_eq_countP]
  apply List.countP_congr
  intro lease _
  rw [lentBy_isSome, decide_eq_true_iff]

theorem count_lent (buffer : Address) :
    (lent p g leases).count buffer =
      leases.countP fun lease => Current p g lease ∧ lease.buffer = some buffer := by
  rw [lent, List.count_filterMap]
  apply List.countP_congr
  intro lease _
  rw [beq_iff_eq, lentBy_eq_some, decide_eq_true_iff]

end Lent

section Pools

structure Kept (pool : DmaBufPool) (away : List Address) : Prop where
  conserved : Conserved pool.addresses pool.freeBuffers away
  flagged : ∀ owned ∈ pool.buffers, owned.2.acquired = false ↔ owned.1 ∈ pool.freeBuffers

variable {pool : DmaBufPool} {away : List Address} {buffer : Address}

theorem Kept.reorder {away' : List Address} (K : Kept pool away) (same : away'.Perm away) :
    Kept pool away' :=
  ⟨K.conserved.reorder same, K.flagged⟩

@[simp]
theorem addresses_setAcquired (buffer : Address) (flag : Bool) (pool : DmaBufPool) :
    (pool.setAcquired buffer flag).addresses = pool.addresses := by
  simp only [DmaBufPool.addresses, DmaBufPool.setAcquired, List.map_map]
  apply List.map_congr_left
  intro owned _
  simp only [Function.comp_apply]
  split <;> rfl

theorem flagged_setAcquired {free : List Address} {flag : Bool}
    (flagged : ∀ owned ∈ pool.buffers, owned.2.acquired = false ↔ owned.1 ∈ pool.freeBuffers)
    (here : flag = false ↔ buffer ∈ free)
    (elsewhere : ∀ b, b ≠ buffer → (b ∈ free ↔ b ∈ pool.freeBuffers)) :
    ∀ owned ∈ (pool.setAcquired buffer flag).buffers,
      owned.2.acquired = false ↔ owned.1 ∈ free := by
  intro owned member
  obtain ⟨before, listed, rfl⟩ := List.mem_map.mp member
  by_cases same : before.1 = buffer
  · rw [if_pos same]
    have known : flag = false ↔ before.1 ∈ free := same ▸ here
    exact known
  · rw [if_neg same]
    have known := flagged before listed
    exact known.trans (elsewhere before.1 same).symm

theorem Kept.acquire {rest : List Address} (K : Kept pool away)
    (free : pool.freeBuffers = buffer :: rest) :
    Kept { pool.setAcquired buffer true with freeBuffers := rest } (buffer :: away) := by
  have C : Conserved pool.addresses (buffer :: rest) away := free ▸ K.conserved
  have distinct : buffer ∉ rest := (List.nodup_cons.mp C.free_distinct).1
  constructor
  · have same := addresses_setAcquired buffer true pool
    have lends := C.lend
    rw [← same] at lends
    exact lends
  · apply flagged_setAcquired K.flagged
    · simp [distinct]
    · intro b other
      rw [free]
      simp [other]

theorem Kept.release (K : Kept pool (buffer :: away)) :
    Kept (pool.release (some buffer) pool.generation) away := by
  have C := K.conserved
  have owned : buffer ∈ pool.addresses := C.owned_of_lent List.mem_cons_self
  have taken : buffer ∉ pool.freeBuffers := by
    intro at_home
    exact (C.free_iff owned).mp at_home List.mem_cons_self
  obtain ⟨entry, listed, here⟩ := List.mem_map.mp owned
  have found : (pool.buffers.find? fun owned => owned.1 == buffer).isSome = true := by
    rw [List.find?_isSome]
    exact ⟨entry, listed, beq_iff_eq.mpr here⟩
  obtain ⟨object, at_object⟩ := Option.isSome_iff_exists.mp found
  have address : object.1 = buffer := by
    have matching := List.find?_some at_object
    simpa using matching
  have flag : object.2.acquired = true := by
    have known := K.flagged object (List.mem_of_find?_eq_some at_object)
    rw [address] at known
    cases value : object.2.acquired with
    | true => rfl
    | false => exact absurd (known.mp value) taken
  have result : pool.release (some buffer) pool.generation =
      { pool.setAcquired buffer false with freeBuffers := pool.freeBuffers ++ [buffer] } := by
    simp only [DmaBufPool.release, ne_eq, not_true_eq_false, if_false, at_object, flag, if_true]
  rw [result]
  constructor
  · have same := addresses_setAcquired buffer false pool
    have back := C.giveBack
    rw [← same] at back
    exact back
  · apply flagged_setAcquired K.flagged
    · simp
    · intro b other
      simp [other]

theorem release_stale {generation : Nat} (stale : generation ≠ pool.generation)
    (buffer : Option Address) : pool.release buffer generation = pool := by
  unfold DmaBufPool.release
  cases buffer with
  | none => rfl
  | some b => exact if_pos stale

@[simp]
theorem release_generation (buffer : Option Address) (generation : Nat) :
    (pool.release buffer generation).generation = pool.generation := by
  unfold DmaBufPool.release
  cases buffer with
  | none => rfl
  | some b =>
    simp only
    split
    · rfl
    · split
      · rfl
      · split <;> rfl

structure Stocked (pool : DmaBufPool) : Prop where
  all_free : pool.freeBuffers = pool.addresses
  unused : ∀ owned ∈ pool.buffers, owned.2.acquired = false

theorem Stocked.kept (S : Stocked pool) (distinct : pool.addresses.Nodup) : Kept pool [] := by
  constructor
  · rw [S.all_free]
    exact Conserved.stocked distinct
  · intro owned member
    rw [S.all_free]
    simp [S.unused owned member, DmaBufPool.addresses, List.mem_map_of_mem member]

theorem allocateLocked_frame (answer : Allocation) (size : Nat) (map : Bool)
    (pool : DmaBufPool) :
    (pool.allocateLocked answer size map).2.buffers = pool.buffers ∧
      (pool.allocateLocked answer size map).2.freeBuffers = pool.freeBuffers ∧
      (pool.allocateLocked answer size map).2.generation = pool.generation := by
  have opens : (pool.ensureOpenLocked answer).2.buffers = pool.buffers ∧
      (pool.ensureOpenLocked answer).2.freeBuffers = pool.freeBuffers ∧
      (pool.ensureOpenLocked answer).2.generation = pool.generation := by
    unfold DmaBufPool.ensureOpenLocked
    split
    · exact ⟨rfl, rfl, rfl⟩
    · split <;> exact ⟨rfl, rfl, rfl⟩
  unfold DmaBufPool.allocateLocked
  split
  · rename_i refused
    rw [refused] at opens
    exact opens
  · rename_i opened
    rw [opened] at opens
    split
    · exact opens
    · split
      · simp only
        split <;> exact opens
      · exact opens

theorem allocateBuffers_stocked (size : Nat) (map : Bool) (answers : List Allocation) :
    ∀ pool : DmaBufPool, Stocked pool →
      (pool.addresses ++ answers.map Allocation.address).Nodup →
      Stocked (pool.allocateBuffers size map answers).2 ∧
        (pool.allocateBuffers size map answers).2.addresses.Nodup ∧
        (pool.allocateBuffers size map answers).2.generation = pool.generation := by
  induction answers with
  | nil =>
    intro pool S distinct
    rw [List.map_nil, List.append_nil] at distinct
    exact ⟨S, distinct, rfl⟩
  | cons answer rest ih =>
    intro pool S distinct
    obtain ⟨buffers, free, generation⟩ := allocateLocked_frame answer size map pool
    unfold DmaBufPool.allocateBuffers
    split
    · rename_i failed
      rw [failed] at generation
      exact ⟨⟨rfl, by simp⟩, List.nodup_nil, generation⟩
    · rename_i buffer pool' allocated
      rw [allocated] at buffers free generation
      have addresses : pool'.addresses = pool.addresses := congrArg (List.map Prod.fst) buffers
      have before : pool'.freeBuffers = pool'.addresses :=
        free.trans (S.all_free.trans addresses.symm)
      have stocked : Stocked { pool' with
          buffers := pool'.buffers ++ [(answer.address, buffer.moveConstruct)]
          freeBuffers := pool'.freeBuffers ++ [answer.address] } := by
        constructor
        · simp [DmaBufPool.addresses, before]
        · intro owned member
          rcases List.mem_append.mp member with old | new
          · exact S.unused owned (buffers ▸ old)
          · obtain rfl := List.mem_singleton.mp new
            rfl
      have listed : ({ pool' with
          buffers := pool'.buffers ++ [(answer.address, buffer.moveConstruct)]
          freeBuffers := pool'.freeBuffers ++ [answer.address] } : DmaBufPool).addresses =
          pool.addresses ++ [answer.address] := by
        rw [← addresses]
        simp [DmaBufPool.addresses]
      obtain ⟨filled, ends, later⟩ := ih _ stocked (by
        rw [listed, List.append_assoc]
        exact distinct)
      exact ⟨filled, ends, later.trans generation⟩

end Pools

section Balance

/-- Every pool against all leases. No lease is younger than its pool. -/
structure Balanced (pools : List DmaBufPool) (leases : List DmaBufLease) : Prop where
  kept : ∀ p pool, pools[p]? = some pool → Kept pool (lent p pool.generation leases)
  dated : ∀ lease ∈ leases, ∀ p, lease.pool = some p →
    ∃ pool, pools[p]? = some pool ∧ lease.generation ≤ pool.generation

variable {pools : List DmaBufPool} {leases leases' : List DmaBufLease} {lease : DmaBufLease}
variable {p : PoolId} {pool new : DmaBufPool}

theorem Balanced.reorder (B : Balanced pools leases) (same : leases'.Perm leases) :
    Balanced pools leases' := by
  constructor
  · intro p pool found
    exact (B.kept p pool found).reorder (lent_perm same)
  · intro lease member
    exact B.dated lease (same.subset member)

theorem Balanced.addEmpty (B : Balanced pools leases) : Balanced pools ({} :: leases) := by
  constructor
  · intro p pool found
    have other : ¬ Current p pool.generation {} := by
      rintro ⟨-, named, -⟩
      cases named
    rw [lent_cons_other other]
    exact B.kept p pool found
  · intro lease member q named
    rcases List.mem_cons.mp member with rfl | old
    · cases named
    · exact B.dated lease old q named

theorem Balanced.replace (B : Balanced pools leases) (found : pools[p]? = some pool)
    (kept : Kept new (lent p new.generation leases')) (later : pool.generation ≤ new.generation)
    (others : ∀ q g, q ≠ p → (lent q g leases').Perm (lent q g leases))
    (dated : ∀ lease ∈ leases', lease ∈ leases ∨
      lease.pool = some p ∧ lease.generation ≤ new.generation) :
    Balanced (pools.set p new) leases' := by
  have here : (pools.set p new)[p]? = some new := by
    obtain ⟨inside, -⟩ := List.getElem?_eq_some_iff.mp found
    exact List.getElem?_set_self inside
  have there : ∀ q, q ≠ p → (pools.set p new)[q]? = pools[q]? := by
    intro q other
    exact List.getElem?_set_ne (Ne.symm other)
  constructor
  · intro q at_q found_q
    by_cases same : q = p
    · subst same
      obtain rfl := Option.some.inj (here.symm.trans found_q)
      exact kept
    · rw [there q same] at found_q
      exact (B.kept q at_q found_q).reorder (others q at_q.generation same)
  · intro lease member q named
    rcases dated lease member with old | ⟨mine, bound⟩
    · obtain ⟨at_q, found_q, bound⟩ := B.dated lease old q named
      by_cases same : q = p
      · subst same
        obtain rfl := Option.some.inj (found.symm.trans found_q)
        exact ⟨new, here, Nat.le_trans bound later⟩
      · exact ⟨at_q, (there q same).trans found_q, bound⟩
    · obtain rfl := Option.some.inj (mine.symm.trans named)
      exact ⟨new, here, bound⟩

theorem set_same {α : Type} {l : List α} {i : Nat} {x : α} (found : l[i]? = some x) :
    l.set i x = l := by
  obtain ⟨there, rfl⟩ := List.getElem?_eq_some_iff.mp found
  exact List.set_getElem_self there

theorem reset_pools (lease : DmaBufLease) (pools : List DmaBufPool) :
    (lease.reset pools).2 = pools ∧ (∀ p pool, pools[p]? = some pool →
        ¬ Current p pool.generation lease) ∨
      ∃ p pool buffer, pools[p]? = some pool ∧ lease.buffer = some buffer ∧
        Current p pool.generation lease ∧
        (lease.reset pools).2 = pools.set p (pool.release (some buffer) pool.generation) := by
  obtain ⟨at_pool, at_buffer, generation⟩ := lease
  cases at_pool with
  | none =>
    refine Or.inl ⟨rfl, ?_⟩
    rintro p pool - ⟨-, named, -⟩
    cases named
  | some p =>
    cases at_buffer with
    | none =>
      refine Or.inl ⟨rfl, ?_⟩
      rintro q pool - ⟨live, -, -⟩
      cases live
    | some buffer =>
      cases found : pools[p]? with
      | none =>
        refine Or.inl ⟨?_, ?_⟩
        · simp only [DmaBufLease.reset, found]
        · rintro q pool at_q ⟨-, named, -⟩
          obtain rfl := Option.some.inj named
          rw [found] at at_q
          cases at_q
      | some pool =>
        have returned : (DmaBufLease.reset ⟨some p, some buffer, generation⟩ pools).2 =
            pools.set p (pool.release (some buffer) generation) := by
          simp only [DmaBufLease.reset, found]
        by_cases same : generation = pool.generation
        · subst same
          exact Or.inr ⟨p, pool, buffer, found, rfl, ⟨rfl, rfl, rfl⟩, returned⟩
        · refine Or.inl ⟨?_, ?_⟩
          · rw [returned, release_stale same]
            exact set_same found
          · rintro q other at_q ⟨-, named, dated⟩
            obtain rfl := Option.some.inj named
            obtain rfl := Option.some.inj (found.symm.trans at_q)
            exact same dated

theorem Balanced.drop (B : Balanced pools (lease :: leases)) :
    Balanced (lease.reset pools).2 leases := by
  rcases reset_pools lease pools with
    ⟨same, other⟩ | ⟨p, pool, buffer, found, points, current, same⟩
  · rw [same]
    constructor
    · intro q pool found
      have kept := B.kept q pool found
      rw [lent_cons_other (other q pool found)] at kept
      exact kept
    · intro lease' member
      exact B.dated lease' (List.mem_cons_of_mem lease member)
  · rw [same]
    have kept := B.kept p pool found
    rw [lent_cons_current current points] at kept
    refine B.replace found ?_ (by simp) ?_ ?_
    · rw [release_generation]
      exact kept.release
    · intro q g other
      have elsewhere : ¬ Current q g lease := by
        rintro ⟨-, named, -⟩
        exact other (Option.some.inj (named.symm.trans current.2.1))
      rw [lent_cons_other elsewhere]
    · intro lease' member
      exact Or.inl (List.mem_cons_of_mem lease member)

theorem Balanced.dropAll (dropped : List DmaBufLease) :
    ∀ pools : List DmaBufPool, Balanced pools (dropped ++ leases) →
      Balanced (destroyAll dropped pools) leases := by
  induction dropped with
  | nil =>
    intro pools B
    exact B
  | cons lease rest ih =>
    intro pools B
    exact ih (lease.reset pools).2 B.drop

theorem Balanced.acquire (B : Balanced pools leases) (found : pools[p]? = some pool) :
    Balanced (pools.set p (pool.acquire p).2) ((pool.acquire p).1 :: leases) := by
  have kept := B.kept p pool found
  cases free : pool.freeBuffers with
  | nil =>
    have result : pool.acquire p = ({}, pool.setError "no free dma-buf available") := by
      simp only [DmaBufPool.acquire, free]
    rw [result]
    have unchanged : Kept (pool.setError "no free dma-buf available")
        (lent p (pool.setError "no free dma-buf available").generation leases) :=
      ⟨kept.conserved, kept.flagged⟩
    apply Balanced.addEmpty
    exact B.replace found unchanged (Nat.le_refl _) (fun q g _ => List.Perm.refl _)
      (fun lease member => Or.inl member)
  | cons buffer rest =>
    have result : pool.acquire p = (⟨some p, some buffer, pool.generation⟩,
        { pool.setAcquired buffer true with freeBuffers := rest }) := by
      simp only [DmaBufPool.acquire, free]
    rw [result]
    refine B.replace found ?_ (Nat.le_refl _) ?_ ?_
    · have current : Current p pool.generation ⟨some p, some buffer, pool.generation⟩ :=
        ⟨rfl, rfl, rfl⟩
      have lends : lent p pool.generation (⟨some p, some buffer, pool.generation⟩ :: leases) =
          buffer :: lent p pool.generation leases := lent_cons_current current rfl
      exact lends ▸ kept.acquire free
    · intro q g other
      have elsewhere : ¬ Current q g ⟨some p, some buffer, pool.generation⟩ := by
        rintro ⟨-, named, -⟩
        exact other (Option.some.inj named).symm
      rw [lent_cons_other elsewhere]
    · intro lease member
      rcases List.mem_cons.mp member with rfl | old
      · exact Or.inr ⟨rfl, Nat.le_refl _⟩
      · exact Or.inl old

theorem Balanced.lent_after (B : Balanced pools leases) (found : pools[p]? = some pool) {g : Nat}
    (later : pool.generation < g) : lent p g leases = [] := by
  apply List.filterMap_eq_nil_iff.mpr
  intro lease member
  apply if_neg
  rintro ⟨-, named, dated⟩
  obtain ⟨pool', found', bound⟩ := B.dated lease member p named
  obtain rfl := Option.some.inj (found.symm.trans found')
  omega

theorem Balanced.renew (B : Balanced pools leases) (found : pools[p]? = some pool)
    (S : Stocked new) (distinct : new.addresses.Nodup)
    (later : pool.generation < new.generation) : Balanced (pools.set p new) leases := by
  refine B.replace found ?_ (Nat.le_of_lt later) (fun q g _ => List.Perm.refl _)
    (fun lease member => Or.inl member)
  rw [B.lent_after found later]
  exact S.kept distinct

theorem Balanced.initializePool (B : Balanced pools leases) (found : pools[p]? = some pool)
    (bufferSize : Nat) (map : Bool) {answers : List Allocation}
    (distinct : (answers.map Allocation.address).Nodup) :
    Balanced (pools.set p (pool.initializePool bufferSize map answers).2) leases := by
  have kept := B.kept p pool found
  have refused : ∀ error, Balanced (pools.set p (pool.setError error)) leases := by
    intro error
    have unchanged : Kept (pool.setError error) (lent p (pool.setError error).generation leases) :=
      ⟨kept.conserved, kept.flagged⟩
    exact B.replace found unchanged (Nat.le_refl _) (fun q g _ => List.Perm.refl _)
      (fun lease member => Or.inl member)
  unfold DmaBufPool.initializePool
  split
  · exact refused _
  · split
    · exact refused _
    · obtain ⟨stocked, ends, generation⟩ := allocateBuffers_stocked bufferSize map answers
        { pool.retire with bufferSize := bufferSize } ⟨rfl, by simp [DmaBufPool.retire]⟩ distinct
      apply B.renew found stocked ends
      rw [generation]
      exact Nat.lt_succ_self pool.generation

theorem Balanced.close (B : Balanced pools leases) (found : pools[p]? = some pool) :
    Balanced (pools.set p pool.close) leases := by
  apply B.renew found
  · exact ⟨rfl, by simp [DmaBufPool.close, DmaBufPool.retire]⟩
  · exact List.nodup_nil
  · exact Nat.lt_succ_self pool.generation

theorem Balanced.createPool (B : Balanced pools leases) (heapPath : String) :
    Balanced (pools ++ [{ heapPath := heapPath }]) leases := by
  have kept : ∀ (p : PoolId) (pool : DmaBufPool), pools[p]? = some pool →
      (pools ++ [{ heapPath := heapPath }])[p]? = some pool := by
    intro p pool found
    obtain ⟨inside, -⟩ := List.getElem?_eq_some_iff.mp found
    rw [List.getElem?_append_left inside]
    exact found
  constructor
  · intro p pool found
    rcases Nat.lt_or_ge p pools.length with inside | outside
    · rw [List.getElem?_append_left inside] at found
      exact B.kept p pool found
    · have away : lent p pool.generation leases = [] := by
        apply List.filterMap_eq_nil_iff.mpr
        intro lease member
        apply if_neg
        rintro ⟨-, named, -⟩
        obtain ⟨pool', found', -⟩ := B.dated lease member p named
        obtain ⟨inside, -⟩ := List.getElem?_eq_some_iff.mp found'
        omega
      rw [List.getElem?_append_right outside] at found
      obtain rfl := List.mem_singleton.mp (List.mem_of_getElem? found)
      rw [away]
      apply Stocked.kept
      · exact ⟨rfl, by simp⟩
      · exact List.nodup_nil
  · intro lease member p named
    obtain ⟨pool, found, bound⟩ := B.dated lease member p named
    exact ⟨pool, kept p pool found, bound⟩

end Balance

section Steps

variable {s s' : System}

def others (x : Nat) (s : System) : List DmaBufLease :=
  values (s.held.erase x) ++ s.trackers.flatMap Tracker.leases

theorem leases_perm_held {x : Nat} {lease : DmaBufLease} (found : s.held.lookup x = some lease) :
    s.leases.Perm (lease :: others x s) :=
  (values_perm_cons_erase found).append_right _

theorem leases_insert (x : Nat) (lease : DmaBufLease) (pools : List DmaBufPool) (s : System) :
    ({ s with pools := pools, held := s.held.insert x lease } : System).leases =
      lease :: others x s := by
  simp only [System.leases, values_insert, others]
  rfl

theorem leases_insert_fresh {x : Nat} (fresh : x ∉ s.held) (lease : DmaBufLease)
    (pools : List DmaBufPool) :
    ({ s with pools := pools, held := s.held.insert x lease } : System).leases =
      lease :: s.leases := by
  rw [leases_insert, others, erase_of_fresh fresh]
  rfl

def outside (t : Nat) (s : System) : List DmaBufLease :=
  values s.held ++ (s.trackers.eraseIdx t).flatMap Tracker.leases

theorem leases_set_tracker {t : Nat} (there : t < s.trackers.length) (tracker : Tracker)
    (pools : List DmaBufPool) :
    ({ s with pools := pools, trackers := s.trackers.set t tracker } : System).leases.Perm
      (tracker.leases ++ outside t s) := by
  have first : ((s.trackers.set t tracker).flatMap Tracker.leases).Perm
      (tracker.leases ++ (s.trackers.eraseIdx t).flatMap Tracker.leases) := by
    rw [← List.flatMap_cons]
    exact (List.set_perm_cons_eraseIdx there tracker).flatMap_right Tracker.leases
  apply (first.append_left (values s.held)).trans
  unfold outside
  rw [← List.append_assoc, ← List.append_assoc]
  exact List.perm_append_comm.append_right _

theorem leases_perm_tracker {t : Nat} {tracker : Tracker} (found : s.trackers[t]? = some tracker) :
    s.leases.Perm (tracker.leases ++ outside t s) := by
  obtain ⟨there, -⟩ := List.getElem?_eq_some_iff.mp found
  have same := leases_set_tracker there tracker s.pools
  rw [set_same found] at same
  exact same

theorem registerBuffer_cases (bufferId : Int) (lease : DmaBufLease) (target : DmaBuf)
    (tracker : Tracker) (pools : List DmaBufPool) :
    (∃ kept : Tracker, kept.leases = lease :: tracker.leases ∧
      tracker.registerBuffer bufferId lease target pools = (true, kept, pools)) ∨
    tracker.registerBuffer bufferId lease target pools =
      (false, tracker, (lease.reset pools).2) := by
  unfold Tracker.registerBuffer
  split
  · simp only
    split
    · exact Or.inr rfl
    · rename_i fresh
      refine Or.inl ⟨_, ?_, rfl⟩
      simp only [Tracker.leases, values_insert_of_fresh fresh, List.map_cons]
  · exact Or.inr rfl

theorem takeMetadata_cases (bufferId : Int) (tracker : Tracker) :
    tracker.takeMetadata bufferId = (none, tracker) ∨
      ∃ tracked rest, tracker.takeMetadata bufferId = (some tracked, rest) ∧
        tracker.leases.Perm (tracked.lease :: rest.leases) := by
  unfold Tracker.takeMetadata
  split
  · exact Or.inl rfl
  · rename_i tracked found
    refine Or.inr ⟨tracked, _, rfl, ?_⟩
    exact (values_perm_cons_erase found).map TrackedBuffer.lease

private theorem moveConstruct_balanced {x other : Nat} (B : Balanced s.pools s.leases)
    (taken : step s (.moveConstruct x other) = some s') : Balanced s'.pools s'.leases := by
  simp only [step] at taken
  split at taken
  · cases taken
  · rename_i fresh
    obtain ⟨lease, found, rfl⟩ := Option.map_eq_some_iff.mp taken
    have new : x ∉ s.held.insert other {} := by
      rw [AList.mem_insert]
      rintro (rfl | old)
      · exact fresh (mem_of_lookup found)
      · exact fresh old
    have emptied := leases_insert other {} s.pools s
    have moved := leases_insert_fresh
      (s := { s with held := s.held.insert other {} }) new lease s.pools
    rw [moved, emptied]
    apply Balanced.reorder _ (List.Perm.swap _ _ _)
    exact (B.reorder (leases_perm_held found).symm).addEmpty

private theorem moveAssign_balanced {x other : Nat} (B : Balanced s.pools s.leases)
    (taken : step s (.moveAssign x other) = some s') : Balanced s'.pools s'.leases := by
  obtain ⟨mine, found, rest⟩ := Option.bind_eq_some_iff.mp taken
  obtain ⟨lease, found', rfl⟩ := Option.map_eq_some_iff.mp rest
  split
  · exact B
  · rename_i distinct
    -- The variable that is assigned to still holds its own lease when the other is emptied.
    let emptied : System := { s with held := s.held.insert other {} }
    have still : emptied.held.lookup x = some mine := by
      rw [AList.lookup_insert_ne distinct]
      exact found
    have listed : emptied.leases = {} :: others other s := leases_insert other {} s.pools s
    have both : Balanced s.pools (lease :: mine :: others x emptied) := by
      have first := (B.reorder (leases_perm_held found').symm).addEmpty
      have second := first.reorder (List.Perm.swap _ _ _)
      rw [← listed] at second
      exact second.reorder ((leases_perm_held still).symm.cons lease)
    have moved := leases_insert x lease (mine.reset s.pools).2 emptied
    rw [moved]
    exact (both.reorder (List.Perm.swap _ _ _)).drop

private theorem registerBuffer_balanced {t x : Nat} {bufferId : Int} {unknown : DmaBuf}
    (B : Balanced s.pools s.leases)
    (taken : step s (.registerBuffer t bufferId x unknown) = some s') :
    Balanced s'.pools s'.leases := by
  obtain ⟨tracker, at_tracker, rest⟩ := Option.bind_eq_some_iff.mp taken
  obtain ⟨lease, found, rfl⟩ := Option.map_eq_some_iff.mp rest
  obtain ⟨there, -⟩ := List.getElem?_eq_some_iff.mp at_tracker
  -- The parameter has taken the lease over, and the variable is empty.
  let passed : System := { s with held := s.held.insert x {} }
  have listed : passed.leases = {} :: others x s := leases_insert x {} s.pools s
  have moved : Balanced s.pools (lease :: passed.leases) := by
    rw [listed]
    have first := (B.reorder (leases_perm_held found).symm).addEmpty
    exact first.reorder (List.Perm.swap _ _ _)
  rcases registerBuffer_cases bufferId lease (s.target unknown lease) tracker s.pools with
    ⟨kept, more, result⟩ | result
  · simp only [result]
    have after := leases_set_tracker (s := passed) there kept s.pools
    rw [more] at after
    apply Balanced.reorder _ after
    exact moved.reorder ((leases_perm_tracker (s := passed) at_tracker).symm.cons lease)
  · simp only [result, set_same at_tracker]
    exact moved.drop

private theorem takeMetadata_balanced {t x : Nat} {bufferId : Int}
    (B : Balanced s.pools s.leases) (taken : step s (.takeMetadata t bufferId x) = some s') :
    Balanced s'.pools s'.leases := by
  simp only [step] at taken
  split at taken
  · cases taken
  · rename_i fresh
    obtain ⟨tracker, at_tracker, rfl⟩ := Option.map_eq_some_iff.mp taken
    obtain ⟨there, -⟩ := List.getElem?_eq_some_iff.mp at_tracker
    rcases takeMetadata_cases bufferId tracker with result | ⟨tracked, rest, result, less⟩
    · simp only [result]
      exact B
    · simp only [result]
      have added := leases_insert_fresh (s := { s with trackers := s.trackers.set t rest }) fresh
        tracked.lease s.pools
      rw [added]
      apply Balanced.reorder _ ((leases_set_tracker there rest s.pools).cons tracked.lease)
      apply B.reorder
      exact (less.append_right _).symm.trans (leases_perm_tracker at_tracker).symm

private theorem release_balanced {t : Nat} {bufferId : Int} (B : Balanced s.pools s.leases)
    (taken : step s (.release t bufferId) = some s') : Balanced s'.pools s'.leases := by
  obtain ⟨tracker, at_tracker, rfl⟩ := Option.map_eq_some_iff.mp taken
  obtain ⟨there, -⟩ := List.getElem?_eq_some_iff.mp at_tracker
  rcases takeMetadata_cases bufferId tracker with result | ⟨tracked, rest, result, less⟩
  · simp only [Tracker.release, result, set_same at_tracker]
    exact B
  · simp only [Tracker.release, result]
    apply Balanced.reorder _ (leases_set_tracker there rest _)
    apply Balanced.drop
    apply B.reorder
    apply List.Perm.trans _ (leases_perm_tracker at_tracker).symm
    exact (less.append_right _).symm

theorem step_balanced {a : Operation} (B : Balanced s.pools s.leases) (taken : step s a = some s') :
    Balanced s'.pools s'.leases := by
  cases a with
  | createPool heapPath =>
    cases taken
    exact B.createPool heapPath
  | initializePool p bufferSize map answers =>
    simp only [step] at taken
    split at taken
    · rename_i fresh
      obtain ⟨pool, found, rfl⟩ := Option.map_eq_some_iff.mp taken
      exact B.initializePool found bufferSize map fresh.1
    · cases taken
  | acquire p x =>
    simp only [step] at taken
    split at taken
    · cases taken
    · rename_i fresh
      obtain ⟨pool, found, rfl⟩ := Option.map_eq_some_iff.mp taken
      rw [leases_insert_fresh fresh]
      exact B.acquire found
  | close p =>
    obtain ⟨pool, found, rfl⟩ := Option.map_eq_some_iff.mp taken
    exact B.close found
  | defaultConstruct x =>
    simp only [step] at taken
    split at taken
    · cases taken
    · rename_i fresh
      cases taken
      rw [leases_insert_fresh fresh]
      exact B.addEmpty
  | moveConstruct x other => exact moveConstruct_balanced B taken
  | moveAssign x other => exact moveAssign_balanced B taken
  | reset x =>
    obtain ⟨lease, found, rfl⟩ := Option.map_eq_some_iff.mp taken
    have empty : (lease.reset s.pools).1 = {} := by
      unfold DmaBufLease.reset
      split
      · split <;> rfl
      · rfl
    rw [leases_insert, empty]
    exact (B.reorder (leases_perm_held found).symm).drop.addEmpty
  | destroy x =>
    obtain ⟨lease, found, rfl⟩ := Option.map_eq_some_iff.mp taken
    exact (B.reorder (leases_perm_held found).symm).drop
  | createTracker =>
    cases taken
    have same : ({ s with trackers := s.trackers ++ [{}] } : System).leases = s.leases := by
      simp [System.leases, Tracker.leases, values]
    rw [same]
    exact B
  | registerBuffer t bufferId x unknown => exact registerBuffer_balanced B taken
  | takeMetadata t bufferId x => exact takeMetadata_balanced B taken
  | release t bufferId => exact release_balanced B taken
  | releaseAll t order =>
    obtain ⟨tracker, at_tracker, rest⟩ := Option.bind_eq_some_iff.mp taken
    split at rest
    · rename_i all
      cases rest
      obtain ⟨there, -⟩ := List.getElem?_eq_some_iff.mp at_tracker
      have emptied := leases_set_tracker there {} (destroyAll order s.pools)
      apply Balanced.reorder _ emptied
      apply Balanced.dropAll
      exact B.reorder ((all.append_right _).trans (leases_perm_tracker at_tracker).symm)
    · cases rest

/-- A pool against the leases on its buffers. -/
structure PoolConserved (p : PoolId) (pool : DmaBufPool) (leases : List DmaBufLease) : Prop where
  free_distinct : pool.freeBuffers.Nodup
  free_owned : ∀ buffer ∈ pool.freeBuffers, buffer ∈ pool.addresses
  free_iff_unflagged : ∀ owned ∈ pool.buffers,
    owned.1 ∈ pool.freeBuffers ↔ owned.2.acquired = false
  free_iff_unleased : ∀ owned ∈ pool.buffers, owned.1 ∈ pool.freeBuffers ↔
    ∀ lease ∈ leases, Current p pool.generation lease → lease.buffer ≠ some owned.1
  one_lease : ∀ buffer, (leases.countP fun lease =>
    Current p pool.generation lease ∧ lease.buffer = some buffer) ≤ 1
  total : pool.available + (leases.countP fun lease => Current p pool.generation lease) =
    pool.capacity

theorem Kept.poolConserved {p : PoolId} {pool : DmaBufPool} {leases : List DmaBufLease}
    (K : Kept pool (lent p pool.generation leases)) : PoolConserved p pool leases := by
  have C := K.conserved
  refine ⟨C.free_distinct, fun buffer => C.owned_of_free, ?_, ?_, ?_, ?_⟩
  · intro owned member
    exact (K.flagged owned member).symm
  · intro owned member
    have known : owned.1 ∈ pool.addresses := List.mem_map_of_mem member
    rw [C.free_iff known, mem_lent]
    push Not
    rfl
  · intro buffer
    rw [← count_lent]
    exact List.nodup_iff_count_le_one.mp C.lent_distinct buffer
  · have sum := C.total
    rw [length_lent, DmaBufPool.addresses, List.length_map] at sum
    exact sum

/-- After any operations each pool is conserved, and a lease of an older generation goes out of
scope without a trace. -/
theorem leases_conserved (run : Reaches step always {} s) :
    (∀ p pool, s.pools[p]? = some pool → PoolConserved p pool s.leases) ∧
      ∀ lease ∈ s.leases, ∀ p pool, lease.pool = some p → s.pools[p]? = some pool →
        lease.generation < pool.generation → (lease.reset s.pools).2 = s.pools := by
  have B : Balanced s.pools s.leases := by
    refine Reaches.invariant (fun s => Balanced s.pools s.leases) ?_ run ?_
    · intro s a t B _ taken
      exact step_balanced B taken
    · constructor
      · intro p pool found
        simp at found
      · intro lease member
        simp [System.leases, values] at member
  constructor
  · intro p pool found
    exact (B.kept p pool found).poolConserved
  · intro lease _ p pool named found older
    rcases reset_pools lease s.pools with ⟨same, -⟩ | ⟨q, other, buffer, found', -, current, -⟩
    · exact same
    · obtain rfl := Option.some.inj (named.symm.trans current.2.1)
      obtain rfl := Option.some.inj (found.symm.trans found')
      have dated := current.2.2
      omega

private def granted (first second : Address) : List Allocation :=
  [{ opened := some 3, granted := some 20, address := first },
   { opened := some 3, granted := some 21, address := second }]

theorem leases_conserved_refilled :
    ∃ s : System, (s.pools.map DmaBufPool.available = [1] ∧
        s.pools.map DmaBufPool.capacity = [2] ∧
        s.leases.map DmaBufLease.buffer = [none, none, some 100, some 100]) ∧
      (∀ p pool, s.pools[p]? = some pool → PoolConserved p pool s.leases) ∧
        ∀ lease ∈ s.leases, ∀ p pool, lease.pool = some p → s.pools[p]? = some pool →
          lease.generation < pool.generation → (lease.reset s.pools).2 = s.pools := by
  obtain ⟨s, run, passed⟩ := exists_reaches_of_replay step always {}
    [.createPool "/dev/dma_heap/system", .initializePool 0 64 false (granted 100 104),
      .createTracker, .acquire 0 0, .initializePool 0 64 false (granted 100 108), .acquire 0 1,
      .registerBuffer 0 7 1 {}, .acquire 0 2, .registerBuffer 0 7 2 {}, .moveAssign 1 2]
    (fun s => decide (s.pools.map DmaBufPool.available = [1] ∧
      s.pools.map DmaBufPool.capacity = [2] ∧
      s.leases.map DmaBufLease.buffer = [none, none, some 100, some 100])) (by decide +kernel)
  exact ⟨s, of_decide_eq_true passed, leases_conserved run⟩

end Steps

end MiniCam.Buffers.LeaseConservation
