/- Module: MiniCam/Runtime/Readiness
   source: hal/camera_hal_runtime.cpp, hal/epoll_event_loop.cpp, hal/task_executor.cpp
   digest: Where the readiness of a registered descriptor is, and the full queue that
     loses it. -/

import MiniCam.Runtime.SessionIsolation

set_option autoImplicit false
set_option relaxedAutoImplicit false

namespace MiniCam.Runtime.Readiness

open MiniCam.Foundation.KeyedTable
open MiniCam.Foundation.Runs (Reaches always exists_reaches_of_replay)
open MiniCam.Runtime.EpollEventLoop
open MiniCam.Runtime.CameraHalRuntime
open MiniCam.Runtime.CameraHalRuntime.HalRuntime
open MiniCam.Runtime.SessionIsolation

def Armed (s : HalRuntime) (fd : Nat) : Prop := s.loop.interest fd = some true

/-- The loop thread has an event of the descriptor in its hands. -/
def Delivering (s : HalRuntime) (fd : Nat) : Prop := fd ∈ s.loop.thread.events

/-- A readiness task of the descriptor is queued or running on the session's shard. It
ends with `rearm_fd` as long as the session lives. -/
def Pending (s : HalRuntime) (h fd : Nat) : Prop :=
  .driverReady h fd ∈ s.executor.tasksOn (s.shardOf h)

def InOneSituation (s : HalRuntime) (h fd : Nat) : Prop :=
  (Armed s fd ∧ ¬ Delivering s fd ∧ ¬ Pending s h fd) ∨
    (¬ Armed s fd ∧ Delivering s fd ∧ ¬ Pending s h fd) ∨
    (¬ Armed s fd ∧ ¬ Delivering s fd ∧ Pending s h fd)

def Unused (s : HalRuntime) (fd : Nat) : Prop :=
  fd ∉ s.loop.thread.events ∧ ∀ shard < s.executor.shardCount,
    ∀ task ∈ s.executor.tasksOn shard, task.readyFd ≠ some fd

def nextStored : Stage → Option Nat
  | .registering _ (fd :: _) => some fd
  | _ => none

/-- A readiness task of a registered session finds room in its shard's queue, and a
number is registered only when nothing is left of an earlier use. -/
def Roomy (s : HalRuntime) : Label → Prop
  | .registerFd h => ∀ fd ∈ nextStored (s.sessions h).stage, Unused s fd
  | .deliver lost =>
    match s.loop.thread with
    | .calling fd h _ => fd ∈ addedFds (s.sessions h) → (s.sessions h).alive = true →
        lost = false ∧ (s.executor.queues (s.shardOf h)).length < s.executor.capacity
    | .batch _ => True
  | _ => True

/-- Nor is a registration taken away by another session. -/
def ReadinessKept (s : HalRuntime) (a : Label) : Prop := Apart s a ∧ Roomy s a

def tally (s : HalRuntime) (h fd : Nat) : Nat :=
  (if s.loop.interest fd = some true then 1 else 0) + s.loop.thread.events.count fd +
    (s.executor.tasksOn (s.shardOf h)).count (.driverReady h fd)

structure Sole (s : HalRuntime) (h fd : Nat) : Prop where
  one : (s.sessions h).alive = true → tally s h fd = 1
  mine : ∀ h' rest, s.loop.thread = .calling fd h' rest → h' = h
  tasks : ∀ shard < s.executor.shardCount, ∀ h',
    .driverReady h' fd ∈ s.executor.tasksOn shard → h' = h ∧ shard = s.shardOf h

def waitingFds (v : SessionView) : List Nat :=
  match v.stage with
  | .registering _ rest => rest
  | .adding _ fd rest => fd :: rest
  | _ => []

def Early (v : SessionView) : Prop := v.stage = .created ∨ v.stage = .opening

structure Watched (s : HalRuntime) : Prop where
  shards : 0 < s.executor.shardCount
  opened : s.loop.running = true → s.loop.opened = true
  started : s.loop.opened = true → s.executor.started = true
  distinct : ∀ h, (s.sessions h).driverFds.Nodup
  entered : ∀ fd, (s.loop.interest fd).isSome = true → ∃ h, s.numbers.lookup fd = some (some h) ∧
    ¬ Early (s.sessions h) ∧ fd ∉ waitingFds (s.sessions h)
  unused : ∀ h registered fd rest, (s.sessions h).stage = .adding registered fd rest → Unused s fd
  sole : s.loop.running = true → ∀ h, ∀ fd ∈ addedFds (s.sessions h), Sole s h fd

theorem Sole.situation {s : HalRuntime} {h fd : Nat} (S : Sole s h fd)
    (alive : (s.sessions h).alive = true) : InOneSituation s h fd := by
  have one := S.one alive
  simp only [tally] at one
  have armed : (if s.loop.interest fd = some true then 1 else 0) = 1 ↔ Armed s fd := by
    simp [Armed]
  have delivering : 0 < s.loop.thread.events.count fd ↔ Delivering s fd := List.count_pos_iff
  have pending : 0 < (s.executor.tasksOn (s.shardOf h)).count (.driverReady h fd) ↔
      Pending s h fd := List.count_pos_iff
  rw [InOneSituation, ← armed, ← delivering, ← pending]
  omega

section Events

variable {s t : HalRuntime} {h fd : Nat}

theorem Sole.congr (S : Sole s h fd) (interest : t.loop.interest fd = s.loop.interest fd)
    (thread : t.loop.thread = s.loop.thread)
    (shardCount : t.executor.shardCount = s.executor.shardCount)
    (ids : (t.sessions h).sessionId = (s.sessions h).sessionId)
    (alive : (t.sessions h).alive = true → (s.sessions h).alive = true)
    (count : (s.sessions h).alive = true →
      (t.executor.tasksOn (s.shardOf h)).count (.driverReady h fd) =
        (s.executor.tasksOn (s.shardOf h)).count (.driverReady h fd))
    (tasks : ∀ shard h', .driverReady h' fd ∈ t.executor.tasksOn shard →
      .driverReady h' fd ∈ s.executor.tasksOn shard) : Sole t h fd := by
  have shard := shardOf_congr ids shardCount
  refine ⟨fun living => ?_, ?_, fun k inside h' member => ?_⟩
  · rw [← S.one (alive living), tally, tally, interest, thread, shard, count (alive living)]
  · rw [thread]
    exact S.mine
  · rw [shard]
    exact S.tasks k (shardCount ▸ inside) h' (tasks k h' member)

theorem Sole.same (S : Sole s h fd) (interest : t.loop.interest fd = s.loop.interest fd)
    (thread : t.loop.thread = s.loop.thread)
    (shardCount : t.executor.shardCount = s.executor.shardCount)
    (tasks : t.executor.tasksOn = s.executor.tasksOn)
    (ids : (t.sessions h).sessionId = (s.sessions h).sessionId)
    (alive : (t.sessions h).alive = true → (s.sessions h).alive = true) : Sole t h fd :=
  S.congr interest thread shardCount ids alive (fun _ => by rw [tasks]) fun _ _ member =>
    tasks ▸ member

theorem Unused.congr (U : Unused s fd) (thread : t.loop.thread = s.loop.thread)
    (shardCount : t.executor.shardCount = s.executor.shardCount)
    (tasks : t.executor.tasksOn = s.executor.tasksOn) : Unused t fd := by
  rw [Unused, thread, shardCount, tasks]
  exact U

theorem Sole.drops (S : Sole s h fd) {shard : Nat} {task : RuntimeTask} {rest : List RuntimeTask}
    (before : s.executor.tasksOn shard = task :: rest)
    (after : t.executor.tasksOn = Function.update s.executor.tasksOn shard rest)
    (other : (s.sessions h).alive = true → task ≠ .driverReady h fd)
    (interest : t.loop.interest fd = s.loop.interest fd)
    (thread : t.loop.thread = s.loop.thread) (sessions : t.sessions = s.sessions)
    (shardCount : t.executor.shardCount = s.executor.shardCount) : Sole t h fd := by
  refine S.congr interest thread shardCount (by rw [sessions]) (by rw [sessions]; exact id)
    (fun living => ?_) fun k h' member => ?_
  · rw [after]
    by_cases same : s.shardOf h = shard
    · rw [same, Function.update_self, before, List.count_cons_of_ne (other living)]
    · rw [Function.update_of_ne same]
  · rw [after] at member
    by_cases same : k = shard
    · subst same
      rw [Function.update_self] at member
      exact before ▸ List.mem_cons_of_mem _ member
    · rwa [Function.update_of_ne same] at member

theorem Unused.drops (U : Unused s fd) {shard : Nat} {task : RuntimeTask} {rest : List RuntimeTask}
    (before : s.executor.tasksOn shard = task :: rest)
    (after : t.executor.tasksOn = Function.update s.executor.tasksOn shard rest)
    (thread : t.loop.thread = s.loop.thread)
    (shardCount : t.executor.shardCount = s.executor.shardCount) : Unused t fd := by
  rw [Unused, thread, shardCount, after]
  refine ⟨U.1, fun k inside => ?_⟩
  by_cases same : k = shard
  · subst same
    rw [Function.update_self]
    exact fun task' member => U.2 k inside task' (before ▸ List.mem_cons_of_mem _ member)
  · rw [Function.update_of_ne same]
    exact U.2 k inside

structure EventKept (s t : HalRuntime) : Prop where
  sole : s.loop.running = true → ∀ h, ∀ fd ∈ addedFds (s.sessions h), Sole t h fd
  unused : ∀ fd, s.loop.interest fd = none → Unused s fd → Unused t fd
  shardCount : t.executor.shardCount = s.executor.shardCount
  opened : t.loop.opened = s.loop.opened
  started : t.executor.started = s.executor.started

private theorem wait_kept (W : Watched s) {ready : List Nat}
    (taken : step s (.wait ready) = some t) : EventKept s t := by
  simp only [step, EventLoop.wait, Option.map_eq_some_iff] at taken
  obtain ⟨l, waited, rfl⟩ := taken
  split at waited <;> cases waited
  rename_i able
  obtain ⟨-, idle, -, nodup, armed⟩ := able
  refine ⟨fun running h fd member => ?_, fun fd absent U => ?_, rfl, rfl, rfl⟩
  · have S := W.sole running h fd member
    refine ⟨fun living => ?_, fun h' rest calling => (by cases calling), S.tasks⟩
    have one := S.one living
    simp only [tally, idle, LoopThread.events, List.count_nil, Nat.add_zero] at one ⊢
    by_cases inside : fd ∈ ready
    · rw [if_pos (armed fd inside)] at one
      rw [List.count_eq_one_of_mem nodup inside]
      simpa [inside, HalRuntime.shardOf] using one
    · rw [List.count_eq_zero_of_not_mem inside]
      simpa [inside, HalRuntime.shardOf] using one
  · refine ⟨fun inside => ?_, U.2⟩
    have := armed fd inside
    rw [absent] at this
    cases this

private theorem lookup_kept (W : Watched s) (P : ∀ h, Placed s h)
    (taken : step s .lookup = some t) : EventKept s t := by
  simp only [step, EventLoop.lookup, Option.map_eq_some_iff] at taken
  obtain ⟨l, found, rfl⟩ := taken
  split at found
  case h_2 => cases found
  rename_i fd' rest at_thread
  split at found <;> cases found
  · rename_i h' callback
    refine ⟨fun running h fd member => ?_, fun fd _ U => ⟨?_, U.2⟩, rfl, rfl, rfl⟩
    · have S := W.sole running h fd member
      refine ⟨fun living => ?_, fun h₁ rest₁ calling => ?_, S.tasks⟩
      · rw [← S.one living]
        simp only [tally, at_thread, LoopThread.events]
        rfl
      · simp only [LoopThread.calling.injEq] at calling
        obtain ⟨rfl, rfl, -⟩ := calling
        have stored := (P h).callbacks running fd' (stored_of_added member)
        exact Option.some.inj (callback.symm.trans stored)
    · have before := U.1
      rwa [at_thread] at before
  · rename_i none_stored
    refine ⟨fun running h fd member => ?_, fun fd _ U => ⟨?_, U.2⟩, rfl, rfl, rfl⟩
    · have S := W.sole running h fd member
      have other : fd' ≠ fd := by
        rintro rfl
        have stored := (P h).callbacks running fd' (stored_of_added member)
        rw [none_stored] at stored
        cases stored
      refine ⟨fun living => ?_, (by intros; contradiction), S.tasks⟩
      rw [← S.one living]
      simp only [tally, at_thread, LoopThread.events, List.count_cons_of_ne other]
      rfl
    · have before := U.1
      rw [at_thread] at before
      exact fun inside => before (List.mem_cons_of_mem _ inside)

private theorem Sole.delivers (S : Sole s h fd) {fd' h' : Nat} {rest : List Nat}
    (calling : s.loop.thread = .calling fd' h' rest) {added : List RuntimeTask}
    (sessions : t.sessions = s.sessions) (interest : t.loop.interest = s.loop.interest)
    (thread : t.loop.thread = .batch rest)
    (shardCount : t.executor.shardCount = s.executor.shardCount)
    (after : t.executor.tasksOn = Function.update s.executor.tasksOn (s.shardOf h')
      (s.executor.tasksOn (s.shardOf h') ++ added))
    (posted : added = [.driverReady h' fd'] ∨
      (added = [] ∧ (fd' = fd → (s.sessions h).alive = true → False))) : Sole t h fd := by
  have shard : t.shardOf h = s.shardOf h := shardOf_congr (by rw [sessions]) shardCount
  refine ⟨fun living => ?_, ?_, ?_⟩
  · rw [sessions] at living
    have one := S.one living
    simp only [tally, calling, LoopThread.events] at one
    simp only [tally, interest, thread, LoopThread.events, after, shard]
    by_cases same : fd' = fd
    · subst same
      obtain rfl := S.mine h' rest calling
      rcases posted with rfl | ⟨-, dead⟩
      · rw [Function.update_self, List.count_append, List.count_singleton_self]
        rw [List.count_cons_self] at one
        omega
      · exact (dead rfl living).elim
    · rw [List.count_cons_of_ne same] at one
      by_cases here : s.shardOf h = s.shardOf h'
      · rw [here, Function.update_self, List.count_append]
        rw [here] at one
        have none_added : added.count (.driverReady h fd) = 0 := by
          rcases posted with rfl | ⟨rfl, -⟩
          · exact List.count_eq_zero_of_not_mem (by simpa using fun _ => Ne.symm same)
          · rfl
        omega
      · rw [Function.update_of_ne here]
        exact one
  · rw [thread]
    intros; contradiction
  · rw [shardCount, after, shard]
    intro k inside h'' member
    by_cases here : k = s.shardOf h'
    · subst here
      rw [Function.update_self] at member
      rcases List.mem_append.mp member with before | new
      · exact S.tasks _ inside h'' before
      · rcases posted with rfl | ⟨rfl, -⟩
        · simp only [List.mem_singleton, RuntimeTask.driverReady.injEq] at new
          obtain ⟨rfl, rfl⟩ := new
          obtain rfl := S.mine h'' rest calling
          exact ⟨rfl, rfl⟩
        · cases new
    · rw [Function.update_of_ne here] at member
      exact S.tasks k inside h'' member

private theorem Unused.delivers (U : Unused s fd) {fd' h' : Nat} {rest : List Nat}
    (calling : s.loop.thread = .calling fd' h' rest) {added : List RuntimeTask}
    (thread : t.loop.thread = .batch rest)
    (shardCount : t.executor.shardCount = s.executor.shardCount)
    (after : t.executor.tasksOn = Function.update s.executor.tasksOn (s.shardOf h')
      (s.executor.tasksOn (s.shardOf h') ++ added))
    (posted : added ⊆ [.driverReady h' fd']) : Unused t fd := by
  obtain ⟨events, tasks⟩ := U
  simp only [calling, LoopThread.events, List.mem_cons, not_or] at events
  rw [Unused, thread, shardCount, after]
  refine ⟨events.2, fun k inside task member => ?_⟩
  by_cases here : k = s.shardOf h'
  · subst here
    rw [Function.update_self] at member
    rcases List.mem_append.mp member with before | new
    · exact tasks _ inside task before
    · rw [List.mem_singleton.mp (posted new)]
      simpa [RuntimeTask.readyFd] using Ne.symm events.1
  · rw [Function.update_of_ne here] at member
    exact tasks k inside task member

private theorem deliver_kept (W : Watched s) {lost : Bool}
    (permitted : ReadinessKept s (.deliver lost)) (taken : step s (.deliver lost) = some t) :
    EventKept s t := by
  simp only [step, deliverStep] at taken
  split at taken
  case h_2 => cases taken
  rename_i fd' h' rest calling
  have room := permitted.2
  simp only [Roomy, calling] at room
  have unchanged : s.executor.tasksOn = Function.update s.executor.tasksOn (s.shardOf h')
      (s.executor.tasksOn (s.shardOf h') ++ []) := by simp
  split at taken
  · rename_i living
    rcases TaskExecutor.post_cases (s.shardOf h') (.driverReady h' fd') lost s.executor with
      ⟨e, accepted, shardCount, started, after⟩ | ⟨refused, full⟩
    · rw [accepted] at taken
      cases taken
      exact ⟨fun running h fd member => (W.sole running h fd member).delivers calling rfl rfl rfl
        shardCount after (Or.inl rfl), fun fd _ U => U.delivers calling rfl shardCount after
        (List.Subset.refl _), shardCount, rfl, started⟩
    · rw [refused] at taken
      cases taken
      refine ⟨fun running h fd member => (W.sole running h fd member).delivers calling rfl rfl rfl
        rfl unchanged (Or.inr ⟨rfl, ?_⟩), fun fd _ U => U.delivers calling rfl rfl unchanged
        (List.nil_subset _), rfl, rfl, rfl⟩
      rintro rfl alive
      obtain rfl := (W.sole running h fd' member).mine h' rest calling
      exact full ⟨W.started (W.opened running), room member alive⟩
  · rename_i dead
    cases taken
    refine ⟨fun running h fd member => (W.sole running h fd member).delivers calling rfl rfl rfl
      rfl unchanged (Or.inr ⟨rfl, ?_⟩), fun fd _ U => U.delivers calling rfl rfl unchanged
      (List.nil_subset _), rfl, rfl, rfl⟩
    rintro rfl alive
    obtain rfl := (W.sole running h fd' member).mine h' rest calling
    exact dead alive

private theorem post_kept (W : Watched s) {shard : Nat} {lost : Bool}
    (taken : step s (.post shard lost) = some t) : EventKept s t := by
  simp only [step] at taken
  split at taken <;> cases taken
  rcases TaskExecutor.post_cases shard .other lost s.executor with
    ⟨e, accepted, shardCount, started, after⟩ | ⟨refused, -⟩
  · simp only [accepted]
    refine ⟨fun running h fd member => ?_, fun fd _ U => ?_, shardCount, rfl, started⟩
    · refine (W.sole running h fd member).congr rfl rfl shardCount rfl id (fun _ => ?_)
        fun k h' task => ?_
      · simp only [after]
        by_cases here : s.shardOf h = shard
        · rw [here, Function.update_self, List.count_append]
          rfl
        · rw [Function.update_of_ne here]
      · simp only [after] at task
        by_cases here : k = shard
        · subst here
          rw [Function.update_self] at task
          simpa using task
        · rwa [Function.update_of_ne here] at task
    · refine ⟨U.1, fun k inside task member => ?_⟩
      simp only [after] at member
      simp only [shardCount] at inside
      by_cases here : k = shard
      · subst here
        rw [Function.update_self] at member
        rcases List.mem_append.mp member with before | new
        · exact U.2 k inside task before
        · rw [List.mem_singleton.mp new]
          simp [RuntimeTask.readyFd]
      · rw [Function.update_of_ne here] at member
        exact U.2 k inside task member
  · simp only [refused]
    exact ⟨fun running => W.sole running, fun _ _ U => U, rfl, rfl, rfl⟩

private theorem pop_kept (W : Watched s) {shard : Nat} (taken : step s (.pop shard) = some t) :
    EventKept s t := by
  simp only [step] at taken
  split at taken
  case isFalse => cases taken
  obtain ⟨e, popped, rfl⟩ := Option.map_eq_some_iff.mp taken
  obtain ⟨shardCount, started, after⟩ := TaskExecutor.pop_tasksOn popped
  exact ⟨fun running h fd member => (W.sole running h fd member).same rfl rfl shardCount after rfl
    id, fun fd _ U => U.congr rfl shardCount after, shardCount, rfl, started⟩

private theorem run_kept (W : Watched s) {shard : Nat} (taken : step s (.run shard) = some t) :
    EventKept s t := by
  simp only [step, runStep] at taken
  split at taken
  case isFalse => cases taken
  have dropped : ∀ task, s.executor.workers shard = .popped task →
      (∀ h fd, (s.sessions h).alive = true → task ≠ .driverReady h fd) →
      EventKept s { s with executor := s.executor.setWorker shard .idle } := by
    intro task at_worker other
    have before : s.executor.tasksOn shard = task :: s.executor.queues shard := by
      simp [TaskExecutor.tasksOn, at_worker, Worker.task]
    have after := TaskExecutor.tasksOn_setWorker s.executor shard .idle
    exact ⟨fun running h fd member => (W.sole running h fd member).drops before after (other h fd)
      rfl rfl rfl rfl, fun fd _ U => U.drops before after rfl rfl, rfl, rfl, rfl⟩
  split at taken
  · rename_i h' fd' at_worker
    cases taken
    split
    · have after : (s.executor.setWorker shard (.handling h' fd')).tasksOn =
          s.executor.tasksOn := by
        rw [TaskExecutor.tasksOn_setWorker]
        refine Function.update_eq_self_iff.mpr ?_
        simp [TaskExecutor.tasksOn, at_worker, Worker.task]
      exact ⟨fun running h fd member => (W.sole running h fd member).same rfl rfl rfl after rfl id,
        fun fd _ U => U.congr rfl rfl after, rfl, rfl, rfl⟩
    · rename_i dead
      refine dropped _ at_worker fun h fd living same => ?_
      cases same
      exact dead living
  · rename_i at_worker
    cases taken
    exact dropped _ at_worker (by simp)
  · cases taken

private theorem rearm_kept (W : Watched s) (P : ∀ h, Placed s h) {shard : Nat}
    (taken : step s (.rearm shard) = some t) : EventKept s t := by
  simp only [step, rearmStep] at taken
  split at taken
  case isFalse => cases taken
  rename_i inside
  split at taken <;> cases taken
  rename_i h' fd' at_worker
  have before : s.executor.tasksOn shard = .driverReady h' fd' :: s.executor.queues shard := by
    simp [TaskExecutor.tasksOn, at_worker, Worker.task]
  have after := TaskExecutor.tasksOn_setWorker s.executor shard .idle
  have loop (isOpen : Bool) : (s.loop.rearmFd fd' isOpen).2.thread = s.loop.thread ∧
      (s.loop.rearmFd fd' isOpen).2.opened = s.loop.opened ∧
      (∀ fd, fd ≠ fd' → (s.loop.rearmFd fd' isOpen).2.interest fd = s.loop.interest fd) ∧
      (s.loop.running = true → (s.loop.interest fd').isSome = true →
        (s.loop.rearmFd fd' isOpen).2.interest fd' = some true) := by
    simp only [EventLoop.rearmFd]
    split
    · split
      · exact ⟨rfl, rfl, fun fd other => Function.update_of_ne other _ _, fun _ _ =>
          Function.update_self _ _ _⟩
      · rename_i absent
        exact ⟨rfl, rfl, fun _ _ => rfl, fun _ present => by rw [absent] at present; cases present⟩
    · rename_i stopped
      exact ⟨rfl, rfl, fun _ _ => rfl, fun running => (stopped running).elim⟩
  obtain ⟨thread, opened, others, rearmed⟩ := loop (decide (fd' ∈ s.numbers))
  refine ⟨fun running h fd member => ?_, fun fd _ U => U.drops before after thread rfl, rfl, opened,
    rfl⟩
  have S := W.sole running h fd member
  by_cases same : fd = fd'
  · subst same
    obtain ⟨rfl, rfl⟩ := S.tasks shard inside h' (before ▸ List.mem_cons_self)
    refine ⟨fun living => ?_, ?_, ?_⟩
    · have one := S.one living
      simp only [tally, before, List.count_cons_self] at one
      simp only [tally, thread, rearmed running ((P h').interest running fd member), if_true]
      change 1 + _ + List.count _ ((s.executor.setWorker (s.shardOf h') .idle).tasksOn
        (s.shardOf h')) = 1
      rw [after, Function.update_self]
      simp only [Worker.task, List.nil_append]
      omega
    · simp only [thread]
      exact S.mine
    · intro k below h'' task
      simp only [after] at task
      change h'' = h' ∧ k = s.shardOf h'
      by_cases here : k = s.shardOf h'
      · subst here
        rw [Function.update_self] at task
        exact S.tasks _ below h'' (before ▸ List.mem_cons_of_mem _ task)
      · rw [Function.update_of_ne here] at task
        exact S.tasks k below h'' task
  · refine S.drops before after (fun _ named => ?_) (others fd same) thread rfl rfl
    cases named
    exact same rfl

theorem event_kept (W : Watched s) (P : ∀ h, Placed s h) {a : Label} (event : isEvent a = true)
    (permitted : ReadinessKept s a) (taken : step s a = some t) : EventKept s t := by
  cases a with
  | wait ready => exact wait_kept W taken
  | lookup => exact lookup_kept W P taken
  | deliver lost => exact deliver_kept W permitted taken
  | post shard lost => exact post_kept W taken
  | pop shard => exact pop_kept W taken
  | run shard => exact run_kept W taken
  | rearm shard => exact rearm_kept W P taken
  | _ => cases event

end Events

section Sessions

variable {s t : HalRuntime} {h fd : Nat}

theorem Unused.sole (U : Unused t fd) (armed : t.loop.interest fd = some true)
    (shards : 0 < t.executor.shardCount) (h : Nat) : Sole t h fd := by
  obtain ⟨events, tasks⟩ := U
  have inside : t.shardOf h < t.executor.shardCount := Nat.mod_lt _ shards
  refine ⟨fun _ => ?_, fun h' rest calling => ?_, fun k below h' member => ?_⟩
  · have absent : .driverReady h fd ∉ t.executor.tasksOn (t.shardOf h) := fun member =>
      tasks _ inside _ member rfl
    rw [tally, if_pos armed, List.count_eq_zero_of_not_mem events,
      List.count_eq_zero_of_not_mem absent]
  · rw [calling] at events
    exact (events List.mem_cons_self).elim
  · exact (tasks k below _ member rfl).elim

structure SameEvents (s t : HalRuntime) : Prop where
  executor : t.executor = s.executor
  thread : t.loop.thread = s.loop.thread
  opened : t.loop.opened = s.loop.opened
  running : t.loop.running = s.loop.running

theorem Watched.session (W : Watched s) {v : SessionView}
    (sessions : t.sessions = Function.update s.sessions h v) (same : SameEvents s t)
    (id : v.sessionId = (s.sessions h).sessionId)
    (alive : v.alive = true → (s.sessions h).alive = true) (distinct : v.driverFds.Nodup)
    (entered : ∀ fd, (t.loop.interest fd).isSome = true →
      ∃ h', t.numbers.lookup fd = some (some h') ∧ ¬ Early (t.sessions h') ∧
        fd ∉ waitingFds (t.sessions h'))
    (unused : ∀ registered fd rest, v.stage = .adding registered fd rest → Unused s fd)
    (added : s.loop.running = true → ∀ h' fd, fd ∈ addedFds (t.sessions h') →
      (fd ∈ addedFds (s.sessions h') ∧ t.loop.interest fd = s.loop.interest fd) ∨
        (Unused s fd ∧ t.loop.interest fd = some true)) : Watched t := by
  obtain ⟨executor, thread, opened, running⟩ := same
  have tasks : t.executor.tasksOn = s.executor.tasksOn := by rw [executor]
  have shardCount : t.executor.shardCount = s.executor.shardCount := by rw [executor]
  have views : ∀ h', (t.sessions h').sessionId = (s.sessions h').sessionId ∧
      ((t.sessions h').alive = true → (s.sessions h').alive = true) := by
    intro h'
    rw [sessions]
    by_cases here : h' = h
    · subst here
      rw [Function.update_self]
      exact ⟨id, alive⟩
    · rw [Function.update_of_ne here]
      exact ⟨rfl, fun living => living⟩
  refine ⟨shardCount ▸ W.shards, ?_, ?_, fun h' => ?_, entered, ?_, fun on h' fd member => ?_⟩
  · rw [running, opened]
    exact W.opened
  · rw [opened, executor]
    exact W.started
  · rw [sessions]
    by_cases here : h' = h
    · subst here
      rw [Function.update_self]
      exact distinct
    · rw [Function.update_of_ne here]
      exact W.distinct h'
  · intro h' registered fd rest at_stage
    rw [sessions] at at_stage
    by_cases here : h' = h
    · subst here
      rw [Function.update_self] at at_stage
      exact (unused registered fd rest at_stage).congr thread shardCount tasks
    · rw [Function.update_of_ne here] at at_stage
      exact (W.unused h' registered fd rest at_stage).congr thread shardCount tasks
  · rw [running] at on
    rcases added on h' fd member with ⟨before, interest⟩ | ⟨U, armed⟩
    · exact (W.sole on h' fd before).same interest thread shardCount tasks (views h').1 (views h').2
    · exact (U.congr thread shardCount tasks).sole armed (shardCount ▸ W.shards) h'

theorem Watched.restage (W : Watched s) {v : SessionView}
    (sessions : t.sessions = Function.update s.sessions h v) (same : SameEvents s t)
    (numbers : t.numbers = s.numbers) (interest : t.loop.interest = s.loop.interest)
    (id : v.sessionId = (s.sessions h).sessionId)
    (alive : v.alive = true → (s.sessions h).alive = true) (distinct : v.driverFds.Nodup)
    (later : ¬ Early (s.sessions h) → ¬ Early v ∧ waitingFds v ⊆ waitingFds (s.sessions h))
    (unused : ∀ registered fd rest, v.stage = .adding registered fd rest → Unused s fd)
    (added : addedFds v ⊆ addedFds (s.sessions h)) : Watched t := by
  refine W.session sessions same id alive distinct (fun fd present => ?_) unused
    fun _ h' fd member => Or.inl ⟨?_, by rw [interest]⟩
  · rw [interest] at present
    obtain ⟨h', owned, begun, entered⟩ := W.entered fd present
    refine ⟨h', numbers ▸ owned, ?_⟩
    rw [sessions]
    by_cases here : h' = h
    · subst here
      rw [Function.update_self]
      obtain ⟨begun', fewer⟩ := later begun
      exact ⟨begun', fun waiting => entered (fewer waiting)⟩
    · rw [Function.update_of_ne here]
      exact ⟨begun, entered⟩
  · rw [sessions] at member
    by_cases here : h' = h
    · subst here
      rw [Function.update_self] at member
      exact added member
    · rwa [Function.update_of_ne here] at member

private theorem Watched.retire (W : Watched s) {stage : Stage} (driverFds : List Nat)
    (sessions : t.sessions = Function.update s.sessions h
      { s.sessions h with driverFds := driverFds, stage := stage })
    (same : SameEvents s t) (numbers : t.numbers = s.numbers)
    (interest : t.loop.interest = s.loop.interest) (distinct : driverFds.Nodup)
    (nothing : ∀ v : SessionView, v.stage = stage →
      ¬ Early v ∧ waitingFds v = [] ∧ addedFds v = [] ∧ ∀ registered fd rest,
        stage ≠ .adding registered fd rest) : Watched t := by
  obtain ⟨begun, waiting, added, other⟩ :=
    nothing { s.sessions h with driverFds := driverFds, stage := stage } rfl
  refine W.restage sessions same numbers interest rfl id distinct (fun _ => ⟨begun, ?_⟩)
    (fun registered fd rest at_stage => (other registered fd rest at_stage).elim) ?_
  · rw [waiting]
    exact List.nil_subset _
  · rw [added]
    exact List.nil_subset _

private theorem opened_watched (W : Watched s) (owner : Option Nat) :
    Watched { s with numbers := s.numbers.insert (lowestUnused s.numbers) owner } := by
  refine W.session (h := 0) (v := s.sessions 0) (Function.update_eq_self _ _).symm
    ⟨rfl, rfl, rfl, rfl⟩ rfl id (W.distinct 0) (fun fd present => ?_)
    (fun registered fd rest => W.unused 0 registered fd rest) fun _ _ _ member =>
      Or.inl ⟨member, rfl⟩
  obtain ⟨h', owned, later⟩ := W.entered fd present
  refine ⟨h', lookup_insert_eq_some.mpr (Or.inr ⟨?_, owned⟩), later⟩
  rintro rfl
  exact lowestUnused_unused s.numbers (mem_of_lookup owned)

private theorem closed_watched (W : Watched s) (P : ∀ h, Placed s h) {owner : Option Nat}
    (owned : s.numbers.lookup fd = some owner)
    (unheld : ∀ h, owner = some h → heldFds (s.sessions h) = []) :
    Watched { s with numbers := s.numbers.erase fd, loop := s.loop.dropInterest fd } := by
  refine W.session (h := 0) (v := s.sessions 0) (Function.update_eq_self _ _).symm
    ⟨rfl, rfl, rfl, rfl⟩ rfl id (W.distinct 0) (fun fd' present => ?_)
    (fun registered fd rest => W.unused 0 registered fd rest)
    fun _ h' fd' member => Or.inl ⟨member, ?_⟩
  · have other : fd' ≠ fd := by
      rintro rfl
      simp [EventLoop.dropInterest] at present
    simp only [EventLoop.dropInterest, Function.update_of_ne other] at present
    obtain ⟨h', owned, later⟩ := W.entered fd' present
    exact ⟨h', lookup_erase_eq_some.mpr ⟨other, owned⟩, later⟩
  · have held := held_of_stored (stored_of_added member)
    have other : fd' ≠ fd := by
      rintro rfl
      have same := owned.symm.trans ((P h').owned fd' held)
      simp only [Option.some.injEq] at same
      rw [unheld h' same] at held
      cases held
    simp only [EventLoop.dropInterest, Function.update_of_ne other]

private theorem registerFd_watched (W : Watched s) (P : ∀ h, Placed s h)
    (permitted : ReadinessKept s (.registerFd h)) (taken : registerFdStep h s = some t) :
    Watched t := by
  simp only [registerFdStep] at taken
  split at taken
  · cases taken
    exact W.retire (s.sessions h).driverFds rfl ⟨rfl, rfl, rfl, rfl⟩ rfl rfl
      (W.distinct h) fun v at_stage => by simp [Early, waitingFds, addedFds, at_stage]
  · rename_i first more at_stage
    cases taken
    have listed : (s.sessions h).driverFds = first :: more := by
      simpa [Whole, at_stage] using (P h).whole
    refine W.restage rfl ⟨rfl, rfl, rfl, rfl⟩ rfl rfl rfl id (W.distinct h) (fun _ => ?_)
      (by intros; contradiction) ?_
    · simp [Early, waitingFds]
    · simp [addedFds, at_stage, listed]
  · rename_i registered fd rest at_stage
    simp only [EventLoop.storeCallback] at taken
    split at taken
    · rename_i l stored
      split at stored <;> cases stored
      cases taken
      refine W.restage rfl ⟨rfl, rfl, rfl, rfl⟩ rfl rfl rfl id (W.distinct h) (fun _ => ?_) ?_ ?_
      · simp [Early, waitingFds, at_stage]
      · rintro registered' fd' rest' ⟨⟩
        exact permitted.2 fd (by rw [at_stage]; rfl)
      · simp [addedFds, at_stage]
    · cases taken
      exact W.retire (s.sessions h).driverFds rfl ⟨rfl, rfl, rfl, rfl⟩ rfl rfl
        (W.distinct h) fun v at_stage => by simp [Early, waitingFds, addedFds, at_stage]
  · cases taken

private theorem addFd_watched (W : Watched s) (P : ∀ h, Placed s h) {answer : Option String}
    (taken : addFdStep h answer s = some t) : Watched t := by
  simp only [addFdStep] at taken
  split at taken
  case h_2 => cases taken
  rename_i registered fd rest at_stage
  have listed : (s.sessions h).driverFds = registered ++ fd :: rest := by
    simpa [Whole, at_stage] using (P h).whole
  have mine := (P h).owned fd (by simp [heldFds, at_stage])
  have nodup := W.distinct h
  rw [listed] at nodup
  have apart : fd ∉ rest := (List.nodup_cons.mp (List.nodup_append.mp nodup).2.1).1
  simp only [EventLoop.addInterest] at taken
  split at taken
  · rename_i l added
    cases taken
    split at added <;> cases added
    have shown : ∀ fd', fd' ≠ fd →
        Function.update s.loop.interest fd (some true) fd' = s.loop.interest fd' :=
      fun fd' other => Function.update_of_ne other _ _
    refine W.session rfl ⟨rfl, rfl, rfl, rfl⟩ rfl id (W.distinct h) (fun fd' present => ?_)
      (by intros; contradiction) ?_
    · by_cases same : fd' = fd
      · subst same
        refine ⟨h, mine, ?_⟩
        simp [Early, waitingFds, apart]
      · simp only [shown fd' same] at present
        obtain ⟨h', owned, begun, entered⟩ := W.entered fd' present
        refine ⟨h', owned, ?_⟩
        by_cases here : h' = h
        · subst here
          simp only [waitingFds, at_stage, List.mem_cons, not_or] at entered
          simp [Early, waitingFds, entered.2]
        · simp only [setStage_of_ne s _ here]
          exact ⟨begun, entered⟩
    · intro _ h' fd' member
      by_cases same : fd' = fd
      · subst same
        exact Or.inr ⟨W.unused h registered fd' rest at_stage, Function.update_self _ _ _⟩
      · refine Or.inl ⟨?_, shown fd' same⟩
        by_cases here : h' = h
        · subst here
          simpa [addedFds, at_stage, same] using member
        · simpa only [setStage_of_ne s _ here] using member
  · rename_i l refused
    cases taken
    have loop : SameEvents s { s with loop := l } ∧ l.interest = s.loop.interest := by
      split at refused <;> cases refused <;> exact ⟨⟨rfl, rfl, rfl, rfl⟩, rfl⟩
    obtain ⟨⟨-, thread, opened, running⟩, interest⟩ := loop
    exact W.retire (s.sessions h).driverFds rfl ⟨rfl, thread, opened, running⟩ rfl
      interest (W.distinct h) fun v at_stage => by simp [Early, waitingFds, addedFds, at_stage]

private theorem unregisterFd_watched (W : Watched s) (P : ∀ h, Placed s h)
    (apart : Apart s (.unregisterFd h)) (taken : unregisterFdStep h s = some t) : Watched t := by
  simp only [unregisterFdStep] at taken
  split at taken
  · rename_i fd rest ending at_stage
    cases taken
    refine W.session rfl ⟨rfl, rfl, rfl, rfl⟩ rfl id (W.distinct h) (fun fd' present => ?_)
      (by intros; contradiction) ?_
    · have other : fd' ≠ fd := by
        rintro rfl
        simp [EventLoop.dropInterest] at present
      simp only [EventLoop.dropInterest, Function.update_of_ne other] at present
      obtain ⟨h', owned, begun, entered⟩ := W.entered fd' present
      refine ⟨h', owned, ?_⟩
      by_cases here : h' = h
      · subst here
        simp [Early, waitingFds]
      · simp only [setStage_of_ne s _ here]
        exact ⟨begun, entered⟩
    · intro _ h' fd' member
      by_cases here : h' = h
      · subst here
        simp [addedFds] at member
      · simp only [setStage_of_ne s _ here] at member
        have owned := (P h').owned fd' (held_of_stored (stored_of_added member))
        have other : fd' ≠ fd := by
          rintro rfl
          exact apart fd' (by rw [at_stage]; rfl) h' (by simp [ownerOf, owned]) member
        exact Or.inl ⟨member, Function.update_of_ne other _ _⟩
  · rename_i ending at_stage
    cases taken
    exact W.retire (s.sessions h).driverFds rfl ⟨rfl, rfl, rfl, rfl⟩ rfl rfl
      (W.distinct h) fun v at_stage => by
        cases ending <;> simp [Early, waitingFds, addedFds, at_stage, Ending.stage]
  · cases taken

private theorem start_watched (W : Watched s) (P : ∀ h, Placed s h) (apart : Apart s .start)
    (taken : startStep s = some t) : Watched t := by
  have unstored : ∀ h, storedFds (s.sessions h) = [] := by
    intro h
    refine List.eq_nil_iff_forall_not_mem.mpr fun fd member => ?_
    have owned := (P h).owned fd (held_of_stored member)
    exact apart fd (mem_of_lookup owned) h (by simp [ownerOf, owned]) member
  simp only [startStep] at taken
  split at taken <;> cases taken
  refine ⟨W.shards, fun _ => rfl, fun _ => rfl, W.distinct, (by intros; contradiction), ?_, ?_⟩
  · intro h registered fd rest at_stage
    have at_stage : (s.sessions h).stage = .adding registered fd rest := at_stage
    have stored := unstored h
    simp [storedFds, at_stage] at stored
  · intro _ h fd member
    have stored := stored_of_added member
    rw [unstored h] at stored
    cases stored

private theorem event_watched (W : Watched s) (P : ∀ h, Placed s h) {a : Label}
    (event : isEvent a = true) (permitted : ReadinessKept s a) (taken : step s a = some t) :
    Watched t := by
  obtain ⟨sessions, numbers, running, -, interest⟩ := event_frame event taken
  have K := event_kept W P event permitted taken
  refine ⟨K.shardCount ▸ W.shards, ?_, ?_, ?_, fun fd present => ?_, ?_, ?_⟩
  · rw [running, K.opened]
    exact W.opened
  · rw [K.opened, K.started]
    exact W.started
  · rw [sessions]
    exact W.distinct
  · rw [interest fd] at present
    rw [numbers, sessions]
    exact W.entered fd present
  · rw [sessions]
    intro h registered fd rest at_stage
    refine K.unused fd ?_ (W.unused h registered fd rest at_stage)
    by_contra listed
    obtain ⟨h', owned, -, entered⟩ := W.entered fd (Option.isSome_iff_ne_none.mpr listed)
    have same := ((P h).owned fd (by simp [heldFds, at_stage])).symm.trans owned
    simp only [Option.some.injEq] at same
    subst same
    exact entered (by simp [waitingFds, at_stage])
  · rw [running, sessions]
    exact K.sole

theorem step_watched (W : Watched s) (P : ∀ h, Placed s h) {a : Label}
    (permitted : ReadinessKept s a) (taken : step s a = some t) : Watched t := by
  cases event : isEvent a with
  | true => exact event_watched W P event permitted taken
  | false =>
    cases a with
    | start => exact start_watched W P permitted.1 taken
    | stopLoop =>
      simp only [step] at taken
      split at taken <;> cases taken
      exact ⟨W.shards, (by intros; contradiction), W.started, W.distinct, W.entered, W.unused,
        (by intros; contradiction)⟩
    | joinLoop =>
      simp only [step] at taken
      split at taken <;> cases taken
      rename_i stopped
      refine ⟨W.shards, fun on => ?_, (by intros; contradiction), W.distinct,
        (by intros; contradiction), W.unused, fun on => ?_⟩ <;>
      · have on : s.loop.running = true := on
        rw [stopped.1] at on
        cases on
    | stopExecutor =>
      simp only [step] at taken
      split at taken <;> cases taken
      rename_i closed
      refine ⟨W.shards, W.opened, fun on => ?_, W.distinct, W.entered, W.unused,
        fun on h fd member => (W.sole on h fd member).same rfl rfl rfl rfl rfl id⟩
      have on : s.loop.opened = true := on
      rw [closed] at on
      cases on
    | configure h =>
      simp only [step] at taken
      split at taken <;> cases taken
      rename_i created
      exact W.restage rfl ⟨rfl, rfl, rfl, rfl⟩ rfl rfl rfl id (W.distinct h)
        (fun begun => (begun (Or.inl created)).elim) (by intros; contradiction) (by simp [addedFds])
    | openFd h =>
      simp only [step] at taken
      split at taken <;> cases taken
      exact opened_watched W (some h)
    | opened h =>
      simp only [step, openedStep] at taken
      split at taken <;> cases taken
      rename_i opening
      exact W.restage rfl ⟨rfl, rfl, rfl, rfl⟩ rfl rfl rfl id (eventFds_nodup _ _)
        (fun begun => (begun (Or.inr opening)).elim) (by intros; contradiction) (by simp [addedFds])
    | openFailed h =>
      simp only [step] at taken
      split at taken <;> cases taken
      exact W.retire (s.sessions h).driverFds rfl ⟨rfl, rfl, rfl, rfl⟩ rfl rfl (W.distinct h)
        fun v at_stage => by simp [Early, waitingFds, addedFds, at_stage]
    | registerFd h => exact registerFd_watched W P permitted taken
    | addFd h answer => exact addFd_watched W P taken
    | close h =>
      simp only [step, closeStep] at taken
      split at taken <;> cases taken <;>
        exact W.retire (s.sessions h).driverFds rfl ⟨rfl, rfl, rfl, rfl⟩ rfl rfl (W.distinct h)
          fun v at_stage => by simp [Early, waitingFds, addedFds, at_stage]
    | closeFd h fd =>
      obtain ⟨owned, unheld, rfl⟩ := closeFdStep_cases taken
      refine closed_watched W P owned fun h' same => ?_
      cases same
      exact unheld
    | driverClosed h =>
      simp only [step, driverClosedStep] at taken
      split at taken
      · split at taken <;> cases taken
        refine W.retire [] rfl ⟨rfl, rfl, rfl, rfl⟩ rfl rfl List.nodup_nil fun v at_stage => ?_
        split at at_stage <;> rename_i empty <;>
          simp [Early, waitingFds, addedFds, at_stage, empty]
      · cases taken
    | unregisterFd h => exact unregisterFd_watched W P permitted.1 taken
    | eraseCallback h =>
      simp only [step, eraseCallbackStep] at taken
      split at taken <;> cases taken
      exact W.retire (s.sessions h).driverFds rfl ⟨rfl, rfl, rfl, rfl⟩ rfl rfl (W.distinct h)
        fun v at_stage => by simp [Early, waitingFds, addedFds, at_stage]
    | expire h =>
      simp only [step, expireStep] at taken
      split at taken <;> cases taken
      exact W.restage rfl ⟨rfl, rfl, rfl, rfl⟩ rfl rfl rfl (by intros; contradiction) (W.distinct h)
        (fun begun => ⟨begun, fun _ => id⟩) (W.unused h) fun _ => id
    | openOther =>
      cases taken
      exact opened_watched W none
    | closeOther fd =>
      simp only [step] at taken
      split at taken <;> cases taken
      rename_i owned
      exact closed_watched W P owned (by intros; contradiction)
    | _ => cases event

end Sessions

section Runs

theorem initial_watched (config : TaskExecutorConfig) (ids : Nat → Int) (others : List Nat) :
    Watched (HalRuntime.initial config ids others) where
  shards := Nat.lt_of_lt_of_le Nat.one_pos (Nat.le_max_right _ _)
  opened := (by intros; contradiction)
  started := (by intros; contradiction)
  distinct := fun _ => List.nodup_nil
  entered := (by intros; contradiction)
  unused := (by intros; contradiction)
  sole := (by intros; contradiction)

theorem reachable_watched {config : TaskExecutorConfig} {ids : Nat → Int} {others : List Nat}
    {s : HalRuntime}
    (run : Reaches step ReadinessKept (HalRuntime.initial config ids others) s) : Watched s := by
  have both : Watched s ∧ ∀ h, Placed s h := by
    refine run.invariant (fun s => Watched s ∧ ∀ h, Placed s h) ?_
      ⟨initial_watched config ids others, initial_placed config ids others⟩
    rintro s a t ⟨W, P⟩ permitted taken
    exact ⟨step_watched W P permitted taken, step_placed P permitted.1 taken⟩
  exact both.1

/-- In every run in which the readiness tasks find room, each descriptor of each living,
registered session is armed, being delivered or pending in a task, and only one of the
three, whatever the traffic on the shards. -/
theorem readiness_in_one_place (config : TaskExecutorConfig) (ids : Nat → Int) (others : List Nat)
    (s : HalRuntime) (run : Reaches step ReadinessKept (HalRuntime.initial config ids others) s)
    (running : s.loop.running = true) (h : Nat) (registered : (s.sessions h).stage = .configured)
    (alive : (s.sessions h).alive = true) :
    ∀ fd ∈ (s.sessions h).driverFds, InOneSituation s h fd := by
  intro fd member
  refine ((reachable_watched run).sole running h fd ?_).situation alive
  simpa [addedFds, registered] using member

instance unusedDecidable (s : HalRuntime) (fd : Nat) : Decidable (Unused s fd) :=
  inferInstanceAs (Decidable (fd ∉ s.loop.thread.events ∧ ∀ shard < s.executor.shardCount,
    ∀ task ∈ s.executor.tasksOn shard, task.readyFd ≠ some fd))

instance roomyDecidable (s : HalRuntime) (a : Label) : Decidable (Roomy s a) :=
  match a with
  | .registerFd h =>
    inferInstanceAs (Decidable (∀ fd ∈ nextStored (s.sessions h).stage, Unused s fd))
  | .deliver lost =>
    match at_thread : s.loop.thread with
    | .calling fd h _ => decidable_of_iff (fd ∈ addedFds (s.sessions h) →
        (s.sessions h).alive = true → lost = false ∧
          (s.executor.queues (s.shardOf h)).length < s.executor.capacity)
        (by simp [Roomy, at_thread])
    | .batch _ => .isTrue (by simp [Roomy, at_thread])
  | .start | .stopLoop | .joinLoop | .stopExecutor | .configure _ | .openFd _ | .opened _
  | .openFailed _ | .addFd _ _ | .close _ | .closeFd _ _ | .driverClosed _ | .unregisterFd _
  | .eraseCallback _ | .expire _ | .openOther | .closeOther _ | .wait _ | .lookup | .post _ _
  | .pop _ | .run _ | .rearm _ => .isTrue trivial

instance readinessKeptDecidable (s : HalRuntime) (a : Label) : Decidable (ReadinessKept s a) :=
  inferInstanceAs (Decidable (Apart s a ∧ Roomy s a))

def narrow : TaskExecutorConfig := { shardCount := 1, shardQueueCapacity := 1 }

theorem readiness_in_one_place_busy_shard :
    ∃ s : HalRuntime,
      Reaches step ReadinessKept (HalRuntime.initial narrow (fun h => h) [0, 1, 2]) s ∧
      s.executor.tasksOn 0 = [.driverReady 0 3, .other] ∧ InOneSituation s 0 3 := by
  obtain ⟨s, run, passed⟩ := exists_reaches_of_replay step ReadinessKept
    (HalRuntime.initial narrow (fun h => h) [0, 1, 2])
    (.start :: configuring 0 ++ [.post 0 false, .wait [3], .lookup, .pop 0, .run 0, .deliver false,
      .pop 0, .run 0, .post 0 false])
    (fun s => s.loop.running && (s.sessions 0).stage == .configured && (s.sessions 0).alive &&
      (s.sessions 0).driverFds == [3] && s.executor.tasksOn 0 == [.driverReady 0 3, .other])
    (by decide +kernel)
  simp only [Bool.and_eq_true, beq_iff_eq] at passed
  obtain ⟨⟨⟨⟨running, configured⟩, alive⟩, fds⟩, tasks⟩ := passed
  exact ⟨s, run, tasks, readiness_in_one_place narrow (fun h => h) [0, 1, 2] s run running 0
    configured alive 3 (by rw [fds]; exact List.mem_singleton.mpr rfl)⟩

/-- The queue is full when the event is delivered: the descriptor stays disarmed, and no
task is left that would arm it. -/
theorem full_queue_loses_readiness :
    ∃ s : HalRuntime, Reaches step always (HalRuntime.initial narrow (fun h => h) [0, 1, 2]) s ∧
      s.loop.running = true ∧ (s.sessions 0).stage = .configured ∧ (s.sessions 0).alive = true ∧
      (s.sessions 0).driverFds = [3] ∧ s.loop.interest 3 = some false ∧
      s.loop.thread = .batch [] ∧ s.executor.tasksOn 0 = [] ∧ ¬ InOneSituation s 0 3 := by
  obtain ⟨s, run, passed⟩ := exists_reaches_of_replay step always
    (HalRuntime.initial narrow (fun h => h) [0, 1, 2])
    (.start :: configuring 0 ++ [.post 0 false, .wait [3], .lookup, .deliver false, .pop 0, .run 0])
    (fun s => s.loop.running && (s.sessions 0).stage == .configured && (s.sessions 0).alive &&
      (s.sessions 0).driverFds == [3] && s.loop.interest 3 == some false &&
      s.loop.thread == .batch [] && s.shardOf 0 == 0 && s.executor.tasksOn 0 == [])
    (by decide +kernel)
  simp only [Bool.and_eq_true, beq_iff_eq] at passed
  obtain ⟨⟨⟨⟨⟨⟨⟨running, configured⟩, alive⟩, fds⟩, interest⟩, thread⟩, shard⟩, tasks⟩ := passed
  refine ⟨s, run, running, configured, alive, fds, interest, thread, tasks, ?_⟩
  simp [InOneSituation, Armed, Delivering, Pending, interest, thread, shard, tasks,
    LoopThread.events]

end Runs

end MiniCam.Runtime.Readiness
