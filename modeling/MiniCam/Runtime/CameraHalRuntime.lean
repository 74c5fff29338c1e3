/- Module: MiniCam/Runtime/CameraHalRuntime
   source: hal/camera_hal_runtime.h, hal/camera_hal_runtime.cpp, hal/task_executor.cpp,
     hal/camera_device_session.cpp
   digest: The runtime that sessions share: loop thread, shard workers and registrations. -/

import MiniCam.Queue.FifoRefinement
import MiniCam.Runtime.EpollEventLoop

set_option autoImplicit false
set_option relaxedAutoImplicit false

namespace MiniCam.Runtime.CameraHalRuntime

open MiniCam.Foundation.KeyedTable
open MiniCam.Queue.FifoRefinement (FifoMove)
open MiniCam.Runtime.EpollEventLoop

section Executor

inductive RuntimeTask where
  | driverReady (session fd : Nat)
  | other
  deriving DecidableEq

def RuntimeTask.readyFd : RuntimeTask → Option Nat
  | .driverReady _ fd => some fd
  | .other => none

/-- What a shard's worker is doing. A readiness task that has locked its session keeps
the session alive up to its end. -/
inductive Worker where
  | idle
  | popped (task : RuntimeTask)
  | handling (session fd : Nat)
  deriving DecidableEq

def Worker.task : Worker → List RuntimeTask
  | .idle => []
  | .popped task => [task]
  | .handling session fd => [.driverReady session fd]

def Worker.holds (session : Nat) : Worker → Bool
  | .handling held _ => decide (held = session)
  | _ => false

structure TaskExecutorConfig where
  shardCount : Nat := 4
  shardQueueCapacity : Nat := 256

/-- Every shard queue is a bounded FIFO. -/
structure TaskExecutor where
  shardCount : Nat
  capacity : Nat
  started : Bool
  queues : Nat → List RuntimeTask
  workers : Nat → Worker

namespace TaskExecutor

def create (config : TaskExecutorConfig) : TaskExecutor :=
  { shardCount := max config.shardCount 1
    capacity := max config.shardQueueCapacity 1
    started := false
    queues := fun _ => []
    workers := fun _ => .idle }

def start (e : TaskExecutor) : TaskExecutor := { e with started := true, queues := fun _ => [] }

def shardOf (e : TaskExecutor) (sessionId : Int) : Nat :=
  (sessionId % 2 ^ 64).toNat % e.shardCount

/-- A push fails on a full queue. It also gives up when its two loads straddle other
producers' progress, which `lost` stands for. -/
def post (shard : Nat) (task : RuntimeTask) (lost : Bool) (e : TaskExecutor) :
    Bool × TaskExecutor :=
  if e.started = true ∧ lost = false ∧ (e.queues shard).length < e.capacity then
    (true, { e with queues := Function.update e.queues shard (e.queues shard ++ [task]) })
  else (false, e)

def setWorker (shard : Nat) (worker : Worker) (e : TaskExecutor) : TaskExecutor :=
  { e with workers := Function.update e.workers shard worker }

def pop (shard : Nat) (e : TaskExecutor) : Option TaskExecutor :=
  match e.workers shard, e.queues shard with
  | .idle, task :: rest =>
    some { (e.setWorker shard (.popped task)) with
      queues := Function.update e.queues shard rest }
  | _, _ => none

def tasksOn (e : TaskExecutor) (shard : Nat) : List RuntimeTask :=
  (e.workers shard).task ++ e.queues shard

theorem tasksOn_setWorker (e : TaskExecutor) (shard : Nat) (worker : Worker) :
    (e.setWorker shard worker).tasksOn =
      Function.update e.tasksOn shard (worker.task ++ e.queues shard) := by
  funext k
  by_cases same : k = shard
  · subst same
    simp [tasksOn, setWorker]
  · simp [tasksOn, setWorker, Function.update_of_ne same]

theorem post_cases (shard : Nat) (task : RuntimeTask) (lost : Bool) (e : TaskExecutor) :
    (∃ e', e.post shard task lost = (true, e') ∧ e'.shardCount = e.shardCount ∧
      e'.started = e.started ∧
      e'.tasksOn = Function.update e.tasksOn shard (e.tasksOn shard ++ [task])) ∨
    (e.post shard task lost = (false, e) ∧
      ¬ (e.started = true ∧ lost = false ∧ (e.queues shard).length < e.capacity)) := by
  simp only [post]
  split
  · refine Or.inl ⟨_, rfl, rfl, rfl, ?_⟩
    funext k
    by_cases same : k = shard
    · subst same
      simp [tasksOn]
    · simp [tasksOn, Function.update_of_ne same]
  · rename_i refused
    exact Or.inr ⟨rfl, refused⟩

theorem pop_tasksOn {e e' : TaskExecutor} {shard : Nat} (popped : e.pop shard = some e') :
    e'.shardCount = e.shardCount ∧ e'.started = e.started ∧ e'.tasksOn = e.tasksOn := by
  simp only [pop] at popped
  split at popped
  · rename_i task rest at_worker at_queue
    cases popped
    refine ⟨rfl, rfl, ?_⟩
    funext k
    by_cases same : k = shard
    · subst same
      simp [tasksOn, setWorker, Worker.task, at_worker, at_queue]
    · simp [tasksOn, setWorker, Function.update_of_ne same]
  · cases popped

end TaskExecutor

end Executor

inductive Ending where
  | error
  | closed
  deriving DecidableEq

/-- Where `configure_streams` or `close` of a session is. In `registering` and `adding`
the first list is `registered_fds`; `dropping` and `erasing` are the two halves of
`unregister_fd` over a list. -/
inductive Stage where
  | created
  | opening
  | registering (registered rest : List Nat)
  | adding (registered : List Nat) (fd : Nat) (rest : List Nat)
  | configured
  | error
  | closing (driverFds : List Nat)
  | dropping (fds : List Nat) (ending : Ending)
  | erasing (fd : Nat) (rest : List Nat) (ending : Ending)
  | closed
  deriving DecidableEq

def Ending.stage : Ending → Stage
  | .error => .error
  | .closed => .closed

/-- A session as the runtime meets it; `alive` is what `weak_ptr::lock` finds. -/
structure SessionView where
  sessionId : Int
  stage : Stage
  driverFds : List Nat
  alive : Bool

structure HalRuntime where
  loop : EventLoop
  executor : TaskExecutor
  numbers : FdTable
  sessions : Nat → SessionView
  registry : Int → Option Nat
  lastError : String

/-- The process has some descriptors open, and no session has been configured. -/
def HalRuntime.initial (config : TaskExecutorConfig) (ids : Nat → Int) (others : List Nat) :
    HalRuntime :=
  { loop := EventLoop.create
    executor := TaskExecutor.create config
    numbers := others.foldr (fun n numbers => numbers.insert n none) ∅
    sessions := fun h => { sessionId := ids h, stage := .created, driverFds := [], alive := true }
    registry := fun _ => none
    lastError := "" }

/-- A step is one locked section, one system call or one queue operation. The kernel's
answers and the outcome of a push come with the label. -/
inductive Label where
  | start
  | stopLoop
  | joinLoop
  | stopExecutor
  | configure (session : Nat)
  | openFd (session : Nat)
  | opened (session : Nat)
  | openFailed (session : Nat)
  | registerFd (session : Nat)
  | addFd (session : Nat) (answer : Option String)
  | close (session : Nat)
  | closeFd (session fd : Nat)
  | driverClosed (session : Nat)
  | unregisterFd (session : Nat)
  | eraseCallback (session : Nat)
  | expire (session : Nat)
  | openOther
  | closeOther (fd : Nat)
  | wait (ready : List Nat)
  | lookup
  | deliver (lost : Bool)
  | post (shard : Nat) (lost : Bool)
  | pop (shard : Nat)
  | run (shard : Nat)
  | rearm (shard : Nat)

namespace HalRuntime

def setStage (s : HalRuntime) (h : Nat) (stage : Stage) : HalRuntime :=
  { s with sessions := Function.update s.sessions h { s.sessions h with stage := stage } }

@[simp]
theorem setStage_self (s : HalRuntime) (h : Nat) (stage : Stage) :
    (s.setStage h stage).sessions h = { s.sessions h with stage := stage } :=
  Function.update_self _ _ _

@[simp]
theorem setStage_loop (s : HalRuntime) (h : Nat) (stage : Stage) :
    (s.setStage h stage).loop = s.loop := rfl

@[simp]
theorem setStage_numbers (s : HalRuntime) (h : Nat) (stage : Stage) :
    (s.setStage h stage).numbers = s.numbers := rfl

theorem setStage_of_ne (s : HalRuntime) {h h' : Nat} (stage : Stage) (other : h' ≠ h) :
    (s.setStage h stage).sessions h' = s.sessions h' :=
  Function.update_of_ne other _ _

def shardOf (s : HalRuntime) (h : Nat) : Nat := s.executor.shardOf (s.sessions h).sessionId

theorem shardOf_congr {s t : HalRuntime} {h : Nat}
    (ids : (t.sessions h).sessionId = (s.sessions h).sessionId)
    (shardCount : t.executor.shardCount = s.executor.shardCount) : t.shardOf h = s.shardOf h := by
  simp only [HalRuntime.shardOf, TaskExecutor.shardOf, ids, shardCount]

section Sessions

def openedStep (h : Nat) (s : HalRuntime) : HalRuntime :=
  let fds := eventFds s.numbers h
  { s with
    sessions := Function.update s.sessions h
      { s.sessions h with driverFds := fds, stage := .registering [] fds }
    registry := Function.update s.registry (s.sessions h).sessionId (some h) }

/-- The head of the loop of `register_session`, and its end. -/
def registerFdStep (h : Nat) (s : HalRuntime) : Option HalRuntime :=
  match (s.sessions h).stage with
  | .registering [] [] =>
    some { s.setStage h .error with
      registry := Function.update s.registry (s.sessions h).sessionId none
      lastError := "driver exposed no event fd" }
  | .registering (_ :: _) [] => some (s.setStage h .configured)
  | .registering registered (fd :: rest) =>
    match s.loop.storeCallback fd h with
    | (true, l) => some { s.setStage h (.adding registered fd rest) with loop := l }
    | (false, _) => some (s.setStage h (.dropping registered .error))
  | _ => none

/-- The second half of `register_fd`. A refused descriptor loses its callback, and
those registered before it are unregistered. -/
def addFdStep (h : Nat) (answer : Option String) (s : HalRuntime) : Option HalRuntime :=
  match (s.sessions h).stage with
  | .adding registered fd rest =>
    match s.loop.addInterest fd answer with
    | (true, l) => some { s.setStage h (.registering (registered ++ [fd]) rest) with loop := l }
    | (false, l) => some { s.setStage h (.erasing fd registered .error) with loop := l }
  | _ => none

/-- `close` takes the session's mutex and keeps a copy of `driver_fds_`. -/
def closeStep (h : Nat) (s : HalRuntime) : Option HalRuntime :=
  match (s.sessions h).stage with
  | .created | .configured | .error => some (s.setStage h (.closing (s.sessions h).driverFds))
  | _ => none

/-- The driver closes one descriptor, in `close` or after a failed `configure_stream`. -/
def closeFdStep (h fd : Nat) (s : HalRuntime) : Option HalRuntime :=
  match (s.sessions h).stage with
  | .closing _ | .error =>
    if s.numbers.lookup fd = some (some h) then
      some { s with numbers := s.numbers.erase fd, loop := s.loop.dropInterest fd }
    else none
  | _ => none

/-- `driver_->close()` has returned; what follows is outside the mutex. -/
def driverClosedStep (h : Nat) (s : HalRuntime) : Option HalRuntime :=
  match (s.sessions h).stage with
  | .closing fds =>
    if eventFds s.numbers h = [] then
      some { s with
        sessions := Function.update s.sessions h
          { s.sessions h with
            driverFds := []
            stage := if fds = [] then .closed else .dropping fds .closed } }
    else none
  | _ => none

def unregisterFdStep (h : Nat) (s : HalRuntime) : Option HalRuntime :=
  match (s.sessions h).stage with
  | .dropping (fd :: rest) ending =>
    some { s.setStage h (.erasing fd rest ending) with loop := s.loop.dropInterest fd }
  | .dropping [] ending =>
    some { s.setStage h ending.stage with
      registry := Function.update s.registry (s.sessions h).sessionId none
      lastError := if ending = .error then s.loop.lastError else s.lastError }
  | _ => none

def eraseCallbackStep (h : Nat) (s : HalRuntime) : Option HalRuntime :=
  match (s.sessions h).stage with
  | .erasing fd rest ending =>
    some { s.setStage h (.dropping rest ending) with loop := s.loop.eraseCallback fd }
  | _ => none

def expireStep (h : Nat) (s : HalRuntime) : Option HalRuntime :=
  if ∀ shard < s.executor.shardCount, (s.executor.workers shard).holds h = false then
    some { s with sessions := Function.update s.sessions h { s.sessions h with alive := false } }
  else none

end Sessions

section Events

/-- `on_driver_fd_ready` on the loop thread. -/
def deliverStep (lost : Bool) (s : HalRuntime) : Option HalRuntime :=
  match s.loop.thread with
  | .calling fd h rest =>
    let l := { s.loop with thread := .batch rest }
    if (s.sessions h).alive then
      match s.executor.post (s.shardOf h) (.driverReady h fd) lost with
      | (true, e) => some { s with loop := l, executor := e }
      | (false, _) =>
        some { s with loop := l, lastError := "failed to post driver readiness task" }
    else some { s with loop := l }
  | .batch _ => none

def runStep (shard : Nat) (s : HalRuntime) : Option HalRuntime :=
  match s.executor.workers shard with
  | .popped (.driverReady h fd) =>
    let worker := if (s.sessions h).alive then Worker.handling h fd else Worker.idle
    some { s with executor := s.executor.setWorker shard worker }
  | .popped .other => some { s with executor := s.executor.setWorker shard .idle }
  | _ => none

/-- The end of a readiness task, after the session's own handler. -/
def rearmStep (shard : Nat) (s : HalRuntime) : Option HalRuntime :=
  match s.executor.workers shard with
  | .handling _ fd =>
    some { s with
      loop := (s.loop.rearmFd fd (decide (fd ∈ s.numbers))).2
      executor := s.executor.setWorker shard .idle }
  | _ => none

end Events

def startStep (s : HalRuntime) : Option HalRuntime :=
  if s.loop.opened = false ∧ s.executor.started = false ∧
      ∀ shard < s.executor.shardCount, s.executor.workers shard = .idle then
    some { s with loop := s.loop.start, executor := s.executor.start }
  else none

def step (s : HalRuntime) : Label → Option HalRuntime
  | .start => startStep s
  | .stopLoop =>
    if s.loop.running then some { s with loop := { s.loop with running := false } } else none
  | .joinLoop =>
    if s.loop.running = false ∧ s.loop.opened = true ∧ s.loop.thread = .batch [] then
      some { s with loop := s.loop.finish }
    else none
  | .stopExecutor =>
    if s.loop.opened = false then some { s with executor := { s.executor with started := false } }
    else none
  | .configure h =>
    if (s.sessions h).stage = .created then some (s.setStage h .opening) else none
  | .openFd h =>
    if (s.sessions h).stage = .opening then
      some { s with numbers := s.numbers.insert (lowestUnused s.numbers) (some h) }
    else none
  | .opened h => if (s.sessions h).stage = .opening then some (openedStep h s) else none
  | .openFailed h =>
    if (s.sessions h).stage = .opening then some (s.setStage h .error) else none
  | .registerFd h => registerFdStep h s
  | .addFd h answer => addFdStep h answer s
  | .close h => closeStep h s
  | .closeFd h fd => closeFdStep h fd s
  | .driverClosed h => driverClosedStep h s
  | .unregisterFd h => unregisterFdStep h s
  | .eraseCallback h => eraseCallbackStep h s
  | .expire h => expireStep h s
  | .openOther => some { s with numbers := s.numbers.insert (lowestUnused s.numbers) none }
  | .closeOther fd =>
    if s.numbers.lookup fd = some none then
      some { s with numbers := s.numbers.erase fd, loop := s.loop.dropInterest fd }
    else none
  | .wait ready => (s.loop.wait ready).map fun l => { s with loop := l }
  | .lookup => s.loop.lookup.map fun l => { s with loop := l }
  | .deliver lost => deliverStep lost s
  | .post shard lost =>
    if shard < s.executor.shardCount then
      some { s with executor := (s.executor.post shard .other lost).2 }
    else none
  | .pop shard =>
    if shard < s.executor.shardCount then
      (s.executor.pop shard).map fun e => { s with executor := e }
    else none
  | .run shard => if shard < s.executor.shardCount then runStep shard s else none
  | .rearm shard => if shard < s.executor.shardCount then rearmStep shard s else none

section Queues

variable {s t : HalRuntime}

private theorem post_fifo (shard k : Nat) (task : RuntimeTask) (lost : Bool) (e : TaskExecutor) :
    FifoMove e.capacity (e.queues k) ((e.post shard task lost).2.queues k) := by
  simp only [TaskExecutor.post]
  split
  · rename_i accepted
    by_cases same : k = shard
    · subst same
      simp only [Function.update_self]
      exact .enqueue _ _ accepted.2.2
    · simp only [Function.update_of_ne same]
      exact .stutter _
  · exact .stutter _

private theorem step_queues {a : Label} (taken : step s a = some t) :
    t.executor.queues = s.executor.queues ∨ a = .start ∨ (∃ shard, a = .pop shard) ∨
      ∃ shard task lost, t.executor = (s.executor.post shard task lost).2 := by
  cases a with
  | start => exact Or.inr (Or.inl rfl)
  | pop shard => exact Or.inr (Or.inr (Or.inl ⟨shard, rfl⟩))
  | post shard lost =>
    simp only [step] at taken
    split at taken <;> cases taken
    exact Or.inr (Or.inr (Or.inr ⟨shard, .other, lost, rfl⟩))
  | deliver lost =>
    simp only [step, deliverStep] at taken
    split at taken
    case h_2 => cases taken
    rename_i fd h rest calling
    split at taken
    · split at taken
      · rename_i e accepted
        cases taken
        refine Or.inr (Or.inr (Or.inr ⟨s.shardOf h, .driverReady h fd, lost, ?_⟩))
        rw [accepted]
      · cases taken
        exact Or.inl rfl
    · cases taken
      exact Or.inl rfl
  | wait ready =>
    obtain ⟨l, -, rfl⟩ := Option.map_eq_some_iff.mp taken
    exact Or.inl rfl
  | lookup =>
    obtain ⟨l, -, rfl⟩ := Option.map_eq_some_iff.mp taken
    exact Or.inl rfl
  | run shard =>
    simp only [step, runStep] at taken
    split at taken
    · split at taken <;> cases taken <;> exact Or.inl rfl
    · cases taken
  | rearm shard =>
    simp only [step, rearmStep] at taken
    split at taken
    · split at taken <;> cases taken
      exact Or.inl rfl
    · cases taken
  | registerFd h =>
    simp only [step, registerFdStep] at taken
    split at taken
    · cases taken
      exact Or.inl rfl
    · cases taken
      exact Or.inl rfl
    · split at taken <;> cases taken <;> exact Or.inl rfl
    · cases taken
  | addFd h answer =>
    simp only [step, addFdStep] at taken
    split at taken
    · split at taken <;> cases taken <;> exact Or.inl rfl
    · cases taken
  | closeFd h fd =>
    simp only [step, closeFdStep] at taken
    split at taken
    · split at taken <;> cases taken
      exact Or.inl rfl
    · split at taken <;> cases taken
      exact Or.inl rfl
    · cases taken
  | driverClosed h =>
    simp only [step, driverClosedStep] at taken
    split at taken
    · split at taken <;> cases taken
      exact Or.inl rfl
    · cases taken
  | openOther =>
    cases taken
    exact Or.inl rfl
  | close h =>
    simp only [step, closeStep] at taken
    split at taken <;> cases taken <;> exact Or.inl rfl
  | unregisterFd h =>
    simp only [step, unregisterFdStep] at taken
    split at taken <;> cases taken <;> exact Or.inl rfl
  | eraseCallback h =>
    simp only [step, eraseCallbackStep] at taken
    split at taken <;> cases taken
    exact Or.inl rfl
  | expire h =>
    simp only [step, expireStep] at taken
    split at taken <;> cases taken
    exact Or.inl rfl
  | stopLoop | joinLoop | stopExecutor | configure | openFd | opened | openFailed | closeOther =>
    simp only [step] at taken
    split at taken <;> cases taken
    exact Or.inl rfl

/-- Between two starts every shard queue moves as the FIFO which the ring refines. -/
theorem step_shard_fifo {a : Label} (taken : step s a = some t) (kept : a ≠ .start) (k : Nat) :
    FifoMove s.executor.capacity (s.executor.queues k) (t.executor.queues k) := by
  rcases step_queues taken with same | start | ⟨shard, rfl⟩ | ⟨shard, task, lost, posted⟩
  · rw [same]
    exact .stutter _
  · exact (kept start).elim
  · simp only [step] at taken
    split at taken
    case isFalse => cases taken
    obtain ⟨e, popped, rfl⟩ := Option.map_eq_some_iff.mp taken
    simp only [TaskExecutor.pop] at popped
    split at popped
    · rename_i task rest at_worker at_queue
      cases popped
      by_cases same : k = shard
      · subst same
        simp only [at_queue, Function.update_self]
        exact .dequeue task rest
      · simp only [Function.update_of_ne same]
        exact .stutter _
    · cases popped
  · rw [posted]
    exact post_fifo shard k task lost s.executor

end Queues

end HalRuntime

end MiniCam.Runtime.CameraHalRuntime
