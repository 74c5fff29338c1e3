/- Module: MiniCam/Queue/TaskExecutor
   source: hal/task_executor.h, hal/task_executor.cpp
   digest: Sharded workers over their ring queues, through start, posts and the two-phase stop. -/

import MiniCam.Queue.BoundedTaskQueue

set_option autoImplicit false
set_option relaxedAutoImplicit false

namespace MiniCam.Queue.TaskExecutor

open MiniCam.Queue.BoundedTaskQueue (System modulus64)

variable {Task : Type}

/-- The two sizes are `size_t` values. -/
structure TaskExecutorConfig where
  shardCount : Nat := 4
  shardQueueCapacity : Nat := 256
  fits : shardQueueCapacity < modulus64 := by decide

/-- A task in a history: the post it came from, and the start/stop cycle of its worker in
which the entry was made. -/
structure Entry (Task : Type) where
  cycle : Nat
  post : Nat
  task : Task
  deriving DecidableEq

/-- `ShardedWorker`: its queue with the thread that runs `run`, which lives while `started`.
Tasks in the ring carry the number of their post. The last four fields are history. -/
structure Worker (Task : Type) where
  system : System (Nat × Task)
  started : Bool := false
  cycle : Nat := 0
  claims : List (Entry Task) := []
  begun : List (Entry Task) := []
  finished : List (Entry Task) := []

namespace Worker

def entry (w : Worker Task) (tagged : Nat × Task) : Entry Task := ⟨w.cycle, tagged.1, tagged.2⟩

def executing (w : Worker Task) : List (Entry Task) :=
  match w.system.consumer with
  | .returned (some tagged) => [w.entry tagged]
  | _ => []

/-- Start the thread on a reset queue. The calls of `push` made before have all returned. -/
def start (w : Worker Task) : Worker Task :=
  if w.started then w
  else
    { w with
      system := { System.initial 0 with queue := w.system.queue.reset }
      started := true
      cycle := w.cycle + 1 }

/-- One step of a call of `push`; a successful compare-exchange is entered in the history. -/
def push (w : Worker Task) (id : Nat) (spurious : Bool) : Option (Worker Task) :=
  (BoundedTaskQueue.pushStep w.system id spurious).map fun system =>
    { w with
      system := system
      claims := w.claims ++
        (system.claimed.drop w.system.claimed.length).map fun claim => w.entry claim.2 }

/-- One step of `run`. A task begins when `wait_pop` has handed it out, and is finished when
the thread goes back to `wait_pop`. -/
def work (w : Worker Task) : Option (Worker Task) :=
  if w.started then
    (BoundedTaskQueue.popStep w.system).map fun system =>
      { w with
        system := system
        begun := w.begun ++
          (system.popped.drop w.system.popped.length).filterMap fun task => task.map w.entry
        finished := w.finished ++ w.executing }
  else none

end Worker

/-- The progress of a call of `post`; `pushing` is inside the worker's `push`. -/
inductive PostState where
  | loadStarted
  | routed
  | pushing
  | returned (result : Bool)
  deriving DecidableEq

structure Post (Task : Type) where
  key : Nat
  task : Option Task
  state : PostState

/-- The progress of the one `start` or `stop` call under way; the number is that of the worker
it is at. -/
inductive Control where
  | idle
  | starting (k : Nat)
  | stopping (k : Nat)
  | joining (k : Nat)
  deriving DecidableEq

/-- The members of `TaskExecutor`, and the calls made on it. A post is its place in the list. -/
structure Executor (Task : Type) where
  workers : List (Worker Task)
  started : Bool
  control : Control
  posts : List (Post Task)

def Executor.create (config : TaskExecutorConfig) : Executor Task :=
  { workers := List.replicate (max config.shardCount 1)
      { system := System.initial (max config.shardQueueCapacity 1) }
    started := false
    control := .idle
    posts := [] }

inductive Label (Task : Type) where
  | start
  | stop
  | control
  | post (key : Nat) (task : Option Task)
  | postStep (id : Nat) (spurious : Bool)
  | work (k : Nat)

namespace Executor

def setWorker (x : Executor Task) (k : Nat) (w : Worker Task) : Executor Task :=
  { x with workers := x.workers.set k w }

def setPost (x : Executor Task) (id : Nat) (post : Post Task) (state : PostState) :
    Executor Task :=
  { x with posts := x.posts.set id { post with state := state } }

/-- The next step of `start` or `stop`. Stopping signals every worker before the first join;
a join waits until the thread has left `run`. -/
def controlStep (x : Executor Task) : Option (Executor Task) :=
  match x.control with
  | .idle => none
  | .starting k =>
    match x.workers[k]? with
    | some w => some { x.setWorker k w.start with control := .starting (k + 1) }
    | none => some { x with started := true, control := .idle }
  | .stopping k =>
    match x.workers[k]? with
    | some w =>
      if w.started then
        (BoundedTaskQueue.stopStep w.system).map fun system =>
          { x.setWorker k { w with system := system } with
            control := if system.stopper = .returned then .stopping (k + 1) else .stopping k }
      else some { x with control := .stopping (k + 1) }
    | none => some { x with control := .joining 0 }
  | .joining k =>
    match x.workers[k]? with
    | some w =>
      if w.started then
        match w.system.consumer with
        | .exited =>
          some { x.setWorker k { w with started := false } with control := .joining (k + 1) }
        | _ => none
      else some { x with control := .joining (k + 1) }
    | none => some { x with started := false, control := .idle }

/-- The next step of a call of `post`: the executor's flag, the worker's checks, then `push`. -/
def postStep (x : Executor Task) (id : Nat) (spurious : Bool) : Option (Executor Task) :=
  x.posts[id]?.bind fun post =>
    match post.state with
    | .loadStarted =>
      some (x.setPost id post
        (if x.started = true ∧ x.workers ≠ [] then .routed else .returned false))
    | .routed =>
      x.workers[post.key % x.workers.length]?.bind fun w =>
        match post.task with
        | none => some (x.setPost id post (.returned false))
        | some task =>
          if w.started then
            (BoundedTaskQueue.callStep w.system id (some (id, task))).map fun system =>
              (x.setWorker (post.key % x.workers.length) { w with system := system }).setPost
                id post .pushing
          else some (x.setPost id post (.returned false))
    | .pushing =>
      x.workers[post.key % x.workers.length]?.bind fun w =>
        (w.push id spurious).map fun w' =>
          (x.setWorker (post.key % x.workers.length) w').setPost id post
            (match w'.system.calls id with
              | .returned result => .returned result
              | _ => .pushing)
    | .returned _ => none

inductive ControlOutcome (x : Executor Task) : Executor Task → Prop where
  | started {k : Nat} {w : Worker Task} (starting : x.control = .starting k)
    (found : x.workers[k]? = some w) :
    ControlOutcome x { x.setWorker k w.start with control := .starting (k + 1) }
  | allStarted {k : Nat} (starting : x.control = .starting k) (none_left : x.workers[k]? = none) :
    ControlOutcome x { x with started := true, control := .idle }
  | signalled {k : Nat} {w : Worker Task} {system : BoundedTaskQueue.System (Nat × Task)}
    (stopping : x.control = .stopping k) (found : x.workers[k]? = some w)
    (running : w.started = true) (stopped : BoundedTaskQueue.stopStep w.system = some system) :
    ControlOutcome x { x.setWorker k { w with system := system } with
      control := if system.stopper = .returned then .stopping (k + 1) else .stopping k }
  | signalPassed {k : Nat} {w : Worker Task} (stopping : x.control = .stopping k)
    (found : x.workers[k]? = some w) (idle : w.started = false) :
    ControlOutcome x { x with control := .stopping (k + 1) }
  | allSignalled {k : Nat} (stopping : x.control = .stopping k) (none_left : x.workers[k]? = none) :
    ControlOutcome x { x with control := .joining 0 }
  | joined {k : Nat} {w : Worker Task} (joining : x.control = .joining k)
    (found : x.workers[k]? = some w) (exited : w.system.consumer = .exited) :
    ControlOutcome x { x.setWorker k { w with started := false } with control := .joining (k + 1) }
  | joinPassed {k : Nat} {w : Worker Task} (joining : x.control = .joining k)
    (found : x.workers[k]? = some w) (idle : w.started = false) :
    ControlOutcome x { x with control := .joining (k + 1) }
  | allJoined {k : Nat} (joining : x.control = .joining k) (none_left : x.workers[k]? = none) :
    ControlOutcome x { x with started := false, control := .idle }

theorem control_outcome {x y : Executor Task} (taken : x.controlStep = some y) :
    ControlOutcome x y := by
  unfold controlStep at taken
  split at taken
  · cases taken
  · rename_i k starting
    split at taken
    · rename_i w found
      cases taken
      exact .started starting found
    · rename_i none_left
      cases taken
      exact .allStarted starting none_left
  · rename_i k stopping
    split at taken
    · rename_i w found
      split at taken
      · rename_i running
        obtain ⟨system, stopped, rfl⟩ := Option.map_eq_some_iff.mp taken
        exact .signalled stopping found running stopped
      · rename_i idle
        cases taken
        exact .signalPassed stopping found (Bool.not_eq_true _ ▸ idle)
    · rename_i none_left
      cases taken
      exact .allSignalled stopping none_left
  · rename_i k joining
    split at taken
    · rename_i w found
      split at taken
      · split at taken
        · rename_i exited
          cases taken
          exact .joined joining found exited
        · cases taken
      · rename_i idle
        cases taken
        exact .joinPassed joining found (Bool.not_eq_true _ ▸ idle)
    · rename_i none_left
      cases taken
      exact .allJoined joining none_left

inductive PostOutcome (x : Executor Task) (id : Nat) (spurious : Bool) (post : Post Task) :
    Executor Task → Prop where
  | checked (loading : post.state = .loadStarted) :
    PostOutcome x id spurious post (x.setPost id post
      (if x.started = true ∧ x.workers ≠ [] then .routed else .returned false))
  | refused {w : Worker Task} (routed : post.state = .routed)
    (found : x.workers[post.key % x.workers.length]? = some w)
    (reason : post.task = none ∨ w.started = false) :
    PostOutcome x id spurious post (x.setPost id post (.returned false))
  | called {w : Worker Task} {task : Task} {system : BoundedTaskQueue.System (Nat × Task)}
    (routed : post.state = .routed)
    (found : x.workers[post.key % x.workers.length]? = some w) (at_task : post.task = some task)
    (running : w.started = true)
    (called : BoundedTaskQueue.callStep w.system id (some (id, task)) = some system) :
    PostOutcome x id spurious post
      ((x.setWorker (post.key % x.workers.length) { w with system := system }).setPost
        id post .pushing)
  | pushed {w w' : Worker Task} (pushing : post.state = .pushing)
    (found : x.workers[post.key % x.workers.length]? = some w)
    (pushed : w.push id spurious = some w') :
    PostOutcome x id spurious post
      ((x.setWorker (post.key % x.workers.length) w').setPost id post
        (match w'.system.calls id with
          | .returned result => .returned result
          | _ => .pushing))

theorem post_outcome {x y : Executor Task} {id : Nat} {spurious : Bool}
    (taken : x.postStep id spurious = some y) :
    ∃ post, x.posts[id]? = some post ∧ PostOutcome x id spurious post y := by
  obtain ⟨post, at_id, rest⟩ := Option.bind_eq_some_iff.mp taken
  refine ⟨post, at_id, ?_⟩
  cases at_state : post.state with
  | loadStarted =>
    rw [at_state] at rest
    cases rest
    exact .checked at_state
  | routed =>
    rw [at_state] at rest
    obtain ⟨w, found, rest⟩ := Option.bind_eq_some_iff.mp rest
    cases at_task : post.task with
    | none =>
      rw [at_task] at rest
      cases rest
      exact .refused at_state found (Or.inl at_task)
    | some task =>
      rw [at_task] at rest
      simp only at rest
      split at rest
      · rename_i running
        obtain ⟨system, called, rfl⟩ := Option.map_eq_some_iff.mp rest
        exact .called at_state found at_task running called
      · rename_i idle
        cases rest
        exact .refused at_state found (Or.inr (Bool.not_eq_true _ ▸ idle))
  | pushing =>
    rw [at_state] at rest
    obtain ⟨w, found, rest⟩ := Option.bind_eq_some_iff.mp rest
    obtain ⟨w', pushed, rfl⟩ := Option.map_eq_some_iff.mp rest
    exact .pushed at_state found pushed
  | returned result =>
    rw [at_state] at rest
    cases rest

end Executor

def step (x : Executor Task) : Label Task → Option (Executor Task)
  | .start =>
    match x.control with
    | .idle => some (if x.started then x else { x with control := .starting 0 })
    | _ => none
  | .stop =>
    match x.control with
    | .idle => some { x with control := .stopping 0 }
    | _ => none
  | .control => x.controlStep
  | .post key task => some { x with posts := x.posts ++ [⟨key, task, .loadStarted⟩] }
  | .postStep id spurious => x.postStep id spurious
  | .work k => x.workers[k]?.bind fun w => w.work.map fun w' => x.setWorker k w'

end MiniCam.Queue.TaskExecutor
