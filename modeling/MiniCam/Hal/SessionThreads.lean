/- Module: MiniCam/Hal/SessionThreads
   source: hal/camera_device_session.cpp, hal/camera_hal_runtime.cpp, hal/task_executor.cpp
   digest: The threads around one session: the callers of its methods, and the one worker of its
     shard, which submits its requests and handles its readiness in turn. -/

import MiniCam.Foundation.Simulation
import MiniCam.Hal.SessionSpec

set_option autoImplicit false
set_option relaxedAutoImplicit false

namespace MiniCam.Hal.SessionThreads

open MiniCam.Foundation.Runs (Reaches always)
open MiniCam.Foundation.Simulation
open MiniCam.Hal.Interface
open MiniCam.Hal.InFlightRequestTracker
open MiniCam.Hal.CameraDeviceSession
open MiniCam.Hal.SessionSystem (System Callbacks PreviewHandler)

variable {δ π : Type}

/-- A task of the session in the queue of its shard. A submission carries its place in the order
of acceptance; a readiness task is actionable when one of its three event bits is set. -/
inductive SessionTask where
  | submitCaptureRequest (id : Nat) (request : CaptureRequest)
  | onDriverFdReady (readyFd : Int) (actionable : Bool)
  deriving DecidableEq

/-- Where the worker is between two locked sections, with its locals. A result that is
being reported knows the readiness loop it came out of. -/
inductive Worker where
  | idle
  | submitting (id : Nat) (request : CaptureRequest)
  | polling (readyFd : Int)
  | completing (readyFd : Int) (completion : DriverCompletion)
  | calling (readyFd : Int) (handler : PreviewHandler)
  | returning (readyFd : Int) (handler : PreviewHandler)
  | reporting (result : CaptureResult) (resume : Option Int)

def SessionTask.submission : SessionTask → Option (Nat × CaptureRequest)
  | .submitCaptureRequest id request => some (id, request)
  | .onDriverFdReady _ _ => none

def Worker.submission : Worker → List (Nat × CaptureRequest)
  | .submitting id request => [(id, request)]
  | _ => []

def Worker.completion : Worker → List DriverCompletion
  | .completing _ completion => [completion]
  | _ => []

def Worker.called : Worker → List PreviewHandler
  | .calling _ handler => [handler]
  | _ => []

def Worker.returned : Worker → List PreviewHandler
  | .returning _ handler => [handler]
  | _ => []

def Worker.result : Worker → List CaptureResult
  | .reporting result _ => [result]
  | _ => []

def Worker.resumed : Option Int → Worker
  | some readyFd => .polling readyFd
  | none => .idle

/-- The session and its threads. `admitting` are the callers of `process_capture_request` between
the check and the post, `flushing` the callers of `flush` and `close` with the results that they
have still to report. The last three fields are histories: the accepted requests, the places of
those that have been handled, and the results that reached a callback. -/
structure Threads (δ π : Type) where
  session : Session δ
  processorState : π
  admitting : List CaptureRequest
  queue : List SessionTask
  worker : Worker
  flushing : List (List CaptureResult)
  accepted : List CaptureRequest
  handled : List Nat
  reported : List CaptureResult

def Threads.waiting (t : Threads δ π) : List (Nat × CaptureRequest) :=
  t.worker.submission ++ t.queue.filterMap SessionTask.submission

def Threads.initial (config : CameraDeviceSessionConfig) (driver : Option δ) (p : π) :
    Threads δ π :=
  { session := Session.create config driver
    processorState := p
    admitting := []
    queue := []
    worker := .idle
    flushing := []
    accepted := []
    handled := []
    reported := [] }

/-- The worker's steps carry the clock and the lease that the stream callback answers with. A post
fails on a full queue, or when it loses its race; a restart of the executor resets the queue. -/
inductive Label where
  | configureStreams (registered : Bool)
  | startStreaming
  | processRequest (request : CaptureRequest)
  | post (k : Nat) (taken : Bool)
  | postReady (readyFd : Int) (actionable taken : Bool)
  | restart
  | flush (now : Int)
  | close (now : Int)
  | reportFlushed (k : Nat)
  | pop
  | submit (now : Int)
  | poll
  | complete (now : Int)
  | call (lease : StreamBufferLease)
  | giveBack
  | report

section Steps

variable (D : DriverAdapter δ) (processors : List (Option (OutputProcessor π)))
  (callbacks : Callbacks)

def resultCallback (result : CaptureResult) (t : Threads δ π) : List CaptureResult :=
  if callbacks.result then t.reported ++ [result] else t.reported

/-- `post_session_task` for an admitted request. -/
def postStep (k : Nat) (taken : Bool) (t : Threads δ π) : Option (Threads δ π) :=
  match t.admitting[k]? with
  | none => none
  | some request =>
    let waiting := { t with admitting := t.admitting.eraseIdx k }
    if taken then
      some { waiting with
        accepted := t.accepted ++ [request]
        queue := t.queue ++ [.submitCaptureRequest t.accepted.length request] }
    else some waiting

/-- The locked sections of `flush` and `close` leave their results to their caller. -/
def withResults (t : Threads δ π) (flushed : List CaptureResult × Session δ) : Threads δ π :=
  { t with session := flushed.2, flushing := t.flushing ++ [flushed.1] }

def reportFlushedStep (k : Nat) (t : Threads δ π) : Option (Threads δ π) :=
  match t.flushing[k]? with
  | some (result :: rest) =>
    some { t with
      flushing := t.flushing.set k rest
      reported := resultCallback callbacks result t }
  | _ => none

/-- The head of a task. `on_driver_fd_ready` without an event returns at once. -/
def SessionTask.begin : SessionTask → Worker
  | .submitCaptureRequest id request => .submitting id request
  | .onDriverFdReady readyFd actionable => if actionable then .polling readyFd else .idle

def popStep (t : Threads δ π) : Option (Threads δ π) :=
  match t.worker, t.queue with
  | .idle, task :: rest => some { t with queue := rest, worker := task.begin }
  | _, _ => none

def submitStep (now : Int) (t : Threads δ π) : Option (Threads δ π) :=
  match t.worker with
  | .submitting id request =>
    match submitCaptureRequest D now request t.session with
    | (some result, session) =>
      some { t with
        session := session
        handled := t.handled ++ [id]
        worker := .reporting result none }
    | (none, session) =>
      some { t with session := session, handled := t.handled ++ [id], worker := .idle }
  | _ => none

def pollStep (t : Threads δ π) : Option (Threads δ π) :=
  match t.worker with
  | .polling readyFd =>
    match dequeueCompletion D readyFd t.session with
    | (some completion, session) =>
      some { t with session := session, worker := .completing readyFd completion }
    | (none, session) => some { t with session := session, worker := .idle }
  | _ => none

/-- The first locked section of `on_driver_buffer_complete`. -/
def completeStep (now : Int) (t : Threads δ π) : Option (Threads δ π) :=
  match t.worker with
  | .completing readyFd completion =>
    match tryFillResultFromCompletion processors completion now t.processorState t.session with
    | (filled, p, session) =>
      some { t with
        session := session
        processorState := p
        worker :=
          match filled with
          | .nothing => .polling readyFd
          | .capture result => .reporting result (some readyFd)
          | .preview result lease output =>
            .calling readyFd { result := result, lease := lease, output := output } }
  | _ => none

/-- Without a stream callback the result callback is used and the lease stays. -/
def callStep (lease : StreamBufferLease) (t : Threads δ π) : Option (Threads δ π) :=
  match t.worker with
  | .calling readyFd handler =>
    some { t with
      worker := .returning readyFd
        (if callbacks.stream then { handler with lease := lease } else handler)
      reported :=
        if callbacks.stream || callbacks.result then t.reported ++ [handler.result]
        else t.reported }
  | _ => none

/-- The second locked section of a preview completion. -/
def giveBackStep (t : Threads δ π) : Option (Threads δ π) :=
  match t.worker with
  | .returning readyFd handler =>
    some { t with
      session := returnStreamBuffer D handler.lease handler.output t.session
      worker := .polling readyFd }
  | _ => none

def reportStep (t : Threads δ π) : Option (Threads δ π) :=
  match t.worker with
  | .reporting result resume =>
    some { t with
      worker := .resumed resume
      reported := resultCallback callbacks result t }
  | _ => none

def step (t : Threads δ π) : Label → Option (Threads δ π)
  | .configureStreams registered =>
    some { t with session := (configureStreams D registered t.session).2 }
  | .startStreaming => some { t with session := (startStreaming D t.session).2 }
  | .processRequest request =>
    if rejectRequest t.session then none
    else some { t with admitting := t.admitting ++ [request] }
  | .post k taken => postStep k taken t
  | .postReady readyFd actionable taken =>
    if taken then some { t with queue := t.queue ++ [.onDriverFdReady readyFd actionable] }
    else some t
  | .restart =>
    match t.worker with
    | .idle => some { t with queue := [] }
    | _ => none
  | .flush now => some (withResults t (flush D now t.session))
  | .close now => some (withResults t (close D now t.session))
  | .reportFlushed k => reportFlushedStep callbacks k t
  | .pop => popStep t
  | .submit now => submitStep D now t
  | .poll => pollStep D t
  | .complete now => completeStep processors now t
  | .call lease => callStep callbacks lease t
  | .giveBack => giveBackStep D t
  | .report => reportStep callbacks t

end Steps

end MiniCam.Hal.SessionThreads
