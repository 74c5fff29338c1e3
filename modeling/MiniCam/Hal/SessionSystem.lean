/- Module: MiniCam/Hal/SessionSystem
   source: hal/camera_device_session.cpp
   digest: Sessions as transitions between their locked sections and callbacks. -/

import MiniCam.Foundation.Runs
import MiniCam.Hal.CameraDeviceSession

set_option autoImplicit false
set_option relaxedAutoImplicit false

namespace MiniCam.Hal.SessionSystem

open MiniCam.Hal.Interface
open MiniCam.Hal.InFlightRequestTracker
open MiniCam.Hal.CameraDeviceSession

/-- What a driver buffer was submitted for: an accepted request, by its place in
the order of acceptance, or one streaming frame number. -/
inductive Use where
  | capture (id : Nat)
  | preview (frameNumber : Nat)
  deriving DecidableEq

/-- One successful `bind_driver_output`, with the submitted target. -/
structure Binding where
  use : Use
  outputIndex : Int
  target : OutputBufferTarget
  deriving DecidableEq

structure Credit where
  token : DriverToken
  use : Use
  outputIndex : Int
  deriving DecidableEq

/-- The locals of `on_driver_buffer_complete` around the stream callback. -/
structure PreviewHandler where
  result : CaptureResult
  lease : StreamBufferLease
  output : InFlightStreamingOutput
  deriving DecidableEq

structure Callbacks where
  result : Bool
  stream : Bool

/-- A session with everything that is in progress around it. A result stays in
`prepared` from the end of the locked section that built it to its dispatch.
The last four fields are histories that no step reads: the driver before and after
each handled request, the request behind the row of a frame number, the latest
binding of each token, and every applied completion. -/
structure System (δ π : Type) where
  session : Session δ
  processorState : π
  admitting : List CaptureRequest
  accepted : List CaptureRequest
  tasks : List (Nat × CaptureRequest)
  dequeued : List DriverCompletion
  callbacks : List PreviewHandler
  returning : List PreviewHandler
  prepared : List (Nat × CaptureResult)
  dispatched : List (Use × CaptureResult)
  submissions : List (Nat × Option δ × Option δ)
  owner : Nat → Nat
  boundFor : DriverToken → Option Binding
  credits : List Credit

variable {δ π : Type}

def System.initial (config : CameraDeviceSessionConfig) (driver : Option δ) (p : π) :
    System δ π :=
  { session := Session.create config driver
    processorState := p
    admitting := []
    accepted := []
    tasks := []
    dequeued := []
    callbacks := []
    returning := []
    prepared := []
    dispatched := []
    submissions := []
    owner := fun _ => 0
    boundFor := fun _ => none
    credits := [] }

def bindingOf (t : Tracker) (use : Use) (context : DriverOutputContext) : Option Binding :=
  let target :=
    if context.outputIndex < 0 then
      (t.streamingOutputs.lookup context.frameNumber).map (·.target)
    else t.outputTarget context.frameNumber context.outputIndex
  target.map fun target => { use := use, outputIndex := context.outputIndex, target := target }

/-- The tokens that a locked section bound are recorded with what they are for. -/
def recordBindings (before after : Tracker) (use : DriverOutputContext → Use)
    (old : DriverToken → Option Binding) (token : DriverToken) : Option Binding :=
  match after.driverOutputs.lookup token with
  | none => old token
  | some context =>
    if token ∈ before.driverOutputs then old token else bindingOf after (use context) context

def previewUse (context : DriverOutputContext) : Use := .preview context.frameNumber

def creditOf (s : System δ π) (token : DriverToken) : List Credit :=
  match (s.session.inFlight.takeDriverOutputContext token).1 with
  | none => []
  | some resolved =>
    let use :=
      if resolved.streamingOutput.isSome then Use.preview resolved.frameNumber
      else Use.capture (s.owner resolved.frameNumber)
    [{ token := token, use := use, outputIndex := resolved.outputIndex }]

/-- A step is one locked section or one callback outside the lock. Admission is
two steps, the check under the lock and the post outside it; the runtime's
answers, the clock and the returned lease come with the label. -/
inductive Label where
  | configureStreams (registered : Bool)
  | startStreaming
  | processRequest (request : CaptureRequest)
  | post (k : Nat) (taken : Bool)
  | runTask (k : Nat) (now : Int)
  | dequeue (readyFd : Int)
  | process (k : Nat) (now : Int)
  | dispatch (k : Nat)
  | streamCallback (k : Nat) (lease : StreamBufferLease)
  | returnStream (k : Nat)
  | flush (now : Int)
  | close (now : Int)

section Steps

variable (D : DriverAdapter δ) (processors : List (Option (OutputProcessor π)))
  (callbacks : Callbacks)

def startStep (s : System δ π) : System δ π :=
  let session := (startStreaming D s.session).2
  { s with
    session := session
    boundFor := recordBindings s.session.inFlight session.inFlight previewUse s.boundFor }

def postStep (k : Nat) (taken : Bool) (s : System δ π) : Option (System δ π) :=
  match s.admitting[k]? with
  | none => none
  | some request =>
    let waiting := { s with admitting := s.admitting.eraseIdx k }
    if taken then
      some { waiting with
        accepted := s.accepted ++ [request]
        tasks := s.tasks ++ [(s.accepted.length, request)] }
    else some waiting

def runTaskStep (k : Nat) (now : Int) (s : System δ π) : Option (System δ π) :=
  match s.tasks[k]? with
  | none => none
  | some (id, request) =>
    let rest := { s with tasks := s.tasks.eraseIdx k }
    match submitCaptureRequest D now request s.session with
    | (some result, session) =>
      some { rest with
        session := session
        submissions := s.submissions ++ [(id, s.session.driver, session.driver)]
        prepared := s.prepared ++ [(id, result)] }
    | (none, session) =>
      some { rest with
        session := session
        submissions := s.submissions ++ [(id, s.session.driver, session.driver)]
        owner := Function.update s.owner request.frameNumber id
        boundFor := recordBindings s.session.inFlight session.inFlight (fun _ => .capture id)
          s.boundFor }

def dequeueStep (readyFd : Int) (s : System δ π) : System δ π :=
  let answer := dequeueCompletion D readyFd s.session
  { s with session := answer.2, dequeued := s.dequeued ++ answer.1.toList }

def afterCompletion (k : Nat) (token : DriverToken) (filled : Filled) (p : π)
    (session : Session δ) (s : System δ π) : System δ π :=
  let rest := { s with
    session := session
    processorState := p
    dequeued := s.dequeued.eraseIdx k
    credits := s.credits ++ creditOf s token }
  match filled with
  | .nothing => rest
  | .capture result =>
    { rest with prepared := s.prepared ++ [(s.owner result.frameNumber, result)] }
  | .preview result lease output =>
    { rest with
      callbacks := s.callbacks ++ [{ result := result, lease := lease, output := output }] }

def processStep (k : Nat) (now : Int) (s : System δ π) : Option (System δ π) :=
  match s.dequeued[k]? with
  | none => none
  | some completion =>
    let out := tryFillResultFromCompletion processors completion now s.processorState s.session
    some (afterCompletion k completion.token out.1 out.2.1 out.2.2 s)

/-- Without a result callback the result is dropped here. -/
def dispatchStep (k : Nat) (s : System δ π) : Option (System δ π) :=
  match s.prepared[k]? with
  | none => none
  | some (id, result) =>
    some { s with
      prepared := s.prepared.eraseIdx k
      dispatched :=
        if callbacks.result then s.dispatched ++ [(.capture id, result)] else s.dispatched }

/-- Without a stream callback the result callback is used and the lease stays. -/
def streamCallbackStep (k : Nat) (lease : StreamBufferLease) (s : System δ π) :
    Option (System δ π) :=
  match s.callbacks[k]? with
  | none => none
  | some handler =>
    some { s with
      callbacks := s.callbacks.eraseIdx k
      returning := s.returning ++
        [if callbacks.stream then { handler with lease := lease } else handler]
      dispatched :=
        if callbacks.stream || callbacks.result then
          s.dispatched ++ [(.preview handler.output.frameNumber, handler.result)]
        else s.dispatched }

def returnStep (k : Nat) (s : System δ π) : Option (System δ π) :=
  match s.returning[k]? with
  | none => none
  | some handler =>
    let session := returnStreamBuffer D handler.lease handler.output s.session
    some { s with
      returning := s.returning.eraseIdx k
      session := session
      boundFor := recordBindings s.session.inFlight session.inFlight previewUse s.boundFor }

def withResults (s : System δ π) (flushed : List CaptureResult × Session δ) : System δ π :=
  { s with
    session := flushed.2
    prepared := s.prepared ++ flushed.1.map fun result => (s.owner result.frameNumber, result) }

def step (s : System δ π) : Label → Option (System δ π)
  | .configureStreams registered =>
    some { s with session := (configureStreams D registered s.session).2 }
  | .startStreaming => some (startStep D s)
  | .processRequest request =>
    if rejectRequest s.session then none
    else some { s with admitting := s.admitting ++ [request] }
  | .post k taken => postStep k taken s
  | .runTask k now => runTaskStep D k now s
  | .dequeue readyFd => some (dequeueStep D readyFd s)
  | .process k now => processStep processors k now s
  | .dispatch k => dispatchStep callbacks k s
  | .streamCallback k lease => streamCallbackStep callbacks k lease s
  | .returnStream k => returnStep D k s
  | .flush now => some (withResults s (flush D now s.session))
  | .close now => some (withResults s (close D now s.session))

end Steps

end MiniCam.Hal.SessionSystem
