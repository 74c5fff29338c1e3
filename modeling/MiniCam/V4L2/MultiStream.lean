/- Module: MiniCam/V4L2/MultiStream
   source: hal/v4l2_driver_adapter.h, hal/v4l2_driver_adapter.cpp
   digest: Several capture nodes behind one driver, with one token generator. -/

import MiniCam.V4L2.DriverAdapter

set_option autoImplicit false
set_option relaxedAutoImplicit false

namespace MiniCam.V4L2.MultiStream

open MiniCam.Hal.Interface
open MiniCam.V4L2.VideoNodes
open MiniCam.V4L2.DriverAdapter

structure V4L2StreamEndpointConfig where
  streamType : StreamType := .still
  stream : V4L2StreamConfig := {}

structure Endpoint where
  streamType : StreamType
  adapter : V4L2Adapter

/-- The members of `V4L2MultiStreamDriverAdapter`; `next_token_` is the generator of
the world that the endpoints' adapters act on. -/
structure MultiDriver where
  endpoints : List Endpoint
  lastError : String
  world : World

def MultiDriver.create (endpoints : List V4L2StreamEndpointConfig) (answers : Answers) :
    MultiDriver :=
  { endpoints := endpoints.zipIdx.map fun (endpoint, node) =>
      { streamType := endpoint.streamType
        adapter := V4L2Adapter.create node endpoint.stream true }
    lastError := ""
    world := { kernel := Kernel.boot answers, generator := 1, fences := [] } }

namespace MultiDriver

def setError (m : MultiDriver) (error : String) : MultiDriver := { m with lastError := error }

def callEndpoint {α : Type} (m : MultiDriver) (i : Nat) (endpoint : Endpoint)
    (out : α × V4L2Adapter × World) : α × MultiDriver :=
  (out.1, { m with
    endpoints := m.endpoints.set i { endpoint with adapter := out.2.1 }
    world := out.2.2 })

def endpointFor (m : MultiDriver) (streamType : StreamType) : Option Nat :=
  m.endpoints.findIdx? fun endpoint => endpoint.streamType = streamType

def endpointForFd (m : MultiDriver) (fd : Int) : Option Nat :=
  m.endpoints.findIdx? fun endpoint => endpoint.adapter.fd = fd

def callAll (call : V4L2Adapter → World → V4L2Adapter × World) :
    List Endpoint → World → List Endpoint × World
  | [], w => ([], w)
  | endpoint :: rest, w =>
    match call endpoint.adapter w with
    | (a, w') =>
      match callAll call rest w' with
      | (endpoints, w'') => ({ endpoint with adapter := a } :: endpoints, w'')

def stopStreaming (m : MultiDriver) : MultiDriver :=
  match callAll V4L2Adapter.stopStreaming m.endpoints m.world with
  | (endpoints, w) => { m with endpoints := endpoints, world := w }

def close (m : MultiDriver) : MultiDriver :=
  match callAll V4L2Adapter.close m.endpoints m.world with
  | (endpoints, w) => { m with endpoints := endpoints, world := w }

/-- Call every endpoint in order up to the first refusal, whose error is returned. -/
def tryAll (call : V4L2Adapter → World → Bool × V4L2Adapter × World) :
    List Endpoint → World → Option String × List Endpoint × World
  | [], w => (none, [], w)
  | endpoint :: rest, w =>
    match call endpoint.adapter w with
    | (false, a, w') => (some a.lastError, { endpoint with adapter := a } :: rest, w')
    | (true, a, w') =>
      match tryAll call rest w' with
      | (error, endpoints, w'') => (error, { endpoint with adapter := a } :: endpoints, w'')

def configureStream (m : MultiDriver) : Bool × MultiDriver :=
  if m.endpoints = [] then (false, m.setError "no V4L2 stream endpoints configured")
  else
    match tryAll V4L2Adapter.configureStream m.endpoints m.world with
    | (some error, endpoints, w) =>
      (false, ({ m with endpoints := endpoints, world := w, lastError := error }).close)
    | (none, endpoints, w) => (true, { m with endpoints := endpoints, world := w })

def startStreaming (m : MultiDriver) : Bool × MultiDriver :=
  match tryAll (fun a w => (a.startStreaming.1, a.startStreaming.2, w)) m.endpoints m.world with
  | (some error, endpoints, w) =>
    (false, { m with endpoints := endpoints, world := w, lastError := error })
  | (none, endpoints, w) => (true, { m with endpoints := endpoints, world := w })

def forward {α : Type} (m : MultiDriver) (index : Option Nat) (missing : String)
    (call : V4L2Adapter → World → Option α × V4L2Adapter × World) : Option α × MultiDriver :=
  match index.bind fun i => (m.endpoints[i]?).map fun endpoint => (i, endpoint) with
  | none => (none, m.setError missing)
  | some (i, endpoint) =>
    match m.callEndpoint i endpoint (call endpoint.adapter m.world) with
    | (none, m') => (none, m'.setError (call endpoint.adapter m.world).2.1.lastError)
    | (some answer, m') => (some answer, m')

def startContinuousStream (stream : StreamConfig) (buffers : List OutputBufferTarget)
    (m : MultiDriver) : Option (List DriverToken) × MultiDriver :=
  m.forward (m.endpointFor stream.streamType) "no V4L2 endpoint for continuous stream type"
    fun a w => a.startContinuousStream buffers w

/-- The outputs are grouped by endpoint and every group must fit. -/
def canSubmitCaptureOutputs (m : MultiDriver) (outputs : List OutputBufferTarget) : Bool :=
  outputs.all fun output =>
    match (m.endpointFor output.streamType).bind fun i => m.endpoints[i]? with
    | none => false
    | some endpoint =>
      endpoint.adapter.canSubmitCaptureOutputs
        (outputs.filter fun o => m.endpointFor o.streamType = m.endpointFor output.streamType)

def submitCapture (output : OutputBufferTarget) (m : MultiDriver) :
    Option DriverToken × MultiDriver :=
  m.forward (m.endpointFor output.streamType) "no V4L2 endpoint for requested stream type"
    fun a w => a.submitCapture output w

/-- An empty answer is no error of its own; an error the adapter kept is passed on. -/
def dequeueCompletion (readyFd : Int) (m : MultiDriver) : Option DriverCompletion × MultiDriver :=
  match (m.endpointForFd readyFd).bind fun i =>
      (m.endpoints[i]?).map fun endpoint => (i, endpoint) with
  | none => (none, m)
  | some (i, endpoint) =>
    match m.callEndpoint i endpoint (endpoint.adapter.dequeueCompletion readyFd m.world) with
    | (none, m') =>
      let error := (endpoint.adapter.dequeueCompletion readyFd m.world).2.1.lastError
      (none, if error = "" then m' else m'.setError error)
    | (some completion, m') => (some completion, m')

def returnStreamBuffer (lease : StreamBufferLease) (m : MultiDriver) :
    Option DriverToken × MultiDriver :=
  m.forward (m.endpointFor lease.streamType) "no V4L2 endpoint for continuous stream type"
    fun a w => a.returnStreamBuffer lease w

end MultiDriver

def multi : DriverAdapter MultiDriver where
  configureStream := MultiDriver.configureStream
  startStreaming := MultiDriver.startStreaming
  startContinuousStream := MultiDriver.startContinuousStream
  stopStreaming := MultiDriver.stopStreaming
  close := MultiDriver.close
  canSubmitCaptureOutputs := fun outputs m => (m.canSubmitCaptureOutputs outputs, m)
  submitCapture := MultiDriver.submitCapture
  dequeueCompletion := MultiDriver.dequeueCompletion
  returnStreamBuffer := MultiDriver.returnStreamBuffer
  eventFds := fun m => m.endpoints.flatMap fun endpoint => endpoint.adapter.eventFds
  lastError := fun m => m.lastError

end MiniCam.V4L2.MultiStream
