/- Module: MiniCam/V4L2/VideoNodes
   source: hal/v4l2_driver_adapter.cpp
   digest: The video nodes as the adapter sees them, with every answer left open. -/

import Mathlib.Data.List.Basic
import Mathlib.Logic.Function.Basic
import MiniCam.Hal.Interface

set_option autoImplicit false
set_option relaxedAutoImplicit false

namespace MiniCam.V4L2.VideoNodes

open MiniCam.Hal.Interface (DriverToken)

/-- A buffer that a node holds. The token is the one the adapter issued for the QBUF;
the kernel itself never sees it. -/
@[ext]
structure QueuedBuffer where
  index : Nat
  fd : Int
  token : DriverToken
  deriving DecidableEq

/-- The successful ioctls that change a node's queue, and the release of the node
when its descriptor is closed. -/
inductive Event where
  | qbuf (node index : Nat) (fd : Int) (token : DriverToken)
  | dqbuf (node index : Nat)
  | streamOff (node : Nat)
  | release (node : Nat)
  deriving DecidableEq

/-- What `configure_stream` meets after `open`, in the order of its calls. -/
inductive ConfigureAnswer where
  | openFailed (error : String)
  | queryCapFailed (error : String)
  | notCapture
  | notStreaming
  | setFormatFailed (error : String)
  | requestBuffersFailed (error : String)
  | granted (fd sizeImage count : Nat)

/-- What one call of `queue_capture_buffer` meets; `none` is success. -/
structure SubmissionAnswer where
  fence : Option String := none
  qbuf : Option String := none
  streamOn : Option String := none

/-- What one DQBUF meets. A buffer is chosen among those queued. -/
inductive DequeueAnswer where
  | again
  | failure (error : String)
  | buffer (choice bytesUsed : Nat) (timestamp : Int)

/-- All answers the environment will ever give, by the number of the call. -/
structure Answers where
  configure : Nat → ConfigureAnswer
  submission : Nat → SubmissionAnswer
  dequeue : Nat → DequeueAnswer
  streamOff : Nat → Bool

structure Kernel where
  answers : Answers
  configures : Nat
  submissions : Nat
  dequeues : Nat
  streamOffs : Nat
  queues : Nat → List QueuedBuffer
  history : List Event

def Kernel.boot (answers : Answers) : Kernel :=
  { answers := answers
    configures := 0
    submissions := 0
    dequeues := 0
    streamOffs := 0
    queues := fun _ => []
    history := [] }

/-- VIDIOC_QBUF: the environment may refuse it, and an index that is already queued
is refused. -/
def Kernel.qbuf (k : Kernel) (node index : Nat) (fd : Int) (token : DriverToken)
    (answer : Option String) : Option String × Kernel :=
  match answer with
  | some error => (some error, k)
  | none =>
    if (k.queues node).any fun b => b.index = index then (some "Invalid argument", k)
    else
      (none, { k with
        queues := Function.update k.queues node
          (k.queues node ++ [{ index := index, fd := fd, token := token }])
        history := k.history ++ [.qbuf node index fd token] })

inductive DequeueResult where
  | again
  | failure (error : String)
  | buffer (index bytesUsed : Nat) (timestamp : Int)

/-- VIDIOC_DQBUF: any queued buffer may come back, in any order. -/
def Kernel.dqbuf (k : Kernel) (node : Nat) : DequeueResult × Kernel :=
  let asked := { k with dequeues := k.dequeues + 1 }
  match k.answers.dequeue k.dequeues with
  | .again => (.again, asked)
  | .failure error => (.failure error, asked)
  | .buffer choice bytesUsed timestamp =>
    match (k.queues node)[choice]? with
    | none => (.again, asked)
    | some b =>
      (.buffer b.index bytesUsed timestamp, { asked with
        queues := Function.update k.queues node ((k.queues node).eraseIdx choice)
        history := k.history ++ [.dqbuf node b.index] })

/-- VIDIOC_STREAMOFF: when it succeeds the node holds nothing. -/
def Kernel.streamOff (k : Kernel) (node : Nat) : Kernel :=
  let asked := { k with streamOffs := k.streamOffs + 1 }
  if k.answers.streamOff k.streamOffs then
    { asked with
      queues := Function.update k.queues node []
      history := k.history ++ [.streamOff node] }
  else asked

/-- Closing the descriptor releases whatever the node holds. -/
def Kernel.release (k : Kernel) (node : Nat) : Kernel :=
  { k with
    queues := Function.update k.queues node []
    history := k.history ++ [.release node] }

end MiniCam.V4L2.VideoNodes
