import MiniCam.Foundation.Runs
import MiniCam.Foundation.KeyedTable
import MiniCam.Foundation.Custody
import MiniCam.Foundation.Histories
import MiniCam.Foundation.IntEvaluation
import MiniCam.Foundation.TruncatedMean
import MiniCam.Foundation.Progress
import MiniCam.Foundation.Simulation
import MiniCam.Foundation.FixedPoint
import MiniCam.Queue.BoundedTaskQueue
import MiniCam.Queue.RingInvariant
import MiniCam.Queue.FifoRefinement
import MiniCam.Queue.Parking
import MiniCam.Queue.Rejections
import MiniCam.Queue.Shutdown
import MiniCam.Queue.TaskExecutor
import MiniCam.Queue.Serialization
import MiniCam.Queue.Progress
import MiniCam.Hal.Interface
import MiniCam.Hal.InFlightRequestTracker
import MiniCam.Hal.CameraDeviceSession
import MiniCam.Hal.SessionSystem
import MiniCam.Hal.TrackerInvariant
import MiniCam.Hal.SessionSpec
import MiniCam.Hal.MockDriverAdapter
import MiniCam.Hal.DriverProtocol
import MiniCam.Hal.TokenBijection
import MiniCam.Hal.TrackerHistory
import MiniCam.Hal.CompletionLaw
import MiniCam.Hal.TokenResolution
import MiniCam.Hal.RejectedRequest
import MiniCam.Hal.ResultAccounting
import MiniCam.Hal.ReleaseFences
import MiniCam.Hal.ResultIdentity
import MiniCam.Hal.FrameCounters
import MiniCam.Hal.AverageLatency
import MiniCam.Hal.CompletionOrder
import MiniCam.Hal.ResultOrigins
import MiniCam.Hal.BufferReturn
import MiniCam.Hal.PendingFlush
import MiniCam.Hal.Provenance
import MiniCam.Hal.PreviewRotation
import MiniCam.Hal.PreviewOwnership
import MiniCam.Hal.PreviewRefill
import MiniCam.Hal.SessionThreads
import MiniCam.Hal.SessionTurns
import MiniCam.Hal.ReportOrder
import MiniCam.Hal.DriverInvariants
import MiniCam.V4L2.VideoNodes
import MiniCam.V4L2.DriverAdapter
import MiniCam.V4L2.MultiStream
import MiniCam.V4L2.ErrorTexts
import MiniCam.V4L2.KernelHistory
import MiniCam.V4L2.SlotMirror
import MiniCam.V4L2.Attribution
import MiniCam.V4L2.SlotBacking
import MiniCam.V4L2.SlotRefinement
import MiniCam.V4L2.Preflight
import MiniCam.V4L2.FenceUses
import MiniCam.V4L2.BufferOwnership
import MiniCam.V4L2.AcquireFences
import MiniCam.V4L2.FenceLeaks
import MiniCam.Buffers.DmaBufAllocator
import MiniCam.Buffers.BufferTracker
import MiniCam.Buffers.LeaseConservation
import MiniCam.App.JpegEncoderProcessor
import MiniCam.App.JpegCodec
import MiniCam.App.FramePictures
import MiniCam.App.FenceAwareResultWriter
import MiniCam.App.EncodePipeline
import MiniCam.App.EncodeCustody
import MiniCam.App.EncodedImages
import MiniCam.App.CommandLine
import MiniCam.App.CommandLineDriver
import MiniCam.App.CommandLineSteps
import MiniCam.App.CaptureBooks
import MiniCam.App.CaptureCustody
import MiniCam.Runtime.EpollEventLoop
import MiniCam.Runtime.CameraHalRuntime
import MiniCam.Runtime.SessionIsolation
import MiniCam.Runtime.Readiness
