import CloudStreaming.Irrv.ClientCount
import CloudStreaming.Irrv.Gate
import CloudStreaming.Irrv.RoundTrip
import CloudStreaming.Irrv.Dispatch
import CloudStreaming.Irrv.Payload
import CloudStreaming.Irrv.Sockets
import CloudStreaming.Tcae.Recovery
import CloudStreaming.Tcae.Restart
import CloudStreaming.Tcae.Feedback
import CloudStreaming.Streamer.Dpipe
import CloudStreaming.Streamer.Controller
import CloudStreaming.Streamer.AudioSource
import CloudStreaming.Display.Lifetime
import CloudStreaming.Display.Leak
import CloudStreaming.Encoder.Codec
import CloudStreaming.Encoder.Service
import CloudStreaming.Streamer.Conf
import CloudStreaming.Streamer.EncoderClients
import CloudStreaming.Encoder.Lifecycle
import CloudStreaming.Encoder.Options
import CloudStreaming.Encoder.RateControl
import CloudStreaming.Encoder.RateText
import CloudStreaming.Encoder.RateDefaults
import CloudStreaming.Encoder.Normalise
import CloudStreaming.Encoder.Rates
import CloudStreaming.Encoder.Resolution
import CloudStreaming.Lib.OrderedMap
import CloudStreaming.Streamer.DesktopEncoder
import CloudStreaming.Streamer.Sensors
import CloudStreaming.Streamer.E2eLatency
import CloudStreaming.Streamer.AudioFrames
import CloudStreaming.Streamer.EventQueue
import CloudStreaming.Lib.LeastSquares
import CloudStreaming.Tcae.Regression
import CloudStreaming.Tcae.Substitution
import CloudStreaming.Encoder.RuntimeWriter
import CloudStreaming.Encoder.VideoDemux
import CloudStreaming.Encoder.HwErrors
import CloudStreaming.Encoder.SkipFrames
import CloudStreaming.Encoder.Roi
import CloudStreaming.Encoder.OutputLoop
import CloudStreaming.Encoder.Controls
import CloudStreaming.Encoder.FrameCopy
import CloudStreaming.Lib.Scripts
import CloudStreaming.Streamer.ConfFile
import CloudStreaming.Streamer.ConfLoad
import CloudStreaming.Tcae.Periods
import CloudStreaming.Lib.SignedInt
import CloudStreaming.Lib.Json
import CloudStreaming.Lib.PtrMap
import CloudStreaming.Streamer.StartCode
import CloudStreaming.Streamer.SampleBuffer
import CloudStreaming.Streamer.FrameLayout
import CloudStreaming.Streamer.CameraInfo
import CloudStreaming.Streamer.ClientMessages
import CloudStreaming.Tcae.RateCeiling
import CloudStreaming.Streamer.Cursor
import CloudStreaming.Streamer.GetOpts
import CloudStreaming.Streamer.AudioInput
import CloudStreaming.Streamer.AudioRecord
import CloudStreaming.Streamer.KeyBlock
import CloudStreaming.Setup.CommandParser
import CloudStreaming.Setup.DisplayStatus
import CloudStreaming.Streamer.Replay
import CloudStreaming.Streamer.ClientInput
import CloudStreaming.Streamer.AudioBroadcast
import CloudStreaming.Streamer.ControlServer
import CloudStreaming.Irrv.Slots
import CloudStreaming.Streamer.CapturePipeline
