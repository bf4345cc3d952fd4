import LegacyAlphaRemote.Machine.Autofocus
import LegacyAlphaRemote.Machine.Justification
import LegacyAlphaRemote.Machine.Schedule
import LegacyAlphaRemote.Machine.Interaction
import LegacyAlphaRemote.Machine.Failures
import LegacyAlphaRemote.Machine.Spacing
import LegacyAlphaRemote.Machine.StaleResults
import LegacyAlphaRemote.Machine.Cancel
import LegacyAlphaRemote.Machine.Deadlines
import LegacyAlphaRemote.Core.Search
import LegacyAlphaRemote.Http.Parser
import LegacyAlphaRemote.Http.Headers
import LegacyAlphaRemote.Http.Grammar
import LegacyAlphaRemote.Http.Messages
import LegacyAlphaRemote.Http.Response
import LegacyAlphaRemote.Http.Server
import LegacyAlphaRemote.Http.Connections
import LegacyAlphaRemote.Http.Dispatch
import LegacyAlphaRemote.Http.Json
import LegacyAlphaRemote.Runtime.NativeRuntime
import LegacyAlphaRemote.Machine.Dormant
import LegacyAlphaRemote.Runtime.Limits
import LegacyAlphaRemote.Runtime.Deduplication
import LegacyAlphaRemote.Http.Lengths
import LegacyAlphaRemote.Http.HeaderOrder
import LegacyAlphaRemote.Http.Numbers
import LegacyAlphaRemote.Http.CaptureGrammar
import LegacyAlphaRemote.Http.CaptureJson
import LegacyAlphaRemote.Runtime.Requests
import LegacyAlphaRemote.Runtime.Session
import LegacyAlphaRemote.Runtime.Authentication
import LegacyAlphaRemote.Runtime.Idempotence
import LegacyAlphaRemote.Runtime.JsonBodies
import LegacyAlphaRemote.Runtime.Listener
import LegacyAlphaRemote.Runtime.ListenerErrors
import LegacyAlphaRemote.Runtime.Calls
import LegacyAlphaRemote.Runtime.Forwarding
import LegacyAlphaRemote.Runtime.Noninterference
import LegacyAlphaRemote.Core.Versions
import LegacyAlphaRemote.Core.Window
import LegacyAlphaRemote.Core.Json
import LegacyAlphaRemote.Core.TokenBucket
import LegacyAlphaRemote.Core.InetAton
import LegacyAlphaRemote.Runtime.Native
import LegacyAlphaRemote.Runtime.Preview
import LegacyAlphaRemote.Runtime.PreviewStore
import LegacyAlphaRemote.Runtime.Screen
import LegacyAlphaRemote.Runtime.MainThread
import LegacyAlphaRemote.Java.CameraApp
import LegacyAlphaRemote.Java.CameraReadiness
import LegacyAlphaRemote.Java.Addresses
import LegacyAlphaRemote.Java.WifiDirectController
import LegacyAlphaRemote.Java.WifiDirectRuns
import LegacyAlphaRemote.Java.Radios
import LegacyAlphaRemote.Java.LiveViewFallback
import LegacyAlphaRemote.Java.FallbackRuns
import LegacyAlphaRemote.Core.BinaryFloat
import LegacyAlphaRemote.Java.PreviewTask
import LegacyAlphaRemote.Core.Executor
import LegacyAlphaRemote.Java.PreviewWorker
import LegacyAlphaRemote.Core.Lines
import LegacyAlphaRemote.Http.ResponseReader
import LegacyAlphaRemote.Runtime.Service
import LegacyAlphaRemote.Core.Guessing
import LegacyAlphaRemote.Runtime.PinGuessing
import LegacyAlphaRemote.Http.Lifetimes
import LegacyAlphaRemote.Java.CameraSessions
import LegacyAlphaRemote.Phone.Page
import LegacyAlphaRemote.Phone.Delivery
