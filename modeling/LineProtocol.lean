import LineProtocol.Address
import LineProtocol.Cell.Basic
import LineProtocol.Cell.Shared
import LineProtocol.Client.Core
import LineProtocol.Client.Moment
import LineProtocol.Client.Session
import LineProtocol.Connection.Machine
import LineProtocol.Connection.State
import LineProtocol.Connection.Table
import LineProtocol.Connection.Watched
import LineProtocol.Dispatch.Crew
import LineProtocol.Dispatch.Intake
import LineProtocol.Dispatch.Reaction
import LineProtocol.Dispatch.Shift
import LineProtocol.Engine.Group
import LineProtocol.Engine.History
import LineProtocol.Engine.Session
import LineProtocol.Engine.Usage
import LineProtocol.Engine.Worker
import LineProtocol.Engine.WriteBuffer
import LineProtocol.Fault
import LineProtocol.Frame.Basic
import LineProtocol.Frame.Decoder
import LineProtocol.Frame.Encoder
import LineProtocol.Frame.Rescan
import LineProtocol.Frame.Stream
import LineProtocol.Identity
import LineProtocol.Notice
import LineProtocol.Serial.Basic
import LineProtocol.Serial.Shared
import LineProtocol.Serial.Task
import LineProtocol.Server.Casting
import LineProtocol.Server.Core
import LineProtocol.Server.Moment
import LineProtocol.Server.Observed
import LineProtocol.Server.Register
import LineProtocol.Server.Roster
import LineProtocol.Server.RosterSession
import LineProtocol.Server.Session
import LineProtocol.Server.State
import LineProtocol.Settings
import LineProtocol.Table
import LineProtocol.Transport.Basic
import LineProtocol.Transport.Channel
import LineProtocol.Transport.Report
import LineProtocol.Transport.Session
import LineProtocol.Transport.Shared
import LineProtocol.Utf8
import LineProtocol.World
import LineProtocol.Proofs.Utf8.Character
import LineProtocol.Proofs.Utf8.Text
import LineProtocol.Proofs.Frame.Reference
import LineProtocol.Proofs.Frame.Following
import LineProtocol.Proofs.Frame.Serving
import LineProtocol.Proofs.Frame.Inverse
import LineProtocol.Proofs.Frame.Lines
import LineProtocol.Proofs.Frame.Rescan
import LineProtocol.Proofs.Frame.Draining
import LineProtocol.Proofs.Dispatch.Intake
import LineProtocol.Proofs.Dispatch.Facade
import LineProtocol.Proofs.Serial.Keeping
import LineProtocol.Proofs.Client.Reads
import LineProtocol.Proofs.Server.Reads
import LineProtocol.Proofs.Dispatch.Once
import LineProtocol.Proofs.Client.Course
import LineProtocol.Proofs.Client.Stranded
import LineProtocol.Proofs.Client.Wire
import LineProtocol.Proofs.Client.Stale
import LineProtocol.Proofs.Client.GivingUp
import LineProtocol.Proofs.Client.Teardown
import LineProtocol.Proofs.Client.Heeded
import LineProtocol.Proofs.Transport.Asked
import LineProtocol.Proofs.Transport.Handles
import LineProtocol.Proofs.Transport.Refusal
import LineProtocol.Proofs.Shutdown.Callers
import LineProtocol.Proofs.Shutdown.Phases
import LineProtocol.Proofs.Shutdown.Overtaking
import LineProtocol.Proofs.Client.Asides
import LineProtocol.Proofs.Server.Asides
import LineProtocol.Proofs.Server.Jobs
import LineProtocol.Proofs.Shutdown.Punctual
import LineProtocol.Proofs.Client.LeftBehind
import LineProtocol.Proofs.Server.Ledger
import LineProtocol.Proofs.Server.Register
import LineProtocol.Proofs.Server.Coherence
import LineProtocol.Proofs.Server.Shutdown
import LineProtocol.Proofs.Serial.Settling
import LineProtocol.Proofs.Shutdown.Alone
import LineProtocol.Proofs.Server.Enrolment
import LineProtocol.Proofs.Server.Admission
import LineProtocol.Proofs.Dispatch.Threads
import LineProtocol.Proofs.Client.Replies
import LineProtocol.Proofs.Server.Replies
import LineProtocol.Proofs.Dispatch.Replies
import LineProtocol.Proofs.Dispatch.Attended
import LineProtocol.Proofs.Echo.Pipe
import LineProtocol.Proofs.Echo.Client
import LineProtocol.Proofs.Echo.Server
import LineProtocol.Proofs.Echo.Opening
import LineProtocol.Proofs.Echo.Exchange
import LineProtocol.Proofs.Echo.Draining
import LineProtocol.Proofs.Engine.Turns
import LineProtocol.Proofs.Engine.Acts
import LineProtocol.Proofs.Engine.Lives
import LineProtocol.Proofs.Engine.Protocol
import LineProtocol.Proofs.Engine.Closing
import LineProtocol.Proofs.Engine.Routes
import LineProtocol.Proofs.Engine.Mail
import LineProtocol.Proofs.Engine.Routed
import LineProtocol.Proofs.Engine.Homes
import LineProtocol.Proofs.Engine.LostClose
import LineProtocol.Proofs.Engine.LostConnect
import LineProtocol.Proofs.Engine.Session
import LineProtocol.Proofs.World
import LineProtocol.Proofs.Serial.Straggling
import LineProtocol.Proofs.Cell.Changes
import LineProtocol.Proofs.Cell.Presence
import LineProtocol.Proofs.Cell.Streams
import LineProtocol.Proofs.Serial.Undisturbed
import LineProtocol.Proofs.Serial.Deeds
import LineProtocol.Proofs.Serial.Script
import LineProtocol.Proofs.Dispatch.Shift
import LineProtocol.Proofs.Connection.Path
import LineProtocol.Proofs.Engine.Conserving
import LineProtocol.Proofs.Engine.Room
import LineProtocol.Proofs.Server.Effects
import LineProtocol.Proofs.Server.Agreement
import LineProtocol.Proofs.Server.Moments
import LineProtocol.Proofs.Server.Announcing
import LineProtocol.Proofs.Server.Registered
import LineProtocol.Proofs.Server.Casting
