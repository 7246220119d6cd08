import Httpunk.Support.Store
import Httpunk.Support.Runs
import Httpunk.Support.Mailbox
import Httpunk.H2.Proto.FlowControl
import Httpunk.H2.Proto.State
import Httpunk.H2.Frames
import Httpunk.H2.Streams
import Httpunk.H2.Settings
import Httpunk.H2.Conn.Inner
import Httpunk.H2.Conn.SendQueue
import Httpunk.H2.Conn.Store
import Httpunk.H2.Conn.Recv
import Httpunk.H2.Conn.Send
import Httpunk.H2.Conn.Control
import Httpunk.H2.Moves.Basic
import Httpunk.H2.Moves.Store
import Httpunk.H2.Moves.Wf
import Httpunk.H2.Moves.Recv
import Httpunk.H2.Moves.Send
import Httpunk.H2.Moves.Control
import Httpunk.H2.Driver.Connection
import Httpunk.H2.Driver.Feed
import Httpunk.H2.Moves.Effect
import Httpunk.H2.Driver.Invariant
import Httpunk.H2.Safety.RecvLedger
import Httpunk.H2.Safety.Goaway
import Httpunk.H2.Safety.SendWindow
import Httpunk.H2.Safety.Grants
import Httpunk.H2.Safety.StreamIds
import Httpunk.H2.Safety.FinalGoaway
import Httpunk.H2.Safety.Failure
import Httpunk.H2.Life.Basic
import Httpunk.H2.Life.Store
import Httpunk.H2.Life.Effect
import Httpunk.H2.Life.Recv
import Httpunk.H2.Life.Send
import Httpunk.H2.Life.Driver
import Httpunk.H2.Safety.SendBuffer
import Httpunk.H2.Safety.Closed
import Httpunk.H2.Safety.Counters
import Httpunk.H2.Life.Side
import Httpunk.H2.Reader.Basic
import Httpunk.H2.Reader.Frames
import Httpunk.H2.Reader.Simulation
import Httpunk.H2.Reader.Handles
import Httpunk.H2.Safety.BodyDelivery
import Httpunk.H2.Safety.ContentLength
import Httpunk.H1.Wire
import Httpunk.H1.Server.State
import Httpunk.H1.Server.Driver
import Httpunk.H1.Server.Frame
import Httpunk.H1.Safety.Response
import Httpunk.H2.Safety.Serving
import Httpunk.H2.Driver.Terms
import Httpunk.H2.Safety.Wakes
import Httpunk.H2.Driver.Writer
import Httpunk.H2.Safety.Stranded
import Httpunk.H2.Driver.Counts
import Httpunk.H2.Safety.Drain
import Httpunk.H2.Safety.Accepting
import Httpunk.H2.Safety.Budget
import Httpunk.H2.Driver.Backlog
import Httpunk.H2.Safety.Floods
import Httpunk.H2.Driver.Upload
import Httpunk.H2.Safety.HalfOpen
import Httpunk.H2.Driver.Decoder
import Httpunk.H2.Safety.Batching
import Httpunk.H2.Conn.Output
import Httpunk.H2.Safety.HeadSends
import Httpunk.H2.Safety.SendCapacity
import Httpunk.H2.Driver.Wire
import Httpunk.H2.Safety.Accumulation
import Httpunk.H1.Encode
import Httpunk.H1.Safety.Coalesce
import Httpunk.H2.Safety.WireOrder
import Httpunk.H1.HeadParse
import Httpunk.H1.Safety.HeadSplit
import Httpunk.H1.Client.Driver
import Httpunk.H1.Safety.Unsent
import Httpunk.Server.Pump
import Httpunk.Server.Verdict
import Httpunk.H1.Connection
import Httpunk.H1.Server.Shut
import Httpunk.H1.Safety.Shutdown
import Httpunk.H2.Driver.RecvFlow
import Httpunk.H2.Safety.RecvWindows
import Httpunk.Backend.Asyncio
import Httpunk.Backend.Delivery
import Httpunk.Support.Tasks
import Httpunk.Util.Cache
import Httpunk.Util.Custody
import Httpunk.Util.SingleFlight
import Httpunk.H2.Driver.Lanes
import Httpunk.H2.Driver.LaneSteps
import Httpunk.H2.Safety.Rotation
import Httpunk.H2.Driver.Senders
import Httpunk.H2.Safety.IdleStreams
import Httpunk.H2.Safety.Overtaking
import Httpunk.H2.Driver.Bodies
import Httpunk.H2.Safety.BodySends
import Httpunk.H1.Decode
import Httpunk.H1.Safety.BodyRoundTrip
import Httpunk.H2.Safety.ReadSplit
import Httpunk.H2.Hpack.Codec
import Httpunk.H2.Hpack.RoundTrip
import Httpunk.H2.Hpack.Assembly
import Httpunk.H2.Wire.Plain
import Httpunk.H2.Wire.PlainReads
