import MessageTransport.Bytes
import MessageTransport.Checksum
import MessageTransport.Config
import MessageTransport.Config.Text
import MessageTransport.Connection
import MessageTransport.Deadline
import MessageTransport.Delivery
import MessageTransport.Draft
import MessageTransport.Duration
import MessageTransport.Endpoint
import MessageTransport.ErrorCode
import MessageTransport.ErrorReply
import MessageTransport.Event
import MessageTransport.Field
import MessageTransport.Header
import MessageTransport.IdAllocator
import MessageTransport.IoFault
import MessageTransport.JsonText
import MessageTransport.LinkManager
import MessageTransport.Mailbox
import MessageTransport.MessageReader
import MessageTransport.OutboundQueue
import MessageTransport.Proofs.Checksum
import MessageTransport.Proofs.ChecksumExact
import MessageTransport.Proofs.Damage
import MessageTransport.Proofs.Drafting
import MessageTransport.Proofs.Drive.Course
import MessageTransport.Proofs.Drive.Output
import MessageTransport.Proofs.Drive.Reports
import MessageTransport.Proofs.Drive.Steps
import MessageTransport.Proofs.ErrorReply
import MessageTransport.Proofs.FieldCodec
import MessageTransport.Proofs.Framing
import MessageTransport.Proofs.HeaderCodec
import MessageTransport.Proofs.HeaderDamage
import MessageTransport.Proofs.HeaderLayout
import MessageTransport.Proofs.Link
import MessageTransport.Proofs.LinkManager.Closing
import MessageTransport.Proofs.LinkManager.Lines
import MessageTransport.Proofs.LinkManager.Operations
import MessageTransport.Proofs.LinkManager.Retries
import MessageTransport.Proofs.Lookup
import MessageTransport.Proofs.OutboundQueue
import MessageTransport.Proofs.PayloadDamage
import MessageTransport.Proofs.Reactor.Endings
import MessageTransport.Proofs.Reactor.Panics
import MessageTransport.Proofs.Reactor.Runs
import MessageTransport.Proofs.Reactor.Sleep
import MessageTransport.Proofs.Reactor.Sweeps
import MessageTransport.Proofs.Reactor.Teardown
import MessageTransport.Proofs.ReadBuffers
import MessageTransport.Proofs.ReadPlaces
import MessageTransport.Proofs.Reassembly
import MessageTransport.Proofs.Registry
import MessageTransport.Proofs.Registry.Directory
import MessageTransport.Proofs.RequestTable.Alignment
import MessageTransport.Proofs.RequestTable.Index
import MessageTransport.Proofs.RequestTable.Ledger
import MessageTransport.Proofs.RequestTable.Refinement
import MessageTransport.Proofs.Synchronizer
import MessageTransport.Proofs.TimerQueue
import MessageTransport.Proofs.Transcript
import MessageTransport.Proofs.Transport.Accounts
import MessageTransport.Proofs.Transport.Admissions
import MessageTransport.Proofs.Transport.Crossing
import MessageTransport.Proofs.Transport.Holdings
import MessageTransport.Proofs.Transport.Numbering
import MessageTransport.Proofs.Transport.Reactors
import MessageTransport.Proofs.Transport.Replies
import MessageTransport.Proofs.Transport.Requests
import MessageTransport.Proofs.Transport.Tenants
import MessageTransport.Proofs.Transport.Traffic
import MessageTransport.Proofs.Transport.Upkeep
import MessageTransport.Proofs.Truncation
import MessageTransport.Proofs.Varint
import MessageTransport.Proofs.VarintValue
import MessageTransport.Proofs.WorkQueue.Census
import MessageTransport.Proofs.WorkQueue.Dispatch
import MessageTransport.Proofs.WorkQueue.Draining
import MessageTransport.Proofs.WorkQueue.Groups
import MessageTransport.Proofs.WorkQueue.Order
import MessageTransport.Proofs.WorkQueue.Rest
import MessageTransport.Proofs.WorkQueue.Steps
import MessageTransport.Proofs.WorkQueue.Tickets
import MessageTransport.Proofs.WorkQueue.Wakeups
import MessageTransport.Proofs.WrittenForm
import MessageTransport.Reactor
import MessageTransport.Reactor.Drive
import MessageTransport.Reactor.Loop
import MessageTransport.Reactor.Pool
import MessageTransport.Reactor.Session
import MessageTransport.Reactor.Task
import MessageTransport.Registry
import MessageTransport.Registry.Trace
import MessageTransport.RequestTable
import MessageTransport.RequestTable.Trace
import MessageTransport.Room
import MessageTransport.Simulation.Handler
import MessageTransport.Simulation.Host
import MessageTransport.Simulation.Network
import MessageTransport.Simulation.Scenario
import MessageTransport.Simulation.World
import MessageTransport.Synchronizer
import MessageTransport.TimerQueue
import MessageTransport.Transport
import MessageTransport.TransportError
import MessageTransport.Varint
import MessageTransport.WorkQueue
import MessageTransport.WorkQueue.Pool
import MessageTransport.WorkQueue.Session
