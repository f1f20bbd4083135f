import MsquicAsio.Lib.Machine
import MsquicAsio.Operation
import MsquicAsio.Stream.Callback
import MsquicAsio.Stream.Handle
import MsquicAsio.Stream.Machine
import MsquicAsio.Stream.Sound
import MsquicAsio.Stream.History
import MsquicAsio.Stream.Rendezvous
import MsquicAsio.Stream.EndOfStream
import MsquicAsio.Stream.FlowControl
import MsquicAsio.Stream.Completion
import MsquicAsio.Connection.Callback
import MsquicAsio.Connection.Handle
import MsquicAsio.Connection.Machine
import MsquicAsio.Connection.Accept
import MsquicAsio.Connection.Completion
import MsquicAsio.Connection.Client
import MsquicAsio.Connection.Server
import MsquicAsio.Deadlock
import MsquicAsio.Connection.Permit
import MsquicAsio.Listener.Callback
import MsquicAsio.Listener.Machine
import MsquicAsio.Listener.HandOff
import MsquicAsio.Listener.Stop
import MsquicAsio.Stream.AnyCalls
import MsquicAsio.Stream.Teardown
import MsquicAsio.Stream.Abort
import MsquicAsio.Handle.Machine
import MsquicAsio.Handle.Ownership
import MsquicAsio.Stream.Acknowledge
import MsquicAsio.Handle.Context
import MsquicAsio.Event
import MsquicAsio.Lib.Relocation
import MsquicAsio.Stream.Moved
import MsquicAsio.Connection.Moved
import MsquicAsio.Handle.Moved
import MsquicAsio.Lib.Overlay
import MsquicAsio.Stream.Copy
import MsquicAsio.Stream.SendOutcome
import MsquicAsio.Handle.Repeated
import MsquicAsio.Connection.Served
import MsquicAsio.Listener.Served
import MsquicAsio.Stream.WindDown
import MsquicAsio.Endpoint.Machine
import MsquicAsio.Endpoint.Rest
import MsquicAsio.Stream.Integrity
import MsquicAsio.Lib.Arena
import MsquicAsio.Lib.Disposal
import MsquicAsio.Lib.Holding
import MsquicAsio.Session.Account
import MsquicAsio.Session.Order
import MsquicAsio.Connection.Accepts
import MsquicAsio.Listener.Accepts
import MsquicAsio.Transfer.Pipe
import MsquicAsio.Connection.ClientWindDown
import MsquicAsio.Transfer.Delivery
import MsquicAsio.Connection.ClientCompletion
