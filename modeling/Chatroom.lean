import Chatroom.Library.Fallible
import Chatroom.Library.Framing
import Chatroom.Library.Handles
import Chatroom.Library.Interleaving
import Chatroom.Library.Keyed
import Chatroom.Library.Progress
import Chatroom.Library.Subscription
import Chatroom.Library.Transition
import Chatroom.Model.Connection
import Chatroom.Model.Protocol
import Chatroom.Model.Epoll
import Chatroom.Model.FormatPrint
import Chatroom.Model.Server
import Chatroom.Model.ServerLoop
import Chatroom.Model.ServerRun
import Chatroom.Model.Link
import Chatroom.Model.Client
import Chatroom.Model.ClientLoop
import Chatroom.Model.Network
import Chatroom.Spec.Room
import Chatroom.Spec.Screen
import Chatroom.Proofs.InterestList
import Chatroom.Proofs.Effects
import Chatroom.Proofs.Broadcast
import Chatroom.Proofs.Handlers
import Chatroom.Proofs.Dispatch
import Chatroom.Proofs.Reliable
import Chatroom.Proofs.Streams
import Chatroom.Proofs.Evolution
import Chatroom.Proofs.Speech
import Chatroom.Proofs.Handshake
import Chatroom.Proofs.Runs
import Chatroom.Proofs.Aborts
import Chatroom.Proofs.Readiness
import Chatroom.Proofs.Isolation
import Chatroom.Proofs.LongLines
import Chatroom.Proofs.Backlog
import Chatroom.Proofs.Channel
import Chatroom.Proofs.Delivery
import Chatroom.Proofs.Gate
import Chatroom.Proofs.ClientHandlers
import Chatroom.Proofs.Genuine
import Chatroom.Proofs.Shutdown
import Chatroom.Proofs.ReadBoundaries
import Chatroom.Proofs.Grammar
import Chatroom.Proofs.Outgoing
import Chatroom.Model.PollEmulation
import Chatroom.Proofs.PollRegistry
import Chatroom.Proofs.Descriptors
import Chatroom.Proofs.Lifecycle
import Chatroom.Proofs.Staleness
import Chatroom.Proofs.Chronicle
import Chatroom.Proofs.Forgery
import Chatroom.Proofs.Farewells
import Chatroom.Proofs.Contract
import Chatroom.Proofs.Splitting
import Chatroom.Proofs.ErasedHandlers
import Chatroom.Proofs.Erasure
import Chatroom.Proofs.Lookup
import Chatroom.Proofs.TypedLines
import Chatroom.Proofs.Terminal
import Chatroom.Proofs.EndToEnd
import Chatroom.Proofs.Closing
import Chatroom.Proofs.Quitting
import Chatroom.Model.Sockets
import Chatroom.Proofs.Processes
import Chatroom.Library.Questions
import Chatroom.Model.Dialog
import Chatroom.Proofs.Dialog
import Chatroom.Proofs.Attribution
import Chatroom.Proofs.Growth
import Chatroom.Proofs.Liveness
import Chatroom.Proofs.Admission
import Chatroom.Proofs.Guests
