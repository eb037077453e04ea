import KbNetworking.Lib.ByteBuffer
import KbNetworking.Lib.Machine
import KbNetworking.Lib.Ledger
import KbNetworking.Lib.Objects
import KbNetworking.Lib.Isolation
import KbNetworking.Lib.AccessLog
import KbNetworking.Lib.Fields
import KbNetworking.Lib.Channel
import KbNetworking.PacketDelivery
import KbNetworking.ReceivePipeline
import KbNetworking.ServerClients
import KbNetworking.ServerRouting
import KbNetworking.ServerSockets
import KbNetworking.ServerNotifications
import KbNetworking.ClientThreads
import KbNetworking.ClientIsolation
import KbNetworking.ClientStatus
import KbNetworking.ClientConnecting
import KbNetworking.PacketHandlers
import KbNetworking.AsyncWaiters
import KbNetworking.AsyncDelivery
import KbNetworking.AsyncRequests
import KbNetworking.AsyncReferences
import KbNetworking.AsyncBinaryViews
import KbNetworking.ClientHandles
import KbNetworking.DispatchAgreement
import KbNetworking.ServerThreads
import KbNetworking.ClientOutcomes
import KbNetworking.AsyncConnecting
import KbNetworking.PacketSending
import KbNetworking.HandlerBindings
import KbNetworking.BinaryRoundTrip
import KbNetworking.AddressText
import KbNetworking.LibraryLifecycle
import KbNetworking.KbServer
import KbNetworking.KbServerSafety
import KbNetworking.KbServerAnswers
import KbNetworking.PacketNetwork
import KbNetworking.NetworkDelivery
import KbNetworking.NetworkReplies
import KbNetworking.Lib.SharedPtr
import KbNetworking.ServerOwnership
import KbNetworking.Lib.Threads
import KbNetworking.ServerCalls
import KbNetworking.ServerCallsAtomic
import KbNetworking.ServerCallsReturn
import KbNetworking.ServerEntries
