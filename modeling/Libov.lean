import Libov.Runs
import Libov.Networks
import Libov.Buffers
import Libov.Framing
import Libov.OrderedMap
import Libov.Programs
import Libov.SerialNumbers
import Libov.Counters
import Libov.SlidingWindow
import Libov.SeparatedWords
import Libov.PatternScan
import Libov.Accesses
import Libov.BinaryRounding
import Libov.Decibels
import Libov.JsonGrammar
import Libov.Common
import Libov.UdpSocket
import Libov.TcpTunnel
import Libov.TunnelFraming
import Libov.TunnelInterruptions
import Libov.PackedMessages
import Libov.MessageSorter
import Libov.SorterConservation
import Libov.SorterSteps
import Libov.SorterLoss
import Libov.SorterSequences
import Libov.SorterSymmetry
import Libov.SorterOrder
import Libov.SorterBalance
import Libov.SenderStatistics
import Libov.SorterStreams
import Libov.SorterSenders
import Libov.SendsrvLoop
import Libov.Forwarding
import Libov.ForwardingSpec
import Libov.ForwardingRoutes
import Libov.ForwardingSealing
import Libov.EncryptState
import Libov.PayloadDelivery
import Libov.EncryptedMessages
import Libov.ClientStats
import Libov.StatsReports
import Libov.LossReports
import Libov.PingStatistics
import Libov.CallerList
import Libov.EndpointLifeCycle
import Libov.LatencyReports
import Libov.ClientNode
import Libov.SendsrvDrain
import Libov.RejectedDatagrams
import Libov.PongTimeStamps
import Libov.PingService
import Libov.PingRoundTrip
import Libov.KeyBinding
import Libov.Registration
import Libov.SessionDevices
import Libov.DeviceSetup
import Libov.SessionIntegrity
import Libov.OrderedDelivery
import Libov.TableAccess
import Libov.Json
import Libov.SocketTimeouts
import Libov.OvTools
import Libov.StringReplacement
import Libov.JsonMerge
import Libov.OvTypes
import Libov.PluginWriteBack
import Libov.PluginChain
import Libov.ExtraConfig
import Libov.RenderTascar
import Libov.AudioStarts
import Libov.SessionFlags
import Libov.ExtraConfigFaults
import Libov.SessionNodes
import Libov.LocalFileNames
import Libov.SessionNetwork
import Libov.VirtualAcoustics
import Libov.LiveGain
import Libov.SessionDescription
import Libov.ChannelNumbers
import Libov.MidiControllers
import Libov.ObjectMix
import Libov.SessionChanges
import Libov.ClientConfig
import Libov.ChannelIds
import Libov.NamedDevices
import Libov.ReservedPorts
import Libov.Reapply
import Libov.RunningSession
import Libov.SessionClient
import Libov.ClientService
import Libov.WatchedCalls
import Libov.CallOrder
import Libov.ConfiguredSession
import Libov.ZitaProcesses
import Libov.AudioDelivery
import Libov.SessionGraph
import Libov.ClosedGraph
