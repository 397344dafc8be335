import Whip6.Lib.Splice
import Whip6.Lib.Cursor
import Whip6.Base.Memory
import Whip6.Base.IoVec
import Whip6.Base.IoVecCursor
import Whip6.Base.IoVecRefinement
import Whip6.Lib.OnesComplement
import Whip6.Ipv6.Checksum
import Whip6.Ipv6.Packet
import Whip6.Udp.Header
import Whip6.Udp.RawSocketChecksum
import Whip6.Udp.ChecksumAgreement
import Whip6.Ieee154.Address
import Whip6.Ieee154.Frame
import Whip6.Lowpan.Header
import Whip6.Lowpan.HeaderCodec
import Whip6.Lib.LinkedList
import Whip6.Lowpan.RawIpv6Header
import Whip6.Lowpan.Defragmenter
import Whip6.Lowpan.DefragmenterLists
import Whip6.Lowpan.FragSpecMemory
import Whip6.Lowpan.DefragmenterRefinement
import Whip6.Lowpan.DefragmenterRuns
import Whip6.Lib.Spans
import Whip6.Lowpan.FragmentMerge
import Whip6.Lowpan.FragmentNormalForm
import Whip6.Lowpan.FragmentCopy
import Whip6.Lowpan.Session
import Whip6.Lowpan.SessionInvariant
import Whip6.Lowpan.ReassemblySoundness
import Whip6.Lowpan.DeliveryLaw
import Whip6.Lowpan.ReassemblyNormalForm
import Whip6.Lowpan.PacketForwarding
import Whip6.Base.Queue
import Whip6.Lowpan.Fragmenter
import Whip6.Lowpan.FragmenterMain
import Whip6.Lowpan.FragmenterJobs
import Whip6.Lowpan.FragmenterInvariant
import Whip6.Lib.Runs
import Whip6.Lowpan.FragmenterRuns
import Whip6.Ieee154.FrameCodec
import Whip6.Ieee154.FrameFields
import Whip6.Lowpan.FrameQueue
import Whip6.Lowpan.ForwarderMain
import Whip6.Lib.Ledger
import Whip6.Lowpan.ForwarderWorld
import Whip6.Lowpan.ForwarderInvariant
import Whip6.Lowpan.ForwarderProgress
import Whip6.Lowpan.ForwarderPump
import Whip6.Lib.History
import Whip6.Lowpan.SoftwareAcknowledgmentRuns
import Whip6.Ipv6.RoutingPolicy
import Whip6.Ipv6.RoutingPolicyRuns
import Whip6.Lowpan.InterfaceAdapter
import Whip6.Ipv6.IncomingPath
import Whip6.Lowpan.InterfaceAdapterRuns
import Whip6.Lib.Tiling
import Whip6.Lowpan.FragmentSlices
import Whip6.Lowpan.HeaderGrammar
import Whip6.Lowpan.FragmenterTokens
import Whip6.Io.StreamVirtualizer
import Whip6.Ipv6.OutgoingVirtualizer
import Whip6.Timers.TimerMux
import Whip6.Io.StreamVirtualizerRuns
import Whip6.Apps.PacketBridge
import Whip6.Apps.PacketBridgeRuns
import Whip6.Icmpv6.MessageForwarder
import Whip6.Icmpv6.MessageForwarderRuns
import Whip6.Ieee154.FrameBounds
import Whip6.Lowpan.FrameQueueRuns
import Whip6.Ipv6.AddressManipulation
import Whip6.Ipv6.InterfaceState
import Whip6.Ipv6.AddressSuffix
import Whip6.Ipv6.InterfaceMembership
import Whip6.Ipv6.SourceAddressSelection
import Whip6.Ipv6.InterfaceAddressLists
import Whip6.Base.IoVecAllocation
import Whip6.Rpl.MessageBuilders
import Whip6.Rpl.PrefixEncoding
import Whip6.Srcroute.HeaderProcessing
import Whip6.Srcroute.SegmentIndex
import Whip6.Lib.LongestRun
import Whip6.Ipv6.AddressText
import Whip6.Ipv6.AddressHumanReadableIo
import Whip6.Srcroute.ForwardingLaw
import Whip6.Icmpv6.MessageDispatcher
import Whip6.Icmpv6.MessageDispatcherRuns
import Whip6.Lib.Comparison
import Whip6.Base.Comparison
import Whip6.Lowpan.ReassemblyTimeout
import Whip6.Lowpan.LinkTable
import Whip6.Lowpan.LinkSweep
import Whip6.Lowpan.LinkTableInvariant
import Whip6.Lowpan.LinkEviction
import Whip6.Ieee154.FrameRollback
import Whip6.Lowpan.FrameReversal
import Whip6.Ipv6.PacketAllocator
import Whip6.Icmpv6.MessageRoundTrip
import Whip6.Udp.DatagramWrapping
import Whip6.Udp.PayloadStriping
import Whip6.Lib.Simulation
import Whip6.Lowpan.LinkQuality
import Whip6.Lowpan.LinkTableRuns
import Whip6.Base.QueueRefinement
import Whip6.Io.StreamWriter
import Whip6.Lib.Progress
import Whip6.Io.StreamWriterRuns
import Whip6.Ipv6.LoopbackInterface
import Whip6.Ipv6.LoopbackInterfaceRuns
import Whip6.Io.BufferedReader
import Whip6.Io.BufferedReaderRuns
import Whip6.Containers.RandomAES
import Whip6.Containers.RandomAESRuns
import Whip6.Lowpan.ForwarderBroadcasts
import Whip6.Ipv6.ExtensionHeader
import Whip6.Srcroute.ExtensionHeaderChain
import Whip6.Udp.LengthSoundness
import Whip6.Lib.WrappingClock
import Whip6.Timers.TimerScaler
import Whip6.Udp.SimpleSockets
import Whip6.Udp.SimpleSocketRuns
