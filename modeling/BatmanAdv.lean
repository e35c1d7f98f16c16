import BatmanAdv.BatIv.Aggregation
import BatmanAdv.BatIv.EchoWindow
import BatmanAdv.BatIv.GatewaySelection
import BatmanAdv.BatIv.Seqnos
import BatmanAdv.BatIv.Tq
import BatmanAdv.BatV.Aggregation
import BatmanAdv.BatV.BestNeighbor
import BatmanAdv.BatV.Elp
import BatmanAdv.BatV.Freshness
import BatmanAdv.BatV.GatewayMetric
import BatmanAdv.BatV.LoopFree
import BatmanAdv.BatV.LossEstimator
import BatmanAdv.BatV.Metric
import BatmanAdv.BatV.Ogm
import BatmanAdv.BatV.OwnOgm
import BatmanAdv.BatV.PathCost
import BatmanAdv.BatV.Routes
import BatmanAdv.BatV.Weight
import BatmanAdv.BatV.Window
import BatmanAdv.Batctl.BisectIv
import BatmanAdv.Batctl.Captured
import BatmanAdv.Batctl.Hash
import BatmanAdv.Batctl.HashIterate
import BatmanAdv.Batctl.Headers
import BatmanAdv.Batctl.Icmp
import BatmanAdv.Batctl.LoopDetection
import BatmanAdv.Batctl.RoutingTables
import BatmanAdv.Batctl.RtPath
import BatmanAdv.Batctl.SeqnoTrace
import BatmanAdv.Batctl.Tcpdump
import BatmanAdv.Batctl.TraceForest
import BatmanAdv.Bitarray
import BatmanAdv.BridgeLoopAvoidance.Claims
import BatmanAdv.BridgeLoopAvoidance.DuplicateList
import BatmanAdv.BridgeLoopAvoidance.Invariant
import BatmanAdv.BridgeLoopAvoidance.Lookup
import BatmanAdv.BridgeLoopAvoidance.Ownership
import BatmanAdv.BridgeLoopAvoidance.Requests
import BatmanAdv.BridgeLoopAvoidance.Resync
import BatmanAdv.DistributedArpTable.Arp
import BatmanAdv.DistributedArpTable.Cache
import BatmanAdv.DistributedArpTable.Candidates
import BatmanAdv.DistributedArpTable.Dhcp
import BatmanAdv.DistributedArpTable.Network
import BatmanAdv.DistributedArpTable.Replicas
import BatmanAdv.Fragmentation.Buffer
import BatmanAdv.Fragmentation.Invariant
import BatmanAdv.Fragmentation.RoundTrip
import BatmanAdv.Fragmentation.Send
import BatmanAdv.Gateway.Election
import BatmanAdv.HardInterface.Lifecycle
import BatmanAdv.HardInterface.Links
import BatmanAdv.HardInterface.Mtu
import BatmanAdv.HardInterface.References
import BatmanAdv.HardInterface.State
import BatmanAdv.HardInterface.Tables
import BatmanAdv.Lib.Advertised
import BatmanAdv.Lib.BigEndian
import BatmanAdv.Lib.Bpf
import BatmanAdv.Lib.Changeset
import BatmanAdv.Lib.Checksum
import BatmanAdv.Lib.CountedList
import BatmanAdv.Lib.FloorFilter
import BatmanAdv.Lib.Forest
import BatmanAdv.Lib.Grouping
import BatmanAdv.Lib.Heap
import BatmanAdv.Lib.LinkedList
import BatmanAdv.Lib.Maxima
import BatmanAdv.Lib.Paging
import BatmanAdv.Lib.Programs
import BatmanAdv.Lib.Reassembly
import BatmanAdv.Lib.Records
import BatmanAdv.Lib.Relay
import BatmanAdv.Lib.RingBuffer
import BatmanAdv.Lib.Rotation
import BatmanAdv.Lib.Run
import BatmanAdv.Lib.Selection
import BatmanAdv.Lib.SerialNumber
import BatmanAdv.Lib.SerialWindow
import BatmanAdv.Lib.ShiftRegister
import BatmanAdv.Lib.SlidingWindow
import BatmanAdv.Lib.Table
import BatmanAdv.Lib.Tally
import BatmanAdv.Lib.Threads
import BatmanAdv.Lib.Traced
import BatmanAdv.Main
import BatmanAdv.Multicast.Announce
import BatmanAdv.Multicast.Delivery
import BatmanAdv.Multicast.Encapsulation
import BatmanAdv.Multicast.Forward
import BatmanAdv.Multicast.Mode
import BatmanAdv.Multicast.Partition
import BatmanAdv.Multicast.Push
import BatmanAdv.Multicast.Shrink
import BatmanAdv.Multicast.WantLists
import BatmanAdv.NetlinkDump
import BatmanAdv.Originator
import BatmanAdv.Routing.Bonding
import BatmanAdv.Routing.Broadcast
import BatmanAdv.Routing.Icmp
import BatmanAdv.Routing.Receive
import BatmanAdv.Routing.Ttl
import BatmanAdv.Send.ForwPacket
import BatmanAdv.Send.Ownership
import BatmanAdv.TpMeter.Accounting
import BatmanAdv.TpMeter.Cwnd
import BatmanAdv.TpMeter.FastRetransmit
import BatmanAdv.TpMeter.Lifetime
import BatmanAdv.TpMeter.Receiver
import BatmanAdv.TpMeter.Rto
import BatmanAdv.TpMeter.Sender
import BatmanAdv.TpMeter.Termination
import BatmanAdv.TpMeter.Transfer
import BatmanAdv.TpMeter.Translation
import BatmanAdv.TpMeter.Vars
import BatmanAdv.TpMeter.Window
import BatmanAdv.TranslationTable.Accounting
import BatmanAdv.TranslationTable.AnnouncedSet
import BatmanAdv.TranslationTable.Changes
import BatmanAdv.TranslationTable.CommitRace
import BatmanAdv.TranslationTable.Find
import BatmanAdv.TranslationTable.FullTable
import BatmanAdv.TranslationTable.Global
import BatmanAdv.TranslationTable.Isolation
import BatmanAdv.TranslationTable.Local
import BatmanAdv.TranslationTable.LocalTable
import BatmanAdv.TranslationTable.Parse
import BatmanAdv.TranslationTable.Request
import BatmanAdv.TranslationTable.Response
import BatmanAdv.TranslationTable.Size
import BatmanAdv.TranslationTable.UpdateChanges
import BatmanAdv.TranslationTable.VersionTracking
import BatmanAdv.TranslationTable.View
import BatmanAdv.Tvlv
import BatmanAdv.Tvlv.Container
import BatmanAdv.Tvlv.RoundTrip
