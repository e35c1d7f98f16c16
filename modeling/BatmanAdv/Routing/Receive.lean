import BatmanAdv.BatV.Ogm
import BatmanAdv.Bitarray

set_option relaxedAutoImplicit false
set_option autoImplicit false

/-!
# Receiving and forwarding packets (`routing.c`, parts of `fragmentation.c` and `send.c`)

For each packet type there is a receive handler that checks the frame, delivers what is for this
node and forwards the rest.  The model of a handler returns what it hands to the sending layer:
the forwarded copies, each with where it goes.  Packets a handler originates itself (echo replies,
time-to-live notices) are not copies and are left out.

What a handler looks up in other parts of the program (the translation table, the bridge loop
avoidance, the multicast tracker) is part of the receiving node, `RecvNode`, as arbitrary
functions: the results hold whatever these lookups answer.

## Main definitions

* `Batadv.Packet`, `Batadv.Skb` — the packets, and a received frame.
* `Batadv.RecvNode` — the receiving node.
* `Batadv.checkUnicastPacket`, `Batadv.checkUnicastTtvn`, `Batadv.routeUnicastPacket`,
  `Batadv.recvUnicastPacket`, `Batadv.recvUnhandledUnicastPacket`, `Batadv.recvUnicastTvlv`,
  `Batadv.fragSkbFwd`, `Batadv.recvFragPacket`, `Batadv.recvIcmpPacket`,
  `Batadv.recvBcastPacket`, `Batadv.recvMcastPacket` — the functions of these names.
* `Batadv.batmanSkbRecv` — the dispatch by packet type.
-/

namespace Batadv

/-! ### Packets -/

/-- `struct batadv_unicast_packet`, the header that all unicast packets begin with. -/
structure UnicastHeader where
  ttl : U8
  ttvn : U8
  dest : EthAddr
deriving DecidableEq, Repr

/-- The Ethernet frame inside a unicast packet: its destination and its VLAN. -/
structure InnerFrame where
  dest : EthAddr
  vid : U16
deriving DecidableEq, Repr

/-- `struct batadv_frag_packet`. -/
structure FragHeader where
  ttl : U8
  no : BitVec 4
  priority : BitVec 3
  dest : EthAddr
  orig : EthAddr
  seqno : U16
  totalSize : U16
deriving DecidableEq, Repr

/-- `struct batadv_icmp_header`, with the fields of `struct batadv_icmp_packet_rr` that the handler
uses when the packet is long enough to have them. -/
structure IcmpHeader where
  ttl : U8
  msgType : U8
  dst : EthAddr
  orig : EthAddr
  rrCur : U8
  rr : List EthAddr
deriving DecidableEq, Repr

/-- `struct batadv_bcast_packet`. -/
structure BcastHeader where
  ttl : U8
  seqno : U32
  orig : EthAddr
deriving DecidableEq, Repr

/-- `struct batadv_mcast_packet` with what follows it. -/
structure McastHeader where
  ttl : U8
  tvlvLen : U16
  tvlv : List U8
deriving DecidableEq, Repr

/-- The packet types. -/
inductive Packet
  | unicast (h : UnicastHeader) (inner : InnerFrame)
  | unicast4addr (h : UnicastHeader) (src : EthAddr) (subtype : U8) (inner : InnerFrame)
  | unicastTvlv (h : UnicastHeader) (src : EthAddr) (tvlvLen : U16) (tvlv : List U8)
  | unhandledUnicast (packetType : U8) (h : UnicastHeader)
  | frag (h : FragHeader) (payload : List U8)
  | icmp (h : IcmpHeader)
  | bcast (h : BcastHeader) (inner : InnerFrame)
  | mcast (h : McastHeader)
  | ogm2 (ogm : Ogm2Packet)
deriving DecidableEq, Repr

/-- The time to live of a packet. -/
def Packet.ttl : Packet → U8
  | unicast h _ | unicast4addr h _ _ _ | unicastTvlv h _ _ _ | unhandledUnicast _ h => h.ttl
  | frag h _ => h.ttl
  | icmp h => h.ttl
  | bcast h _ => h.ttl
  | mcast h => h.ttl
  | ogm2 ogm => ogm.ttl

/-- A received frame: the addresses of its Ethernet header, `skb->len`, and the packet in it. -/
structure Skb where
  source : EthAddr
  dest : EthAddr
  len : ℕ
  packet : Packet
deriving DecidableEq, Repr

/-- Where a packet is handed to: towards an originator (`batadv_send_skb_to_orig`), to a neighbour
(`batadv_send_unicast_skb`), or out on an interface. -/
inductive SendTo
  | orig (addr : EthAddr)
  | neigh (key : NeighKey)
  | iface (ifindex : ℕ)
deriving DecidableEq, Repr

/-! ### The receiving node -/

/-- The broadcast window of an originator. -/
structure BcastWindow where
  lastBcastSeqno : U32
  bcastBits : U64
  bcastSeqnoReset : Jiffies
deriving DecidableEq, Repr

/-- The node that receives a frame, and what it looks up while it handles it. -/
structure RecvNode (δ : Type*) where
  bat : BatPriv δ
  recvIf : HardIface
  jiffies : Jiffies
  alloc : Alloc
  /-- `skb_cow` and `skb_linearize` succeed. -/
  skbWritable : Bool
  /-- The address of the selected primary interface. -/
  primaryIf : Option EthAddr
  /-- `net_dev->mtu` of the interface with the given index. -/
  mtu : ℕ → ℕ
  /-- `tt.vn`. -/
  ttvn : U8
  /-- `last_ttvn` of an originator. -/
  origTtvn : EthAddr → U8
  clientIsRoaming : EthAddr → U16 → Bool
  isMyClient : EthAddr → U16 → Bool
  transtableSearch : EthAddr → U16 → Option EthAddr
  /-- All unicast handlers called for a TVLV buffer report success. -/
  tvlvConsumed : List U8 → Bool
  bcastWindow : EthAddr → BcastWindow
  /-- `num_bcasts` of an interface. -/
  numBcasts : ℕ → ℕ
  /-- The repetitions of a broadcast can be queued for an interface. -/
  bcastQueued : ℕ → Bool
  blaDuplicate : BcastHeader → Bool
  /-- The copies the multicast tracker sends: the neighbour and the TVLV buffer of each. -/
  mcastCopies : List U8 → List (NeighKey × List U8)

variable {δ : Type*} (msecsToJiffies : ℕ → Jiffies)

/-- `batadv_orig_to_router`. -/
def origToRouter (node : RecvNode δ) (origAddr : EthAddr) : Option NeighKey :=
  (origHashFind node.bat origAddr).bind (fun orig => origRouterGet orig (some node.recvIf.ifindex))

/-! ### Unicast packets -/

/-- `batadv_check_unicast_packet`: the frame is long enough, between unicast addresses, and for
this node. -/
def checkUnicastPacket (node : RecvNode δ) (skb : Skb) (hdrSize : ℕ) : Bool :=
  decide (hdrSize ≤ skb.len) && isValidEtherAddr skb.dest && !isMulticastEtherAddr skb.source &&
    isMyMac node.bat skb.dest

/-- `batadv_route_unicast_packet` for a packet with the given header. -/
def routeUnicastPacket (node : RecvNode δ) (h : UnicastHeader) (rebuild : UnicastHeader → Packet) :
    List (SendTo × Packet) :=
  if h.ttl < 2 then []
  else
    match origHashFind node.bat h.dest with
    | none => []
    | some _ =>
      if !node.skbWritable then []
      else [(.orig h.dest, rebuild { h with ttl := h.ttl - 1 })]

/-- `batadv_reroute_unicast_packet`: the header with the new destination, if there is one. -/
def rerouteUnicastPacket (node : RecvNode δ) (h : UnicastHeader) (dstAddr : EthAddr) (vid : U16) :
    Option UnicastHeader :=
  if node.isMyClient dstAddr vid then
    node.primaryIf.map (fun addr => { h with dest := addr, ttvn := node.ttvn })
  else
    match node.transtableSearch dstAddr vid with
    | none => none
    | some orig =>
      if orig = h.dest then none
      else some { h with dest := orig, ttvn := node.origTtvn orig }

/-- The translation table version that the node knows for the packet's destination. -/
def currTtvn (node : RecvNode δ) (h : UnicastHeader) : U8 :=
  if isMyMac node.bat h.dest then node.ttvn else node.origTtvn h.dest

/-- `batadv_check_unicast_ttvn`: the header to go on with, or `none` when the packet is dropped. -/
def checkUnicastTtvn (node : RecvNode δ) (skb : Skb) (h : UnicastHeader) (inner : InnerFrame)
    (hdrLen : ℕ) : Option UnicastHeader :=
  if skb.len < hdrLen + 14 then none
  else if !node.skbWritable then none
  else if isMulticastEtherAddr inner.dest then some h
  else if node.clientIsRoaming inner.dest inner.vid then
    some ((rerouteUnicastPacket node h inner.dest inner.vid).getD h)
  else if !isMyMac node.bat h.dest && (origHashFind node.bat h.dest).isNone then none
  else if !seqBefore h.ttvn (currTtvn node h) then some h
  else
    match rerouteUnicastPacket node h inner.dest inner.vid with
    | some h' => some h'
    | none =>
      if !node.isMyClient inner.dest inner.vid then none
      else node.primaryIf.map (fun addr => { h with dest := addr, ttvn := currTtvn node h })

/-- `batadv_recv_unicast_packet`, for unicast packets with and without four addresses. -/
def recvUnicastPacket (node : RecvNode δ) (skb : Skb) (h : UnicastHeader) (inner : InnerFrame)
    (hdrSize : ℕ) (rebuild : UnicastHeader → Packet) : List (SendTo × Packet) :=
  if !checkUnicastPacket node skb hdrSize then []
  else
    match checkUnicastTtvn node skb h inner hdrSize with
    | none => []
    | some h =>
      -- packet for me
      if isMyMac node.bat h.dest then []
      else routeUnicastPacket node h rebuild

/-- `batadv_recv_unhandled_unicast_packet`. -/
def recvUnhandledUnicastPacket (node : RecvNode δ) (skb : Skb) (packetType : U8)
    (h : UnicastHeader) : List (SendTo × Packet) :=
  if !checkUnicastPacket node skb 10 then []
  else if isMyMac node.bat h.dest then []
  else routeUnicastPacket node h (.unhandledUnicast packetType)

/-- `batadv_recv_unicast_tvlv`: a packet that the handlers do not consume is routed. -/
def recvUnicastTvlv (node : RecvNode δ) (skb : Skb) (h : UnicastHeader) (src : EthAddr)
    (tvlvLen : U16) (tvlv : List U8) : List (SendTo × Packet) :=
  if !checkUnicastPacket node skb 20 then []
  else if !node.skbWritable then []
  else if skb.len - 20 < tvlvLen.toNat then []
  else if node.tvlvConsumed (tvlv.take tvlvLen.toNat) then []
  else routeUnicastPacket node h (.unicastTvlv · src tvlvLen tvlv)

/-! ### Fragments -/

/-- `batadv_frag_skb_fwd`: forward a fragment whose merged packet would exceed the MTU towards the
next hop.  `none` when it is not forwarded. -/
def fragSkbFwd (node : RecvNode δ) (h : FragHeader) (payload : List U8) :
    Option (SendTo × Packet) :=
  match origToRouter node h.dest with
  | none => none
  | some neigh =>
    if node.mtu neigh.ifIncoming < h.totalSize.toNat then
      some (.neigh neigh, .frag { h with ttl := h.ttl - 1 } payload)
    else none

/-- `batadv_recv_frag_packet`.  A fragment that is not forwarded is buffered. -/
def recvFragPacket (node : RecvNode δ) (skb : Skb) (h : FragHeader) (payload : List U8) :
    List (SendTo × Packet) :=
  if !checkUnicastPacket node skb 20 then []
  else if (origHashFind node.bat h.orig).isNone then []
  else if isMyMac node.bat h.dest then []
  else (fragSkbFwd node h payload).toList

/-! ### ICMP packets -/

/-- `BATADV_ECHO_REPLY`. -/
def ECHO_REPLY : U8 := 0

/-- `BATADV_ECHO_REQUEST`. -/
def ECHO_REQUEST : U8 := 8

/-- `BATADV_RR_LEN`. -/
def RR_LEN : ℕ := 16

/-- The part of `batadv_recv_icmp_packet` that adds the route record: `none` when it is full or the
packet cannot be written to. -/
def icmpAddRecord (node : RecvNode δ) (skb : Skb) (h : IcmpHeader) : Option IcmpHeader :=
  if (h.msgType = ECHO_REPLY ∨ h.msgType = ECHO_REQUEST) ∧ 116 ≤ skb.len then
    if !node.skbWritable then none
    else if RR_LEN ≤ h.rrCur.toNat then none
    else some { h with rr := h.rr.set h.rrCur.toNat skb.dest, rrCur := h.rrCur + 1 }
  else some h

/-- `batadv_recv_icmp_packet`. -/
def recvIcmpPacket (node : RecvNode δ) (skb : Skb) (h : IcmpHeader) : List (SendTo × Packet) :=
  if !checkUnicastPacket node skb 20 then []
  else
    match icmpAddRecord node skb h with
    | none => []
    | some h =>
      -- packet for me
      if isMyMac node.bat h.dst then []
      -- TTL exceeded
      else if h.ttl < 2 then []
      else if (origHashFind node.bat h.dst).isNone then []
      else if !node.skbWritable then []
      else [(.orig h.dst, .icmp { h with ttl := h.ttl - 1 })]

/-! ### Broadcast and multicast packets -/

/-- `BATADV_BCAST_MAX_AGE`. -/
def BCAST_MAX_AGE : ℤ := 64

/-- Whether `batadv_recv_bcast_packet` accepts a sequence number: it is not a duplicate and not
protected.  The window it leaves behind does not bear on the packet at hand. -/
def bcastAccepted (node : RecvNode δ) (h : BcastHeader) : Bool :=
  let window := node.bcastWindow h.orig
  !testBit window.bcastBits window.lastBcastSeqno h.seqno &&
    (windowProtected msecsToJiffies node.jiffies (h.seqno - window.lastBcastSeqno).toInt
      BCAST_MAX_AGE window.bcastSeqnoReset).isSome

/-- `batadv_forw_bcast_packet_if`: the copies for one interface, and whether it was busy.  One copy
is sent at once, the repetitions are queued. -/
def forwBcastPacketIf (node : RecvNode δ) (packet : Packet) (out : HardIface) :
    List (SendTo × Packet) × Bool :=
  let copy := (SendTo.iface out.ifindex, packet)
  if !node.alloc.skb out.ifindex then ([], true)
  else if node.numBcasts out.ifindex ≤ 1 then ([copy], false)
  else if !node.bcastQueued out.ifindex then ([copy], true)
  else (List.replicate (node.numBcasts out.ifindex) copy, false)

/-- `batadv_send_no_broadcast`: no neighbour behind the interface needs the broadcast. -/
def sendNoBroadcast (out : HardIface) (skb : Skb) (h : BcastHeader) : Bool :=
  hardifNoBroadcast out h.orig ((hardifNeighGet out skb.source).map HardifNeighNode.orig) != .ok

/-- The loop of `batadv_forw_bcast_packet` over the interfaces, which ends at a busy one. -/
def forwBcastPacket (node : RecvNode δ) (skb : Skb) (h : BcastHeader) (packet : Packet) :
    List HardIface → List (SendTo × Packet)
  | [] => []
  | out :: outs =>
    if sendNoBroadcast out skb h then forwBcastPacket node skb h packet outs
    else
      match forwBcastPacketIf node packet out with
      | (copies, true) => copies
      | (copies, false) => copies ++ forwBcastPacket node skb h packet outs

/-- `batadv_recv_bcast_packet`. -/
def recvBcastPacket (node : RecvNode δ) (skb : Skb) (h : BcastHeader) (inner : InnerFrame) :
    List (SendTo × Packet) :=
  if skb.len < 14 then []
  else if !isBroadcastEtherAddr skb.dest then []
  else if isMulticastEtherAddr skb.source then []
  else if isMyMac node.bat skb.source then []
  else if isMyMac node.bat h.orig then []
  -- the time to live is decremented whether or not the test succeeds
  else if h.ttl < 2 then []
  else
    let h := { h with ttl := h.ttl - 1 }
    if (origHashFind node.bat h.orig).isNone then []
    else if !bcastAccepted msecsToJiffies node h then []
    else if node.blaDuplicate h then []
    else if node.primaryIf.isNone then []
    else forwBcastPacket node skb h (.bcast h inner) node.bat.hardIfaces

/-- `batadv_recv_mcast_packet`.  The copies are made by the handler of the tracker TVLV. -/
def recvMcastPacket (node : RecvNode δ) (skb : Skb) (h : McastHeader) : List (SendTo × Packet) :=
  if !checkUnicastPacket node skb 6 then []
  else if !node.skbWritable then []
  else if h.ttl < 2 then []
  else
    let h := { h with ttl := h.ttl - 1 }
    if skb.len - 6 < h.tvlvLen.toNat then []
    else (node.mcastCopies (h.tvlv.take h.tvlvLen.toNat)).map
      (fun copy => (.neigh copy.1, .mcast { h with tvlv := copy.2 }))

/-! ### OGM2 packets and the dispatch -/

/-- `batadv_v_ogm_packet_recv` for one of the OGMs in the packet. -/
def recvOgm2 [Inhabited δ] (node : RecvNode δ) (skb : Skb) (ogm : Ogm2Packet) :
    List (SendTo × Packet) :=
  if !isBroadcastEtherAddr skb.dest then []
  else if !isValidEtherAddr skb.source then []
  else if !node.skbWritable then []
  else if isMyMac node.bat skb.source then []
  else
    (vOgmProcess msecsToJiffies node.bat
      ⟨ogm, skb.source, node.recvIf, node.jiffies, node.alloc⟩).2.forwarded.map
        (fun q => (.iface q.1, .ogm2 q.2))

/-- The handlers that `batadv_batman_skb_recv` dispatches to: what the node hands to the sending
layer as forwarded copies of the received packet. -/
def batmanSkbRecv [Inhabited δ] (node : RecvNode δ) (skb : Skb) : List (SendTo × Packet) :=
  match skb.packet with
  | .unicast h inner => recvUnicastPacket node skb h inner 10 (.unicast · inner)
  | .unicast4addr h src subtype inner =>
    recvUnicastPacket node skb h inner 18 (.unicast4addr · src subtype inner)
  | .unicastTvlv h src tvlvLen tvlv => recvUnicastTvlv node skb h src tvlvLen tvlv
  | .unhandledUnicast packetType h => recvUnhandledUnicastPacket node skb packetType h
  | .frag h payload => recvFragPacket node skb h payload
  | .icmp h => recvIcmpPacket node skb h
  | .bcast h inner => recvBcastPacket msecsToJiffies node skb h inner
  | .mcast h => recvMcastPacket node skb h
  | .ogm2 ogm => recvOgm2 msecsToJiffies node skb ogm

end Batadv
