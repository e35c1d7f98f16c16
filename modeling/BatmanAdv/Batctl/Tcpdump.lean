import BatmanAdv.Batctl.Headers
import BatmanAdv.Lib.Traced

set_option relaxedAutoImplicit false
set_option autoImplicit false

/-!
# Dissecting captured frames (`batctl/tcpdump.c`)

`batctl tcpdump` reads a frame into a buffer and dissects it: every dissector gets a pointer into
the buffer and the length that remains behind it, and hands a part of both to the next one.  A
dissector is a program on the buffer that leaves a trace: which bytes it reads and writes, and with
what length the dissectors are entered.  The buffer holds what it held before behind the captured
bytes.

Pointers are positions in the buffer; lengths are words of 64 bits, a `ssize_t` being read as a
`size_t` where the source casts it.  Names of hosts, the clock and what is printed are left out, but
for the fields that are read for it.

## Main definitions

* `Batctl.Dissect` — dissectors.
* `Batctl.parseEthHdr` — the recursive dissection of an Ethernet frame.
* `Batctl.parseWifiHdr` — 802.11 frames.
* `Batctl.tcpdumpRecv` — a frame that was read from an interface.
-/

namespace Batctl

open Batadv

/-! ### Dissectors -/

/-- What is seen of a dissector. -/
inductive DumpEvent
  /-- Some bytes of the buffer are read or written. -/
  | access (ptr len : ℕ)
  /-- A dissector is entered with a remaining length; it reads a header of this size before it
  checks the length. -/
  | enter (buffLen : U64) (header : ℕ)
deriving DecidableEq, Repr

/-- A dissector: a program on the buffer. -/
abbrev Dissect := TracedProg (ℕ → U8) DumpEvent

/-- A `size_t`. -/
def sizeT (n : ℕ) : U64 := BitVec.ofNat 64 n

/-- A dissector is entered. -/
def enter (buffLen : U64) (header : ℕ) : Dissect Unit :=
  .trace [.enter buffLen header] (fun _ => ()) id

/-- A field of one byte. -/
def load8 (ptr : ℕ) (f : Field) : Dissect U8 :=
  .trace [.access (ptr + f.off) 1] (fun m => m (ptr + f.off)) id

/-- A field of two bytes, in network byte order. -/
def load16 (ptr : ℕ) (f : Field) : Dissect U16 :=
  .trace [.access (ptr + f.off) 2] (fun m => m (ptr + f.off) ++ m (ptr + f.off + 1)) id

/-- A field of two bytes, in little endian byte order. -/
def loadLe16 (ptr : ℕ) (f : Field) : Dissect U16 :=
  .trace [.access (ptr + f.off) 2] (fun m => m (ptr + f.off + 1) ++ m (ptr + f.off)) id

/-- A field of some bytes. -/
def load (ptr : ℕ) (f : Field) : Dissect (List U8) :=
  .trace [.access (ptr + f.off) f.len]
    (fun m => (List.range f.len).map fun i => m (ptr + f.off + i)) id

/-- Fields whose values are only printed. -/
def printf (ptr : ℕ) (fields : List Field) : Dissect Unit :=
  .trace (fields.map fun f => .access (ptr + f.off) f.len) (fun _ => ()) id

/-- Some bytes are moved. -/
def memmove (dest src len : ℕ) : Dissect Unit :=
  .trace [.access src len, .access dest len] (fun _ => ())
    fun m i => if dest ≤ i ∧ i < dest + len then m (src + (i - dest)) else m i

/-- A field is converted to host byte order in place. -/
def ntohsInPlace (ptr : ℕ) (f : Field) : Dissect Unit :=
  .trace [.access (ptr + f.off) 2] (fun _ => ()) fun m i =>
    if i = ptr + f.off then m (ptr + f.off + 1)
    else if i = ptr + f.off + 1 then m (ptr + f.off)
    else m i

/-- `LEN_CHECK`: too short a packet is dropped. -/
def lenCheck (buffLen checkLen : U64) (rest : Dissect Unit) : Dissect Unit :=
  if buffLen < checkLen then pure () else rest

/-- Fields of one entry after the other are printed. -/
def printEach (ptr stride : ℕ) (fields : List Field) : ℕ → Dissect Unit
  | 0 => pure ()
  | num + 1 => do
    printf ptr fields
    printEach (ptr + stride) stride fields num

/-! ### TVLVs -/

/-- A TVLV whose value has one size only: its fields are printed. -/
def parseFixed (size : ℕ) (fields : List Field) (buff : ℕ) (buffLen : U64) : Dissect Unit := do
  enter buffLen 0
  if buffLen ≠ sizeT size then pure () else printf buff fields

/-- `batctl_tvlv_parse_gw_v1`. -/
def batctlTvlvParseGwV1 : ℕ → U64 → Dissect Unit :=
  parseFixed TvlvGatewayData.size [TvlvGatewayData.bandwidthDown, TvlvGatewayData.bandwidthUp]

/-- `batctl_tvlv_parse_dat_v1`. -/
def batctlTvlvParseDatV1 : ℕ → U64 → Dissect Unit := parseFixed 0 []

/-- `batctl_tvlv_parse_nc_v1`. -/
def batctlTvlvParseNcV1 : ℕ → U64 → Dissect Unit := parseFixed 0 []

/-- `batctl_tvlv_parse_tt_v1`. -/
def batctlTvlvParseTtV1 (buff : ℕ) (buffLen : U64) : Dissect Unit := do
  enter buffLen 0
  lenCheck buffLen (sizeT TvlvTtData.size) do
    printf buff [TvlvTtData.flags]
    let numVlan ← load16 buff TvlvTtData.numVlan
    let vlanLen := TvlvTtData.size + TvlvTtVlanData.size * numVlan.toNat
    lenCheck buffLen (sizeT vlanLen) do
      printf buff [TvlvTtData.flags, TvlvTtData.ttvn]
      printEach (buff + TvlvTtData.size) TvlvTtVlanData.size
        [TvlvTtVlanData.vid, TvlvTtVlanData.crc] numVlan.toNat

/-- `batctl_tvlv_parse_roam_v1`. -/
def batctlTvlvParseRoamV1 : ℕ → U64 → Dissect Unit :=
  parseFixed TvlvRoamAdv.size [TvlvRoamAdv.client, TvlvRoamAdv.vid]

/-- `batctl_tvlv_parse_mcast_v1`. -/
def batctlTvlvParseMcastV1 : ℕ → U64 → Dissect Unit :=
  parseFixed TvlvMcastData.size [TvlvMcastData.flags]

/-- `batctl_tvlv_parse_mcast_v2`. -/
def batctlTvlvParseMcastV2 : ℕ → U64 → Dissect Unit :=
  parseFixed TvlvMcastData.size [TvlvMcastData.flags]

/-- `batctl_tvlv_parse_mcast_tracker_v1`; lengths are compared as `ssize_t`. -/
def batctlTvlvParseMcastTrackerV1 (buff : ℕ) (buffLen : U64) : Dissect Unit := do
  enter buffLen 0
  if buffLen.slt (sizeT TvlvMcastTracker.size) then pure () else do
  let numDests ← load16 buff TvlvMcastTracker.numDests
  let tvlvLen := TvlvMcastTracker.size + numDests.toNat * 6
  if buffLen.slt (sizeT tvlvLen) then pure () else
    printEach (buff + TvlvMcastTracker.size) 6 [⟨0, 6⟩] numDests.toNat

/-- `tvlv_parser_get`. -/
def tvlvParserGet (type version : U8) : Option (ℕ → U64 → Dissect Unit) :=
  if type = 1 then if version = 1 then some batctlTvlvParseGwV1 else none
  else if type = 2 then if version = 1 then some batctlTvlvParseDatV1 else none
  else if type = 3 then if version = 1 then some batctlTvlvParseNcV1 else none
  else if type = 4 then if version = 1 then some batctlTvlvParseTtV1 else none
  else if type = 5 then if version = 1 then some batctlTvlvParseRoamV1 else none
  else if type = 6 then
    if version = 1 then some batctlTvlvParseMcastV1
    else if version = 2 then some batctlTvlvParseMcastV2
    else none
  else if type = 7 then if version = 1 then some batctlTvlvParseMcastTrackerV1 else none
  else none

/-- One container, if there is a parser for it. -/
def tvlvParse (type version : U8) (ptr : ℕ) (len : U64) : Dissect Unit :=
  (tvlvParserGet type version).elim (pure ()) fun parser => parser ptr len

/-- The loop of `dump_tvlv`. -/
def dumpTvlvLoop : ℕ → ℕ → U64 → Dissect Unit
  | 0, _, _ => .stuck
  | fuel + 1, ptr, tvlvLen =>
    if (sizeT TvlvHdr.size).sle tvlvLen then do
      let len ← load16 ptr TvlvHdr.len
      lenCheck (tvlvLen - sizeT TvlvHdr.size) (sizeT len.toNat) do
        let type ← load8 ptr TvlvHdr.type
        let version ← load8 ptr TvlvHdr.version
        tvlvParse type version (ptr + TvlvHdr.size) (sizeT len.toNat)
        dumpTvlvLoop fuel (ptr + TvlvHdr.size + len.toNat)
          (tvlvLen - sizeT TvlvHdr.size - sizeT len.toNat)
    else pure ()

/-- `dump_tvlv`. -/
def dumpTvlv (fuel ptr : ℕ) (tvlvLen : U64) : Dissect Unit := do
  enter tvlvLen 0
  dumpTvlvLoop fuel ptr tvlvLen

/-! ### ARP -/

/-- `dump_bla2_claim`: whether the ARP packet is a claim frame. -/
def dumpBla2Claim (ethHdr arphdr : ℕ) : Dissect Bool := do
  let arHrd ← load16 arphdr EtherArp.arHrd
  if arHrd ≠ 1 then pure false else do
  let arPro ← load16 arphdr EtherArp.arPro
  if arPro ≠ ETH_P_IP then pure false else do
  let arHln ← load8 arphdr EtherArp.arHln
  if arHln ≠ 6 then pure false else do
  let arPln ← load8 arphdr EtherArp.arPln
  if arPln ≠ 4 then pure false else do
  let blaDst := arphdr + EtherArp.arpTha.off
  let magic ← load blaDst BlaClaimDst.magic
  if magic ≠ [0xff, 0x43, 0x05] then pure false else do
  let type ← load8 blaDst BlaClaimDst.type
  -- claim and unclaim name the same fields, in another order
  if type = 0 ∨ type = 1 then do
    printf arphdr [EtherArp.arpSha]
    printf ethHdr [EtherHeader.etherShost]
    printf blaDst [BlaClaimDst.group]
    pure true
  else if type = 2 then do
    printf ethHdr [EtherHeader.etherShost]
    printf blaDst [BlaClaimDst.group]
    printf arphdr [⟨EtherArp.arpSha.off + 4, 2⟩]
    pure true
  else if type = 3 ∨ type = 4 then do
    printf ethHdr [EtherHeader.etherShost, EtherHeader.etherDhost]
    pure true
  else do
    printf blaDst [BlaClaimDst.type]
    pure true

/-- `dump_arp`. -/
def dumpArp (packetBuff : ℕ) (buffLen : U64) (ethHdr : ℕ) : Dissect Unit := do
  enter buffLen 0
  lenCheck buffLen (sizeT EtherArp.size) do
    let arpOp ← load16 packetBuff EtherArp.arpOp
    if arpOp = 1 then
      printf packetBuff [EtherArp.arpTpa, EtherArp.arpSpa, EtherArp.arpSha]
    else if arpOp = 2 then do
      let arpIsBla2Claim ← dumpBla2Claim ethHdr packetBuff
      if arpIsBla2Claim then pure () else
        printf packetBuff [EtherArp.arpSpa, EtherArp.arpSha]
    else printf packetBuff [EtherArp.arpOp]

/-! ### IP -/

/-- `dump_tcp`. -/
def dumpTcp (packetBuff : ℕ) (buffLen : U64) (ip6HeaderLen : ℕ) : Dissect Unit := do
  enter buffLen 0
  lenCheck (buffLen - sizeT ip6HeaderLen) (sizeT TcpHdr.size) do
    printf (packetBuff + ip6HeaderLen) [TcpHdr.doff, TcpHdr.source, TcpHdr.dest, TcpHdr.flags]

/-- `dump_udp`. -/
def dumpUdp (packetBuff : ℕ) (buffLen : U64) (ip6HeaderLen : ℕ) : Dissect Unit := do
  enter buffLen 0
  lenCheck (buffLen - sizeT ip6HeaderLen) (sizeT UdpHdr.size) do
    let udphdr := packetBuff + ip6HeaderLen
    printf udphdr [UdpHdr.source]
    let dest ← load16 udphdr UdpHdr.dest
    if dest = 67 then
      lenCheck (buffLen - sizeT ip6HeaderLen - sizeT UdpHdr.size) (sizeT dhcpSize) do
        printf (udphdr + UdpHdr.size) [dhcpChaddr]
    else if dest = 68 then pure ()
    else printf udphdr [UdpHdr.dest]

/-- The `IPPROTO_ICMPV6` case of `dump_ipv6`. -/
def dumpIcmpv6 (packetBuff : ℕ) (buffLen : U64) : Dissect Unit :=
  lenCheck (buffLen - sizeT Ip6Hdr.size) (sizeT IcmpHdr.size) do
    let icmphdr := packetBuff + Ip6Hdr.size
    let type ← load8 icmphdr IcmpHdr.type
    -- error messages are not longer than the minimum MTU
    if type < 0x80 ∧ sizeT 1280 < buffLen then pure ()
    else if type = 1 then printf icmphdr [IcmpHdr.code]
    else if type = 128 ∨ type = 129 then do
      printf icmphdr [IcmpHdr.id, IcmpHdr.sequence]
      printf packetBuff [Ip6Hdr.plen]
    else if type = 3 then pure ()
    else if type = 135 ∨ type = 136 then
      lenCheck (buffLen - sizeT Ip6Hdr.size) (sizeT NdNeighbor.size) do
        printf icmphdr [NdNeighbor.target]
    else printf icmphdr [IcmpHdr.type]

/-- `dump_ipv6`. -/
def dumpIpv6 (packetBuff : ℕ) (buffLen : U64) : Dissect Unit := do
  enter buffLen 0
  lenCheck buffLen (sizeT Ip6Hdr.size) do
    printf packetBuff [Ip6Hdr.src, Ip6Hdr.dst]
    let nxt ← load8 packetBuff Ip6Hdr.nxt
    if nxt = 58 then dumpIcmpv6 packetBuff buffLen
    else if nxt = 6 then dumpTcp packetBuff buffLen Ip6Hdr.size
    else if nxt = 17 then dumpUdp packetBuff buffLen Ip6Hdr.size
    else printf packetBuff [Ip6Hdr.nxt]

/-- `iphdr->ihl * 4`. -/
def ihlLen (versionIhl : U8) : ℕ := (versionIhl &&& 0x0f).toNat * 4

/-- The `ICMP_PORT_UNREACH` case of `dump_ip`: the header of the packet that did not arrive. -/
def dumpPortUnreach (icmphdr : ℕ) (icmpLen : U64) : Dissect Unit :=
  lenCheck (icmpLen - sizeT IcmpHdr.size) (sizeT IpHdr.size) do
    let tmpIphdr := icmphdr + IcmpHdr.size
    let versionIhl ← load8 tmpIphdr IpHdr.versionIhl
    lenCheck (icmpLen - sizeT IcmpHdr.size) (sizeT (ihlLen versionIhl)) do
      lenCheck (sizeT (ihlLen versionIhl)) (sizeT IpHdr.size) do
        lenCheck (icmpLen - sizeT IcmpHdr.size - sizeT (ihlLen versionIhl)) (sizeT UdpHdr.size) do
          printf (tmpIphdr + ihlLen versionIhl) [UdpHdr.dest]

/-- The `IPPROTO_ICMP` case of `dump_ip`. -/
def dumpIcmp (icmphdr : ℕ) (icmpLen : U64) : Dissect Unit :=
  lenCheck icmpLen (sizeT IcmpHdr.size) do
    let type ← load8 icmphdr IcmpHdr.type
    if type = 0 ∨ type = 8 then printf icmphdr [IcmpHdr.id, IcmpHdr.sequence]
    else if type = 3 then do
      let code ← load8 icmphdr IcmpHdr.code
      if code = 3 then dumpPortUnreach icmphdr icmpLen else printf icmphdr [IcmpHdr.code]
    else if type = 11 then pure ()
    else printf icmphdr [IcmpHdr.type]

/-- `dump_ip`. -/
def dumpIp (packetBuff : ℕ) (buffLen : U64) : Dissect Unit := do
  enter buffLen 0
  lenCheck buffLen (sizeT IpHdr.size) do
    let versionIhl ← load8 packetBuff IpHdr.versionIhl
    lenCheck buffLen (sizeT (ihlLen versionIhl)) do
      lenCheck (sizeT (ihlLen versionIhl)) (sizeT IpHdr.size) do
        printf packetBuff [IpHdr.saddr, IpHdr.daddr]
        let protocol ← load8 packetBuff IpHdr.protocol
        if protocol = 1 then
          dumpIcmp (packetBuff + ihlLen versionIhl) (buffLen - sizeT (ihlLen versionIhl))
        else if protocol = 6 then dumpTcp packetBuff buffLen (ihlLen versionIhl)
        else if protocol = 17 then dumpUdp packetBuff buffLen (ihlLen versionIhl)
        else printf packetBuff [IpHdr.protocol]

/-! ### Packets of batman-adv -/

/-- A dissector of Ethernet frames: pointer, length, and whether the time was printed. -/
abbrev EthParser := ℕ → U64 → Bool → Dissect Unit

/-- `dump_vlan`: the tag is overwritten by the addresses. -/
def dumpVlan (parse : EthParser) (packetBuff : ℕ) (buffLen : U64) : Dissect Unit := do
  enter buffLen 0
  lenCheck buffLen (sizeT (EtherHeader.size + VlanHdr.size)) do
    ntohsInPlace (packetBuff + EtherHeader.size) VlanHdr.vid
    printf (packetBuff + EtherHeader.size) [VlanHdr.vid]
    memmove (packetBuff + 4) packetBuff 12
    parse (packetBuff + 4) (buffLen - sizeT 4) true

/-- An OGM of either version: its header, and its TVLVs. -/
def dumpOgm (size : ℕ) (tvlvLenField : Field) (fields : List Field) (fuel packetBuff : ℕ)
    (buffLen : U64) : Dissect Unit := do
  enter buffLen 0
  let checkLen := buffLen - sizeT EtherHeader.size
  lenCheck checkLen (sizeT size) do
    let ogm := packetBuff + EtherHeader.size
    let tvlvLen ← load16 ogm tvlvLenField
    printf packetBuff [EtherHeader.etherShost]
    printf ogm fields
    lenCheck (checkLen - sizeT size) (sizeT tvlvLen.toNat) do
      dumpTvlv fuel (ogm + size) (sizeT tvlvLen.toNat)

/-- `dump_batman_iv_ogm`. -/
def dumpBatmanIvOgm : ℕ → ℕ → U64 → Dissect Unit :=
  dumpOgm OgmPacket.size OgmPacket.tvlvLen
    [OgmPacket.orig, OgmPacket.seqno, OgmPacket.tq, OgmPacket.ttl, OgmPacket.version,
      OgmPacket.flags]

/-- `dump_batman_ogm2`. -/
def dumpBatmanOgm2 : ℕ → ℕ → U64 → Dissect Unit :=
  dumpOgm Ogm2Packet.size Ogm2Packet.tvlvLen
    [Ogm2Packet.orig, Ogm2Packet.throughput, Ogm2Packet.seqno, Ogm2Packet.ttl, Ogm2Packet.version]

/-- A packet of which nothing but its header is shown. -/
def dumpHeader (size : ℕ) (fields : List Field) (packetBuff : ℕ) (buffLen : U64) :
    Dissect Unit := do
  enter buffLen 0
  lenCheck (buffLen - sizeT EtherHeader.size) (sizeT size) do
    printf packetBuff [EtherHeader.etherShost]
    printf (packetBuff + EtherHeader.size) fields

/-- `dump_batman_elp`. -/
def dumpBatmanElp : ℕ → U64 → Dissect Unit :=
  dumpHeader ElpPacket.size
    [ElpPacket.orig, ElpPacket.seqno, ElpPacket.version, ElpPacket.elpInterval]

/-- `dump_batman_ucast_frag`. -/
def dumpBatmanUcastFrag : ℕ → U64 → Dissect Unit :=
  dumpHeader FragPacket.size [FragPacket.dest, FragPacket.seqno, FragPacket.no, FragPacket.ttl]

/-- `dump_batman_coded`. -/
def dumpBatmanCoded : ℕ → U64 → Dissect Unit :=
  dumpHeader CodedPacket.size
    [CodedPacket.firstOrigDest, CodedPacket.secondDest, CodedPacket.firstTtvn,
      CodedPacket.secondTtvn, CodedPacket.ttl]

/-- `dump_batman_icmp`. -/
def dumpBatmanIcmp (packetBuff : ℕ) (buffLen : U64) : Dissect Unit := do
  enter buffLen 0
  lenCheck (buffLen - sizeT EtherHeader.size) (sizeT IcmpPacket.size) do
    let icmpPacket := packetBuff + EtherHeader.size
    printf icmpPacket [IcmpPacket.orig, IcmpPacket.dst]
    let msgType ← load8 icmpPacket IcmpPacket.msgType
    if msgType = 0 ∨ msgType = 8 ∨ msgType = 11 then
      printf icmpPacket [IcmpPacket.uid, IcmpPacket.seqno, IcmpPacket.ttl, IcmpPacket.version]
    else if msgType = 15 then
      lenCheck (buffLen - sizeT EtherHeader.size) (sizeT IcmpTpPacket.size) do
        printf icmpPacket [IcmpTpPacket.subtype, IcmpTpPacket.uid, IcmpTpPacket.seqno,
          IcmpTpPacket.ttl, IcmpTpPacket.version]
    else printf icmpPacket [IcmpPacket.msgType]

/-- A packet that carries an Ethernet frame behind its header. -/
def dumpUnpacked (size : ℕ) (fields : List Field) (parse : EthParser) (packetBuff : ℕ)
    (buffLen : U64) : Dissect Unit := do
  enter buffLen 0
  lenCheck (buffLen - sizeT EtherHeader.size) (sizeT size) do
    lenCheck (buffLen - sizeT EtherHeader.size - sizeT size) (sizeT EtherHeader.size) do
      printf packetBuff [EtherHeader.etherShost]
      printf (packetBuff + EtherHeader.size) fields
      parse (packetBuff + EtherHeader.size + size) (buffLen - sizeT EtherHeader.size - sizeT size)
        true

/-- `dump_batman_ucast`. -/
def dumpBatmanUcast : EthParser → ℕ → U64 → Dissect Unit :=
  dumpUnpacked UnicastPacket.size [UnicastPacket.dest, UnicastPacket.ttvn, UnicastPacket.ttl]

/-- `dump_batman_bcast`. -/
def dumpBatmanBcast : EthParser → ℕ → U64 → Dissect Unit :=
  dumpUnpacked BcastPacket.size [BcastPacket.orig, BcastPacket.seqno]

/-- `dump_batman_4addr`. -/
def dumpBatman4Addr : EthParser → ℕ → U64 → Dissect Unit :=
  dumpUnpacked Unicast4AddrPacket.size
    [Unicast4AddrPacket.dest, Unicast4AddrPacket.subtype, Unicast4AddrPacket.ttvn,
      Unicast4AddrPacket.ttl]

/-- `dump_batman_mcast`: its payload is optional and stands behind the TVLVs, which are shown
last. -/
def dumpBatmanMcast (fuel : ℕ) (parse : EthParser) (packetBuff : ℕ) (buffLen : U64) :
    Dissect Unit := do
  enter buffLen 0
  let checkLen := buffLen - sizeT EtherHeader.size
  lenCheck checkLen (sizeT McastPacket.size) do
    let mcastPacket := packetBuff + EtherHeader.size
    let tvlvLen ← load16 mcastPacket McastPacket.tvlvLen
    lenCheck (checkLen - sizeT McastPacket.size) (sizeT tvlvLen.toNat) do
      let checkLen := checkLen - sizeT McastPacket.size - sizeT tvlvLen.toNat
      let tvlvHdr := mcastPacket + McastPacket.size
      printf packetBuff [EtherHeader.etherShost, EtherHeader.etherDhost]
      printf mcastPacket [McastPacket.ttl]
      if (sizeT EtherHeader.size).sle checkLen then do
        printf (tvlvHdr + tvlvLen.toNat) [EtherHeader.etherShost, EtherHeader.etherDhost]
        parse (tvlvHdr + tvlvLen.toNat) checkLen true
        dumpTvlv fuel tvlvHdr (sizeT tvlvLen.toNat)
      else dumpTvlv fuel tvlvHdr (sizeT tvlvLen.toNat)

/-- `dump_batman_ucast_tvlv`. -/
def dumpBatmanUcastTvlv (fuel packetBuff : ℕ) (buffLen : U64) : Dissect Unit := do
  enter buffLen 0
  let checkLen := buffLen - sizeT EtherHeader.size
  lenCheck checkLen (sizeT UnicastTvlvPacket.size) do
    let tvlvPacket := packetBuff + EtherHeader.size
    let tvlvLen ← load16 tvlvPacket UnicastTvlvPacket.tvlvLen
    lenCheck (checkLen - sizeT UnicastTvlvPacket.size) (sizeT tvlvLen.toNat) do
      printf tvlvPacket [UnicastTvlvPacket.src, UnicastTvlvPacket.dst, UnicastTvlvPacket.ttl]
      dumpTvlv fuel (tvlvPacket + UnicastTvlvPacket.size) (sizeT tvlvLen.toNat)

/-! ### Ethernet frames -/

/-- What is shown: `dump_level`, and `read_opt`. -/
structure DumpOpts where
  dumpLevel : U16
  readOpt : U32

/-- Whether a type of packets is shown. -/
def DumpOpts.shows (opts : DumpOpts) (type : U16) : Bool := opts.dumpLevel &&& type != 0

/-- `COMPAT_FILTER`. -/
def COMPAT_FILTER : U32 := 0x80

/-- The `ETH_P_BATMAN` case of `parse_eth_hdr`; nested frames and TVLVs have less fuel. -/
def parseBatmanHdr (opts : DumpOpts) (fuel : ℕ) (parse : EthParser) (packetBuff : ℕ)
    (buffLen : U64) : Dissect Unit :=
  lenCheck buffLen (sizeT (EtherHeader.size + 2)) do
    let packet := packetBuff + EtherHeader.size
    let version ← load8 packet OgmPacket.version
    if opts.readOpt &&& COMPAT_FILTER ≠ 0 ∧ version ≠ COMPAT_VERSION then pure () else do
    let packetType ← load8 packet OgmPacket.packetType
    let shown (type : U16) (dump : Dissect Unit) : Dissect Unit :=
      if opts.shows type then dump else pure ()
    if packetType = 0x00 then shown 1 (dumpBatmanIvOgm fuel packetBuff buffLen)
    else if packetType = 0x04 then shown 2 (dumpBatmanOgm2 fuel packetBuff buffLen)
    else if packetType = 0x03 then shown 4 (dumpBatmanElp packetBuff buffLen)
    else if packetType = 0x43 then shown 8 (dumpBatmanIcmp packetBuff buffLen)
    else if packetType = 0x40 then shown 16 (dumpBatmanUcast parse packetBuff buffLen)
    else if packetType = 0x41 then shown 128 (dumpBatmanUcastFrag packetBuff buffLen)
    else if packetType = 0x01 then shown 32 (dumpBatmanBcast parse packetBuff buffLen)
    else if packetType = 0x05 then shown 1024 (dumpBatmanMcast fuel parse packetBuff buffLen)
    else if packetType = 0x02 then shown 512 (dumpBatmanCoded packetBuff buffLen)
    else if packetType = 0x42 then shown 16 (dumpBatman4Addr parse packetBuff buffLen)
    else if packetType = 0x44 then
      if opts.shows 16 ∨ opts.shows 64 then dumpBatmanUcastTvlv fuel packetBuff buffLen
      else pure ()
    else pure ()

/-- `parse_eth_hdr`; the type of the frame is read before its length is checked. -/
def parseEthHdr (opts : DumpOpts) : ℕ → EthParser
  | 0, _, _, _ => .stuck
  | fuel + 1, packetBuff, buffLen, timePrinted => do
    enter buffLen EtherHeader.size
    let etherType ← load16 packetBuff EtherHeader.etherType
    let nonbat (dump : Dissect Unit) : Dissect Unit :=
      if opts.shows 256 ∨ timePrinted then dump else pure ()
    let payload := packetBuff + EtherHeader.size
    let payloadLen := buffLen - sizeT EtherHeader.size
    if etherType = 0x0806 then nonbat (dumpArp payload payloadLen packetBuff)
    else if etherType = ETH_P_IP then nonbat (dumpIp payload payloadLen)
    else if etherType = ETH_P_IPV6 then nonbat (dumpIpv6 payload payloadLen)
    else if etherType = 0x8100 then
      nonbat (dumpVlan (parseEthHdr opts fuel) packetBuff buffLen)
    else if etherType = 0x4305 then
      parseBatmanHdr opts fuel (parseEthHdr opts fuel) packetBuff buffLen
    else pure ()

/-! ### Monitor interfaces -/

/-- `ARPHRD_ETHER`. -/
def ARPHRD_ETHER : ℤ := 1

/-- `ARPHRD_IEEE80211_PRISM`. -/
def ARPHRD_IEEE80211_PRISM : ℤ := 802

/-- `ARPHRD_IEEE80211_RADIOTAP`. -/
def ARPHRD_IEEE80211_RADIOTAP : ℤ := 803

/-- `monitor_header_length`; `none` stands for `-1`. -/
def monitorHeaderLength (packetBuff : ℕ) (buffLen : U64) (hwType : ℤ) : Dissect (Option ℕ) :=
  if hwType = ARPHRD_IEEE80211_PRISM then
    if buffLen.sle (sizeT PRISM_HEADER_LEN) then pure none else pure (some PRISM_HEADER_LEN)
  else if hwType = ARPHRD_IEEE80211_RADIOTAP then
    if buffLen.sle (sizeT RadiotapHeader.size) then pure none else do
    let itLen ← loadLe16 packetBuff RadiotapHeader.itLen
    if buffLen.sle (sizeT itLen.toNat) then pure none else pure (some itLen.toNat)
  else pure none

/-- `IEEE80211_FCTL_FTYPE`. -/
def IEEE80211_FCTL_FTYPE : U16 := 0x0c00

/-- `IEEE80211_FCTL_TODS`. -/
def IEEE80211_FCTL_TODS : U16 := 0x0001

/-- `IEEE80211_FCTL_FROMDS`. -/
def IEEE80211_FCTL_FROMDS : U16 := 0x0002

/-- `IEEE80211_FCTL_PROTECTED`. -/
def IEEE80211_FCTL_PROTECTED : U16 := 0x0040

/-- `IEEE80211_FTYPE_DATA`. -/
def IEEE80211_FTYPE_DATA : U16 := 0x0800

/-- `IEEE80211_STYPE_QOS_DATA`. -/
def IEEE80211_STYPE_QOS_DATA : U16 := 0x8000

/-- The 802.11 header and the LLC header, less an Ethernet header. -/
def wifiHdrLen (fc : U16) : ℕ :=
  (if fc &&& IEEE80211_FCTL_FROMDS ≠ 0 ∧ fc &&& IEEE80211_FCTL_TODS ≠ 0 then 30 else 24) +
    (if fc &&& IEEE80211_STYPE_QOS_DATA ≠ 0 then 2 else 0) + 8 - EtherHeader.size

/-- The address of the sender. -/
def wifiShost (fc : U16) : Field :=
  if fc &&& IEEE80211_FCTL_FROMDS ≠ 0 then Ieee80211Hdr.addr3
  else if fc &&& IEEE80211_FCTL_TODS ≠ 0 then Ieee80211Hdr.addr4
  else Ieee80211Hdr.addr2

/-- The address of the receiver. -/
def wifiDhost (fc : U16) : Field :=
  if fc &&& IEEE80211_FCTL_TODS ≠ 0 then Ieee80211Hdr.addr3 else Ieee80211Hdr.addr1

/-- What `parse_wifi_hdr` does with a frame control field: an Ethernet header is written in front of
the payload. -/
def parseWifiFrame (opts : DumpOpts) (fuel packetBuff : ℕ) (buffLen : U64) (fc : U16) :
    Dissect Unit :=
  if fc &&& IEEE80211_FCTL_FTYPE ≠ IEEE80211_FTYPE_DATA then pure ()
  else if fc &&& IEEE80211_FCTL_PROTECTED ≠ 0 then pure ()
  else if buffLen.sle (sizeT (wifiHdrLen fc)) then pure () else do
  let ethHdr := packetBuff + wifiHdrLen fc
  memmove (ethHdr + EtherHeader.etherShost.off) (packetBuff + (wifiShost fc).off) 6
  memmove (ethHdr + EtherHeader.etherDhost.off) (packetBuff + (wifiDhost fc).off) 6
  parseEthHdr opts fuel ethHdr (buffLen - sizeT (wifiHdrLen fc)) false

/-- `parse_wifi_hdr`. -/
def parseWifiHdr (opts : DumpOpts) (fuel packetBuff : ℕ) (buffLen : U64) : Dissect Unit := do
  enter buffLen 0
  -- a minimum size of 38 bytes, before the real size is calculated
  if buffLen.sle (sizeT 38) then pure () else do
  let fc ← load16 packetBuff Ieee80211Hdr.frameControl
  parseWifiFrame opts fuel packetBuff buffLen fc

/-! ### Frames that are read -/

/-- The size of the buffer. -/
def PACKET_BUFF_SIZE : ℕ := 2000

/-- What `read` copies into the buffer. -/
def captured (frame : List U8) : List U8 := frame.take PACKET_BUFF_SIZE

/-- The buffer after a frame was read, which held `stale`. -/
def packetBuff (stale : ℕ → U8) (frame : List U8) : ℕ → U8 :=
  fun i => (captured frame).getD i (stale i)

/-- What `tcpdump` does with a frame that it read from an interface. -/
def tcpdumpRecv (opts : DumpOpts) (hwType : ℤ) (fuel : ℕ) (readLen : U64) : Dissect Unit :=
  if readLen < sizeT EtherHeader.size then pure ()
  else if hwType = ARPHRD_ETHER then parseEthHdr opts fuel 0 readLen false
  else if hwType = ARPHRD_IEEE80211_PRISM ∨ hwType = ARPHRD_IEEE80211_RADIOTAP then do
    let monitorHeaderLen ← monitorHeaderLength 0 readLen hwType
    monitorHeaderLen.elim (pure ()) fun len =>
      parseWifiHdr opts fuel len (readLen - sizeT len)
  else pure ()

end Batctl
