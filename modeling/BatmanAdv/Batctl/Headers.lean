import BatmanAdv.Main

set_option relaxedAutoImplicit false
set_option autoImplicit false

/-!
# The headers that `batctl tcpdump` dissects

The layout of the headers: their sizes and their fields, each with its offset and its length.  They
are those of `batadv_packet.h` and `tcpdump.h`, and of the C library for the protocols that are not
`batman-adv`'s own.

## Main definitions

* `Batctl.Field` — a field of a header.
-/

namespace Batctl

open Batadv

/-- A field of a header. -/
structure Field where
  off : ℕ
  len : ℕ

/-! ### Ethernet, VLAN, ARP -/

namespace EtherHeader

/-- `struct ether_header`. -/
def size : ℕ := 14
def etherDhost : Field := ⟨0, 6⟩
def etherShost : Field := ⟨6, 6⟩
def etherType : Field := ⟨12, 2⟩

end EtherHeader

namespace VlanHdr

/-- `struct vlanhdr`. -/
def size : ℕ := 4
def vid : Field := ⟨0, 2⟩

end VlanHdr

namespace EtherArp

/-- `struct ether_arp`. -/
def size : ℕ := 28
def arHrd : Field := ⟨0, 2⟩
def arPro : Field := ⟨2, 2⟩
def arHln : Field := ⟨4, 1⟩
def arPln : Field := ⟨5, 1⟩
def arpOp : Field := ⟨6, 2⟩
def arpSha : Field := ⟨8, 6⟩
def arpSpa : Field := ⟨14, 4⟩
def arpTha : Field := ⟨18, 6⟩
def arpTpa : Field := ⟨24, 4⟩

end EtherArp

namespace BlaClaimDst

/-- `struct batadv_bla_claim_dst`, in place of the target hardware address. -/
def size : ℕ := 6
def magic : Field := ⟨0, 3⟩
def type : Field := ⟨3, 1⟩
def group : Field := ⟨4, 2⟩

end BlaClaimDst

/-! ### IP and what it carries -/

namespace IpHdr

/-- `struct iphdr`. -/
def size : ℕ := 20
def versionIhl : Field := ⟨0, 1⟩
def protocol : Field := ⟨9, 1⟩
def saddr : Field := ⟨12, 4⟩
def daddr : Field := ⟨16, 4⟩

end IpHdr

namespace Ip6Hdr

/-- `struct ip6_hdr`. -/
def size : ℕ := 40
def plen : Field := ⟨4, 2⟩
def nxt : Field := ⟨6, 1⟩
def src : Field := ⟨8, 16⟩
def dst : Field := ⟨24, 16⟩

end Ip6Hdr

namespace TcpHdr

/-- `struct tcphdr`. -/
def size : ℕ := 20
def source : Field := ⟨0, 2⟩
def dest : Field := ⟨2, 2⟩
def doff : Field := ⟨12, 1⟩
def flags : Field := ⟨13, 1⟩

end TcpHdr

namespace UdpHdr

/-- `struct udphdr`. -/
def size : ℕ := 8
def source : Field := ⟨0, 2⟩
def dest : Field := ⟨2, 2⟩

end UdpHdr

/-- The part of a DHCP packet that must be there, up to the client's hardware address. -/
def dhcpSize : ℕ := 44

/-- The hardware address of the client in a DHCP packet. -/
def dhcpChaddr : Field := ⟨28, 6⟩

namespace IcmpHdr

/-- `struct icmphdr`; `struct icmp6_hdr` has the same layout. -/
def size : ℕ := 8
def type : Field := ⟨0, 1⟩
def code : Field := ⟨1, 1⟩
def id : Field := ⟨4, 2⟩
def sequence : Field := ⟨6, 2⟩

end IcmpHdr

namespace NdNeighbor

/-- `struct nd_neighbor_solicit` and `struct nd_neighbor_advert`. -/
def size : ℕ := 24
def target : Field := ⟨8, 16⟩

end NdNeighbor

/-! ### TVLVs -/

namespace TvlvHdr

/-- `struct batadv_tvlv_hdr`. -/
def size : ℕ := 4
def type : Field := ⟨0, 1⟩
def version : Field := ⟨1, 1⟩
def len : Field := ⟨2, 2⟩

end TvlvHdr

namespace TvlvGatewayData

/-- `struct batadv_tvlv_gateway_data`. -/
def size : ℕ := 8
def bandwidthDown : Field := ⟨0, 4⟩
def bandwidthUp : Field := ⟨4, 4⟩

end TvlvGatewayData

namespace TvlvTtData

/-- `struct batadv_tvlv_tt_data`. -/
def size : ℕ := 4
def flags : Field := ⟨0, 1⟩
def ttvn : Field := ⟨1, 1⟩
def numVlan : Field := ⟨2, 2⟩

end TvlvTtData

namespace TvlvTtVlanData

/-- `struct batadv_tvlv_tt_vlan_data`. -/
def size : ℕ := 8
def crc : Field := ⟨0, 4⟩
def vid : Field := ⟨4, 2⟩

end TvlvTtVlanData

namespace TvlvRoamAdv

/-- `struct batadv_tvlv_roam_adv`. -/
def size : ℕ := 8
def client : Field := ⟨0, 6⟩
def vid : Field := ⟨6, 2⟩

end TvlvRoamAdv

namespace TvlvMcastData

/-- `struct batadv_tvlv_mcast_data`. -/
def size : ℕ := 4
def flags : Field := ⟨0, 1⟩

end TvlvMcastData

namespace TvlvMcastTracker

/-- `struct batadv_tvlv_mcast_tracker`. -/
def size : ℕ := 2
def numDests : Field := ⟨0, 2⟩

end TvlvMcastTracker

/-! ### The packets of batman-adv -/

namespace OgmPacket

/-- `struct batadv_ogm_packet`. -/
def size : ℕ := 24
def packetType : Field := ⟨0, 1⟩
def version : Field := ⟨1, 1⟩
def ttl : Field := ⟨2, 1⟩
def flags : Field := ⟨3, 1⟩
def seqno : Field := ⟨4, 4⟩
def orig : Field := ⟨8, 6⟩
def tq : Field := ⟨21, 1⟩
def tvlvLen : Field := ⟨22, 2⟩

end OgmPacket

namespace Ogm2Packet

/-- `struct batadv_ogm2_packet`. -/
def size : ℕ := 20
def version : Field := ⟨1, 1⟩
def ttl : Field := ⟨2, 1⟩
def seqno : Field := ⟨4, 4⟩
def orig : Field := ⟨8, 6⟩
def tvlvLen : Field := ⟨14, 2⟩
def throughput : Field := ⟨16, 4⟩

end Ogm2Packet

namespace ElpPacket

/-- `struct batadv_elp_packet`. -/
def size : ℕ := 16
def version : Field := ⟨1, 1⟩
def orig : Field := ⟨2, 6⟩
def seqno : Field := ⟨8, 4⟩
def elpInterval : Field := ⟨12, 4⟩

end ElpPacket

namespace IcmpPacket

/-- `struct batadv_icmp_packet`. -/
def size : ℕ := 20
def version : Field := ⟨1, 1⟩
def ttl : Field := ⟨2, 1⟩
def msgType : Field := ⟨3, 1⟩
def dst : Field := ⟨4, 6⟩
def orig : Field := ⟨10, 6⟩
def uid : Field := ⟨16, 1⟩
def seqno : Field := ⟨18, 2⟩

end IcmpPacket

namespace IcmpTpPacket

/-- `struct batadv_icmp_tp_packet`. -/
def size : ℕ := 28
def version : Field := ⟨1, 1⟩
def ttl : Field := ⟨2, 1⟩
def uid : Field := ⟨16, 1⟩
def subtype : Field := ⟨17, 1⟩
def seqno : Field := ⟨20, 4⟩

end IcmpTpPacket

namespace UnicastPacket

/-- `struct batadv_unicast_packet`. -/
def size : ℕ := 10
def ttl : Field := ⟨2, 1⟩
def ttvn : Field := ⟨3, 1⟩
def dest : Field := ⟨4, 6⟩

end UnicastPacket

namespace Unicast4AddrPacket

/-- `struct batadv_unicast_4addr_packet`. -/
def size : ℕ := 18
def ttl : Field := ⟨2, 1⟩
def ttvn : Field := ⟨3, 1⟩
def dest : Field := ⟨4, 6⟩
def subtype : Field := ⟨16, 1⟩

end Unicast4AddrPacket

namespace FragPacket

/-- `struct batadv_frag_packet`. -/
def size : ℕ := 20
def ttl : Field := ⟨2, 1⟩
def no : Field := ⟨3, 1⟩
def dest : Field := ⟨4, 6⟩
def seqno : Field := ⟨16, 2⟩

end FragPacket

namespace BcastPacket

/-- `struct batadv_bcast_packet`. -/
def size : ℕ := 14
def seqno : Field := ⟨4, 4⟩
def orig : Field := ⟨8, 6⟩

end BcastPacket

namespace McastPacket

/-- `struct batadv_mcast_packet`. -/
def size : ℕ := 6
def ttl : Field := ⟨2, 1⟩
def tvlvLen : Field := ⟨4, 2⟩

end McastPacket

namespace CodedPacket

/-- `struct batadv_coded_packet`. -/
def size : ℕ := 46
def ttl : Field := ⟨2, 1⟩
def firstTtvn : Field := ⟨3, 1⟩
def firstOrigDest : Field := ⟨10, 6⟩
def secondTtvn : Field := ⟨21, 1⟩
def secondDest : Field := ⟨22, 6⟩

end CodedPacket

namespace UnicastTvlvPacket

/-- `struct batadv_unicast_tvlv_packet`. -/
def size : ℕ := 20
def ttl : Field := ⟨2, 1⟩
def dst : Field := ⟨4, 6⟩
def src : Field := ⟨10, 6⟩
def tvlvLen : Field := ⟨16, 2⟩

end UnicastTvlvPacket

/-! ### Monitor interfaces -/

/-- `PRISM_HEADER_LEN`. -/
def PRISM_HEADER_LEN : ℕ := 144

namespace RadiotapHeader

/-- `struct radiotap_header`. -/
def size : ℕ := 8
def itLen : Field := ⟨2, 2⟩

end RadiotapHeader

namespace Ieee80211Hdr

/-- `struct ieee80211_hdr`. -/
def size : ℕ := 30
def frameControl : Field := ⟨0, 2⟩
def addr1 : Field := ⟨4, 6⟩
def addr2 : Field := ⟨10, 6⟩
def addr3 : Field := ⟨16, 6⟩
def addr4 : Field := ⟨24, 6⟩

end Ieee80211Hdr

end Batctl
