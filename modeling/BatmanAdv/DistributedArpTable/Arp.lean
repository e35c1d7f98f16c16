import BatmanAdv.DistributedArpTable.Cache
import BatmanAdv.DistributedArpTable.Dhcp
import BatmanAdv.Lib.BigEndian

set_option relaxedAutoImplicit false
set_option autoImplicit false

/-!
# Snooping ARP messages (`distributed-arp-table.c`)

The distributed ARP table reads the ARP messages that pass a node.  A request of a client is
answered from the cache of the node, or sent to the candidates of the address that is asked for; a
candidate answers from its own cache.  A reply fills the caches of the nodes it passes and those of
the candidates of its addresses.

## Main definitions

* `Batadv.arpGetType` — `batadv_arp_get_type`, with `Batadv.arpHwSrc` and its like for the fields.
* `Batadv.datArpCreateReply` — `batadv_dat_arp_create_reply`.
* `Batadv.datSnoopOutgoingArpRequest`, `Batadv.datSnoopIncomingArpRequest`,
  `Batadv.datSnoopOutgoingArpReply`, `Batadv.datSnoopIncomingArpReply` — the four handlers.

## Main results

* `Batadv.beWord_bytes` — a number is read back from its bytes.
* `Batadv.arpFields_datArpCreateReply` — what is read from a reply that was created.
* `Batadv.arpGetType_append` — reading a frame behind a header.
-/

namespace Batadv

/-! ### Reading ARP messages -/

/-- `ETH_P_ARP`. -/
def ETH_P_ARP : U16 := 0x0806

/-- `ARPHRD_ETHER` in an ARP message. -/
def ARP_HRD_ETHER : U16 := 1

/-- `ARPOP_REQUEST`. -/
def ARPOP_REQUEST : U16 := 1

/-- `ARPOP_REPLY`. -/
def ARPOP_REPLY : U16 := 2

/-- The size of `struct arphdr`. -/
def ARPHDR_SIZE : ℕ := 8

/-- `arp_hdr_len` for Ethernet addresses. -/
def ARP_HDR_LEN : ℕ := ARPHDR_SIZE + (6 + 4) * 2

/-- `ipv4_is_loopback`. -/
def ipv4IsLoopback (addr : U32) : Bool := addr &&& 0xff000000 == 0x7f000000

/-- `ipv4_is_multicast`. -/
def ipv4IsMulticast (addr : U32) : Bool := addr &&& 0xf0000000 == 0xe0000000

/-- `ipv4_is_zeronet`. -/
def ipv4IsZeronet (addr : U32) : Bool := addr == 0

/-- `ipv4_is_lbcast`. -/
def ipv4IsLbcast (addr : U32) : Bool := addr == 0xffffffff

/-- `batadv_arp_hw_src`. -/
def arpHwSrc (skb : List U8) (hdrSize : ℕ) : EthAddr :=
  beWord 48 (bytesAt skb (hdrSize + (ETH_HLEN + ARPHDR_SIZE)) 6)

/-- `batadv_arp_ip_src`. -/
def arpIpSrc (skb : List U8) (hdrSize : ℕ) : U32 :=
  beWord 32 (bytesAt skb (hdrSize + (ETH_HLEN + ARPHDR_SIZE + 6)) 4)

/-- `batadv_arp_hw_dst`. -/
def arpHwDst (skb : List U8) (hdrSize : ℕ) : EthAddr :=
  beWord 48 (bytesAt skb (hdrSize + (ETH_HLEN + ARPHDR_SIZE + 6 + 4)) 6)

/-- `batadv_arp_ip_dst`. -/
def arpIpDst (skb : List U8) (hdrSize : ℕ) : U32 :=
  beWord 32 (bytesAt skb (hdrSize + (ETH_HLEN + ARPHDR_SIZE + 6 * 2 + 4)) 4)

/-- A field of two bytes of the `struct arphdr` of a frame. -/
def arpHdrField (skb : List U8) (hdrSize offset : ℕ) : U16 :=
  beWord 16 (bytesAt skb (hdrSize + (ETH_HLEN + offset)) 2)

/-- A field of one byte of the `struct arphdr` of a frame. -/
def arpHdrByte (skb : List U8) (hdrSize offset : ℕ) : U8 :=
  beWord 8 (bytesAt skb (hdrSize + (ETH_HLEN + offset)) 1)

/-- The IP addresses of an ARP message that is ignored. -/
def arpBadIp (ip : U32) : Bool :=
  ipv4IsLoopback ip || ipv4IsMulticast ip || ipv4IsZeronet ip || ipv4IsLbcast ip

/-- The hardware addresses of an ARP message that is ignored. -/
def arpBadHw (addr : EthAddr) : Bool := isZeroEtherAddr addr || isMulticastEtherAddr addr

/-- `batadv_arp_get_type`: the operation of a frame that carries a valid ARP message behind
`hdrSize` bytes, or 0. -/
def arpGetType (skb : List U8) (hdrSize : ℕ) : U16 :=
  -- pull the ethernet header
  if skb.length < hdrSize + ETH_HLEN then 0
  else if ethProto skb hdrSize ≠ ETH_P_ARP then 0
  -- pull the ARP payload
  else if skb.length < hdrSize + (ETH_HLEN + ARP_HDR_LEN) then 0
  -- check whether the ARP packet carries a valid IP information
  else if arpHdrField skb hdrSize 0 ≠ ARP_HRD_ETHER then 0
  else if arpHdrField skb hdrSize 2 ≠ ETH_P_IP then 0
  else if arpHdrByte skb hdrSize 4 ≠ 6 then 0
  else if arpHdrByte skb hdrSize 5 ≠ 4 then 0
  -- check for bad reply/request
  else if arpBadIp (arpIpSrc skb hdrSize) || arpBadIp (arpIpDst skb hdrSize) then 0
  else if arpBadHw (arpHwSrc skb hdrSize) then 0
  -- don't care about the destination MAC address in ARP requests
  else if arpHdrField skb hdrSize 6 ≠ ARPOP_REQUEST ∧ arpBadHw (arpHwDst skb hdrSize) then 0
  else arpHdrField skb hdrSize 6

/-- `batadv_dat_get_vid`: the VLAN, and where a frame begins whose VLAN tag is skipped. -/
def datGetVid (skb : List U8) (hdrSize : ℕ) : U16 × ℕ :=
  let vid := skbGetVid skb hdrSize
  if vid &&& VLAN_HAS_TAG ≠ 0 then (vid, hdrSize + VLAN_HLEN) else (vid, hdrSize)

/-! ### Creating replies -/

/-- The bytes of a number of 16 bits in network order. -/
def htonsBytes (n : U16) : List U8 := [n.extractLsb' 8 8, n.extractLsb' 0 8]

/-- The bytes of an IP address. -/
def ipBytes (ip : U32) : List U8 :=
  [ip.extractLsb' 24 8, ip.extractLsb' 16 8, ip.extractLsb' 8 8, ip.extractLsb' 0 8]

/-- The ARP message behind the Ethernet header and a VLAN tag, with the type of the frame. -/
def arpBytes (op : U16) (ipSrc : U32) (hwSrc : EthAddr) (ipDst : U32) (hwDst : EthAddr) :
    List U8 :=
  htonsBytes ETH_P_ARP ++ (htonsBytes ARP_HRD_ETHER ++ htonsBytes ETH_P_IP ++ [6, 4] ++
    htonsBytes op ++ (EthAddr.bytes hwSrc ++ ipBytes ipSrc ++ EthAddr.bytes hwDst ++
      ipBytes ipDst))

/-- `batadv_dat_arp_create_reply`: `arp_create` of the kernel, and `vlan_insert_tag`, which puts a
tag behind the addresses of the frame.  `alloc` says whether there is memory for the frame. -/
def datArpCreateReply (alloc : Bool) (ipSrc ipDst : U32) (hwSrc hwDst : EthAddr) (vid : U16) :
    Option (List U8) :=
  if !alloc then none
  else
    let tag := if vid &&& VLAN_HAS_TAG ≠ 0 then
        htonsBytes ETH_P_8021Q ++ htonsBytes (vid &&& VLAN_VID_MASK)
      else []
    some (EthAddr.bytes hwDst ++ EthAddr.bytes hwSrc ++ tag ++
      arpBytes ARPOP_REPLY ipSrc hwSrc ipDst hwDst)

/-! ### The handlers -/

/-- What the handlers ask of the rest of the node: whether the table is switched on,
`batadv_is_my_client`, and `batadv_bla_check_claim`. -/
structure DatNode where
  distributedArpTable : Bool
  isMyClient : EthAddr → U16 → Bool
  blaCheckClaim : EthAddr → U16 → Bool

/-- What becomes of an ARP request of a client. -/
inductive DatRequest
  /-- DAT has nothing to do with the frame. -/
  | ignored
  /-- The client that is asked for answers itself, or another gateway answers. -/
  | left
  /-- There is no memory for a reply. -/
  | noMemory
  /-- The request is answered with this frame. -/
  | answered (reply : List U8)
  /-- The request is sent to the candidates of this address. -/
  | forwarded (ip : U32) (vid : U16)
deriving DecidableEq, Repr

/-- `batadv_dat_snoop_outgoing_arp_request`; `alloc` says for the new entry and for the reply
whether there is memory. -/
def datSnoopOutgoingArpRequest (node : DatNode) (alloc : Bool × Bool) (skb : List U8)
    (s : DatCache) : DatCache × DatRequest :=
  if !node.distributedArpTable then (s, .ignored)
  else
    let (vid, hdrSize) := datGetVid skb 0
    if arpGetType skb hdrSize ≠ ARPOP_REQUEST then (s, .ignored)
    else
      let ipSrc := arpIpSrc skb hdrSize
      let hwSrc := arpHwSrc skb hdrSize
      let ipDst := arpIpDst skb hdrSize
      let s := datEntryAdd s ipSrc hwSrc vid alloc.1
      match datEntryHashFind s ipDst vid with
      | none => (s, .forwarded ipDst vid)
      | some datEntry =>
        if node.isMyClient datEntry.macAddr vid then (s, .left)
        else if !node.blaCheckClaim datEntry.macAddr vid then (s, .left)
        else
          match datArpCreateReply alloc.2 ipDst ipSrc datEntry.macAddr hwSrc vid with
          | none => (s, .noMemory)
          | some reply => (s, .answered reply)

/-- `batadv_dat_snoop_incoming_arp_request`: the cache, and the reply that is sent to the client. -/
def datSnoopIncomingArpRequest (node : DatNode) (alloc : Bool × Bool) (skb : List U8)
    (hdrSize : ℕ) (s : DatCache) : DatCache × Option (List U8) :=
  if !node.distributedArpTable then (s, none)
  else
    let (vid, hdrSize) := datGetVid skb hdrSize
    if arpGetType skb hdrSize ≠ ARPOP_REQUEST then (s, none)
    else
      let hwSrc := arpHwSrc skb hdrSize
      let ipSrc := arpIpSrc skb hdrSize
      let ipDst := arpIpDst skb hdrSize
      let s := datEntryAdd s ipSrc hwSrc vid alloc.1
      match datEntryHashFind s ipDst vid with
      | none => (s, none)
      | some datEntry =>
        (s, datArpCreateReply alloc.2 ipDst ipSrc datEntry.macAddr hwSrc vid)

/-- `batadv_dat_snoop_outgoing_arp_reply`: the cache, and the addresses to whose candidates the
reply is sent. -/
def datSnoopOutgoingArpReply (node : DatNode) (alloc : Bool × Bool) (skb : List U8)
    (s : DatCache) : DatCache × List (U32 × U16) :=
  if !node.distributedArpTable then (s, [])
  else
    let (vid, hdrSize) := datGetVid skb 0
    if arpGetType skb hdrSize ≠ ARPOP_REPLY then (s, [])
    else
      let hwSrc := arpHwSrc skb hdrSize
      let ipSrc := arpIpSrc skb hdrSize
      let hwDst := arpHwDst skb hdrSize
      let ipDst := arpIpDst skb hdrSize
      let s := datEntryAdd s ipSrc hwSrc vid alloc.1
      let s := datEntryAdd s ipDst hwDst vid alloc.2
      (s, [(ipSrc, vid), (ipDst, vid)])

/-- `batadv_dat_snoop_incoming_arp_reply`: the cache, and whether the frame is dropped. -/
def datSnoopIncomingArpReply (node : DatNode) (alloc : Bool × Bool) (skb : List U8)
    (hdrSize : ℕ) (s : DatCache) : DatCache × Bool :=
  if !node.distributedArpTable then (s, false)
  else
    let (vid, hdrSize) := datGetVid skb hdrSize
    if arpGetType skb hdrSize ≠ ARPOP_REPLY then (s, false)
    else
      let hwSrc := arpHwSrc skb hdrSize
      let ipSrc := arpIpSrc skb hdrSize
      let hwDst := arpHwDst skb hdrSize
      let ipDst := arpIpDst skb hdrSize
      -- a reply that the node has received already
      let dropped := (datEntryHashFind s ipSrc vid).any fun e => hwSrc == e.macAddr
      let s := datEntryAdd s ipSrc hwSrc vid alloc.1
      let s := datEntryAdd s ipDst hwDst vid alloc.2
      if dropped then (s, true)
      else if !node.blaCheckClaim hwSrc vid then (s, true)
      else (s, !node.isMyClient hwDst vid || node.isMyClient hwSrc vid)

/-! ### Numbers and their bytes -/

lemma toNat_beWord {w : ℕ} (bytes : List U8) (hroom : 256 ^ bytes.length ≤ 2 ^ w) :
    (beWord w bytes).toNat = BigEndian.value bytes := BigEndian.toNat_word bytes hroom

/-- **A number is read back from its bytes.** -/
lemma beWord_bytes :
    (∀ addr : EthAddr, beWord 48 (EthAddr.bytes addr) = addr) ∧
      (∀ ip : U32, beWord 32 (ipBytes ip) = ip) ∧
      (∀ n : U16, beWord 16 (htonsBytes n) = n) ∧ ∀ b : U8, beWord 8 [b] = b := by
  refine ⟨fun addr => ?_, fun ip => ?_, fun n => ?_, fun b => ?_⟩
  · apply BitVec.eq_of_toNat_eq
    have hlt := addr.isLt
    rw [toNat_beWord _ (by simp [EthAddr.bytes])]
    simp only [BigEndian.value, EthAddr.bytes, List.foldl_cons, List.foldl_nil,
      BitVec.extractLsb'_toNat, Nat.shiftRight_eq_div_pow]
    omega
  · apply BitVec.eq_of_toNat_eq
    have hlt := ip.isLt
    rw [toNat_beWord _ (by simp [ipBytes])]
    simp only [BigEndian.value, ipBytes, List.foldl_cons, List.foldl_nil, BitVec.extractLsb'_toNat,
      Nat.shiftRight_eq_div_pow]
    omega
  · apply BitVec.eq_of_toNat_eq
    have hlt := n.isLt
    rw [toNat_beWord _ (by simp [htonsBytes])]
    simp only [BigEndian.value, htonsBytes, List.foldl_cons, List.foldl_nil,
      BitVec.extractLsb'_toNat, Nat.shiftRight_eq_div_pow]
    omega
  · apply BitVec.eq_of_toNat_eq
    rw [toNat_beWord _ (by simp)]
    simp [BigEndian.value]

/-! ### What an ARP message says -/

/-- The bindings that an ARP message states behind `hdrSize` bytes: that of the sender, and in a
reply also that of the target. -/
def arpBindings (skb : List U8) (hdrSize : ℕ) : List (U32 × EthAddr) :=
  if arpGetType skb hdrSize = ARPOP_REQUEST then [(arpIpSrc skb hdrSize, arpHwSrc skb hdrSize)]
  else if arpGetType skb hdrSize = ARPOP_REPLY then
    [(arpIpSrc skb hdrSize, arpHwSrc skb hdrSize), (arpIpDst skb hdrSize, arpHwDst skb hdrSize)]
  else []

/-- The bindings that a frame behind `hdrSize` bytes states. -/
def datBindings (skb : List U8) (hdrSize : ℕ) : List (U32 × EthAddr) :=
  arpBindings skb (datGetVid skb hdrSize).2

/-- A frame of another type. -/
lemma arpGetType_of_proto_ne {skb : List U8} {n : ℕ} (h : ethProto skb n ≠ ETH_P_ARP) :
    arpGetType skb n = 0 := by
  unfold arpGetType
  by_cases hlen : skb.length < n + ETH_HLEN
  · rw [if_pos hlen]
  · rw [if_neg hlen, if_pos h]

section Append

variable (hdr skb : List U8)

/-- Reading a field of a frame behind a header. -/
lemma bytesAt_behind (n offset len : ℕ) :
    bytesAt (hdr ++ skb) (hdr.length + n + offset) len = bytesAt skb (n + offset) len := by
  rw [Nat.add_assoc, bytesAt_append]

lemma arpHdrField_append (n offset : ℕ) :
    arpHdrField (hdr ++ skb) (hdr.length + n) offset = arpHdrField skb n offset :=
  congrArg (beWord 16) (bytesAt_behind hdr skb n _ _)

lemma arpHdrByte_append (n offset : ℕ) :
    arpHdrByte (hdr ++ skb) (hdr.length + n) offset = arpHdrByte skb n offset :=
  congrArg (beWord 8) (bytesAt_behind hdr skb n _ _)

lemma arpHwSrc_append (n : ℕ) : arpHwSrc (hdr ++ skb) (hdr.length + n) = arpHwSrc skb n :=
  congrArg (beWord 48) (bytesAt_behind hdr skb n _ _)

lemma arpIpSrc_append (n : ℕ) : arpIpSrc (hdr ++ skb) (hdr.length + n) = arpIpSrc skb n :=
  congrArg (beWord 32) (bytesAt_behind hdr skb n _ _)

lemma arpHwDst_append (n : ℕ) : arpHwDst (hdr ++ skb) (hdr.length + n) = arpHwDst skb n :=
  congrArg (beWord 48) (bytesAt_behind hdr skb n _ _)

lemma arpIpDst_append (n : ℕ) : arpIpDst (hdr ++ skb) (hdr.length + n) = arpIpDst skb n :=
  congrArg (beWord 32) (bytesAt_behind hdr skb n _ _)

/-- **Reading an ARP message behind a header.** -/
lemma arpGetType_append (n : ℕ) :
    arpGetType (hdr ++ skb) (hdr.length + n) = arpGetType skb n := by
  have hlen : ∀ len, (hdr ++ skb).length < hdr.length + n + len ↔ skb.length < n + len := by
    intro len
    rw [List.length_append, Nat.add_assoc, Nat.add_lt_add_iff_left]
  have hproto : ethProto (hdr ++ skb) (hdr.length + n) = ethProto skb n := by
    simp only [ethProto, bytesAt_behind]
  unfold arpGetType
  refine if_congr (hlen _) rfl ?_
  rw [hproto]
  refine if_congr Iff.rfl rfl (if_congr (hlen _) rfl ?_)
  rw [arpHdrField_append, arpHdrField_append, arpHdrByte_append, arpHdrByte_append,
    arpIpSrc_append, arpIpDst_append, arpHwSrc_append, arpHdrField_append, arpHwDst_append]

lemma arpBindings_append (n : ℕ) :
    arpBindings (hdr ++ skb) (hdr.length + n) = arpBindings skb n := by
  unfold arpBindings
  rw [arpGetType_append, arpIpSrc_append, arpIpDst_append, arpHwSrc_append, arpHwDst_append]

/-- The VLAN of a frame behind a header. -/
lemma datGetVid_append :
    datGetVid (hdr ++ skb) hdr.length =
      ((datGetVid skb 0).1, hdr.length + (datGetVid skb 0).2) := by
  simp only [datGetVid, skbGetVid_append]
  split_ifs <;> simp

lemma datBindings_append : datBindings (hdr ++ skb) hdr.length = datBindings skb 0 := by
  unfold datBindings
  rw [datGetVid_append]
  exact arpBindings_append hdr skb _

end Append

/-! ### What is read from a reply that was created -/

section Created

variable (pre : List U8) (op : U16) (ipSrc : U32) (hwSrc : EthAddr) (ipDst : U32) (hwDst : EthAddr)

/-- **What is read from an ARP message** that stands behind the addresses of a frame and a tag. -/
lemma arpFields_arpBytes (n : ℕ) (hn : pre.length = n + 12) :
    ethProto (pre ++ arpBytes op ipSrc hwSrc ipDst hwDst) n = ETH_P_ARP ∧
      arpHdrField (pre ++ arpBytes op ipSrc hwSrc ipDst hwDst) n 0 = ARP_HRD_ETHER ∧
      arpHdrField (pre ++ arpBytes op ipSrc hwSrc ipDst hwDst) n 2 = ETH_P_IP ∧
      arpHdrByte (pre ++ arpBytes op ipSrc hwSrc ipDst hwDst) n 4 = 6 ∧
      arpHdrByte (pre ++ arpBytes op ipSrc hwSrc ipDst hwDst) n 5 = 4 ∧
      arpHdrField (pre ++ arpBytes op ipSrc hwSrc ipDst hwDst) n 6 = op ∧
      arpHwSrc (pre ++ arpBytes op ipSrc hwSrc ipDst hwDst) n = hwSrc ∧
      arpIpSrc (pre ++ arpBytes op ipSrc hwSrc ipDst hwDst) n = ipSrc ∧
      arpHwDst (pre ++ arpBytes op ipSrc hwSrc ipDst hwDst) n = hwDst ∧
      arpIpDst (pre ++ arpBytes op ipSrc hwSrc ipDst hwDst) n = ipDst := by
  obtain ⟨haddr, hip, hn16, hn8⟩ := beWord_bytes
  have hat : ∀ offset len, bytesAt (pre ++ arpBytes op ipSrc hwSrc ipDst hwDst)
      (n + (12 + offset)) len = bytesAt (arpBytes op ipSrc hwSrc ipDst hwDst) offset len := by
    intro offset len
    rw [← Nat.add_assoc, ← hn, bytesAt_append]
  refine ⟨?_, ?_, ?_, ?_, ?_, ?_, ?_, ?_, ?_, ?_⟩
  · exact (congrArg (beWord 16) (hat 0 2)).trans (hn16 ETH_P_ARP)
  · exact (congrArg (beWord 16) (hat 2 2)).trans (hn16 ARP_HRD_ETHER)
  · exact (congrArg (beWord 16) (hat 4 2)).trans (hn16 ETH_P_IP)
  · exact (congrArg (beWord 8) (hat 6 1)).trans (hn8 6)
  · exact (congrArg (beWord 8) (hat 7 1)).trans (hn8 4)
  · exact (congrArg (beWord 16) (hat 8 2)).trans (hn16 op)
  · exact (congrArg (beWord 48) (hat 10 6)).trans (haddr hwSrc)
  · exact (congrArg (beWord 32) (hat 16 4)).trans (hip ipSrc)
  · exact (congrArg (beWord 48) (hat 20 6)).trans (haddr hwDst)
  · exact (congrArg (beWord 32) (hat 26 4)).trans (hip ipDst)

/-- The type of an ARP message that stands behind the addresses of a frame and a tag. -/
lemma arpGetType_arpBytes (n : ℕ) (hn : pre.length = n + 12)
    (hvalid : arpBadIp ipSrc = false ∧ arpBadIp ipDst = false ∧ arpBadHw hwSrc = false ∧
      arpBadHw hwDst = false) :
    arpGetType (pre ++ arpBytes op ipSrc hwSrc ipDst hwDst) n = op := by
  obtain ⟨h1, h2, h3, h4, h5, h6, h7, h8, h9, h10⟩ :=
    arpFields_arpBytes pre op ipSrc hwSrc ipDst hwDst n hn
  obtain ⟨hv1, hv2, hv3, hv4⟩ := hvalid
  have hlen : (pre ++ arpBytes op ipSrc hwSrc ipDst hwDst).length = n + 42 := by
    rw [List.length_append, hn]
    rfl
  unfold arpGetType
  rw [h1, h2, h3, h4, h5, h6, h7, h8, h9, h10, hv1, hv2, hv3, hv4, hlen]
  simp [ETH_HLEN, ARP_HDR_LEN, ARPHDR_SIZE]

end Created

/-- What stands before the ARP message of a reply. -/
def datReplyPrefix (hwSrc hwDst : EthAddr) (vid : U16) : List U8 :=
  EthAddr.bytes hwDst ++ EthAddr.bytes hwSrc ++
    if vid &&& VLAN_HAS_TAG ≠ 0 then htonsBytes ETH_P_8021Q ++ htonsBytes (vid &&& VLAN_VID_MASK)
    else []

lemma datArpCreateReply_eq_some_iff {alloc : Bool} {ipSrc ipDst : U32} {hwSrc hwDst : EthAddr}
    {vid : U16} {f : List U8} :
    datArpCreateReply alloc ipSrc ipDst hwSrc hwDst vid = some f ↔
      alloc = true ∧
        f = datReplyPrefix hwSrc hwDst vid ++ arpBytes ARPOP_REPLY ipSrc hwSrc ipDst hwDst := by
  unfold datArpCreateReply datReplyPrefix
  cases alloc <;> simp [eq_comm]

/-- The VLAN of a reply that was created, and where it begins. -/
lemma datGetVid_reply (ipSrc ipDst : U32) (hwSrc hwDst : EthAddr) (vid : U16) :
    let f := datReplyPrefix hwSrc hwDst vid ++ arpBytes ARPOP_REPLY ipSrc hwSrc ipDst hwDst
    if vid &&& VLAN_HAS_TAG = 0 then datGetVid f 0 = (0, 0)
    else if vid &&& VLAN_VID_MASK = 0 then datGetVid f 0 = (0, 0) ∧ ethProto f 0 = ETH_P_8021Q
    else datGetVid f 0 = (vid &&& VLAN_VID_MASK ||| VLAN_HAS_TAG, VLAN_HLEN) := by
  obtain ⟨-, -, hn16, -⟩ := beWord_bytes
  intro f
  by_cases htag : vid &&& VLAN_HAS_TAG = 0
  · rw [if_pos htag]
    have hpre : datReplyPrefix hwSrc hwDst vid = EthAddr.bytes hwDst ++ EthAddr.bytes hwSrc := by
      simp [datReplyPrefix, htag]
    have hproto : ethProto f 0 = ETH_P_ARP :=
      (arpFields_arpBytes _ _ _ _ _ _ 0 (by rw [hpre]; rfl)).1
    have hvid : skbGetVid f 0 = 0 := by
      unfold skbGetVid
      rw [hproto]
      rfl
    unfold datGetVid
    rw [hvid]
    rfl
  · rw [if_neg htag]
    have hpre : f = (EthAddr.bytes hwDst ++ EthAddr.bytes hwSrc) ++ (htonsBytes ETH_P_8021Q ++
        (htonsBytes (vid &&& VLAN_VID_MASK) ++ arpBytes ARPOP_REPLY ipSrc hwSrc ipDst hwDst)) := by
      simp only [f, datReplyPrefix]
      rw [if_pos htag]
      simp only [List.append_assoc]
    have hproto : ethProto f 0 = ETH_P_8021Q := by
      rw [hpre]
      exact (congrArg (beWord 16) (bytesAt_append _ _ 0 2)).trans (hn16 ETH_P_8021Q)
    have htci : vlanTci f 0 = vid &&& VLAN_VID_MASK := by
      rw [hpre]
      exact (congrArg (beWord 16) (bytesAt_append _ _ 2 2)).trans (hn16 _)
    have hlen : ¬f.length < 0 + (ETH_HLEN + VLAN_HLEN) := by
      rw [hpre]
      simp [EthAddr.bytes, htonsBytes, arpBytes, ipBytes, ETH_HLEN, VLAN_HLEN]
    have hmask : vid &&& VLAN_VID_MASK &&& 0x0fff = vid &&& VLAN_VID_MASK := by
      rw [BitVec.and_assoc]
      rfl
    have hvid : skbGetVid f 0 = if vid &&& VLAN_VID_MASK = 0 then 0
        else vid &&& VLAN_VID_MASK ||| VLAN_HAS_TAG := by
      unfold skbGetVid
      rw [hproto, if_neg (by simp), if_neg hlen, htci, hmask]
      rfl
    unfold datGetVid
    rw [hvid]
    split_ifs with hzero
    · exact ⟨rfl, hproto⟩
    · have hset : (vid &&& VLAN_VID_MASK ||| VLAN_HAS_TAG) &&& VLAN_HAS_TAG ≠ 0 := by
        intro h0
        have hbit := congrArg (fun v : U16 => v.getLsbD 15) h0
        simp [VLAN_HAS_TAG, VLAN_VID_MASK] at hbit
      rw [if_pos hset]
      rfl

/-- **What is read from a reply that was created**: the bindings that went into it, at most. -/
lemma arpFields_datArpCreateReply {alloc : Bool} {ipSrc ipDst : U32} {hwSrc hwDst : EthAddr}
    {vid : U16} {f : List U8}
    (hf : datArpCreateReply alloc ipSrc ipDst hwSrc hwDst vid = some f) :
    ∀ b ∈ datBindings f 0, b = (ipSrc, hwSrc) ∨ b = (ipDst, hwDst) := by
  obtain ⟨-, rfl⟩ := datArpCreateReply_eq_some_iff.mp hf
  have hvid := datGetVid_reply ipSrc ipDst hwSrc hwDst vid
  simp only at hvid
  have hread : ∀ n, (datReplyPrefix hwSrc hwDst vid).length = n + 12 →
      ∀ b ∈ arpBindings (datReplyPrefix hwSrc hwDst vid ++
          arpBytes ARPOP_REPLY ipSrc hwSrc ipDst hwDst) n,
        b = (ipSrc, hwSrc) ∨ b = (ipDst, hwDst) := by
    intro n hn b hb
    obtain ⟨-, -, -, -, -, -, h7, h8, h9, h10⟩ :=
      arpFields_arpBytes _ ARPOP_REPLY ipSrc hwSrc ipDst hwDst n hn
    unfold arpBindings at hb
    rw [h7, h8, h9, h10] at hb
    split_ifs at hb
    · exact .inl (List.mem_singleton.mp hb)
    · simpa using hb
    · exact absurd hb List.not_mem_nil
  unfold datBindings
  split_ifs at hvid with htag hzero
  · rw [hvid]
    refine hread 0 ?_
    unfold datReplyPrefix
    rw [if_neg (not_not.mpr htag)]
    rfl
  · rw [hvid.1]
    intro b hb
    have htype : arpGetType (datReplyPrefix hwSrc hwDst vid ++
        arpBytes ARPOP_REPLY ipSrc hwSrc ipDst hwDst) 0 = 0 :=
      arpGetType_of_proto_ne (by rw [hvid.2]; decide)
    unfold arpBindings at hb
    rw [htype, if_neg (by decide), if_neg (by decide)] at hb
    exact absurd hb List.not_mem_nil
  · rw [hvid]
    refine hread VLAN_HLEN ?_
    unfold datReplyPrefix
    rw [if_pos htag]
    rfl

end Batadv
