import BatmanAdv.Main

set_option relaxedAutoImplicit false
set_option autoImplicit false

/-!
# Snooping DHCP (`distributed-arp-table.c`, `mesh-interface.c`)

A DHCPACK tells the addresses of the client and of the server.  The node whose client the server is
reads them when it sends the frame into the mesh, and the node that receives the frame from the mesh
reads them again.  The sending node hands over the protocol and the network header behind a VLAN
tag; the receiving node takes them from the Ethernet header, and does not look behind a tag.

The lengths of frames and the offsets into them are natural numbers; those of a frame that a node
can hold do not wrap.

## Main definitions

* `Batadv.datGetDhcpMessageType`, `Batadv.datCheckDhcpAck`, `Batadv.datSnoopOutgoingDhcpAck`,
  `Batadv.datSnoopIncomingDhcpAck` — the functions of these names.
* `Batadv.interfaceTxDhcpAck` — what `batadv_interface_tx` hands to the snooping.
* `Batadv.DhcpMessageType` — the value of the first message type option.
* `Batadv.DhcpSnoopingAgrees` — what snooping should do.

## Main results

* `Batadv.datGetDhcpMessageType_eq_some_iff` — the scan of the options finds that value.
* `Batadv.datCheckDhcpAck_append` — headers in front of a frame change nothing.
* `Batadv.dhcp_snooping_agrees_iff` — for which frames both nodes add the same.
-/

namespace Batadv

/-! ### Reading frames -/

/-- The number that some bytes stand for in network order. -/
def beWord (w : ℕ) (bytes : List U8) : BitVec w :=
  bytes.foldl (fun acc b => acc <<< 8 ||| b.setWidth w) 0

/-- `skb_header_pointer`: some bytes of a frame, if it is long enough. -/
def skbHeaderPointer (skb : List U8) (offset len : ℕ) : Option (List U8) :=
  if offset + len ≤ skb.length then some ((skb.drop offset).take len) else none

/-- `len` bytes of a frame that has them. -/
def bytesAt (skb : List U8) (offset len : ℕ) : List U8 := (skb.drop offset).take len

/-- `ETH_HLEN`. -/
def ETH_HLEN : ℕ := 14

/-- `VLAN_HLEN`. -/
def VLAN_HLEN : ℕ := 4

/-- `ETH_P_8021Q`. -/
def ETH_P_8021Q : U16 := 0x8100

/-- `ETH_P_BATMAN`. -/
def ETH_P_BATMAN : U16 := 0x4305

/-- `h_source` of the `struct ethhdr` at an offset. -/
def ethSource (skb : List U8) (offset : ℕ) : EthAddr := beWord 48 (bytesAt skb (offset + 6) 6)

/-- `h_proto` of the `struct ethhdr` at an offset. -/
def ethProto (skb : List U8) (offset : ℕ) : U16 := beWord 16 (bytesAt skb (offset + 12) 2)

/-- `h_vlan_TCI` of the `struct vlan_ethhdr` at an offset. -/
def vlanTci (skb : List U8) (offset : ℕ) : U16 := beWord 16 (bytesAt skb (offset + 14) 2)

/-- `h_vlan_encapsulated_proto` of the `struct vlan_ethhdr` at an offset. -/
def vlanProto (skb : List U8) (offset : ℕ) : U16 := beWord 16 (bytesAt skb (offset + 16) 2)

/-- `batadv_get_vid`: the VLAN with the flag `BATADV_VLAN_HAS_TAG`, or `BATADV_NO_FLAGS`. -/
def skbGetVid (skb : List U8) (headerLen : ℕ) : U16 :=
  if ethProto skb headerLen ≠ ETH_P_8021Q then 0
  else if skb.length < headerLen + (ETH_HLEN + VLAN_HLEN) then 0
  else
    let vid := vlanTci skb headerLen &&& 0x0fff
    if vid = 0 then 0 else vid ||| 0x8000

/-! ### DHCP messages -/

/-- `BATADV_DHCP_OPT_PAD`. -/
def DHCP_OPT_PAD : U8 := 0

/-- `BATADV_DHCP_OPT_MSG_TYPE`. -/
def DHCP_OPT_MSG_TYPE : U8 := 53

/-- `BATADV_DHCP_OPT_END`. -/
def DHCP_OPT_END : U8 := 255

/-- `BATADV_DHCPACK`. -/
def DHCPACK : U8 := 5

/-- `BATADV_BOOTREPLY`. -/
def BOOTREPLY : U8 := 2

/-- `BATADV_DHCP_MAGIC`. -/
def DHCP_MAGIC : U32 := 1669485411

/-- The size of `struct batadv_dhcp_packet`. -/
def DHCP_PACKET_SIZE : ℕ := 240

/-- `batadv_dat_check_dhcp_ipudp`: the source address, and where the transport header is. -/
def datCheckDhcpIpudp (skb : List U8) (networkOffset : ℕ) : Option (U32 × ℕ) :=
  match skbHeaderPointer skb networkOffset 20 with
  | none => none
  | some iphdr =>
    let version := iphdr.getD 0 0 >>> 4
    let ihl := (iphdr.getD 0 0 &&& 0x0f).toNat
    if version ≠ 4 ∨ ihl * 4 < 20 then none
    -- `IPPROTO_UDP`
    else if iphdr.getD 9 0 ≠ 17 then none
    else
      let offset := networkOffset + ihl * 4
      match skbHeaderPointer skb offset 8 with
      | none => none
      | some udphdr =>
        if beWord 16 (udphdr.take 2) ≠ (67 : U16) then none
        else some (beWord 32 (bytesAt iphdr 12 4), offset)

/-- `batadv_dat_check_dhcp`: the op code, the source address, and where the transport header is;
`none` is `-EINVAL`. -/
def datCheckDhcp (skb : List U8) (networkOffset : ℕ) (proto : U16) : Option (U8 × U32 × ℕ) :=
  if proto ≠ ETH_P_IP then none
  else
    match datCheckDhcpIpudp skb networkOffset with
    | none => none
    | some (ipSrc, transportOffset) =>
      let offset := transportOffset + 8
      if skb.length < offset + DHCP_PACKET_SIZE then none
      else
        match skbHeaderPointer skb offset 4 with
        | none => none
        | some dhcpH =>
          -- `BATADV_HTYPE_ETHERNET`, `ETH_ALEN`
          if dhcpH.getD 1 0 ≠ 1 ∨ dhcpH.getD 2 0 ≠ 6 then none
          else
            match skbHeaderPointer skb (offset + 236) 4 with
            | none => none
            | some magic =>
              if beWord 32 magic ≠ DHCP_MAGIC then none
              else some (dhcpH.getD 0 0, ipSrc, transportOffset)

/-- The loop of `batadv_dat_get_dhcp_message_type`: the type and the length of the option at which
it stops, and the offset of this; `none` if the frame ends before. -/
def dhcpOptionLoop (skb : List U8) (offset : ℕ) : Option (U8 × U8 × ℕ) :=
  if _h : offset + 2 ≤ skb.length then
    let tl := bytesAt skb offset 2
    let type := tl.getD 0 0
    let len := tl.getD 1 0
    if type = DHCP_OPT_MSG_TYPE then some (type, len, offset)
    else if type = DHCP_OPT_END then some (type, len, offset)
    else if type = DHCP_OPT_PAD then dhcpOptionLoop skb (offset + 1)
    else dhcpOptionLoop skb (offset + (len.toNat + 2))
  else none
termination_by skb.length - offset

/-- The value of the option at which the loop stops. -/
def dhcpOptionValue (skb : List U8) (offset : ℕ) : Option U8 :=
  match dhcpOptionLoop skb offset with
  | none => none
  | some (type, len, offset) =>
    if type ≠ DHCP_OPT_MSG_TYPE ∨ len ≠ 1 then none
    else (skbHeaderPointer skb (offset + 2) 1).map fun type => type.getD 0 0

/-- `batadv_dat_get_dhcp_message_type`; `none` is `-EINVAL`. -/
def datGetDhcpMessageType (skb : List U8) (transportOffset : ℕ) : Option U8 :=
  dhcpOptionValue skb (transportOffset + 8 + DHCP_PACKET_SIZE)

/-- `batadv_dat_dhcp_get_yiaddr` -/
def datDhcpGetYiaddr (skb : List U8) (transportOffset : ℕ) : Option U32 :=
  (skbHeaderPointer skb (transportOffset + 8 + 16) 4).map (beWord 32)

/-- `batadv_dat_get_dhcp_chaddr`: the first six bytes are the address. -/
def datGetDhcpChaddr (skb : List U8) (transportOffset : ℕ) : Option EthAddr :=
  (skbHeaderPointer skb (transportOffset + 8 + 28) 16).map fun chaddr => beWord 48 (chaddr.take 6)

/-- `batadv_dat_check_dhcp_ack`: the address of the server, and the addresses of the client. -/
def datCheckDhcpAck (skb : List U8) (networkOffset : ℕ) (proto : U16) :
    Option (U32 × EthAddr × U32) :=
  match datCheckDhcp skb networkOffset proto with
  | none => none
  | some (op, ipSrc, transportOffset) =>
    if op ≠ BOOTREPLY then none
    else if datGetDhcpMessageType skb transportOffset ≠ some DHCPACK then none
    else
      match datDhcpGetYiaddr skb transportOffset with
      | none => none
      | some yiaddr =>
        match datGetDhcpChaddr skb transportOffset with
        | none => none
        | some chaddr => some (ipSrc, chaddr, yiaddr)

/-! ### Snooping -/

/-- A call of `batadv_dat_entry_add`. -/
structure DatAddition where
  ip : U32
  macAddr : EthAddr
  vid : U16
deriving DecidableEq, Repr

/-- `batadv_dat_put_dhcp`; `alloc` says whether `batadv_dat_arp_create_reply` returns a frame. -/
def datPutDhcp (alloc : Bool) (chaddr : EthAddr) (yiaddr : U32) (hwDst : EthAddr) (ipDst : U32)
    (vid : U16) : List DatAddition :=
  if !alloc then []
  else [⟨yiaddr, chaddr, vid⟩, ⟨ipDst, hwDst, vid⟩]

/-- `batadv_dat_snoop_outgoing_dhcp_ack`; the frame begins with the Ethernet header. -/
def datSnoopOutgoingDhcpAck (distributedArpTable alloc : Bool) (skb : List U8)
    (networkOffset : ℕ) (proto vid : U16) : List DatAddition :=
  if !distributedArpTable then []
  else
    match datCheckDhcpAck skb networkOffset proto with
    | none => []
    | some (ipSrc, chaddr, yiaddr) => datPutDhcp alloc chaddr yiaddr (ethSource skb 0) ipSrc vid

/-- The protocol and the network header that `batadv_interface_tx` finds behind a VLAN tag; `none`
if it drops the frame. -/
def interfaceTxProto (skb : List U8) : Option (U16 × ℕ) :=
  let proto := ethProto skb 0
  if proto = ETH_P_8021Q then
    if skb.length < ETH_HLEN + VLAN_HLEN then none
    else
      let proto := vlanProto skb 0
      -- drop batman-in-batman packets to prevent loops
      if proto ≠ ETH_P_BATMAN then some (proto, ETH_HLEN + VLAN_HLEN) else none
  else if proto = ETH_P_BATMAN then none
  else some (proto, ETH_HLEN)

/-- What `batadv_interface_tx` adds for a frame that it does not drop for other reasons. -/
def interfaceTxDhcpAck (distributedArpTable alloc : Bool) (skb : List U8) : List DatAddition :=
  match interfaceTxProto skb with
  | none => []
  | some (proto, networkOffset) =>
    datSnoopOutgoingDhcpAck distributedArpTable alloc skb networkOffset proto (skbGetVid skb 0)

/-- `batadv_dat_snoop_incoming_dhcp_ack`; the frame is behind `hdrSize` bytes of headers. -/
def datSnoopIncomingDhcpAck (distributedArpTable : Bool) (skb : List U8) (hdrSize : ℕ) :
    List DatAddition :=
  if !distributedArpTable then []
  else if skb.length < hdrSize + ETH_HLEN then []
  else
    match datCheckDhcpAck skb (hdrSize + ETH_HLEN) (ethProto skb hdrSize) with
    | none => []
    | some (ipSrc, chaddr, yiaddr) =>
      let vid := skbGetVid skb hdrSize
      [⟨yiaddr, chaddr, vid⟩, ⟨ipSrc, ethSource skb hdrSize, vid⟩]

/-! ### What they should do -/

/-- **The message type** in a list of options: the value of the first option of this type, which is
of length 1 and which no end option precedes. -/
inductive DhcpMessageType : List U8 → U8 → Prop
  | here (v : U8) (rest : List U8) : DhcpMessageType (DHCP_OPT_MSG_TYPE :: 1 :: v :: rest) v
  | pad {rest : List U8} {v : U8} :
      DhcpMessageType rest v → DhcpMessageType (DHCP_OPT_PAD :: rest) v
  | skip {type len : U8} {value rest : List U8} {v : U8} (hmsg : type ≠ DHCP_OPT_MSG_TYPE)
      (hend : type ≠ DHCP_OPT_END) (hpad : type ≠ DHCP_OPT_PAD)
      (hlen : value.length = len.toNat) :
      DhcpMessageType rest v → DhcpMessageType (type :: len :: (value ++ rest)) v

/-- **Snooping agrees** on a frame: the scan of the options finds the message type, and behind any
headers the receiving node adds what the sending one does. -/
def DhcpSnoopingAgrees (alloc : Bool) (frame : List U8) : Prop :=
  (∀ transportOffset v, datGetDhcpMessageType frame transportOffset = some v ↔
    DhcpMessageType (frame.drop (transportOffset + 8 + DHCP_PACKET_SIZE)) v) ∧
  ∀ hdr : List U8, datSnoopIncomingDhcpAck true (hdr ++ frame) hdr.length =
    interfaceTxDhcpAck true alloc frame

/-- A DHCPACK, behind a VLAN tag if there is one. -/
def IsDhcpAck (frame : List U8) : Prop :=
  ∃ proto networkOffset, interfaceTxProto frame = some (proto, networkOffset) ∧
    datCheckDhcpAck frame networkOffset proto ≠ none

/-! ### The options -/

lemma DhcpMessageType.ne_nil {options : List U8} {v : U8} (h : DhcpMessageType options v) :
    options ≠ [] := by
  cases h <;> exact List.cons_ne_nil _ _

/-- Two bytes at an offset are the first two of what follows there. -/
lemma exists_drop_eq_cons_cons {skb : List U8} {offset : ℕ} (h : offset + 2 ≤ skb.length) :
    ∃ type len rest, skb.drop offset = type :: len :: rest := by
  have hlen : 2 ≤ (skb.drop offset).length := by
    rw [List.length_drop]
    omega
  match hdrop : skb.drop offset, hlen with
  | type :: len :: rest, _ => exact ⟨type, len, rest, rfl⟩

/-- What is found at an offset, by the option that is there. -/
lemma dhcpOptionValue_of_drop {skb : List U8} {offset : ℕ} {type len : U8} {rest : List U8}
    (h : skb.drop offset = type :: len :: rest) :
    dhcpOptionValue skb offset =
      if type = DHCP_OPT_MSG_TYPE then if len = 1 then rest.head? else none
      else if type = DHCP_OPT_END then none
      else if type = DHCP_OPT_PAD then dhcpOptionValue skb (offset + 1)
      else dhcpOptionValue skb (offset + (len.toNat + 2)) := by
  have hlen := congrArg List.length h
  rw [List.length_drop, List.length_cons, List.length_cons] at hlen
  have htl : bytesAt skb offset 2 = [type, len] := by
    rw [bytesAt, h]
    rfl
  have hrest : skb.drop (offset + 2) = rest := by
    rw [← List.drop_drop, h]
    rfl
  unfold dhcpOptionValue
  rw [dhcpOptionLoop, dif_pos (by omega), htl]
  simp only [List.getD_cons_zero, List.getD_cons_succ]
  split_ifs with hmsg hone hend hpad
  · have hnot : ¬ (type ≠ DHCP_OPT_MSG_TYPE ∨ len ≠ 1) := by simp [hmsg, hone]
    simp only [if_neg hnot, skbHeaderPointer, hrest]
    cases rest with
    | nil =>
      rw [if_neg (by rw [List.length_nil] at hlen; omega)]
      rfl
    | cons v rest =>
      rw [if_pos (by rw [List.length_cons] at hlen; omega)]
      rfl
  · exact if_pos (Or.inr hone)
  · exact if_pos (Or.inl hmsg)
  · rfl
  · rfl

/-- Without two bytes nothing is found. -/
lemma dhcpOptionValue_of_short {skb : List U8} {offset : ℕ} (h : skb.length < offset + 2) :
    dhcpOptionValue skb offset = none := by
  unfold dhcpOptionValue
  rw [dhcpOptionLoop, dif_neg (by omega)]

/-- What is found is the message type: by induction on the bytes that are left. -/
lemma dhcpMessageType_of_dhcpOptionValue {skb : List U8} {v : U8} :
    ∀ {offset : ℕ}, dhcpOptionValue skb offset = some v → DhcpMessageType (skb.drop offset) v := by
  intro offset
  induction hleft : skb.length - offset using Nat.strong_induction_on generalizing offset with
  | _ left ih =>
    subst hleft
    intro h
    by_cases hshort : skb.length < offset + 2
    · rw [dhcpOptionValue_of_short hshort] at h
      cases h
    obtain ⟨type, len, rest, hdrop⟩ := exists_drop_eq_cons_cons (Nat.le_of_not_lt hshort)
    rw [dhcpOptionValue_of_drop hdrop] at h
    have hrest (n : ℕ) : skb.drop (offset + (n + 2)) = rest.drop n := by
      rw [← List.drop_drop, hdrop, List.drop_succ_cons, List.drop_succ_cons]
    have hrest' : skb.drop (offset + 1) = len :: rest := by
      rw [← List.drop_drop, hdrop]
      rfl
    rw [hdrop]
    split_ifs at h with hmsg hone hend hpad
    · cases rest with
      | nil => cases h
      | cons v' rest =>
        obtain rfl : v' = v := Option.some.inj h
        rw [hmsg, hone]
        exact DhcpMessageType.here _ _
    · rw [hpad]
      have := ih _ (by omega) rfl h
      rw [hrest'] at this
      exact this.pad
    · have hsome := ih _ (by omega) rfl h
      rw [hrest] at hsome
      have hle : len.toNat ≤ rest.length := by
        by_contra hlt
        rw [List.drop_of_length_le (by omega)] at hsome
        cases hsome
      rw [← List.take_append_drop len.toNat rest]
      exact hsome.skip hmsg hend hpad (List.length_take_of_le hle)

/-- The message type is found, wherever its options stand. -/
lemma dhcpOptionValue_of_dhcpMessageType {skb options : List U8} {v : U8}
    (h : DhcpMessageType options v) :
    ∀ {offset : ℕ}, skb.drop offset = options → dhcpOptionValue skb offset = some v := by
  induction h with
  | here v rest =>
    intro offset hdrop
    rw [dhcpOptionValue_of_drop hdrop]
    rfl
  | @pad rest v hrest ih =>
    intro offset hdrop
    obtain ⟨len, rest, rfl⟩ := List.exists_cons_of_ne_nil hrest.ne_nil
    rw [dhcpOptionValue_of_drop hdrop, if_neg (by decide), if_neg (by decide), if_pos rfl]
    refine ih ?_
    rw [← List.drop_drop, hdrop]
    rfl
  | skip hmsg hend hpad hlen hrest ih =>
    intro offset hdrop
    rw [dhcpOptionValue_of_drop hdrop, if_neg hmsg, if_neg hend, if_neg hpad]
    refine ih ?_
    rw [← List.drop_drop, hdrop, List.drop_succ_cons, List.drop_succ_cons, ← hlen,
      List.drop_left]

/-- **The scan of the options** ends, and finds the message type if there is one. -/
theorem datGetDhcpMessageType_eq_some_iff (skb : List U8) (transportOffset : ℕ) (v : U8) :
    datGetDhcpMessageType skb transportOffset = some v ↔
      DhcpMessageType (skb.drop (transportOffset + 8 + DHCP_PACKET_SIZE)) v :=
  ⟨dhcpMessageType_of_dhcpOptionValue, fun h => dhcpOptionValue_of_dhcpMessageType h rfl⟩

/-! ### Headers in front of a frame -/

section Append

variable (hdr skb : List U8)

lemma bytesAt_append (offset len : ℕ) :
    bytesAt (hdr ++ skb) (hdr.length + offset) len = bytesAt skb offset len := by
  rw [bytesAt, bytesAt, List.drop_append, List.drop_of_length_le (by omega), List.nil_append,
    Nat.add_sub_cancel_left]

lemma skbHeaderPointer_append (offset len : ℕ) :
    skbHeaderPointer (hdr ++ skb) (hdr.length + offset) len = skbHeaderPointer skb offset len := by
  have hbytes := bytesAt_append hdr skb offset len
  unfold bytesAt at hbytes
  rw [skbHeaderPointer, skbHeaderPointer, hbytes, List.length_append]
  refine if_congr ?_ rfl rfl
  omega

lemma skbGetVid_append : skbGetVid (hdr ++ skb) hdr.length = skbGetVid skb 0 := by
  have hbytes (n len : ℕ) : bytesAt (hdr ++ skb) (hdr.length + n) len =
      bytesAt skb (0 + n) len := by
    rw [bytesAt_append, Nat.zero_add]
  simp only [skbGetVid, ethProto, vlanTci, hbytes, List.length_append]
  refine if_congr Iff.rfl rfl (if_congr ?_ rfl rfl)
  omega

lemma datCheckDhcpIpudp_append (networkOffset : ℕ) :
    datCheckDhcpIpudp (hdr ++ skb) (hdr.length + networkOffset) =
      (datCheckDhcpIpudp skb networkOffset).map fun r => (r.1, hdr.length + r.2) := by
  unfold datCheckDhcpIpudp
  rw [skbHeaderPointer_append]
  cases skbHeaderPointer skb networkOffset 20 with
  | none => rfl
  | some iphdr =>
    dsimp only
    rw [Nat.add_assoc, skbHeaderPointer_append]
    cases skbHeaderPointer skb (networkOffset + (iphdr.getD 0 0 &&& 0x0f).toNat * 4) 8 with
    | none => split_ifs <;> rfl
    | some udphdr =>
      dsimp only
      split_ifs <;> rfl

lemma datCheckDhcp_append (networkOffset : ℕ) (proto : U16) :
    datCheckDhcp (hdr ++ skb) (hdr.length + networkOffset) proto =
      (datCheckDhcp skb networkOffset proto).map fun r => (r.1, r.2.1, hdr.length + r.2.2) := by
  unfold datCheckDhcp
  rw [datCheckDhcpIpudp_append]
  cases datCheckDhcpIpudp skb networkOffset with
  | none => split_ifs <;> rfl
  | some r =>
    obtain ⟨ipSrc, transportOffset⟩ := r
    dsimp only [Option.map_some]
    have hop : hdr.length + transportOffset + 8 = hdr.length + (transportOffset + 8) :=
      Nat.add_assoc ..
    have hmagic : hdr.length + (transportOffset + 8) + 236 =
        hdr.length + (transportOffset + 8 + 236) := Nat.add_assoc ..
    rw [hop, hmagic, skbHeaderPointer_append, skbHeaderPointer_append, List.length_append]
    have hlen : hdr.length + skb.length < hdr.length + (transportOffset + 8) + DHCP_PACKET_SIZE ↔
        skb.length < transportOffset + 8 + DHCP_PACKET_SIZE := by omega
    simp only [hlen]
    cases skbHeaderPointer skb (transportOffset + 8) 4 with
    | none => split_ifs <;> rfl
    | some dhcpH =>
      dsimp only
      cases skbHeaderPointer skb (transportOffset + 8 + 236) 4 with
      | none => split_ifs <;> rfl
      | some magic =>
        dsimp only
        split_ifs <;> rfl

lemma datGetDhcpMessageType_append (transportOffset : ℕ) :
    datGetDhcpMessageType (hdr ++ skb) (hdr.length + transportOffset) =
      datGetDhcpMessageType skb transportOffset := by
  have hdrop : (hdr ++ skb).drop (hdr.length + transportOffset + 8 + DHCP_PACKET_SIZE) =
      skb.drop (transportOffset + 8 + DHCP_PACKET_SIZE) := by
    rw [List.drop_append, List.drop_of_length_le (by omega), List.nil_append]
    congr 1
    omega
  refine Option.ext fun v => ?_
  rw [datGetDhcpMessageType_eq_some_iff, datGetDhcpMessageType_eq_some_iff, hdrop]

/-- **Headers in front of a frame** change nothing. -/
theorem datCheckDhcpAck_append (networkOffset : ℕ) (proto : U16) :
    datCheckDhcpAck (hdr ++ skb) (hdr.length + networkOffset) proto =
      datCheckDhcpAck skb networkOffset proto := by
  unfold datCheckDhcpAck
  rw [datCheckDhcp_append]
  cases datCheckDhcp skb networkOffset proto with
  | none => rfl
  | some r =>
    obtain ⟨op, ipSrc, transportOffset⟩ := r
    dsimp only [Option.map_some]
    have hyiaddr : datDhcpGetYiaddr (hdr ++ skb) (hdr.length + transportOffset) =
        datDhcpGetYiaddr skb transportOffset := by
      rw [datDhcpGetYiaddr, datDhcpGetYiaddr, Nat.add_assoc, Nat.add_assoc,
        skbHeaderPointer_append, Nat.add_assoc]
    have hchaddr : datGetDhcpChaddr (hdr ++ skb) (hdr.length + transportOffset) =
        datGetDhcpChaddr skb transportOffset := by
      rw [datGetDhcpChaddr, datGetDhcpChaddr, Nat.add_assoc, Nat.add_assoc,
        skbHeaderPointer_append, Nat.add_assoc]
    rw [datGetDhcpMessageType_append, hyiaddr, hchaddr]

/-- What the receiving node adds does not depend on the headers. -/
lemma datSnoopIncomingDhcpAck_append :
    datSnoopIncomingDhcpAck true (hdr ++ skb) hdr.length = datSnoopIncomingDhcpAck true skb 0 := by
  have hbytes (n len : ℕ) : bytesAt (hdr ++ skb) (hdr.length + n) len =
      bytesAt skb (0 + n) len := by
    rw [bytesAt_append, Nat.zero_add]
  have hlen : (hdr ++ skb).length < hdr.length + ETH_HLEN ↔ skb.length < 0 + ETH_HLEN := by
    rw [List.length_append]
    omega
  simp only [datSnoopIncomingDhcpAck, hlen, datCheckDhcpAck_append, skbGetVid_append, ethProto,
    ethSource, hbytes, Nat.zero_add]

end Append

/-! ### Both nodes -/

/-- Only IP frames are looked at. -/
lemma datCheckDhcpAck_of_proto_ne {skb : List U8} {networkOffset : ℕ} {proto : U16}
    (h : proto ≠ ETH_P_IP) : datCheckDhcpAck skb networkOffset proto = none := by
  rw [datCheckDhcpAck, datCheckDhcp, if_pos h]

/-- A DHCPACK is longer than its network header is far behind. -/
lemma networkOffset_le_of_datCheckDhcpAck {skb : List U8} {networkOffset : ℕ} {proto : U16}
    (h : datCheckDhcpAck skb networkOffset proto ≠ none) : networkOffset ≤ skb.length := by
  by_contra hlt
  have hnone : skbHeaderPointer skb networkOffset 20 = none := by
    rw [skbHeaderPointer, if_neg (by omega)]
  refine h ?_
  rw [datCheckDhcpAck, datCheckDhcp, datCheckDhcpIpudp, hnone]
  split_ifs <;> rfl

/-- The receiving node does not look behind a tag. -/
lemma datSnoopIncomingDhcpAck_of_tagged {frame : List U8}
    (h : ethProto frame 0 = ETH_P_8021Q) : datSnoopIncomingDhcpAck true frame 0 = [] := by
  rw [datSnoopIncomingDhcpAck, h, datCheckDhcpAck_of_proto_ne (by decide)]
  split_ifs <;> rfl

/-- What the sending node adds for a DHCPACK, and for anything else. -/
lemma interfaceTxDhcpAck_eq_nil_iff (alloc : Bool) (frame : List U8) :
    interfaceTxDhcpAck true alloc frame = [] ↔ (IsDhcpAck frame → alloc = false) := by
  unfold interfaceTxDhcpAck IsDhcpAck datSnoopOutgoingDhcpAck datPutDhcp
  cases hproto : interfaceTxProto frame with
  | none => simp
  | some r =>
    obtain ⟨proto, networkOffset⟩ := r
    cases hcheck : datCheckDhcpAck frame networkOffset proto with
    | none => simp [hcheck]
    | some ack => cases alloc <;> simp [hcheck]

/-- Without a tag both nodes look at the same. -/
lemma datSnoopIncomingDhcpAck_of_untagged {frame : List U8}
    (h : ethProto frame 0 ≠ ETH_P_8021Q) :
    datSnoopIncomingDhcpAck true frame 0 = interfaceTxDhcpAck true true frame := by
  unfold datSnoopIncomingDhcpAck interfaceTxDhcpAck interfaceTxProto datSnoopOutgoingDhcpAck
  simp only [if_neg h, Bool.not_true, Bool.false_eq_true, if_false, Nat.zero_add]
  by_cases hbatman : ethProto frame 0 = ETH_P_BATMAN
  · have hnone : datCheckDhcpAck frame ETH_HLEN (ethProto frame 0) = none :=
      datCheckDhcpAck_of_proto_ne (by rw [hbatman]; decide)
    rw [hnone, if_pos hbatman]
    split_ifs <;> rfl
  · rw [if_neg hbatman]
    by_cases hcheck : datCheckDhcpAck frame ETH_HLEN (ethProto frame 0) = none
    · simp [hcheck]
    · have hle := networkOffset_le_of_datCheckDhcpAck hcheck
      rw [if_neg (Nat.not_lt.2 hle)]
      rfl

/-- The headers do not matter, and the scan of the options is right. -/
lemma dhcpSnoopingAgrees_iff_eq (alloc : Bool) (frame : List U8) :
    DhcpSnoopingAgrees alloc frame ↔
      datSnoopIncomingDhcpAck true frame 0 = interfaceTxDhcpAck true alloc frame := by
  unfold DhcpSnoopingAgrees
  simp only [datSnoopIncomingDhcpAck_append]
  constructor
  · exact fun h => h.2 []
  · exact fun h => ⟨fun o v => datGetDhcpMessageType_eq_some_iff frame o v, fun _ => h⟩

/-- **Both nodes add the same** if and only if the frame is no DHCPACK, or it has no VLAN tag and
the sending node can allocate the ARP reply, or it has one and the sending node cannot.

**Proof sketch.** The receiving node finds a DHCPACK behind its headers where the sending node does,
unless there is a tag, behind which it does not look. -/
theorem dhcp_snooping_agrees_iff (alloc : Bool) (frame : List U8) :
    DhcpSnoopingAgrees alloc frame ↔
      (IsDhcpAck frame → (alloc = true ↔ ethProto frame 0 ≠ ETH_P_8021Q)) := by
  rw [dhcpSnoopingAgrees_iff_eq]
  by_cases htag : ethProto frame 0 = ETH_P_8021Q
  · rw [datSnoopIncomingDhcpAck_of_tagged htag, eq_comm, interfaceTxDhcpAck_eq_nil_iff]
    simp [htag]
  · rw [datSnoopIncomingDhcpAck_of_untagged htag]
    cases alloc with
    | true => simp [htag]
    | false =>
      have hnil : interfaceTxDhcpAck true false frame = [] :=
        (interfaceTxDhcpAck_eq_nil_iff false frame).2 fun _ => rfl
      rw [hnil, interfaceTxDhcpAck_eq_nil_iff]
      simp [htag]

/-- A DHCPACK of the server 10.0.0.1 for the client 10.0.0.2, in VLAN 1. -/
def taggedDhcpAck : List U8 :=
  -- Ethernet header with a tag, IP header, UDP header
  List.replicate 12 0 ++ [0x81, 0, 0, 1, 8, 0] ++
  [0x45, 0, 0, 0, 0, 0, 0, 0, 64, 17, 0, 0, 10, 0, 0, 1, 0, 0, 0, 0] ++
  [0, 67, 0, 68, 0, 0, 0, 0] ++
  -- `struct batadv_dhcp_packet`
  [2, 1, 6, 0] ++ List.replicate 12 0 ++ [10, 0, 0, 2] ++ List.replicate 8 0 ++
  [2, 0, 0, 0, 0, 1] ++ List.replicate 202 0 ++ [99, 130, 83, 99] ++
  -- the message type
  [53, 1, 5]

/-- The receiving node adds nothing for it. -/
theorem taggedDhcpAck_not_agrees : ¬ DhcpSnoopingAgrees true taggedDhcpAck := by
  rw [dhcpSnoopingAgrees_iff_eq, datSnoopIncomingDhcpAck_of_tagged (by decide), eq_comm,
    interfaceTxDhcpAck_eq_nil_iff]
  intro h
  have hdhcp : datCheckDhcp taggedDhcpAck 18 ETH_P_IP = some (2, 0x0a000001, 38) := by
    decide +kernel
  have hdrop : taggedDhcpAck.drop (38 + 8 + DHCP_PACKET_SIZE) = [53, 1, 5] := by decide +kernel
  have htype : datGetDhcpMessageType taggedDhcpAck 38 = some DHCPACK := by
    rw [datGetDhcpMessageType_eq_some_iff, hdrop]
    exact DhcpMessageType.here 5 []
  have hack : datCheckDhcpAck taggedDhcpAck 18 ETH_P_IP ≠ none := by
    rw [datCheckDhcpAck, hdhcp]
    dsimp only
    rw [htype]
    decide +kernel
  cases h ⟨ETH_P_IP, 18, by decide +kernel, hack⟩

end Batadv
