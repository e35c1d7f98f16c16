import BatmanAdv.Multicast.Push

set_option relaxedAutoImplicit false
set_option autoImplicit false

/-!
# How a multicast frame is forwarded (`multicast.c`)

A frame from the mesh interface is for the originators that announce its Ethernet address in the
translation table, and for those that want all packets of its kind.  By their number it is
broadcasted, put into one multicast packet, or sent to each of them in a unicast packet.

## Main definitions

* `Batadv.mcastForwModeCheck`, `Batadv.mcastForwModeByCount`, `Batadv.mcastForwMode` — the choice.
* `Batadv.mcastForwTt`, `Batadv.mcastForwWantAll`, `Batadv.mcastForwWantRtr`,
  `Batadv.mcastForwSend` — sending copies.
* `Batadv.McastForwarder.Selects` — an originator is a recipient by the choice that is made.

## Main results

* `Batadv.mcastForwSend_sent` — who is sent a copy.
-/

namespace Batadv

/-! ### The choice -/

/-- `enum batadv_forw_mode`. -/
inductive ForwMode
  | bcast
  | ucasts
  | mcast
  | none
deriving DecidableEq, Repr

/-- `batadv_mcast_forw_mode_check_ipv4`: whether the destination is unsnoopable, and whether it is
routable. -/
def mcastForwModeCheckIpv4 (f : McastForwarder) (frame : McastFrame) (daddr : U32) :
    Except ℤ (Bool × U16) :=
  if !f.pskbMayPull then .error (-ENOMEM)
  else if frame.isReport then .error (-EINVAL)
  else if ipv4IsLocalMulticast daddr then .ok (true, 0)
  else .ok (false, ETH_P_IP)

/-- `batadv_mcast_forw_mode_check_ipv6`. -/
def mcastForwModeCheckIpv6 (f : McastForwarder) (frame : McastFrame) (daddr : BitVec 128) :
    Except ℤ (Bool × U16) :=
  if !f.pskbMayPull then .error (-ENOMEM)
  else if frame.isReport then .error (-EINVAL)
  else if (ipv6AddrMcScope daddr).toNat < IPV6_ADDR_SCOPE_LINKLOCAL.toNat then .error (-EINVAL)
  else if ipv6AddrIsLlAllNodes daddr then .ok (true, 0)
  else if IPV6_ADDR_SCOPE_LINKLOCAL.toNat < (ipv6AddrMcScope daddr).toNat then
    .ok (false, ETH_P_IPV6)
  else .ok (false, 0)

/-- `batadv_mcast_forw_mode_check`. -/
def mcastForwModeCheck (f : McastForwarder) (frame : McastFrame) : Except ℤ (Bool × U16) :=
  if !f.multicastMode then .error (-EINVAL)
  else
    match frame.daddr with
    | some (.ip4 daddr) => mcastForwModeCheckIpv4 f frame daddr
    | some (.ip6 daddr) => mcastForwModeCheckIpv6 f frame daddr
    | none => .error (-EINVAL)

/-- `batadv_tt_global_hash_count`. -/
def ttGlobalHashCount (f : McastForwarder) (addr : EthAddr) (vid : U16) : ℤ :=
  match f.ttGlobalHashFind addr vid with
  | none => 0
  | some origs => origs.length

/-- `batadv_mcast_forw_want_all_ip_count`. -/
def mcastForwWantAllIpCount (f : McastForwarder) (frame : McastFrame) : ℤ :=
  match frame.daddr with
  | some (.ip4 _) => f.mcast.wantAllIpv4.num
  | some (.ip6 _) => f.mcast.wantAllIpv6.num
  | none => 0

/-- `batadv_mcast_forw_rtr_count`. -/
def mcastForwRtrCount (f : McastForwarder) (protocol : U16) : ℤ :=
  if protocol = ETH_P_IP then f.mcast.wantAllRtr4.num
  else if protocol = ETH_P_IPV6 then f.mcast.wantAllRtr6.num
  else 0

/-- The choice, whether the destination is routable, and the frame, with headers in front of it if
it is sent in a multicast packet. -/
structure McastForwChoice where
  mode : ForwMode
  isRoutable : U16
  pushed : McastPush
deriving DecidableEq, Repr

/-- `batadv_mcast_forw_mode_by_count`. -/
def mcastForwModeByCount (f : McastForwarder) (frame : McastFrame) (vid isRoutable : U16)
    (count : ℤ) : McastForwChoice :=
  let mcastHdrlen := mcastForwPacketHdrlen count.toNat
  let ownTvlvFlags := f.mlaFlags.tvlvFlags
  let fits := f.mcast.numNoMcPtypeCapa == 0 && mcastHas MCAST_HAVE_MC_PTYPE_CAPA ownTvlvFlags &&
    decide (frame.skb.data.length + mcastHdrlen ≤ IPV6_MIN_MTU)
  let r :=
    if fits then mcastForwPush f frame vid isRoutable count else (false, ⟨frame.skb, 0, []⟩)
  if r.1 then ⟨.mcast, isRoutable, r.2⟩
  else if count ≤ f.multicastFanout then ⟨.ucasts, isRoutable, r.2⟩
  else ⟨.bcast, isRoutable, r.2⟩

/-- `batadv_mcast_forw_mode`. -/
def mcastForwMode (f : McastForwarder) (frame : McastFrame) (vid : U16) : McastForwChoice :=
  match mcastForwModeCheck f frame with
  | .error ret =>
    if ret = -ENOMEM then ⟨.none, 0, frame.skb, 0, []⟩ else ⟨.bcast, 0, frame.skb, 0, []⟩
  | .ok (isUnsnoopable, isRoutable) =>
    let ttCount := ttGlobalHashCount f frame.hDest 0
    let ipCount := mcastForwWantAllIpCount f frame
    let unsnoopCount := if !isUnsnoopable then 0 else f.mcast.wantAllUnsnoopables.num
    let rtrCount := mcastForwRtrCount f isRoutable
    let totalCount := ttCount + ipCount + unsnoopCount + rtrCount
    if totalCount = 0 then ⟨.none, isRoutable, frame.skb, 0, []⟩
    else if unsnoopCount ≠ 0 then ⟨.bcast, isRoutable, frame.skb, 0, []⟩
    else mcastForwModeByCount f frame vid isRoutable totalCount

/-! ### Sending copies -/

/-- The copies that were made so far, and the originators that they were sent to. -/
structure McastSendOut where
  copies : ℕ
  sent : List OrigPtr
deriving DecidableEq, Repr

/-- `batadv_mcast_forw_send_orig`. -/
def mcastForwSendOrig (f : McastForwarder) (vid : U16) (origNode : OrigPtr) (out : McastSendOut) :
    McastSendOut :=
  -- another gateway has got the frame from the LAN
  if f.isBackboneGwOrig (f.orig origNode) vid then out
  else { out with sent := out.sent ++ [origNode] }

/-- The loop of the functions below. -/
def mcastForwSendList (f : McastForwarder) (vid : U16) :
    List OrigPtr → McastSendOut → ℤ × McastSendOut
  | [], out => (NET_XMIT_SUCCESS, out)
  | origNode :: origs, out =>
    if !f.skbCopy out.copies then (NET_XMIT_DROP, out)
    else
      mcastForwSendList f vid origs
        (mcastForwSendOrig f vid origNode { out with copies := out.copies + 1 })

/-- `batadv_mcast_forw_tt`. -/
def mcastForwTt (f : McastForwarder) (frame : McastFrame) (vid : U16) (out : McastSendOut) :
    ℤ × McastSendOut :=
  match f.ttGlobalHashFind frame.hDest vid with
  | none => (NET_XMIT_SUCCESS, out)
  | some origs => mcastForwSendList f vid origs out

/-- `batadv_mcast_forw_want_all`, with `batadv_mcast_forw_want_all_ipv4` and `_ipv6`. -/
def mcastForwWantAll (f : McastForwarder) (frame : McastFrame) (vid : U16) (out : McastSendOut) :
    ℤ × McastSendOut :=
  match frame.daddr with
  | some (.ip4 _) => mcastForwSendList f vid f.mcast.wantAllIpv4.list out
  | some (.ip6 _) => mcastForwSendList f vid f.mcast.wantAllIpv6.list out
  | none => (NET_XMIT_DROP, out)

/-- `batadv_mcast_forw_want_rtr`, with `batadv_mcast_forw_want_all_rtr4` and `_rtr6`. -/
def mcastForwWantRtr (f : McastForwarder) (frame : McastFrame) (vid : U16) (out : McastSendOut) :
    ℤ × McastSendOut :=
  match frame.daddr with
  | some (.ip4 _) => mcastForwSendList f vid f.mcast.wantAllRtr4.list out
  | some (.ip6 _) => mcastForwSendList f vid f.mcast.wantAllRtr6.list out
  | none => (NET_XMIT_DROP, out)

/-- `batadv_mcast_forw_send`. -/
def mcastForwSend (f : McastForwarder) (frame : McastFrame) (vid isRoutable : U16) :
    ℤ × McastSendOut :=
  let r := mcastForwTt f frame vid ⟨0, []⟩
  if r.1 ≠ NET_XMIT_SUCCESS then r
  else
    let r := mcastForwWantAll f frame vid r.2
    if r.1 ≠ NET_XMIT_SUCCESS then r
    else if isRoutable = 0 then r
    else mcastForwWantRtr f frame vid r.2

/-! ### Whom a frame is sent to -/

/-- The node is a recipient of the frame by the choice that is made: a copy is sent to it, or it is
listed in the multicast packet. -/
def McastForwarder.Selects (f : McastForwarder) (frame : McastFrame) (vid : U16)
    (origNode : OrigPtr) : Prop :=
  match (mcastForwMode f frame vid).mode with
  | .ucasts =>
    origNode ∈ (mcastForwSend f frame vid (mcastForwMode f frame vid).isRoutable).2.sent
  | .mcast => origNode ∈ (mcastForwMode f frame vid).pushed.dests
  | .bcast | .none => False

/-- `ETH_P_IP` or `ETH_P_IPV6`, by the protocol of the group. -/
def McastGroup.protocol : McastGroup → U16
  | .ip4 _ => ETH_P_IP
  | .ip6 _ => ETH_P_IPV6

/-- What is stored for the group as being routable. -/
def McastGroup.isRoutable (g : McastGroup) : U16 := if g.routable then g.protocol else 0

section Mode

variable {f : McastForwarder} {frame : McastFrame} {g : McastGroup} {vid : U16}

/-- The address of all nodes of the link is not routable. -/
lemma ipv6AddrMcScope_of_llAllNodes {addr : BitVec 128} (h : ipv6AddrIsLlAllNodes addr = true) :
    (ipv6AddrMcScope addr).toNat = 2 := by
  rw [eq_of_beq h]
  decide

/-- What is found out about a frame. -/
lemma mcastForwModeCheck_eq (hframe : frame.IsFor g) (hpull : f.pskbMayPull = true) :
    mcastForwModeCheck f frame =
      if !f.multicastMode || g.nodeLocal then .error (-EINVAL)
      else .ok (g.unsnoopable, g.isRoutable) := by
  unfold mcastForwModeCheck
  rw [hframe.daddr]
  cases f.multicastMode with
  | false => rfl
  | true =>
    cases g with
    | ip4 addr =>
      simp only [mcastForwModeCheckIpv4, hpull, hframe.notReport, McastGroup.nodeLocal,
        McastGroup.unsnoopable, McastGroup.isRoutable, McastGroup.routable, McastGroup.protocol]
      by_cases hlocal : ipv4IsLocalMulticast addr <;> simp [hlocal]
    | ip6 addr =>
      simp only [mcastForwModeCheckIpv6, hpull, hframe.notReport, McastGroup.nodeLocal,
        McastGroup.unsnoopable, McastGroup.isRoutable, McastGroup.routable, McastGroup.protocol]
      cases hnodes : ipv6AddrIsLlAllNodes addr with
      | true =>
        have hscope : (ipv6AddrMcScope addr).toNat = 2 := ipv6AddrMcScope_of_llAllNodes hnodes
        have hlink : IPV6_ADDR_SCOPE_LINKLOCAL.toNat = 2 := rfl
        simp [hscope, hlink]
      | false =>
        by_cases hlow : (ipv6AddrMcScope addr).toNat < IPV6_ADDR_SCOPE_LINKLOCAL.toNat
        · simp [hlow]
        · by_cases hhigh :
              IPV6_ADDR_SCOPE_LINKLOCAL.toNat < (ipv6AddrMcScope addr).toNat <;>
            simp [hlow, hhigh]

lemma protocol_ne_zero (g : McastGroup) : g.protocol ≠ 0 := by
  cases g with
  | ip4 addr => exact (by decide : ETH_P_IP ≠ 0)
  | ip6 addr => exact (by decide : ETH_P_IPV6 ≠ 0)

/-- A group is routable if the protocol is stored for it. -/
lemma isRoutable_eq_zero_iff : g.isRoutable = 0 ↔ g.routable = false := by
  unfold McastGroup.isRoutable
  cases hg : g.routable with
  | false => simp
  | true => exact iff_of_false (protocol_ne_zero g) Bool.noConfusion

/-- The recipients are counted. -/
lemma length_recipients (hagree : f.mcast.Agree) (hframe : frame.IsFor g) :
    ttGlobalHashCount f frame.hDest 0 + mcastForwWantAllIpCount f frame +
      mcastForwRtrCount f g.isRoutable =
        (f.recipients g 0).length := by
  have htt : ttGlobalHashCount f frame.hDest 0 = (f.ttOrigs g.hDest 0).length := by
    rw [ttGlobalHashCount, McastForwarder.ttOrigs, hframe.hDest]
    cases f.ttGlobalHashFind g.hDest 0 <;> rfl
  have hall : mcastForwWantAllIpCount f frame = (f.wantAllList g).length := by
    rw [mcastForwWantAllIpCount, hframe.daddr]
    cases g with
    | ip4 addr => exact hagree.ipv4.num
    | ip6 addr => exact hagree.ipv6.num
  have hrtr : mcastForwRtrCount f g.isRoutable =
      (if g.routable then f.wantRtrList g else []).length := by
    unfold McastGroup.isRoutable
    cases g.routable with
    | false => rfl
    | true =>
      cases g with
      | ip4 addr => exact hagree.rtr4.num
      | ip6 addr => exact hagree.rtr6.num
  rw [htt, hall, hrtr, McastForwarder.recipients, List.length_append, List.length_append]
  push_cast
  ring

/-- Sending copies, where all can be made. -/
lemma mcastForwSendList_eq (hcopy : ∀ n, f.skbCopy n = true) (origs : List OrigPtr)
    (out : McastSendOut) :
    mcastForwSendList f vid origs out =
      (NET_XMIT_SUCCESS, ⟨out.copies + origs.length, out.sent ++ f.served vid origs⟩) := by
  induction origs generalizing out with
  | nil => simp [mcastForwSendList, McastForwarder.served]
  | cons origNode origs ih =>
    rw [mcastForwSendList, hcopy, if_neg (by decide), ih, mcastForwSendOrig]
    cases hgw : f.isBackboneGwOrig (f.orig origNode) vid <;>
      simp [McastForwarder.served, hgw, Nat.add_comm, Nat.add_left_comm]

/-- **Who is sent a copy**: the recipients. -/
theorem mcastForwSend_sent (hframe : frame.IsFor g) (hcopy : ∀ n, f.skbCopy n = true)
    {isRoutable : U16} (hroutable : isRoutable = 0 ↔ g.routable = false) :
    (mcastForwSend f frame vid isRoutable).2.sent = f.served vid (f.recipients g vid) := by
  have htt : mcastForwTt f frame vid = mcastForwSendList f vid (f.ttOrigs g.hDest vid) := by
    funext out
    rw [mcastForwTt, McastForwarder.ttOrigs, hframe.hDest]
    cases f.ttGlobalHashFind g.hDest vid <;> rfl
  have hall : mcastForwWantAll f frame vid = mcastForwSendList f vid (f.wantAllList g) := by
    funext out
    rw [mcastForwWantAll, hframe.daddr]
    cases g <;> rfl
  have hrtr : mcastForwWantRtr f frame vid = mcastForwSendList f vid (f.wantRtrList g) := by
    funext out
    rw [mcastForwWantRtr, hframe.daddr]
    cases g <;> rfl
  simp only [mcastForwSend, htt, hall, hrtr, mcastForwSendList_eq hcopy, hroutable,
    McastForwarder.recipients, McastForwarder.served, List.filter_append]
  cases g.routable <;> simp

/-- A choice by the number of the recipients: the frame is not dropped, and the recipients are
listed in a multicast packet. -/
lemma mcastForwModeByCount_spec (hframe : frame.IsFor g) {isRoutable : U16}
    (hroutable : isRoutable = 0 ↔ g.routable = false) (vid : U16) (count : ℤ) :
    (mcastForwModeByCount f frame vid isRoutable count).mode ≠ .none ∧
      (mcastForwModeByCount f frame vid isRoutable count).isRoutable = isRoutable ∧
      ((mcastForwModeByCount f frame vid isRoutable count).mode = .mcast →
        (mcastForwModeByCount f frame vid isRoutable count).pushed.dests =
          (f.served vid (f.recipients g vid)).reverse) := by
  simp only [mcastForwModeByCount]
  generalize (f.mcast.numNoMcPtypeCapa == 0 &&
    mcastHas MCAST_HAVE_MC_PTYPE_CAPA f.mlaFlags.tvlvFlags &&
    decide (frame.skb.data.length + mcastForwPacketHdrlen count.toNat ≤ IPV6_MIN_MTU)) = fits
  by_cases hcount : count ≤ f.multicastFanout
  all_goals
    cases fits with
    | false => simp [hcount]
    | true =>
      cases hpushed : (mcastForwPush f frame vid isRoutable count).1 with
      | false => simp [hpushed, hcount]
      | true => simp [hpushed, mcastForwPush_dests hframe hroutable hpushed]

/-- The number of the originators that are behind a bridge, where listeners are not seen. -/
def McastForwarder.unsnoopCount (f : McastForwarder) (g : McastGroup) : ℤ :=
  if g.unsnoopable then f.mcast.wantAllUnsnoopables.num else 0

/-- **The choice** for a frame. -/
lemma mcastForwMode_eq (hframe : frame.IsFor g) (hpull : f.pskbMayPull = true)
    (hagree : f.mcast.Agree) :
    mcastForwMode f frame 0 =
      let totalCount := (f.recipients g 0).length + f.unsnoopCount g
      if !f.multicastMode || g.nodeLocal then ⟨.bcast, 0, frame.skb, 0, []⟩
      else if totalCount = 0 then ⟨.none, g.isRoutable, frame.skb, 0, []⟩
      else if f.unsnoopCount g ≠ 0 then ⟨.bcast, g.isRoutable, frame.skb, 0, []⟩
      else mcastForwModeByCount f frame 0 g.isRoutable totalCount := by
  have hcount : (if !g.unsnoopable then 0 else f.mcast.wantAllUnsnoopables.num) =
      f.unsnoopCount g := by
    unfold McastForwarder.unsnoopCount
    cases g.unsnoopable <;> rfl
  unfold mcastForwMode
  rw [mcastForwModeCheck_eq hframe hpull]
  cases hflood : !f.multicastMode || g.nodeLocal with
  | true => rfl
  | false =>
    have htotal : ttGlobalHashCount f frame.hDest 0 + mcastForwWantAllIpCount f frame +
        f.unsnoopCount g + mcastForwRtrCount f g.isRoutable =
          (f.recipients g 0).length + f.unsnoopCount g := by
      rw [← length_recipients hagree hframe]
      ring
    simp only [Bool.false_eq_true, if_false, hcount, htotal]

/-- **A recipient** is selected, unless the frame is broadcasted. -/
theorem bcast_or_selects_of_mem (hframe : frame.IsFor g) (hpull : f.pskbMayPull = true)
    (hcopy : ∀ n, f.skbCopy n = true) (hagree : f.mcast.Agree) {origNode : OrigPtr}
    (hmem : origNode ∈ f.served 0 (f.recipients g 0)) :
    (mcastForwMode f frame 0).mode = .bcast ∨ f.Selects frame 0 origNode := by
  have hunsnoop : 0 ≤ f.unsnoopCount g := by
    unfold McastForwarder.unsnoopCount
    split
    · exact hagree.nonneg _ (by simp [McastPriv.counters])
    · exact le_rfl
  have hpos : 0 < (f.recipients g 0).length :=
    List.length_pos_of_mem (List.mem_of_mem_filter hmem)
  have hmode := mcastForwMode_eq hframe hpull hagree
  unfold McastForwarder.Selects
  rw [hmode]
  simp only
  split_ifs with hflood htotal hseen
  · exact .inl rfl
  · omega
  · exact .inl rfl
  · -- the choice is made by the number of the recipients
    obtain ⟨hnone, hroutable, hdests⟩ := mcastForwModeByCount_spec (f := f) hframe
      isRoutable_eq_zero_iff 0 ((f.recipients g 0).length + f.unsnoopCount g)
    rw [hroutable]
    generalize mcastForwModeByCount f frame 0 _ _ = choice at hnone hdests ⊢
    cases hchoice : choice.mode with
    | bcast => exact .inl rfl
    | none => exact absurd hchoice hnone
    | ucasts =>
      rw [mcastForwSend_sent hframe hcopy isRoutable_eq_zero_iff]
      exact .inr hmem
    | mcast =>
      simp only [hdests hchoice, List.mem_reverse]
      exact .inr hmem

/-- **A frame is broadcasted** if its packets stay on the node otherwise, or it can have listeners
that are not seen. -/
theorem bcast_of_unsnoopable (hframe : frame.IsFor g) (hpull : f.pskbMayPull = true)
    (hagree : f.mcast.Agree)
    (h : g.nodeLocal = true ∨
      g.unsnoopable = true ∧ ∃ origNode, origNode ∈ f.mcast.wantAllUnsnoopables.list) :
    (mcastForwMode f frame 0).mode = .bcast := by
  rw [mcastForwMode_eq hframe hpull hagree]
  simp only
  rcases h with hlocal | ⟨hg, origNode, hmem⟩
  · rw [hlocal, Bool.or_true, if_pos rfl]
  · have hcount : f.unsnoopCount g = f.mcast.wantAllUnsnoopables.list.length := by
      rw [McastForwarder.unsnoopCount, if_pos hg]
      exact hagree.unsnoopables.num
    have hpos := List.length_pos_of_mem hmem
    split_ifs
    · rfl
    · omega
    · rfl
    · omega

/-- **Who is sent a copy** by the choice that is made. -/
theorem sent_of_ucasts (hframe : frame.IsFor g) (hpull : f.pskbMayPull = true)
    (hcopy : ∀ n, f.skbCopy n = true) (hagree : f.mcast.Agree)
    (hmode : (mcastForwMode f frame 0).mode = .ucasts) :
    (mcastForwSend f frame 0 (mcastForwMode f frame 0).isRoutable).2.sent =
      f.served 0 (f.recipients g 0) := by
  rw [mcastForwMode_eq hframe hpull hagree] at hmode ⊢
  simp only at hmode ⊢
  split_ifs at hmode ⊢ with hflood htotal hseen
  obtain ⟨-, hroutable, -⟩ := mcastForwModeByCount_spec (f := f) hframe
    isRoutable_eq_zero_iff 0 ((f.recipients g 0).length + f.unsnoopCount g)
  rw [hroutable]
  exact mcastForwSend_sent hframe hcopy isRoutable_eq_zero_iff

end Mode

end Batadv
