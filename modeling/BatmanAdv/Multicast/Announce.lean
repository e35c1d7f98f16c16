import BatmanAdv.Multicast.WantLists

set_option relaxedAutoImplicit false
set_option autoImplicit false

/-!
# Announcing multicast listeners (`multicast.c`)

A node announces which multicast packets it wants: with flags, in a TVLV container, those that it
wants all of, and for other groups their Ethernet addresses in the translation table.  A group that
is covered by a flag is left out of the table.  What is read from the kernel, such as the groups
that were joined and what the bridge over the mesh interface knows, is an input; so are the results
of allocations, and which addresses `batadv_tt_local_add` accepts.

## Main definitions

* `Batadv.McastGroup`, `Batadv.McastGroup.hDest` — a group, and its Ethernet address.
* `Batadv.McastDev` — what is read from the kernel.
* `Batadv.mcastMlaFlagsGet`, `Batadv.mcastMlaMeshifGet`, `Batadv.mcastMlaBridgeGet`,
  `Batadv.mcastMlaUpdate` — the functions of these names.
* `Batadv.McastDev.covers`, `Batadv.McastDev.announced` — the groups that the flags cover, and those
  that are announced in the translation table.

## Main results

* `Batadv.tvlvFlags_spec` — what the flags say.
* `Batadv.mem_mcastMlaUpdate_iff` — the addresses that are announced.
-/

namespace Batadv

/-! ### Groups -/

/-- A multicast group: an IPv4 or an IPv6 address. -/
inductive McastGroup
  | ip4 (addr : U32)
  | ip6 (addr : BitVec 128)
deriving DecidableEq, Repr

/-- `ipv4_is_local_multicast`: the address is in `224.0.0.0/24`. -/
def ipv4IsLocalMulticast (addr : U32) : Bool := addr &&& 0xFFFFFF00 == 0xE0000000

/-- `IPV6_ADDR_MC_SCOPE`: the scope, in the second octet. -/
def ipv6AddrMcScope (addr : BitVec 128) : U8 := addr.extractLsb' 112 8 &&& 0x0F

/-- `IPV6_ADDR_SCOPE_LINKLOCAL`. -/
def IPV6_ADDR_SCOPE_LINKLOCAL : U8 := 0x02

/-- `ipv6_addr_is_ll_all_nodes`: the address is `ff02::1`. -/
def ipv6AddrIsLlAllNodes (addr : BitVec 128) : Bool :=
  addr == 0xFF020000000000000000000000000001

/-- `ip_eth_mc_map`: the last 23 bits of the address behind `01:00:5e`. -/
def ipEthMcMap (addr : U32) : EthAddr :=
  (0x01005E : BitVec 24) ++ (0 : BitVec 1) ++ addr.extractLsb' 0 23

/-- `ipv6_eth_mc_map`: the last four octets of the address behind `33:33`. -/
def ipv6EthMcMap (addr : BitVec 128) : EthAddr := (0x3333 : BitVec 16) ++ addr.extractLsb' 0 32

/-- The Ethernet address that packets for the group are sent to. -/
def McastGroup.hDest : McastGroup → EthAddr
  | .ip4 addr => ipEthMcMap addr
  | .ip6 addr => ipv6EthMcMap addr

/-- The bits of the address by which it is not zero, and that tell the protocol. -/
lemma getLsbD_hDest (g : McastGroup) :
    g.hDest.getLsbD 40 = true ∧
      (g.hDest.getLsbD 41 = match g with | .ip4 _ => false | .ip6 _ => true) := by
  cases g with
  | ip4 addr =>
    have hbit (i : ℕ) : (ipEthMcMap addr).getLsbD i = _ := BitVec.getLsbD_append
    rw [McastGroup.hDest, hbit, hbit]
    exact ⟨rfl, rfl⟩
  | ip6 addr =>
    have hbit (i : ℕ) : (ipv6EthMcMap addr).getLsbD i = _ := BitVec.getLsbD_append
    rw [McastGroup.hDest, hbit, hbit]
    exact ⟨rfl, rfl⟩

lemma hDest_ne_zero (g : McastGroup) : g.hDest ≠ 0 := by
  intro h
  have hbit := (getLsbD_hDest g).1
  rw [h] at hbit
  exact absurd hbit (by decide)

/-! ### What is read from the kernel -/

/-- `struct in_device`, as far as it is read: whether it is a multicast router, and its groups. -/
structure InDevice where
  mforward : Bool
  mcList : List U32
deriving DecidableEq, Repr

/-- `struct inet6_dev`. -/
structure Inet6Dev where
  mcForwarding : Bool
  mcList : List (BitVec 128)
deriving DecidableEq, Repr

/-- `struct batadv_mcast_querier_state`: there is a querier, and it may shadow listeners. -/
structure McastQuerierState where
  present : Bool
  shadowing : Bool
deriving DecidableEq, Repr

/-- `struct br_ip`, with its field `proto`. -/
inductive BrIp
  | ip4 (addr : U32)
  | ip6 (addr : BitVec 128)
  | other
deriving DecidableEq, Repr

/-- What a bridge over the mesh interface knows: the queriers, whether a multicast router is behind
another port of it, and the listeners there, if they could be listed
(`br_multicast_list_adjacent`). -/
structure McastBridge where
  querierIpv4 : McastQuerierState
  querierIpv6 : McastQuerierState
  hasRouterAdjacent4 : Bool
  hasRouterAdjacent6 : Bool
  listeners : Option (List BrIp)
deriving DecidableEq, Repr

/-- What is read: the bridge over the mesh interface if there is one; the IPv4 and IPv6
configuration of the bridge, or else of the mesh interface; and of the hard interfaces whether they
are active, and their MTUs. -/
structure McastDev where
  bridge : Option McastBridge
  inDev : Option InDevice
  in6Dev : Option Inet6Dev
  hardIfaces : List (Bool × ℕ)
deriving DecidableEq, Repr

/-- `IPV6_MIN_MTU`. -/
def IPV6_MIN_MTU : ℕ := 1280

/-! ### The flags -/

/-- `batadv_mcast_mla_rtr_flags_meshif_get_ipv4`. -/
def mcastMlaRtrFlagsMeshifGetIpv4 (dev : McastDev) : U8 :=
  if dev.inDev.any InDevice.mforward then 0 else MCAST_WANT_NO_RTR4

/-- `batadv_mcast_mla_rtr_flags_meshif_get_ipv6`. -/
def mcastMlaRtrFlagsMeshifGetIpv6 (dev : McastDev) : U8 :=
  if dev.in6Dev.any Inet6Dev.mcForwarding then 0 else MCAST_WANT_NO_RTR6

/-- `batadv_mcast_mla_rtr_flags_meshif_get`. -/
def mcastMlaRtrFlagsMeshifGet (dev : McastDev) : U8 :=
  mcastMlaRtrFlagsMeshifGetIpv4 dev ||| mcastMlaRtrFlagsMeshifGetIpv6 dev

/-- `batadv_mcast_mla_rtr_flags_bridge_get`. -/
def mcastMlaRtrFlagsBridgeGet (dev : McastDev) : U8 :=
  match dev.bridge with
  | none => MCAST_WANT_NO_RTR4 ||| MCAST_WANT_NO_RTR6
  | some bridge =>
    (if !bridge.hasRouterAdjacent4 then MCAST_WANT_NO_RTR4 else 0) |||
      (if !bridge.hasRouterAdjacent6 then MCAST_WANT_NO_RTR6 else 0)

/-- `batadv_mcast_mla_rtr_flags_get`. -/
def mcastMlaRtrFlagsGet (dev : McastDev) : U8 :=
  (MCAST_WANT_NO_RTR4 ||| MCAST_WANT_NO_RTR6) &&& mcastMlaRtrFlagsMeshifGet dev &&&
    mcastMlaRtrFlagsBridgeGet dev

/-- `batadv_mcast_mla_forw_flags_get`. -/
def mcastMlaForwFlagsGet (dev : McastDev) : U8 :=
  if dev.hardIfaces.any fun iface => iface.1 && decide (iface.2 < IPV6_MIN_MTU) then 0
  else MCAST_HAVE_MC_PTYPE_CAPA

/-- `struct batadv_mcast_mla_flags`. -/
structure McastMlaFlags where
  querierIpv4 : McastQuerierState
  querierIpv6 : McastQuerierState
  enabled : Bool
  bridged : Bool
  tvlvFlags : U8
deriving DecidableEq, Repr

/-- `batadv_mcast_mla_flags_get`. -/
def mcastMlaFlagsGet (dev : McastDev) : McastMlaFlags :=
  let tvlvFlags := mcastMlaRtrFlagsGet dev ||| mcastMlaForwFlagsGet dev
  match dev.bridge with
  | none => ⟨⟨false, false⟩, ⟨false, false⟩, true, false, tvlvFlags⟩
  | some bridge =>
    let qr4 := bridge.querierIpv4
    let qr6 := bridge.querierIpv6
    let tvlvFlags := tvlvFlags ||| MCAST_WANT_ALL_UNSNOOPABLES
    -- without a querier listeners keep silent, and one behind the bridge may shadow them
    let tvlvFlags :=
      if !qr4.present || qr4.shadowing then
        (tvlvFlags ||| MCAST_WANT_ALL_IPV4) &&& ~~~MCAST_WANT_NO_RTR4
      else tvlvFlags
    let tvlvFlags :=
      if !qr6.present || qr6.shadowing then
        (tvlvFlags ||| MCAST_WANT_ALL_IPV6) &&& ~~~MCAST_WANT_NO_RTR6
      else tvlvFlags
    ⟨qr4, qr6, true, true, tvlvFlags⟩

/-! ### The addresses -/

/-- `batadv_mcast_mla_is_duplicate`. -/
def mcastMlaIsDuplicate (mcastAddr : EthAddr) (mcastList : List EthAddr) : Bool :=
  mcastList.any fun addr => addr == mcastAddr

/-- Put an address into the list if it is not there; `none` is `-ENOMEM`. -/
def mcastMlaListAdd (alloc : EthAddr → Bool) (mcastList : List EthAddr) (mcastAddr : EthAddr) :
    Option (List EthAddr) :=
  if mcastMlaIsDuplicate mcastAddr mcastList then some mcastList
  else if !alloc mcastAddr then none
  else some (mcastAddr :: mcastList)

/-- The IPv4 groups that are passed over. -/
def mcastMlaSkipIpv4 (tvlvFlags : U8) (addr : U32) : Bool :=
  (mcastHas MCAST_WANT_ALL_UNSNOOPABLES tvlvFlags && ipv4IsLocalMulticast addr) ||
    (mcastLacks MCAST_WANT_NO_RTR4 tvlvFlags && !ipv4IsLocalMulticast addr)

/-- The IPv6 groups that are passed over. -/
def mcastMlaSkipIpv6 (tvlvFlags : U8) (addr : BitVec 128) : Bool :=
  (mcastHas MCAST_WANT_ALL_UNSNOOPABLES tvlvFlags && ipv6AddrIsLlAllNodes addr) ||
    (mcastLacks MCAST_WANT_NO_RTR6 tvlvFlags &&
      IPV6_ADDR_SCOPE_LINKLOCAL.toNat < (ipv6AddrMcScope addr).toNat)

variable (alloc : EthAddr → Bool)

/-- `batadv_mcast_mla_meshif_get_ipv4`. -/
def mcastMlaMeshifGetIpv4 (dev : McastDev) (mcastList : List EthAddr) (flags : McastMlaFlags) :
    Option (List EthAddr) :=
  if mcastHas MCAST_WANT_ALL_IPV4 flags.tvlvFlags then some mcastList
  else
    match dev.inDev with
    | none => some mcastList
    | some inDev =>
      inDev.mcList.foldlM
        (fun mcastList addr =>
          if mcastMlaSkipIpv4 flags.tvlvFlags addr then some mcastList
          else mcastMlaListAdd alloc mcastList (ipEthMcMap addr))
        mcastList

/-- `batadv_mcast_mla_meshif_get_ipv6`. -/
def mcastMlaMeshifGetIpv6 (dev : McastDev) (mcastList : List EthAddr) (flags : McastMlaFlags) :
    Option (List EthAddr) :=
  if mcastHas MCAST_WANT_ALL_IPV6 flags.tvlvFlags then some mcastList
  else
    match dev.in6Dev with
    | none => some mcastList
    | some in6Dev =>
      in6Dev.mcList.foldlM
        (fun mcastList addr =>
          if (ipv6AddrMcScope addr).toNat < IPV6_ADDR_SCOPE_LINKLOCAL.toNat then some mcastList
          else if mcastMlaSkipIpv6 flags.tvlvFlags addr then some mcastList
          else mcastMlaListAdd alloc mcastList (ipv6EthMcMap addr))
        mcastList

/-- `batadv_mcast_mla_meshif_get`. -/
def mcastMlaMeshifGet (dev : McastDev) (mcastList : List EthAddr) (flags : McastMlaFlags) :
    Option (List EthAddr) :=
  match mcastMlaMeshifGetIpv4 alloc dev mcastList flags with
  | none => none
  | some mcastList => mcastMlaMeshifGetIpv6 alloc dev mcastList flags

/-- `batadv_mcast_mla_br_addr_cpy`. -/
def mcastMlaBrAddrCpy : BrIp → EthAddr
  | .ip4 addr => ipEthMcMap addr
  | .ip6 addr => ipv6EthMcMap addr
  | .other => 0

/-- The listeners behind a bridge that `batadv_mcast_mla_bridge_get` passes over. -/
def mcastMlaBridgeSkip (tvlvFlags : U8) : BrIp → Bool
  | .ip4 addr => mcastHas MCAST_WANT_ALL_IPV4 tvlvFlags || mcastMlaSkipIpv4 tvlvFlags addr
  | .ip6 addr => mcastHas MCAST_WANT_ALL_IPV6 tvlvFlags || mcastMlaSkipIpv6 tvlvFlags addr
  | .other => false

/-- `batadv_mcast_mla_bridge_get`. -/
def mcastMlaBridgeGet (dev : McastDev) (mcastList : List EthAddr) (flags : McastMlaFlags) :
    Option (List EthAddr) :=
  match dev.bridge with
  | none => some mcastList
  | some bridge =>
    match bridge.listeners with
    | none => none
    | some listeners =>
      listeners.foldlM
        (fun mcastList brIp =>
          if mcastMlaBridgeSkip flags.tvlvFlags brIp then some mcastList
          else mcastMlaListAdd alloc mcastList (mcastMlaBrAddrCpy brIp))
        mcastList

/-! ### Updating the announcements -/

/-- What a node announces: the addresses in the translation table, and the flags. -/
structure McastMla where
  mlaList : List EthAddr
  mlaFlags : McastMlaFlags
deriving DecidableEq, Repr

/-- `batadv_mcast_mla_tt_retract`, with the new list. -/
def mcastMlaTtRetract (mlaList mcastList : List EthAddr) : List EthAddr :=
  mlaList.filter fun addr => mcastMlaIsDuplicate addr mcastList

/-- `batadv_mcast_mla_tt_add`, where `ttLocalAdd` tells which addresses are accepted. -/
def mcastMlaTtAdd (ttLocalAdd : EthAddr → Bool) (mlaList mcastList : List EthAddr) :
    List EthAddr :=
  mcastList.foldl
    (fun mlaList addr =>
      if mcastMlaIsDuplicate addr mlaList then mlaList
      else if !ttLocalAdd addr then mlaList
      else addr :: mlaList)
    mlaList

/-- `__batadv_mcast_mla_update`. -/
def mcastMlaUpdate (ttLocalAdd : EthAddr → Bool) (dev : McastDev) (mla : McastMla) : McastMla :=
  let flags := mcastMlaFlagsGet dev
  match mcastMlaMeshifGet alloc dev [] flags with
  | none => mla
  | some mcastList =>
    match mcastMlaBridgeGet alloc dev mcastList flags with
    | none => mla
    | some mcastList =>
      ⟨mcastMlaTtAdd ttLocalAdd (mcastMlaTtRetract mla.mlaList mcastList) mcastList, flags⟩

/-- The value of the TVLV container (`batadv_mcast_mla_flags_update`). -/
def McastMla.tvlvValue (mla : McastMla) : List U8 := [mla.mlaFlags.tvlvFlags, 0, 0, 0]

/-! ### What is announced -/

/-- The flag for all packets of the protocol of the group. -/
def McastGroup.wantAllFlag : McastGroup → U8
  | .ip4 _ => MCAST_WANT_ALL_IPV4
  | .ip6 _ => MCAST_WANT_ALL_IPV6

/-- The flag for no routable packets of the protocol of the group. -/
def McastGroup.noRtrFlag : McastGroup → U8
  | .ip4 _ => MCAST_WANT_NO_RTR4
  | .ip6 _ => MCAST_WANT_NO_RTR6

/-- Packets for the group can leave the link. -/
def McastGroup.routable : McastGroup → Bool
  | .ip4 addr => !ipv4IsLocalMulticast addr
  | .ip6 addr => IPV6_ADDR_SCOPE_LINKLOCAL.toNat < (ipv6AddrMcScope addr).toNat

/-- Listeners of the group behind a bridge are not seen. -/
def McastGroup.unsnoopable : McastGroup → Bool
  | .ip4 addr => ipv4IsLocalMulticast addr
  | .ip6 addr => ipv6AddrIsLlAllNodes addr

/-- Packets for the group do not leave their node. -/
def McastGroup.nodeLocal : McastGroup → Bool
  | .ip4 _ => false
  | .ip6 addr => (ipv6AddrMcScope addr).toNat < IPV6_ADDR_SCOPE_LINKLOCAL.toNat

namespace McastDev

/-- There is no querier for the protocol of the group, or it may shadow listeners. -/
def wantsAll (dev : McastDev) : McastGroup → Bool
  | .ip4 _ => dev.bridge.any fun bridge =>
    !bridge.querierIpv4.present || bridge.querierIpv4.shadowing
  | .ip6 _ => dev.bridge.any fun bridge =>
    !bridge.querierIpv6.present || bridge.querierIpv6.shadowing

/-- There is a multicast router for the protocol of the group. -/
def hasRouter (dev : McastDev) : McastGroup → Bool
  | .ip4 _ => dev.inDev.any InDevice.mforward || dev.bridge.any McastBridge.hasRouterAdjacent4
  | .ip6 _ => dev.in6Dev.any Inet6Dev.mcForwarding || dev.bridge.any McastBridge.hasRouterAdjacent6

/-- The group does not have to be announced in the translation table. -/
def covers (dev : McastDev) (g : McastGroup) : Bool :=
  dev.wantsAll g || (dev.bridge.isSome && g.unsnoopable) || (dev.hasRouter g && g.routable)

/-- The groups that were joined on the mesh interface, or on the bridge over it. -/
def joined (dev : McastDev) : List McastGroup :=
  ((dev.inDev.map InDevice.mcList).getD []).map .ip4 ++
    ((dev.in6Dev.map Inet6Dev.mcList).getD []).map .ip6

/-- The groups of the listeners behind the bridge. -/
def listened (dev : McastDev) : List McastGroup :=
  ((dev.bridge.bind McastBridge.listeners).getD []).filterMap fun
    | .ip4 addr => some (.ip4 addr)
    | .ip6 addr => some (.ip6 addr)
    | .other => none

/-- **The groups that are announced in the translation table**: those that were joined, unless
their packets stay on the node, and those of the listeners, if they are not covered. -/
def announced (dev : McastDev) : List McastGroup :=
  (dev.joined.filter (fun g => !g.nodeLocal) ++ dev.listened).filter fun g => !dev.covers g

/-- The listeners behind the bridge could be listed. -/
def Listed (dev : McastDev) : Prop := ∀ bridge, dev.bridge = some bridge → bridge.listeners.isSome

end McastDev

/-! ### What the flags say -/

/-- The flags, from whether the interface is a multicast router, an active hard interface has a
small MTU, and there is a bridge; and from whether there is a router behind it, and a querier is
missing there. -/
def tvlvFlagsOf (mforward4 mforward6 smallMtu bridged adjacent4 adjacent6 all4 all6 : Bool) : U8 :=
  let rtr := (MCAST_WANT_NO_RTR4 ||| MCAST_WANT_NO_RTR6) &&&
    ((if mforward4 then 0 else MCAST_WANT_NO_RTR4) |||
      (if mforward6 then 0 else MCAST_WANT_NO_RTR6)) &&&
    ((if bridged && adjacent4 then 0 else MCAST_WANT_NO_RTR4) |||
      (if bridged && adjacent6 then 0 else MCAST_WANT_NO_RTR6))
  let flags := rtr ||| (if smallMtu then 0 else MCAST_HAVE_MC_PTYPE_CAPA)
  let flags := if bridged then flags ||| MCAST_WANT_ALL_UNSNOOPABLES else flags
  let flags :=
    if bridged && all4 then (flags ||| MCAST_WANT_ALL_IPV4) &&& ~~~MCAST_WANT_NO_RTR4 else flags
  if bridged && all6 then (flags ||| MCAST_WANT_ALL_IPV6) &&& ~~~MCAST_WANT_NO_RTR6 else flags

lemma tvlvFlags_eq (dev : McastDev) :
    (mcastMlaFlagsGet dev).tvlvFlags =
      tvlvFlagsOf (dev.inDev.any InDevice.mforward) (dev.in6Dev.any Inet6Dev.mcForwarding)
        (dev.hardIfaces.any fun iface => iface.1 && decide (iface.2 < IPV6_MIN_MTU))
        dev.bridge.isSome (dev.bridge.any McastBridge.hasRouterAdjacent4)
        (dev.bridge.any McastBridge.hasRouterAdjacent6) (dev.wantsAll (.ip4 0))
        (dev.wantsAll (.ip6 0)) := by
  unfold mcastMlaFlagsGet mcastMlaRtrFlagsGet mcastMlaRtrFlagsMeshifGet
    mcastMlaRtrFlagsMeshifGetIpv4 mcastMlaRtrFlagsMeshifGetIpv6 mcastMlaRtrFlagsBridgeGet
    mcastMlaForwFlagsGet tvlvFlagsOf McastDev.wantsAll
  cases dev.bridge with
  | none => simp
  | some bridge =>
    obtain ⟨qr4, qr6, adjacent4, adjacent6, listeners⟩ := bridge
    cases adjacent4 <;> cases adjacent6 <;> simp

/-- **What the flags say**: that all packets are wanted if there is no querier or it may shadow
listeners, the unsnoopable ones if there is a bridge, and the routable ones if there is a multicast
router or all packets are wanted anyway. -/
theorem tvlvFlags_spec (dev : McastDev) (g : McastGroup) :
    mcastHas g.wantAllFlag (mcastMlaFlagsGet dev).tvlvFlags = dev.wantsAll g ∧
      mcastHas MCAST_WANT_ALL_UNSNOOPABLES (mcastMlaFlagsGet dev).tvlvFlags = dev.bridge.isSome ∧
      mcastLacks g.noRtrFlag (mcastMlaFlagsGet dev).tvlvFlags =
        (dev.hasRouter g || dev.wantsAll g) := by
  have htable : ∀ mforward4 mforward6 smallMtu bridged adjacent4 adjacent6 all4 all6 : Bool,
      let flags := tvlvFlagsOf mforward4 mforward6 smallMtu bridged adjacent4 adjacent6 all4 all6
      (mcastHas MCAST_WANT_ALL_IPV4 flags = (bridged && all4) ∧
        mcastHas MCAST_WANT_ALL_IPV6 flags = (bridged && all6)) ∧
        mcastHas MCAST_WANT_ALL_UNSNOOPABLES flags = bridged ∧
        mcastLacks MCAST_WANT_NO_RTR4 flags =
          (mforward4 || (bridged && adjacent4) || (bridged && all4)) ∧
        mcastLacks MCAST_WANT_NO_RTR6 flags =
          (mforward6 || (bridged && adjacent6) || (bridged && all6)) := by
    decide +kernel
  obtain ⟨⟨h4, h6⟩, hunsnoop, hrtr4, hrtr6⟩ := htable (dev.inDev.any InDevice.mforward)
    (dev.in6Dev.any Inet6Dev.mcForwarding)
    (dev.hardIfaces.any fun iface => iface.1 && decide (iface.2 < IPV6_MIN_MTU))
    dev.bridge.isSome (dev.bridge.any McastBridge.hasRouterAdjacent4)
    (dev.bridge.any McastBridge.hasRouterAdjacent6) (dev.wantsAll (.ip4 0))
    (dev.wantsAll (.ip6 0))
  rw [← tvlvFlags_eq] at h4 h6 hunsnoop hrtr4 hrtr6
  have hany (p : McastBridge → Bool) : (dev.bridge.isSome && dev.bridge.any p) =
      dev.bridge.any p := by
    cases dev.bridge <;> simp
  cases g with
  | ip4 addr =>
    have hbridged : (dev.bridge.isSome && dev.wantsAll (.ip4 0)) = dev.wantsAll (.ip4 0) := hany _
    rw [hbridged] at h4 hrtr4
    rw [hany] at hrtr4
    exact ⟨h4, hunsnoop, hrtr4⟩
  | ip6 addr =>
    have hbridged : (dev.bridge.isSome && dev.wantsAll (.ip6 0)) = dev.wantsAll (.ip6 0) := hany _
    rw [hbridged] at h6 hrtr6
    rw [hany] at hrtr6
    exact ⟨h6, hunsnoop, hrtr6⟩

/-! ### Collecting addresses -/

/-- A group that is passed over, with the flag for all packets, does not have to be announced. -/
lemma covers_eq (dev : McastDev) (g : McastGroup) :
    dev.covers g = (mcastHas g.wantAllFlag (mcastMlaFlagsGet dev).tvlvFlags ||
      ((mcastHas MCAST_WANT_ALL_UNSNOOPABLES (mcastMlaFlagsGet dev).tvlvFlags && g.unsnoopable) ||
        (mcastLacks g.noRtrFlag (mcastMlaFlagsGet dev).tvlvFlags && g.routable))) := by
  obtain ⟨hall, hunsnoop, hrtr⟩ := tvlvFlags_spec dev g
  rw [hall, hunsnoop, hrtr, McastDev.covers]
  cases dev.wantsAll g <;> simp

lemma mcastMlaIsDuplicate_iff {addr : EthAddr} {mcastList : List EthAddr} :
    mcastMlaIsDuplicate addr mcastList = true ↔ addr ∈ mcastList := by
  simp [mcastMlaIsDuplicate]

/-- **Collecting addresses** one after the other, where there is memory for each. -/
lemma exists_foldlM_mcastMlaListAdd {ι : Type} (skip : ι → Bool) (addrOf : ι → EthAddr)
    (items : List ι) (mcastList : List EthAddr) :
    ∃ mcastList', items.foldlM
        (fun mcastList i =>
          if skip i then some mcastList
          else mcastMlaListAdd (fun _ => true) mcastList (addrOf i)) mcastList = some mcastList' ∧
      ∀ addr, addr ∈ mcastList' ↔
        addr ∈ mcastList ∨ ∃ i ∈ items, skip i = false ∧ addrOf i = addr := by
  induction items generalizing mcastList with
  | nil => exact ⟨mcastList, rfl, by simp⟩
  | cons i items ih =>
    have hstep : ∃ mcastList', (if skip i then some mcastList
          else mcastMlaListAdd (fun _ => true) mcastList (addrOf i)) = some mcastList' ∧
        ∀ addr, addr ∈ mcastList' ↔ addr ∈ mcastList ∨ skip i = false ∧ addrOf i = addr := by
      cases hskip : skip i with
      | true => exact ⟨mcastList, rfl, by simp⟩
      | false =>
        by_cases hmem : addrOf i ∈ mcastList
        · refine ⟨mcastList, ?_, fun addr => ?_⟩
          · simp [mcastMlaListAdd, mcastMlaIsDuplicate_iff.2 hmem]
          · have : addrOf i = addr → addr ∈ mcastList := fun h => h ▸ hmem
            tauto
        · refine ⟨addrOf i :: mcastList, ?_, fun addr => ?_⟩
          · simp [mcastMlaListAdd, mcastMlaIsDuplicate_iff, hmem]
          · simp [or_comm, eq_comm]
    obtain ⟨mcastList₁, h₁, hmem₁⟩ := hstep
    obtain ⟨mcastList₂, h₂, hmem₂⟩ := ih mcastList₁
    refine ⟨mcastList₂, ?_, fun addr => ?_⟩
    · rw [List.foldlM_cons, h₁]
      exact h₂
    · rw [hmem₂, hmem₁, or_assoc]
      simp

/-- The addresses of the IPv4 groups of the mesh interface. -/
lemma exists_mcastMlaMeshifGetIpv4 (dev : McastDev) (mcastList : List EthAddr) :
    ∃ mcastList', mcastMlaMeshifGetIpv4 (fun _ => true) dev mcastList (mcastMlaFlagsGet dev) =
        some mcastList' ∧
      ∀ addr, addr ∈ mcastList' ↔ addr ∈ mcastList ∨
        ∃ ip ∈ (dev.inDev.map InDevice.mcList).getD [],
          dev.covers (.ip4 ip) = false ∧ ipEthMcMap ip = addr := by
  have hcovers (ip : U32) : dev.covers (.ip4 ip) =
      (mcastHas MCAST_WANT_ALL_IPV4 (mcastMlaFlagsGet dev).tvlvFlags ||
        mcastMlaSkipIpv4 (mcastMlaFlagsGet dev).tvlvFlags ip) := covers_eq dev (.ip4 ip)
  unfold mcastMlaMeshifGetIpv4
  cases hall : mcastHas MCAST_WANT_ALL_IPV4 (mcastMlaFlagsGet dev).tvlvFlags with
  | true => exact ⟨mcastList, rfl, by simp [hcovers, hall]⟩
  | false =>
    simp only [hcovers, hall, Bool.false_or, Bool.false_eq_true, if_false]
    cases dev.inDev with
    | none => exact ⟨mcastList, rfl, by simp⟩
    | some inDev => exact exists_foldlM_mcastMlaListAdd _ _ _ _

/-- The addresses of the IPv6 groups of the mesh interface. -/
lemma exists_mcastMlaMeshifGetIpv6 (dev : McastDev) (mcastList : List EthAddr) :
    ∃ mcastList', mcastMlaMeshifGetIpv6 (fun _ => true) dev mcastList (mcastMlaFlagsGet dev) =
        some mcastList' ∧
      ∀ addr, addr ∈ mcastList' ↔ addr ∈ mcastList ∨
        ∃ ip ∈ (dev.in6Dev.map Inet6Dev.mcList).getD [],
          ((McastGroup.ip6 ip).nodeLocal || dev.covers (.ip6 ip)) = false ∧
            ipv6EthMcMap ip = addr := by
  have hcovers (ip : BitVec 128) : dev.covers (.ip6 ip) =
      (mcastHas MCAST_WANT_ALL_IPV6 (mcastMlaFlagsGet dev).tvlvFlags ||
        mcastMlaSkipIpv6 (mcastMlaFlagsGet dev).tvlvFlags ip) := covers_eq dev (.ip6 ip)
  unfold mcastMlaMeshifGetIpv6
  cases hall : mcastHas MCAST_WANT_ALL_IPV6 (mcastMlaFlagsGet dev).tvlvFlags with
  | true => exact ⟨mcastList, rfl, by simp [hcovers, hall]⟩
  | false =>
    simp only [hcovers, hall, Bool.false_or, Bool.false_eq_true, if_false]
    cases dev.in6Dev with
    | none => exact ⟨mcastList, rfl, by simp⟩
    | some in6Dev =>
      have hskip : (fun (mcastList : List EthAddr) (ip : BitVec 128) =>
          if (ipv6AddrMcScope ip).toNat < IPV6_ADDR_SCOPE_LINKLOCAL.toNat then some mcastList
          else if mcastMlaSkipIpv6 (mcastMlaFlagsGet dev).tvlvFlags ip then some mcastList
          else mcastMlaListAdd (fun _ => true) mcastList (ipv6EthMcMap ip)) =
        fun mcastList ip =>
          if (McastGroup.ip6 ip).nodeLocal || mcastMlaSkipIpv6 (mcastMlaFlagsGet dev).tvlvFlags ip
          then some mcastList
          else mcastMlaListAdd (fun _ => true) mcastList (ipv6EthMcMap ip) := by
        funext mcastList ip
        by_cases h : (ipv6AddrMcScope ip).toNat < IPV6_ADDR_SCOPE_LINKLOCAL.toNat <;>
          simp [McastGroup.nodeLocal, h]
      simp only [hskip]
      exact exists_foldlM_mcastMlaListAdd _ _ _ _

/-- The addresses of the mesh interface: those of the groups that were joined, do not stay on the
node, and are not covered. -/
lemma exists_mcastMlaMeshifGet (dev : McastDev) (mcastList : List EthAddr) :
    ∃ mcastList', mcastMlaMeshifGet (fun _ => true) dev mcastList (mcastMlaFlagsGet dev) =
        some mcastList' ∧
      ∀ addr, addr ∈ mcastList' ↔ addr ∈ mcastList ∨
        ∃ g ∈ dev.joined, (g.nodeLocal || dev.covers g) = false ∧ g.hDest = addr := by
  obtain ⟨mcastList₁, h₁, hmem₁⟩ := exists_mcastMlaMeshifGetIpv4 dev mcastList
  obtain ⟨mcastList₂, h₂, hmem₂⟩ := exists_mcastMlaMeshifGetIpv6 dev mcastList₁
  refine ⟨mcastList₂, ?_, fun addr => ?_⟩
  · rw [mcastMlaMeshifGet, h₁]
    exact h₂
  · rw [hmem₂, hmem₁, or_assoc]
    simp only [McastDev.joined, List.mem_append, List.mem_map]
    grind [McastGroup.hDest, McastGroup.nodeLocal]

/-- The addresses of the listeners behind a bridge. -/
lemma exists_mcastMlaBridgeGet {dev : McastDev} (hlisted : dev.Listed) (mcastList : List EthAddr) :
    ∃ mcastList', mcastMlaBridgeGet (fun _ => true) dev mcastList (mcastMlaFlagsGet dev) =
        some mcastList' ∧
      ∀ addr ≠ 0, addr ∈ mcastList' ↔ addr ∈ mcastList ∨
        ∃ g ∈ dev.listened, dev.covers g = false ∧ g.hDest = addr := by
  have hcovers (g : McastGroup) :
      dev.covers g = mcastMlaBridgeSkip (mcastMlaFlagsGet dev).tvlvFlags
        (match g with | .ip4 ip => .ip4 ip | .ip6 ip => .ip6 ip) := by
    rw [covers_eq]
    cases g <;> rfl
  simp only [hcovers, McastDev.listened]
  unfold mcastMlaBridgeGet
  cases hbridge : dev.bridge with
  | none => exact ⟨mcastList, rfl, by simp⟩
  | some bridge =>
    obtain ⟨listeners, hlisteners⟩ := Option.isSome_iff_exists.1 (hlisted bridge hbridge)
    obtain ⟨mcastList', h, hmem⟩ := exists_foldlM_mcastMlaListAdd
      (mcastMlaBridgeSkip (mcastMlaFlagsGet dev).tvlvFlags) mcastMlaBrAddrCpy listeners mcastList
    refine ⟨mcastList', ?_, fun addr haddr => ?_⟩
    · simp only [hlisteners]
      exact h
    · rw [hmem]
      simp only [Option.bind_some, hlisteners, Option.getD_some, List.mem_filterMap]
      refine or_congr_right ⟨?_, ?_⟩
      · rintro ⟨brIp, hbrIp, hskip, rfl⟩
        cases brIp with
        | ip4 ip => exact ⟨.ip4 ip, ⟨_, hbrIp, rfl⟩, hskip, rfl⟩
        | ip6 ip => exact ⟨.ip6 ip, ⟨_, hbrIp, rfl⟩, hskip, rfl⟩
        -- nobody sends to the zero address
        | other => exact absurd rfl haddr
      · rintro ⟨g, ⟨brIp, hbrIp, hg⟩, hskip, rfl⟩
        refine ⟨brIp, hbrIp, ?_⟩
        cases brIp with
        | ip4 ip => cases hg; exact ⟨hskip, rfl⟩
        | ip6 ip => cases hg; exact ⟨hskip, rfl⟩
        | other => cases hg

lemma mem_mcastMlaTtRetract {addr : EthAddr} {mlaList mcastList : List EthAddr} :
    addr ∈ mcastMlaTtRetract mlaList mcastList ↔ addr ∈ mlaList ∧ addr ∈ mcastList := by
  simp [mcastMlaTtRetract, mcastMlaIsDuplicate_iff]

lemma mem_mcastMlaTtAdd {ttLocalAdd : EthAddr → Bool} {addr : EthAddr}
    {mlaList mcastList : List EthAddr} :
    addr ∈ mcastMlaTtAdd ttLocalAdd mlaList mcastList ↔
      addr ∈ mlaList ∨ addr ∈ mcastList ∧ ttLocalAdd addr = true := by
  induction mcastList generalizing mlaList with
  | nil => simp [mcastMlaTtAdd]
  | cons addr' mcastList ih =>
    have hcons : mcastMlaTtAdd ttLocalAdd mlaList (addr' :: mcastList) =
        mcastMlaTtAdd ttLocalAdd
          (if mcastMlaIsDuplicate addr' mlaList then mlaList
            else if !ttLocalAdd addr' then mlaList else addr' :: mlaList) mcastList := rfl
    rw [hcons, ih]
    split
    · rename_i hdup
      have := mcastMlaIsDuplicate_iff.1 hdup
      grind
    · cases hadd : ttLocalAdd addr' <;> simp <;> grind

/-! ### What is announced, as it is computed -/

/-- Groups with one address are of one protocol. -/
lemma wantsAll_eq_of_hDest_eq {g g' : McastGroup} (dev : McastDev) (h : g'.hDest = g.hDest) :
    dev.wantsAll g' = dev.wantsAll g ∧ dev.hasRouter g' = dev.hasRouter g := by
  have hbit := (getLsbD_hDest g').2
  rw [h, (getLsbD_hDest g).2] at hbit
  cases g <;> cases g' <;> simp at hbit <;> exact ⟨rfl, rfl⟩

/-- What is announced, where there is memory for all addresses. -/
lemma exists_mcastMlaUpdate {dev : McastDev} (hlisted : dev.Listed)
    (ttLocalAdd : EthAddr → Bool) (mla : McastMla) :
    ∃ mcastList, mcastMlaUpdate (fun _ => true) ttLocalAdd dev mla =
        ⟨mcastMlaTtAdd ttLocalAdd (mcastMlaTtRetract mla.mlaList mcastList) mcastList,
          mcastMlaFlagsGet dev⟩ ∧
      ∀ g : McastGroup, g.hDest ∈ mcastList ↔ ∃ g' ∈ dev.announced, g'.hDest = g.hDest := by
  obtain ⟨mcastList₁, h₁, hmem₁⟩ := exists_mcastMlaMeshifGet dev []
  obtain ⟨mcastList₂, h₂, hmem₂⟩ := exists_mcastMlaBridgeGet hlisted mcastList₁
  refine ⟨mcastList₂, by simp only [mcastMlaUpdate, h₁, h₂], fun g => ?_⟩
  rw [hmem₂ _ (hDest_ne_zero g), hmem₁]
  simp only [McastDev.announced, List.mem_filter, List.mem_append, List.not_mem_nil, false_or,
    Bool.not_eq_true']
  grind

lemma mlaFlags_mcastMlaUpdate {dev : McastDev} (hlisted : dev.Listed)
    (ttLocalAdd : EthAddr → Bool) (mla : McastMla) :
    (mcastMlaUpdate (fun _ => true) ttLocalAdd dev mla).mlaFlags = mcastMlaFlagsGet dev := by
  obtain ⟨mcastList, hupdate, -⟩ := exists_mcastMlaUpdate hlisted ttLocalAdd mla
  rw [hupdate]

/-- **The addresses that are announced in the translation table** are those of the announced groups,
as far as the table accepts them or has them already. -/
theorem mem_mcastMlaUpdate_iff {dev : McastDev} (hlisted : dev.Listed)
    (ttLocalAdd : EthAddr → Bool) (mla : McastMla) (g : McastGroup) :
    g.hDest ∈ (mcastMlaUpdate (fun _ => true) ttLocalAdd dev mla).mlaList ↔
      (∃ g' ∈ dev.announced, g'.hDest = g.hDest) ∧
        (g.hDest ∈ mla.mlaList ∨ ttLocalAdd g.hDest = true) := by
  obtain ⟨mcastList, hupdate, hmem⟩ := exists_mcastMlaUpdate hlisted ttLocalAdd mla
  rw [hupdate, mem_mcastMlaTtAdd, mem_mcastMlaTtRetract, ← hmem]
  tauto

end Batadv
