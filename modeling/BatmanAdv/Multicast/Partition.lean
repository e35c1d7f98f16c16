import BatmanAdv.Lib.Grouping
import BatmanAdv.Multicast.Forward

set_option relaxedAutoImplicit false
set_option autoImplicit false

/-!
# The copies of a multicast packet partition its destinations

Each turn of the loop of `batadv_mcast_forw_packet` that finds a destination with a router sends a
copy with the destinations that have the same next hop, and leaves the others to the turns behind
it.  What is left over are the destinations that nobody can be reached for, among them the
addresses of the node itself: that is how it sees that the packet is for it as well.

## Main definitions

* `Batadv.McastForwEnv.nextHop` — the next hop of a destination.

## Main results

* `Batadv.mcastForwLoop_spec` — the loop sends the groups of the destinations by their next hops.
* `Batadv.mcast_forw_packet_partition` — one copy for each next hop, with its destinations.
* `Batadv.McastSkb.Padded.listing` — a copy is padded again, and has the payload of the packet.
-/

namespace Batadv

variable {env : McastForwEnv} {skb : McastSkb}

/-- The next hop of a destination that is neither zero nor a group address nor the node's own. -/
def McastForwEnv.nextHop (env : McastForwEnv) (dest : EthAddr) : Option EthAddr :=
  if isZeroEtherAddr dest || isMulticastEtherAddr dest || env.isMyMac dest then none
  else (env.origToRouter dest).map NeighKey.addr

/-! ### One destination -/

lemma nextHop_of_zero {dest : EthAddr} (h : isZeroEtherAddr dest = true) :
    env.nextHop dest = none := by
  simp [McastForwEnv.nextHop, h]

lemma nextHop_of_multicast {dest : EthAddr} (h : isMulticastEtherAddr dest = true) :
    env.nextHop dest = none := by
  simp [McastForwEnv.nextHop, h]

/-- A destination with a next hop is left in the list. -/
lemma isZero_of_nextHop {dest h : EthAddr} (hnext : env.nextHop dest = some h) :
    isZeroEtherAddr dest = false := by
  by_contra hzero
  rw [nextHop_of_zero (by simpa using hzero)] at hnext
  cases hnext

/-- Where the node's own addresses have no router, the next hop is that of the router. -/
lemma nextHop_of_unicast (hrouter : ∀ a, env.isMyMac a = true → env.origToRouter a = none)
    {dest : EthAddr} (hzero : isZeroEtherAddr dest = false)
    (hmulticast : isMulticastEtherAddr dest = false) :
    env.nextHop dest = (env.origToRouter dest).map NeighKey.addr := by
  unfold McastForwEnv.nextHop
  rw [hzero, hmulticast]
  cases hown : env.isMyMac dest with
  | true => simp [hrouter dest hown]
  | false => simp

/-- What scrubbing does to a destination: in the copy it stays if its next hop is the copy's. -/
lemma mcastForwScrubDest_snd (hrouter : ∀ a, env.isMyMac a = true → env.origToRouter a = none)
    (compNeigh : NeighKey) (dest : EthAddr) :
    (mcastForwScrubDest env compNeigh dest dest).2 =
      if env.nextHop dest = some compNeigh.addr then dest else 0 := by
  unfold mcastForwScrubDest
  cases hzero : isZeroEtherAddr dest with
  | true =>
    rw [isZeroEtherAddr, beq_iff_eq] at hzero
    simp [hzero]
  | false =>
    cases hmulticast : isMulticastEtherAddr dest with
    | true => simp [nextHop_of_multicast hmulticast]
    | false =>
      rw [nextHop_of_unicast hrouter hzero hmulticast]
      cases hrt : env.origToRouter dest with
      | none => simp
      | some nextNeigh =>
        by_cases haddr : nextNeigh.addr = compNeigh.addr
        · simp [haddr]
        · simp [haddr]

/-- In the packet the destinations with the next hop of the copy lose it. -/
lemma mcastForwScrubDest_fst_eq_zero
    (hrouter : ∀ a, env.isMyMac a = true → env.origToRouter a = none) {compNeigh : NeighKey}
    {dest : EthAddr} (h : env.nextHop dest = some compNeigh.addr) :
    (mcastForwScrubDest env compNeigh dest dest).1 = 0 := by
  have hzero := isZero_of_nextHop h
  unfold mcastForwScrubDest
  cases hmulticast : isMulticastEtherAddr dest with
  | true => simp [hzero]
  | false =>
    rw [nextHop_of_unicast hrouter hzero hmulticast, Option.map_eq_some_iff] at h
    obtain ⟨nextNeigh, hrt, haddr⟩ := h
    simp [hzero, hrt, haddr]

/-- The other unicast destinations stay. -/
lemma mcastForwScrubDest_fst_eq_self
    (hrouter : ∀ a, env.isMyMac a = true → env.origToRouter a = none) {compNeigh : NeighKey}
    {dest : EthAddr} (hmulticast : isMulticastEtherAddr dest = false)
    (h : env.nextHop dest ≠ some compNeigh.addr) :
    (mcastForwScrubDest env compNeigh dest dest).1 = dest := by
  unfold mcastForwScrubDest
  cases hzero : isZeroEtherAddr dest with
  | true => simp
  | false =>
    rw [nextHop_of_unicast hrouter hzero hmulticast] at h
    cases hrt : env.origToRouter dest with
    | none => simp [hmulticast]
    | some nextNeigh =>
      rw [hrt, Option.map_some, ne_eq, Option.some.injEq] at h
      simp [hmulticast, h]

/-- A multicast destination is zeroed. -/
lemma mcastForwScrubDest_fst_of_multicast {compNeigh : NeighKey} {dest : EthAddr}
    (hmulticast : isMulticastEtherAddr dest = true) :
    (mcastForwScrubDest env compNeigh dest dest).1 = 0 := by
  have hzero : isZeroEtherAddr dest = false := by
    by_contra hzero
    simp only [isZeroEtherAddr, Bool.not_eq_false, beq_iff_eq] at hzero
    rw [hzero] at hmulticast
    revert hmulticast
    decide
  simp [mcastForwScrubDest, hmulticast, hzero]

/-- The node's own addresses are unicast addresses. -/
lemma isMyMac_unicast {addr : EthAddr} (h : env.isMyMac addr = true) :
    isZeroEtherAddr addr = false ∧ isMulticastEtherAddr addr = false := by
  have hvalid := env.isMyMac_valid addr h
  rw [isValidEtherAddr, Bool.and_eq_true, Bool.not_eq_true', Bool.not_eq_true'] at hvalid
  exact ⟨hvalid.2, hvalid.1⟩

/-- Scrubbing leaves the node's own addresses in the packet, and makes no others. -/
lemma isMyMac_mcastForwScrubDest_fst
    (hrouter : ∀ a, env.isMyMac a = true → env.origToRouter a = none) (compNeigh : NeighKey)
    (dest : EthAddr) :
    env.isMyMac (mcastForwScrubDest env compNeigh dest dest).1 = env.isMyMac dest := by
  have hzero : env.isMyMac 0 = false := by
    by_contra hown
    have hnot := (isMyMac_unicast (by simpa using hown)).1
    revert hnot
    decide
  cases hown : env.isMyMac dest with
  | true =>
    have hunicast := isMyMac_unicast hown
    have hnone : env.nextHop dest ≠ some compNeigh.addr := by
      rw [nextHop_of_unicast hrouter hunicast.1 hunicast.2, hrouter dest hown]
      simp
    rw [mcastForwScrubDest_fst_eq_self hrouter hunicast.2 hnone, hown]
  | false =>
    cases hmulticast : isMulticastEtherAddr dest with
    | true => rw [mcastForwScrubDest_fst_of_multicast hmulticast, hzero]
    | false =>
      by_cases hnext : env.nextHop dest = some compNeigh.addr
      · rw [mcastForwScrubDest_fst_eq_zero hrouter hnext, hzero]
      · rw [mcastForwScrubDest_fst_eq_self hrouter hmulticast hnext, hown]

/-! ### The destinations behind the first one -/

/-- What is left in the copy. -/
lemma mcastDestsLeft_scrubbed (hrouter : ∀ a, env.isMyMac a = true → env.origToRouter a = none)
    (compNeigh : NeighKey) (dests : List EthAddr) :
    mcastDestsLeft (dests.map fun dest => (mcastForwScrubDest env compNeigh dest dest).2) =
      dests.filter fun dest => env.nextHop dest = some compNeigh.addr := by
  unfold mcastDestsLeft
  induction dests with
  | nil => rfl
  | cons dest dests ih =>
    rw [List.map_cons, mcastForwScrubDest_snd hrouter, List.filter_cons, List.filter_cons, ih]
    by_cases hnext : env.nextHop dest = some compNeigh.addr
    · simp [hnext, isZero_of_nextHop hnext]
    · simp [hnext, isZeroEtherAddr]

/-- What is left in the packet has the groups that are not yet sent. -/
lemma groups_scrubbed (hrouter : ∀ a, env.isMyMac a = true → env.origToRouter a = none)
    (compNeigh : NeighKey) (dests : List EthAddr) :
    Grouping.groups env.nextHop
        (dests.map fun dest => (mcastForwScrubDest env compNeigh dest dest).1) =
      Grouping.groups env.nextHop
        (dests.filter fun dest => env.nextHop dest ≠ some compNeigh.addr) := by
  have hzero : env.nextHop 0 = none := nextHop_of_zero (by decide)
  refine Grouping.groups_map _ (fun dest _ hnext => ?_) (fun dest _ hsome hnext => ?_)
    fun dest _ hnone => ?_
  · rw [mcastForwScrubDest_fst_eq_zero hrouter hnext, hzero]
  · refine mcastForwScrubDest_fst_eq_self hrouter ?_ hnext
    by_contra hmulticast
    rw [nextHop_of_multicast (by simpa using hmulticast)] at hsome
    cases hsome
  · cases hmulticast : isMulticastEtherAddr dest with
    | true => rw [mcastForwScrubDest_fst_of_multicast hmulticast, hzero]
    | false =>
      rw [mcastForwScrubDest_fst_eq_self hrouter hmulticast (by simp [hnone]), hnone]

/-! ### The loop -/

/-- **The loop** sends the groups of the destinations by their next hops, and finds the addresses of
the node.

**Proof sketch.** Induction on the number of destinations that are left, with everything in front of
them zeroed.  A destination without a next hop is in no group.  Otherwise the copy lists its group,
and by `groups_scrubbed` the destinations that are left have the other groups. -/
theorem mcastForwLoop_spec (hrouter : ∀ a, env.isMyMac a = true → env.origToRouter a = none)
    (hcopy : ∀ n, env.skbCopy n = true) (hsend : ∀ n, 0 ≤ env.sendUnicastSkb n)
    (hwf : skb.WellFormed) {n : ℕ} {before dests : List EthAddr} (hlen : dests.length = n)
    (hskb : before.length + n = skb.dests.length) (hbefore : mcastDestsLeft before = [])
    (out : McastForwOut) :
    (mcastForwLoop env skb n before dests out).error = out.error ∧
      (mcastForwLoop env skb n before dests out).localRecv =
        (out.localRecv || dests.any env.isMyMac) ∧
      (mcastForwLoop env skb n before dests out).sent.map (fun c => (c.2.addr, c.1)) =
        out.sent.map (fun c => (c.2.addr, c.1)) ++
          (Grouping.groups env.nextHop dests).map fun g => (g.1, (skb.listing g.2).bytes) := by
  induction n generalizing before dests out with
  | zero =>
    rw [List.length_eq_zero_iff] at hlen
    subst hlen
    simp [mcastForwLoop]
  | succ n ih =>
    obtain ⟨dest, dests, rfl⟩ := List.exists_cons_of_length_eq_add_one hlen
    have hlen' : dests.length = n := Nat.succ.inj hlen
    have hskb' (d : EthAddr) : (before ++ [d]).length + n = skb.dests.length := by
      rw [List.length_append, List.length_singleton]
      omega
    have hbefore' {d : EthAddr} (hd : isZeroEtherAddr d = true) :
        mcastDestsLeft (before ++ [d]) = [] := by
      unfold mcastDestsLeft at hbefore ⊢
      rw [List.filter_append, hbefore, List.filter_cons_of_neg (by simp [hd])]
      rfl
    have hnotMine {d : EthAddr} (hd : isZeroEtherAddr d = true ∨ isMulticastEtherAddr d = true) :
        env.isMyMac d = false := by
      by_contra hown
      have hunicast := isMyMac_unicast (by simpa using hown)
      rcases hd with hd | hd
      · simp [hd] at hunicast
      · simp [hd] at hunicast
    unfold mcastForwLoop
    cases hzero : isZeroEtherAddr dest with
    | true =>
      have hrest := ih hlen' (hskb' dest) (hbefore' hzero) out
      rw [Grouping.groups_cons_of_none (nextHop_of_zero hzero), List.any_cons,
        hnotMine (.inl hzero), Bool.false_or]
      exact hrest
    | false =>
      cases hmulticast : isMulticastEtherAddr dest with
      | true =>
        have hrest := ih hlen' (hskb' 0) (hbefore' (by decide)) out
        rw [Grouping.groups_cons_of_none (nextHop_of_multicast hmulticast), List.any_cons,
          hnotMine (.inr hmulticast), Bool.false_or]
        exact hrest
      | false =>
        have hnext := nextHop_of_unicast hrouter hzero hmulticast
        cases hown : env.isMyMac dest with
        | true =>
          rw [hrouter dest hown, Option.map_none] at hnext
          obtain ⟨herror, hlocal, hsent⟩ :=
            ih hlen' (hskb' 0) (hbefore' (by decide)) { out with localRecv := true }
          rw [Grouping.groups_cons_of_none hnext, List.any_cons, hown]
          exact ⟨herror, by simpa using hlocal, hsent⟩
        | false =>
          cases hrt : env.origToRouter dest with
          | none =>
            rw [hrt, Option.map_none] at hnext
            have hrest := ih hlen' (hskb' 0) (hbefore' (by decide)) out
            rw [Grouping.groups_cons_of_none hnext, List.any_cons, hown, Bool.false_or]
            simpa [hrt] using hrest
          | some neigh =>
            rw [hrt, Option.map_some] at hnext
            have hnosend : ¬env.sendUnicastSkb (n + 1) < 0 := not_lt.2 (hsend (n + 1))
            -- the copy, and what stays in the packet
            have hscrub : mcastForwScrubDests env neigh (dest :: dests) (dest :: dests) =
                (0 :: dests.map fun d => (mcastForwScrubDest env neigh d d).1,
                  dest :: dests.map fun d => (mcastForwScrubDest env neigh d d).2) := by
              simp [mcastForwScrubDests, List.zipWith_self, List.map_map, Function.comp_def]
            have hleft : mcastDestsLeft (before ++ dest ::
                dests.map fun d => (mcastForwScrubDest env neigh d d).2) =
                  dest :: dests.filter fun d => env.nextHop d = some neigh.addr := by
              have hscrubbed := mcastDestsLeft_scrubbed hrouter neigh dests
              unfold mcastDestsLeft at hbefore hscrubbed ⊢
              rw [List.filter_append, hbefore, List.filter_cons_of_pos (by simp [hzero]), hscrubbed]
              rfl
            have hsame : (before ++ dest ::
                dests.map fun d => (mcastForwScrubDest env neigh d d).2).length =
                  skb.dests.length := by
              rw [List.length_append, List.length_cons, List.length_map, hlen', hskb]
            have hshrunk := mcastForwShrinkTracker_eq (hwf.of_length hsame)
            rw [hleft, McastSkb.listing_dests] at hshrunk
            have hlenScrubbed : (dests.map fun d =>
                (mcastForwScrubDest env neigh d d).1).length = n := by
              rw [List.length_map, hlen']
            obtain ⟨herror, hlocal, hsent⟩ := ih hlenScrubbed (hskb' 0) (hbefore' (by decide))
              { out with
                sent := out.sent ++ [((skb.listing (dest :: dests.filter fun d =>
                  env.nextHop d = some neigh.addr)).bytes, neigh)] }
            simp only [Bool.false_eq_true, if_false, hcopy, Bool.not_true, hnosend, hscrub,
              List.tail_cons, hshrunk]
            refine ⟨herror, ?_, ?_⟩
            · rw [hlocal, List.any_cons, hown, Bool.false_or, List.any_map]
              congr 2
              funext d
              exact isMyMac_mcastForwScrubDest_fst hrouter neigh d
            · rw [hsent, groups_scrubbed hrouter, Grouping.groups_cons_of_some hnext]
              simp

/-! ### Forwarding a packet -/

/-- **The copies partition the destinations.**  A well formed packet is forwarded with one copy for
each next hop that one of its destinations has.  The copy lists the destinations that have this
next hop, in their order: none without a router, no group address and no zero is among them.  The
packet is delivered locally if one of the node's own addresses was listed. -/
theorem mcast_forw_packet_partition (env : McastForwEnv) (skb : McastSkb) (hwf : skb.WellFormed)
    (hcopy : ∀ n, env.skbCopy n = true) (hsend : ∀ n, 0 ≤ env.sendUnicastSkb n)
    (hrouter : ∀ a, env.isMyMac a = true → env.origToRouter a = none) :
    let sent := (mcastForwPacket env skb).1.sent
    (sent.map fun c => c.2.addr).Nodup ∧
      (∀ h, h ∈ sent.map (fun c => c.2.addr) ↔ ∃ dest ∈ skb.dests, env.nextHop dest = some h) ∧
      (∀ c ∈ sent, ∃ copy : McastSkb, c.1 = copy.bytes ∧ copy.pre = skb.pre ∧
        copy.between = skb.between ∧ copy.numDests.toNat = copy.dests.length ∧
        copy.dests = skb.dests.filter fun dest => env.nextHop dest = some c.2.addr) ∧
      ((mcastForwPacket env skb).2 = NET_RX_SUCCESS ↔
        ∃ dest ∈ skb.dests, env.isMyMac dest = true) := by
  have hlen : ([] : List EthAddr).length + skb.numDests.toNat = skb.dests.length := by
    rw [List.length_nil, hwf.numDests, Nat.zero_add]
  obtain ⟨herror, hlocal, hsent⟩ := mcastForwLoop_spec hrouter hcopy hsend hwf hwf.numDests.symm
    hlen rfl ⟨[], false, skb.dests, none⟩
  rw [List.map_nil, List.nil_append] at hsent
  have hheader : ¬(skb.networkHeaderLen < 0 ∨
      skb.networkHeaderLen < 2 + 6 * skb.numDests.toNat) := by
    have hle := hwf.networkHeader
    rw [hwf.numDests]
    omega
  have hpacket : mcastForwPacket env skb =
      let out := mcastForwLoop env skb skb.numDests.toNat [] skb.dests
        ⟨[], false, skb.dests, none⟩
      (out, if out.localRecv then NET_RX_SUCCESS else NET_RX_DROP) := by
    rw [mcastForwPacket, if_neg hheader]
    dsimp only
    rw [herror]
  rw [hpacket]
  dsimp only
  set out := mcastForwLoop env skb skb.numDests.toNat [] skb.dests ⟨[], false, skb.dests, none⟩
  have haddrs : out.sent.map (fun c => c.2.addr) =
      (Grouping.groups env.nextHop skb.dests).map Prod.fst := by
    have hfst := congrArg (List.map Prod.fst) hsent
    rwa [List.map_map, List.map_map] at hfst
  refine ⟨?_, fun h => ?_, fun c hc => ?_, ?_⟩
  · rw [haddrs]
    exact Grouping.nodup_keys skb.dests
  · rw [haddrs]
    exact Grouping.mem_keys
  · have hmem := List.mem_map_of_mem (f := fun c : List U8 × NeighKey => (c.2.addr, c.1)) hc
    rw [hsent, List.mem_map] at hmem
    obtain ⟨g, hg, heq⟩ := hmem
    obtain ⟨haddr, hbytes⟩ := Prod.mk.inj heq
    have hgroup := Grouping.mem_groups hg
    have hle : g.2.length ≤ skb.numDests.toNat := by
      rw [hgroup, hwf.numDests]
      exact List.length_filter_le _ _
    refine ⟨skb.listing g.2, hbytes.symm, skb.pre_listing g.2, skb.between_listing g.2, ?_, ?_⟩
    · rw [skb.dests_listing, McastSkb.numDests_listing hle]
    · rw [skb.dests_listing, hgroup, haddr]
  · rw [hlocal, Bool.false_or, List.any_eq_true.symm]
    cases skb.dests.any env.isMyMac with
    | true => simp
    | false => simp [NET_RX_SUCCESS, NET_RX_DROP]

/-- A packet with two destinations behind one neighbour, one behind another, an address of the node
itself, a repeated destination, a group address, a zero, and one that there is no router to. -/
def mcastForwSkb : McastSkb :=
  { pre := [0x05, 15, 50, 0]
    tvlvLen := 56
    between := [0x07, 1]
    trackerLen := 52
    numDests := 8
    dests := [0x020000000001, 0x020000000002, 0x020000000003, 0x020000000001, 0x01005e000001, 0,
      0x020000000009, 0x020000000004]
    rest := [0, 0, 0xAA, 0xBB]
    networkHeaderLen := 52 }

/-- The routers to three of its destinations. -/
def mcastForwRouter (dest : EthAddr) : Option NeighKey :=
  if dest = 0x020000000001 ∨ dest = 0x020000000003 then some ⟨0x020000000011, 0⟩
  else if dest = 0x020000000002 then some ⟨0x020000000012, 1⟩
  else none

/-- All calls succeed; the node has one interface. -/
def mcastForwTestEnv : McastForwEnv :=
  { isMyMac := fun addr => addr == 0x020000000009
    isMyMac_valid := fun addr h => by
      rw [beq_iff_eq] at h
      subst h
      decide
    origToRouter := mcastForwRouter
    skbCopy := fun _ => true
    sendUnicastSkb := fun _ => 0 }

theorem mcast_forw_packet_partition_two :
    let sent := (mcastForwPacket mcastForwTestEnv mcastForwSkb).1.sent
    (sent.map fun c => c.2.addr).Nodup ∧
      (∀ h, h ∈ sent.map (fun c => c.2.addr) ↔
        ∃ dest ∈ mcastForwSkb.dests, mcastForwTestEnv.nextHop dest = some h) ∧
      (∀ c ∈ sent, ∃ copy : McastSkb, c.1 = copy.bytes ∧ copy.pre = mcastForwSkb.pre ∧
        copy.between = mcastForwSkb.between ∧ copy.numDests.toNat = copy.dests.length ∧
        copy.dests = mcastForwSkb.dests.filter fun dest =>
          mcastForwTestEnv.nextHop dest = some c.2.addr) ∧
      ((mcastForwPacket mcastForwTestEnv mcastForwSkb).2 = NET_RX_SUCCESS ↔
        ∃ dest ∈ mcastForwSkb.dests, mcastForwTestEnv.isMyMac dest = true) :=
  mcast_forw_packet_partition mcastForwTestEnv mcastForwSkb
    ⟨by decide, by decide, by decide, by decide⟩ (fun _ => rfl) (fun _ => le_refl 0)
    fun a h => by
      have ha : a = 0x020000000009 := beq_iff_eq.1 h
      subst ha
      decide

/-- Two copies are sent, and the packet is delivered locally. -/
example :
    (mcastForwPacket mcastForwTestEnv mcastForwSkb).1.sent.map Prod.snd =
        [⟨0x020000000011, 0⟩, ⟨0x020000000012, 1⟩] ∧
      (mcastForwPacket mcastForwTestEnv mcastForwSkb).2 = NET_RX_SUCCESS := by
  decide +kernel

/-! ### Padding -/

/-- The padding behind a number of destinations, which aligns the payload. -/
def mcastPadding (numDests : ℕ) : List U8 := if numDests % 2 = 0 then [0, 0] else []

/-- The tracker TVLV is padded, and the payload follows it. -/
structure McastSkb.Padded (skb : McastSkb) (payload : List U8) : Prop where
  rest : skb.rest = mcastPadding skb.dests.length ++ payload
  trackerLen : skb.trackerLen.toNat =
    2 + 6 * skb.dests.length + (mcastPadding skb.dests.length).length

/-- **A copy is padded again**, and has the payload of the packet. -/
theorem McastSkb.Padded.listing {payload : List U8} (h : skb.Padded payload)
    (hwf : skb.WellFormed) {dests : List EthAddr} (hle : dests.length ≤ skb.dests.length) :
    (skb.listing dests).Padded payload := by
  have hlen := h.trackerLen
  have hrest := h.rest
  have hnum := hwf.numDests
  have hlt := skb.trackerLen.isLt
  obtain ⟨reduced, hreduced⟩ := Nat.exists_eq_add_of_le hle
  have hsub : skb.numDests.toNat - dests.length = reduced := by omega
  -- the length after `offset` was taken off it
  have htake {offset n : ℕ} (hn : n + offset = skb.trackerLen.toNat) :
      (skb.trackerLen - BitVec.ofNat 16 offset).toNat = n := by
    rw [BitVec.toNat_sub, BitVec.toNat_ofNat]
    omega
  unfold McastSkb.listing mcastForwShrinkUpdateHeaders mcastForwShrinkAlignOffset
  dsimp only
  rw [hsub, hnum]
  split_ifs with hzero heven hold
  · have hsame : dests.length = skb.dests.length := by omega
    exact ⟨by rw [hsame]; exact hrest, by rw [hsame]; exact hlen⟩
  · -- the padding stays as it is
    have hpad : mcastPadding dests.length = mcastPadding skb.dests.length := by
      unfold mcastPadding
      rw [hreduced, Nat.add_mod, heven, Nat.add_zero, Nat.mod_mod]
    have hoffset : (6 * (reduced : ℤ) + 0).toNat = 6 * reduced := by omega
    constructor
    · rw [hoffset, hpad, ← hrest, List.drop_left' List.length_replicate]
    · rw [hoffset]
      dsimp only
      rw [hpad]
      exact htake (by omega)
  · -- the padding is removed
    have hpad : mcastPadding skb.dests.length = [0, 0] := if_pos hold
    have hpad' : mcastPadding dests.length = [] := if_neg (by omega)
    have hoffset : (6 * (reduced : ℤ) + 2).toNat = 6 * reduced + 2 := by omega
    rw [hpad] at hrest hlen
    constructor
    · rw [hoffset, hpad', hrest, ← List.append_assoc, List.drop_left' (by simp), List.nil_append]
    · rw [hoffset, hpad']
      exact htake (by rw [hlen]; simp; omega)
  · -- two of the zeros are left as a padding
    have hpad : mcastPadding skb.dests.length = [] := if_neg hold
    have hpad' : mcastPadding dests.length = [0, 0] := if_pos (by omega)
    have hoffset : (6 * (reduced : ℤ) + -2).toNat = 6 * reduced - 2 := by omega
    rw [hpad] at hrest hlen
    constructor
    · have hzeros : List.replicate (6 * reduced) (0 : U8) =
          List.replicate (6 * reduced - 2) 0 ++ [0, 0] := by
        have hsplit : 6 * reduced = 6 * reduced - 2 + 2 := by omega
        conv_lhs => rw [hsplit, List.replicate_add]
        rfl
      rw [hoffset, hpad', hrest, hzeros, List.append_assoc, List.drop_left' List.length_replicate,
        List.nil_append]
    · rw [hoffset, hpad']
      exact htake (by rw [hlen]; simp; omega)

/-- The packet above is padded, and has two bytes of payload. -/
example : mcastForwSkb.Padded [0xAA, 0xBB] := ⟨rfl, rfl⟩

end Batadv
