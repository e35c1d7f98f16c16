import BatmanAdv.BatV.PathCost
import BatmanAdv.Routing.Receive

set_option relaxedAutoImplicit false
set_option autoImplicit false

/-!
# The time to live of forwarded packets

A copy that is forwarded should have been received with a time to live of at least 2, and should
carry one less.  Then a packet is forwarded at most 254 times, whatever loops the routing tables
contain.  Every path through the node obeys this but one: `batadv_frag_skb_fwd` decrements the
time to live of a fragment without looking at it.

## Main definitions

* `Batadv.TtlDiscipline` — all copies obey the rule.
* `Batadv.FragForwarded` — a fragment is forwarded without being merged.
* `Batadv.TtlSafe` — the frame is not a fragment that is forwarded with a time to live below 2.
* `Batadv.ForwardChain` — a packet is forwarded a number of times.

## Main results

* `Batadv.ttl_discipline_iff` — the rule is obeyed exactly by the safe frames, and along safe
  frames a packet is forwarded at most 254 times.
* `Batadv.frag_ttl_wraps` — a fragment with time to live 0 goes out with 255.
-/

namespace Batadv

variable {δ : Type*} {msecsToJiffies : ℕ → Jiffies} {node : RecvNode δ} {skb : Skb}

/-- Every copy of the packet was received with a time to live of at least 2, and carries exactly
one less. -/
def TtlDiscipline (packet : Packet) (copies : List (SendTo × Packet)) : Prop :=
  ∀ copy ∈ copies, 2 ≤ packet.ttl.toNat ∧ copy.2.ttl.toNat + 1 = packet.ttl.toNat

/-- A fragment that is forwarded without being merged: it is for this hop but not for this node,
its originator is known, and the merged packet would be too big for the way to the destination. -/
def FragForwarded (node : RecvNode δ) (skb : Skb) (h : FragHeader) : Prop :=
  checkUnicastPacket node skb 20 = true ∧ (origHashFind node.bat h.orig).isSome ∧
    isMyMac node.bat h.dest = false ∧
    ∃ neigh, origToRouter node h.dest = some neigh ∧
      node.mtu neigh.ifIncoming < h.totalSize.toNat

/-- The frame is not a fragment that is forwarded with a time to live below 2. -/
def TtlSafe (node : RecvNode δ) (skb : Skb) : Prop :=
  ∀ h payload, skb.packet = .frag h payload → FragForwarded node skb h → 2 ≤ h.ttl.toNat

/-! ### The single decrement -/

/-- A time to live of at least 2 is decremented without wrapping. -/
lemma toNat_ttl_sub_one {ttl : U8} (h : ¬ ttl < 2) :
    2 ≤ ttl.toNat ∧ (ttl - 1).toNat + 1 = ttl.toNat := by
  have hlt := ttl.isLt
  have hle : 2 ≤ ttl.toNat := Nat.not_lt.1 h
  refine ⟨hle, ?_⟩
  rw [BitVec.toNat_sub]
  simp only [BitVec.ofNat_eq_ofNat, BitVec.toNat_ofNat, Nat.reducePow, Nat.reduceMod]
  omega

/-! ### The paths through the node -/

/-- Routing a unicast packet obeys the rule, whatever packet the header belongs to. -/
lemma routeUnicastPacket_ttl {packet : Packet} {h : UnicastHeader}
    {rebuild : UnicastHeader → Packet} (httl : packet.ttl = h.ttl)
    (hrebuild : ∀ h', (rebuild h').ttl = h'.ttl) :
    TtlDiscipline packet (routeUnicastPacket node h rebuild) := by
  intro copy hmem
  simp only [routeUnicastPacket, List.mem_ite_nil_left] at hmem
  obtain ⟨hlow, hmem⟩ := hmem
  split at hmem
  · cases hmem
  · obtain ⟨-, hmem⟩ := List.mem_ite_nil_left.1 hmem
    rw [List.mem_singleton.1 hmem, hrebuild, httl]
    exact toNat_ttl_sub_one hlow

/-- Rerouting keeps the time to live. -/
lemma rerouteUnicastPacket_ttl {h h' : UnicastHeader} {dstAddr : EthAddr} {vid : U16}
    (hre : rerouteUnicastPacket node h dstAddr vid = some h') : h'.ttl = h.ttl := by
  unfold rerouteUnicastPacket at hre
  split at hre
  · obtain ⟨addr, -, rfl⟩ := Option.map_eq_some_iff.1 hre
    rfl
  · split at hre
    · cases hre
    · split at hre
      · cases hre
      · cases hre
        rfl

/-- The check of the translation table version keeps the time to live. -/
lemma checkUnicastTtvn_ttl {h h' : UnicastHeader} {inner : InnerFrame} {hdrLen : ℕ}
    (hck : checkUnicastTtvn node skb h inner hdrLen = some h') : h'.ttl = h.ttl := by
  unfold checkUnicastTtvn at hck
  split at hck
  · cases hck
  split at hck
  · cases hck
  split at hck
  · exact (Option.some.inj hck) ▸ rfl
  split at hck
  · -- the client is roaming: the packet is rerouted if possible
    cases hre : rerouteUnicastPacket node h inner.dest inner.vid with
    | none =>
      rw [hre] at hck
      exact (Option.some.inj hck) ▸ rfl
    | some h'' =>
      rw [hre] at hck
      exact (Option.some.inj hck) ▸ rerouteUnicastPacket_ttl hre
  split at hck
  · cases hck
  split at hck
  · exact (Option.some.inj hck) ▸ rfl
  split at hck
  · next hre => exact (Option.some.inj hck) ▸ rerouteUnicastPacket_ttl hre
  split at hck
  · cases hck
  · obtain ⟨addr, -, rfl⟩ := Option.map_eq_some_iff.1 hck
    rfl

/-- Unicast packets with and without four addresses. -/
lemma recvUnicastPacket_ttl {packet : Packet} {h : UnicastHeader} {inner : InnerFrame}
    {hdrSize : ℕ} {rebuild : UnicastHeader → Packet} (httl : packet.ttl = h.ttl)
    (hrebuild : ∀ h', (rebuild h').ttl = h'.ttl) :
    TtlDiscipline packet (recvUnicastPacket node skb h inner hdrSize rebuild) := by
  intro copy hmem
  simp only [recvUnicastPacket, List.mem_ite_nil_left] at hmem
  obtain ⟨-, hmem⟩ := hmem
  split at hmem
  · cases hmem
  · next h' hck =>
    obtain ⟨-, hmem⟩ := List.mem_ite_nil_left.1 hmem
    exact routeUnicastPacket_ttl (httl.trans (checkUnicastTtvn_ttl hck).symm) hrebuild copy hmem

/-- Packets of the unicast range that no handler knows. -/
lemma recvUnhandledUnicastPacket_ttl (packetType : U8) (h : UnicastHeader) :
    TtlDiscipline (.unhandledUnicast packetType h)
      (recvUnhandledUnicastPacket node skb packetType h) := by
  intro copy hmem
  simp only [recvUnhandledUnicastPacket, List.mem_ite_nil_left] at hmem
  exact routeUnicastPacket_ttl rfl (fun _ => rfl) copy hmem.2.2

/-- Unicast TVLV packets. -/
lemma recvUnicastTvlv_ttl (h : UnicastHeader) (src : EthAddr) (tvlvLen : U16) (tvlv : List U8) :
    TtlDiscipline (.unicastTvlv h src tvlvLen tvlv)
      (recvUnicastTvlv node skb h src tvlvLen tvlv) := by
  intro copy hmem
  simp only [recvUnicastTvlv, List.mem_ite_nil_left] at hmem
  exact routeUnicastPacket_ttl rfl (fun _ => rfl) copy hmem.2.2.2.2

/-- Adding the route record keeps the time to live. -/
lemma icmpAddRecord_ttl {h h' : IcmpHeader} (hadd : icmpAddRecord node skb h = some h') :
    h'.ttl = h.ttl := by
  unfold icmpAddRecord at hadd
  split at hadd
  · split at hadd
    · cases hadd
    split at hadd
    · cases hadd
    · exact (Option.some.inj hadd) ▸ rfl
  · exact (Option.some.inj hadd) ▸ rfl

/-- ICMP packets. -/
lemma recvIcmpPacket_ttl (h : IcmpHeader) :
    TtlDiscipline (.icmp h) (recvIcmpPacket node skb h) := by
  intro copy hmem
  simp only [recvIcmpPacket, List.mem_ite_nil_left] at hmem
  obtain ⟨-, hmem⟩ := hmem
  split at hmem
  · cases hmem
  · next h' hadd =>
    simp only [List.mem_ite_nil_left] at hmem
    obtain ⟨-, hlow, -, -, hmem⟩ := hmem
    rw [List.mem_singleton.1 hmem]
    rw [icmpAddRecord_ttl hadd] at hlow
    simp only [Packet.ttl, icmpAddRecord_ttl hadd]
    exact toNat_ttl_sub_one hlow

/-- All copies of a broadcast are of the packet that was to be sent. -/
lemma mem_forwBcastPacket {h : BcastHeader} {packet : Packet} {outs : List HardIface}
    {copy : SendTo × Packet} (hmem : copy ∈ forwBcastPacket node skb h packet outs) :
    copy.2 = packet := by
  have hone : ∀ {out copies busy}, forwBcastPacketIf node packet out = (copies, busy) →
      ∀ c ∈ copies, c.2 = packet := by
    intro out copies busy heq c hc
    unfold forwBcastPacketIf at heq
    dsimp only at heq
    split at heq
    · cases heq
      cases hc
    split at heq
    · cases heq
      rw [List.mem_singleton.1 hc]
    split at heq
    · cases heq
      rw [List.mem_singleton.1 hc]
    · cases heq
      rw [List.eq_of_mem_replicate hc]
  induction outs with
  | nil => cases hmem
  | cons out outs ih =>
    rw [forwBcastPacket] at hmem
    split at hmem
    · exact ih hmem
    · split at hmem
      · next heq => exact hone heq _ hmem
      · next heq =>
        rcases List.mem_append.1 hmem with hmem | hmem
        · exact hone heq _ hmem
        · exact ih hmem

/-- Broadcast packets. -/
lemma recvBcastPacket_ttl (h : BcastHeader) (inner : InnerFrame) :
    TtlDiscipline (.bcast h inner) (recvBcastPacket msecsToJiffies node skb h inner) := by
  intro copy hmem
  simp only [recvBcastPacket, List.mem_ite_nil_left] at hmem
  obtain ⟨-, -, -, -, -, hlow, -, -, -, -, hmem⟩ := hmem
  rw [mem_forwBcastPacket hmem]
  exact toNat_ttl_sub_one hlow

/-- Multicast packets. -/
lemma recvMcastPacket_ttl (h : McastHeader) :
    TtlDiscipline (.mcast h) (recvMcastPacket node skb h) := by
  intro copy hmem
  simp only [recvMcastPacket, List.mem_ite_nil_left] at hmem
  obtain ⟨-, -, hlow, -, hmem⟩ := hmem
  obtain ⟨c, -, rfl⟩ := List.mem_map.1 hmem
  exact toNat_ttl_sub_one hlow

/-- OGM2 packets. -/
lemma recvOgm2_ttl [Inhabited δ] (ogm : Ogm2Packet) :
    TtlDiscipline (.ogm2 ogm) (recvOgm2 msecsToJiffies node skb ogm) := by
  intro copy hmem
  simp only [recvOgm2, List.mem_ite_nil_left] at hmem
  obtain ⟨-, -, -, -, hmem⟩ := hmem
  obtain ⟨q, hq, rfl⟩ := List.mem_map.1 hmem
  obtain ⟨-, out, -, httl, -, rfl⟩ := vOgmProcess_forwarded hq
  have hle : 2 ≤ ogm.ttl.toNat := BitVec.lt_def.1 httl
  have hlow : ¬ ogm.ttl < 2 := Nat.not_lt.2 hle
  exact toNat_ttl_sub_one hlow

/-- A fragment obeys the rule exactly when it is not forwarded or its time to live is at least 2:
nothing else on the way looks at the time to live. -/
lemma recvFragPacket_ttl_iff (h : FragHeader) (payload : List U8) :
    TtlDiscipline (.frag h payload) (recvFragPacket node skb h payload) ↔
      (FragForwarded node skb h → 2 ≤ h.ttl.toNat) := by
  constructor
  · rintro hrule ⟨hcheck, horig, hmine, neigh, hrouter, hbig⟩
    obtain ⟨orig, horig⟩ := Option.isSome_iff_exists.1 horig
    refine (hrule (.neigh neigh, .frag { h with ttl := h.ttl - 1 } payload) ?_).1
    simp [recvFragPacket, hcheck, horig, hmine, fragSkbFwd, hrouter, hbig]
  · intro hsafe copy hmem
    simp only [recvFragPacket, List.mem_ite_nil_left, Bool.not_eq_true', Bool.not_eq_false,
      Bool.not_eq_true, Option.isNone_eq_false_iff] at hmem
    obtain ⟨hcheck, horig, hmine, hmem⟩ := hmem
    unfold fragSkbFwd at hmem
    split at hmem
    · cases hmem
    · next neigh hrouter =>
      split at hmem
      · next hbig =>
        have hle := hsafe ⟨hcheck, horig, hmine, neigh, hrouter, hbig⟩
        rw [List.mem_singleton.1 hmem]
        have hlow : ¬ h.ttl < 2 := Nat.not_lt.2 hle
        exact toNat_ttl_sub_one hlow
      · cases hmem

/-- **The rule is obeyed exactly by the safe frames.** -/
lemma ttlDiscipline_batmanSkbRecv_iff [Inhabited δ] :
    TtlDiscipline skb.packet (batmanSkbRecv msecsToJiffies node skb) ↔ TtlSafe node skb := by
  unfold batmanSkbRecv TtlSafe
  cases skb.packet with
  | frag h payload =>
    refine (recvFragPacket_ttl_iff h payload).trans ⟨?_, fun hs => hs h payload rfl⟩
    rintro hs h' payload' heq
    cases heq
    exact hs
  | unicast h inner =>
    exact ⟨fun _ _ _ heq => (nomatch heq),
      fun _ => recvUnicastPacket_ttl rfl fun _ => rfl⟩
  | unicast4addr h src subtype inner =>
    exact ⟨fun _ _ _ heq => (nomatch heq),
      fun _ => recvUnicastPacket_ttl rfl fun _ => rfl⟩
  | unicastTvlv h src tvlvLen tvlv =>
    exact ⟨fun _ _ _ heq => (nomatch heq), fun _ => recvUnicastTvlv_ttl h src tvlvLen tvlv⟩
  | unhandledUnicast packetType h =>
    exact ⟨fun _ _ _ heq => (nomatch heq), fun _ => recvUnhandledUnicastPacket_ttl packetType h⟩
  | icmp h => exact ⟨fun _ _ _ heq => (nomatch heq), fun _ => recvIcmpPacket_ttl h⟩
  | bcast h inner =>
    exact ⟨fun _ _ _ heq => (nomatch heq), fun _ => recvBcastPacket_ttl h inner⟩
  | mcast h => exact ⟨fun _ _ _ heq => (nomatch heq), fun _ => recvMcastPacket_ttl h⟩
  | ogm2 ogm => exact ⟨fun _ _ _ heq => (nomatch heq), fun _ => recvOgm2_ttl ogm⟩

/-! ### Chains of forwarding nodes -/

/-- A packet is forwarded `n` times by nodes in any states, each time as a safe frame, and arrives
as another one. -/
inductive ForwardChain (δ : Type*) [Inhabited δ] : ℕ → Packet → Packet → Prop
  | refl (packet : Packet) : ForwardChain δ 0 packet packet
  | step {n : ℕ} {packet : Packet} (msecsToJiffies : ℕ → Jiffies) (node : RecvNode δ)
      (skb : Skb) {copy : SendTo × Packet} :
      ForwardChain δ n packet skb.packet → TtlSafe node skb →
      copy ∈ batmanSkbRecv msecsToJiffies node skb → ForwardChain δ (n + 1) packet copy.2

/-- Along a chain the time to live goes down by one at each node, and does not reach 0. -/
lemma ForwardChain.ttl [Inhabited δ] {n : ℕ} {p q : Packet} (h : ForwardChain δ n p q) :
    q.ttl.toNat + n = p.ttl.toNat ∧ (0 < n → 0 < q.ttl.toNat) := by
  induction h with
  | refl packet => exact ⟨rfl, fun h => absurd h (lt_irrefl 0)⟩
  | step m node skb _ hsafe hcopy ih =>
    obtain ⟨hle, hdec⟩ := ttlDiscipline_batmanSkbRecv_iff.2 hsafe _ hcopy
    exact ⟨by omega, fun _ => by omega⟩

/-- **The time to live of forwarded packets.**  A frame is forwarded with a received time to live
of at least 2, and exactly one less, if and only if it is not a fragment that is forwarded with a
time to live below 2; and by nodes that receive no such fragment a packet is forwarded at most 254
times. -/
theorem ttl_discipline_iff [Inhabited δ] (msecsToJiffies : ℕ → Jiffies) (node : RecvNode δ)
    (skb : Skb) :
    (TtlDiscipline skb.packet (batmanSkbRecv msecsToJiffies node skb) ↔ TtlSafe node skb) ∧
      ∀ n packet, ForwardChain δ n skb.packet packet → n ≤ 254 := by
  refine ⟨ttlDiscipline_batmanSkbRecv_iff, fun n packet hchain => ?_⟩
  have hlt := skb.packet.ttl.isLt
  obtain ⟨hsum, hpos⟩ := hchain.ttl
  omega

/-! ### A fragment without time to live -/

/-- The fragment: the first of a packet of 1600 bytes, received with time to live 0. -/
def expiredFrag : FragHeader :=
  ⟨0, 0, 0, 0x02000000000C, 0x02000000000A, 7, 1600⟩

/-- The frame that carries it to the relay. -/
def expiredFragSkb : Skb :=
  ⟨0x02000000000A, (relayUplink 10).devAddr, 28, .frag expiredFrag (List.replicate 8 0)⟩

/-- The relay, which has a route to both ends over interfaces with an MTU of 1500. -/
def fragRelay : RecvNode Unit where
  bat := (relayNode meshConfigInit 10).setOrig 0x02000000000A
      (origNodeNew 0 0x02000000000A) |>.setOrig 0x02000000000C
      { origNodeNew 0 0x02000000000C with
        ifinfoList := [(some 1, ⟨some ⟨0x02000000000C, 2⟩, 1, 50, 1, 0⟩)] }
  recvIf := relayUplink 10
  jiffies := 100000
  alloc := Alloc.all
  skbWritable := true
  primaryIf := some (relayUplink 10).devAddr
  mtu := fun _ => 1500
  ttvn := 0
  origTtvn := fun _ => 0
  clientIsRoaming := fun _ _ => false
  isMyClient := fun _ _ => false
  transtableSearch := fun _ _ => none
  tvlvConsumed := fun _ => false
  bcastWindow := fun _ => ⟨0, 0, 0⟩
  numBcasts := fun _ => 1
  bcastQueued := fun _ => true
  blaDuplicate := fun _ => false
  mcastCopies := fun _ => []

/-- The fragment as it leaves the relay. -/
def wrappedCopy : SendTo × Packet :=
  (.neigh ⟨0x02000000000C, 2⟩, .frag { expiredFrag with ttl := 255 } (List.replicate 8 0))

/-- **The time to live of a fragment wraps.**  The relay forwards the fragment with a time to live
of 255, against the rule. -/
theorem frag_ttl_wraps :
    batmanSkbRecv (BitVec.ofNat 64) fragRelay expiredFragSkb = [wrappedCopy] ∧
      ¬ TtlDiscipline expiredFragSkb.packet
        (batmanSkbRecv (BitVec.ofNat 64) fragRelay expiredFragSkb) := by
  have hcopy : batmanSkbRecv (BitVec.ofNat 64) fragRelay expiredFragSkb = [wrappedCopy] := by
    decide
  refine ⟨hcopy, fun hrule => ?_⟩
  rw [hcopy] at hrule
  exact absurd (hrule _ (List.mem_singleton.2 rfl)).1 (by decide)

end Batadv
