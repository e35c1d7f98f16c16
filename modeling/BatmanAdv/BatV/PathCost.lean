import Mathlib.Logic.Relation
import BatmanAdv.BatV.Ogm

set_option relaxedAutoImplicit false
set_option autoImplicit false

/-!
# The cost of a path along a chain of forwarding nodes

Loop freedom rests on the cost of a path not getting better on its way.  A node stores a cost of
at least the received one, and an unusable link gives an unusable path, as long as the penalty
can be computed in 32 bits.  What it advertises is the stored cost under its own weight: a node
with a factor of 1000 or more does not lower it, a premium node does so deliberately.

## Main definitions

* `Batadv.PenaltyFitsOn` — the penalty of an OGM fits on the interface with a given index.
* `Batadv.ForwardsTo` — one node forwards an OGM as another one.

## Main results

* `Batadv.path_cost_along_forwarding` — what is stored, what is advertised, and the chain.
* `Batadv.path_cost_improved` — without the two conditions the cost does get better.
-/

namespace Batadv

variable {δ : Type*} {msecsToJiffies : ℕ → Jiffies}

/-- The cost of the path over the link an OGM came in on. -/
def ogmPathAirtime (ev : OgmRecv) : U32 := addLink ev.ogm.throughput (linkAirtime ev)

/-- The penalty for sending the OGM on over the interface with the given index can be computed in
32 bits. -/
def PenaltyFitsOn (bat : BatPriv δ) (ev : OgmRecv) (ifindex : ℕ) : Prop :=
  ∀ out ∈ bat.hardIfaces, out.ifindex = ifindex →
    PenaltyFits bat.config ev.ifIncoming (some out) (ogmPathAirtime ev)

instance (bat : BatPriv δ) (ev : OgmRecv) (ifindex : ℕ) :
    Decidable (PenaltyFitsOn bat ev ifindex) :=
  inferInstanceAs (Decidable (∀ out ∈ bat.hardIfaces, out.ifindex = ifindex →
    PenaltyFits bat.config ev.ifIncoming (some out) (ogmPathAirtime ev)))

/-- Some node, in some state that netlink can configure with a weight of at least 1000, receives
`p` and forwards it as `q`, with a penalty that fits. -/
def ForwardsTo (δ : Type*) [Inhabited δ] (p q : Ogm2Packet) : Prop :=
  ∃ (msecsToJiffies : ℕ → Jiffies) (bat : BatPriv δ) (ev : OgmRecv) (ifindex : ℕ),
    Configured bat.config ∧ 1000 ≤ (nodeWeightFactor bat.config).toNat ∧ ev.ogm = p ∧
      PenaltyFitsOn bat ev ifindex ∧
      (ifindex, q) ∈ (vOgmProcess msecsToJiffies bat ev).2.forwarded

/-- A stored cost is at least the received one where the penalty fits. -/
lemma le_pathCost {config : MeshConfig} {ev : OgmRecv} {ifOutgoing : Option HardIface}
    (h : PenaltyFits config ev.ifIncoming ifOutgoing (ogmPathAirtime ev)) :
    ev.ogm.throughput ≤ pathCost config ev ifOutgoing :=
  BitVec.le_trans (le_addLink _ _) (le_vForwardPenalty h)

/-- An unusable link gives an unusable path where the penalty fits. -/
lemma pathCost_eq_max {config : MeshConfig} {ev : OgmRecv} {ifOutgoing : Option HardIface}
    (h : PenaltyFits config ev.ifIncoming ifOutgoing (ogmPathAirtime ev))
    (hlink : linkAirtime ev = AIRTIME_MAX_VALUE) :
    pathCost config ev ifOutgoing = AIRTIME_MAX_VALUE := by
  have hpath : ogmPathAirtime ev = AIRTIME_MAX_VALUE := by
    rw [ogmPathAirtime, hlink, addLink_max]
  have hle : AIRTIME_MAX_VALUE ≤ pathCost config ev ifOutgoing :=
    hpath ▸ le_vForwardPenalty h
  exact BitVec.le_antisymm (le_AIRTIME_MAX_VALUE _) hle

/-- A forwarded OGM carries the cost that the metric update has stored under the node's own
weight. -/
lemma throughput_of_forwarded [Inhabited δ] {bat : BatPriv δ} {ev : OgmRecv} {ifindex : ℕ}
    {q : Ogm2Packet} (h : (ifindex, q) ∈ (vOgmProcess msecsToJiffies bat ev).2.forwarded) :
    ∃ out ∈ bat.hardIfaces, out.ifindex = ifindex ∧
      (∃ orig : OrigNode δ,
        0 ≤ (vOgmMetricUpdate msecsToJiffies bat.config ev orig (some out)).2) ∧
      q.throughput = selfWeight bat.config (pathCost bat.config ev (some out)) := by
  obtain ⟨-, out, hmem, -, hret, heq⟩ := vOgmProcess_forwarded h
  obtain ⟨rfl, rfl⟩ := Prod.mk.inj heq
  exact ⟨out, hmem, rfl, hret, rfl⟩

/-- One hop does not lower the cost. -/
lemma ForwardsTo.le [Inhabited δ] {p q : Ogm2Packet} (h : ForwardsTo δ p q) :
    p.throughput ≤ q.throughput := by
  obtain ⟨m, bat, ev, ifindex, -, hweight, rfl, hfits, hfwd⟩ := h
  obtain ⟨out, hmem, hindex, -, hcost⟩ := throughput_of_forwarded hfwd
  rw [hcost]
  exact BitVec.le_trans (le_pathCost (hfits out hmem hindex)) (le_selfWeight hweight _)

/-- **What is advertised is at least what was received, along every chain** of nodes whose
penalties fit and whose weight factors are at least 1000. -/
lemma throughput_le_of_chain [Inhabited δ] {p q : Ogm2Packet}
    (h : Relation.ReflTransGen (ForwardsTo δ) p q) : p.throughput ≤ q.throughput := by
  induction h with
  | refl => exact BitVec.le_refl _
  | tail _ hstep ih => exact BitVec.le_trans ih hstep.le

/-- An OGM with an unusable cost goes nowhere. -/
lemma forwarded_eq_nil_of_max [Inhabited δ] {bat : BatPriv δ} {ev : OgmRecv}
    (h : ev.ogm.throughput = AIRTIME_MAX_VALUE) :
    (vOgmProcess msecsToJiffies bat ev).2.forwarded = [] :=
  List.eq_nil_iff_forall_not_mem.2 fun _ hq => (vOgmProcess_forwarded hq).1 h

/-- **The cost of a path along forwarding nodes.**  In every node that netlink can configure:

* the cost that the metric update stores is at least the received one, and unusable if the link
  is, wherever the penalty fits into 32 bits;
* the OGM that is forwarded over an interface carries the cost that the metric update for this
  interface has stored, as it is for a neutral node, and otherwise scaled by the node's own weight
  factor, at least 1, or unusable when the product leaves 32 bits.  Where the penalty fits, the
  stored cost is at least the received one, and so is the advertised one when the factor is at
  least 1000; it is unusable if the link is, at every priority of at least 1, and then no node
  sends it on;
* along every chain of nodes with fitting penalties and factors of at least 1000 the cost does
  not get smaller. -/
theorem path_cost_along_forwarding [Inhabited δ] (msecsToJiffies : ℕ → Jiffies)
    (bat : BatPriv δ) (hconf : Configured bat.config) (ev : OgmRecv) :
    (∀ (orig : OrigNode δ) (ifOutgoing : Option HardIface),
      0 ≤ (vOgmMetricUpdate msecsToJiffies bat.config ev orig ifOutgoing).2 →
      PenaltyFits bat.config ev.ifIncoming ifOutgoing (ogmPathAirtime ev) →
      ∃ info, (vOgmMetricUpdate msecsToJiffies bat.config ev orig ifOutgoing).1.neighIfinfoGet
          ev.neigh (ifKey ifOutgoing) = some info ∧
        ev.ogm.throughput ≤ info.airtimeCost ∧
        (linkAirtime ev = AIRTIME_MAX_VALUE → info.airtimeCost = AIRTIME_MAX_VALUE)) ∧
    (∀ ifindex q, (ifindex, q) ∈ (vOgmProcess msecsToJiffies bat ev).2.forwarded →
      ∃ out ∈ bat.hardIfaces, out.ifindex = ifindex ∧
      ∃ (orig : OrigNode δ) (info : NeighIfinfo),
        0 ≤ (vOgmMetricUpdate msecsToJiffies bat.config ev orig (some out)).2 ∧
        (vOgmMetricUpdate msecsToJiffies bat.config ev orig (some out)).1.neighIfinfoGet
          ev.neigh (ifKey (some out)) = some info ∧
        q.throughput.toNat = (
          if nodeWeightFactor bat.config = WEIGHT_SCALE then info.airtimeCost.toNat
          else if 2 ^ 32 ≤ info.airtimeCost.toNat * (nodeWeightFactor bat.config).toNat then
            2 ^ 32 - 1
          else max 1 (info.airtimeCost.toNat * (nodeWeightFactor bat.config).toNat / 1000)) ∧
        (PenaltyFits bat.config ev.ifIncoming (some out) (ogmPathAirtime ev) →
          ev.ogm.throughput ≤ info.airtimeCost ∧
          (1000 ≤ (nodeWeightFactor bat.config).toNat → ev.ogm.throughput ≤ q.throughput) ∧
          (linkAirtime ev = AIRTIME_MAX_VALUE → 1 ≤ bat.config.nodePriority.toNat →
            q.throughput = AIRTIME_MAX_VALUE ∧
            ∀ (bat' : BatPriv δ) (ev' : OgmRecv), ev'.ogm = q →
              (vOgmProcess msecsToJiffies bat' ev').2.forwarded = []))) ∧
    ∀ q, Relation.ReflTransGen (ForwardsTo δ) ev.ogm q → ev.ogm.throughput ≤ q.throughput := by
  refine ⟨fun orig ifOutgoing hret hfits => ?_, fun ifindex q hfwd => ?_,
    fun q hchain => throughput_le_of_chain hchain⟩
  · exact ⟨_, (vOgmMetricUpdate_spec msecsToJiffies ev ifOutgoing bat.config orig).2 hret,
      le_pathCost hfits, pathCost_eq_max hfits⟩
  · obtain ⟨out, hmem, hindex, ⟨orig, hret⟩, hcost⟩ := throughput_of_forwarded hfwd
    refine ⟨out, hmem, hindex, orig, _, hret,
      (vOgmMetricUpdate_spec msecsToJiffies ev (some out) bat.config orig).2 hret, ?_,
      fun hfits => ⟨le_pathCost hfits, fun hweight => ?_, fun hlink hprio => ?_⟩⟩
    · rw [hcost, toNat_selfWeight]
    · rw [hcost]
      exact BitVec.le_trans (le_pathCost hfits) (le_selfWeight hweight _)
    · have hmax : q.throughput = AIRTIME_MAX_VALUE := by
        rw [hcost, pathCost_eq_max hfits hlink, selfWeight_max hconf hprio]
      exact ⟨hmax, fun bat' ev' hev => forwarded_eq_nil_of_max (by rw [hev, hmax])⟩

/-! ### A relay -/

/-- A full-duplex interface with one neighbour. -/
def relayIface (ifindex : ℕ) (neigh : HardifNeighNode) : HardIface :=
  ⟨ifindex, 0x020000000010 + BitVec.ofNat 48 ifindex, true, FULL_DUPLEX, [neigh]⟩

/-- The interface towards the originator, over a link of the given airtime. -/
def relayUplink (linkAirtime : U32) : HardIface :=
  relayIface 1 ⟨0x02000000000A, 0x02000000000A, linkAirtime⟩

/-- A node between an originator and a third node that it has not heard of yet. -/
def relayNode (config : MeshConfig) (linkAirtime : U32) : BatPriv Unit where
  config := config
  hardIfaces := [relayUplink linkAirtime, relayIface 2 ⟨0x02000000000C, 0x02000000000C, 10⟩]
  origHash := []
  handlerList := []

/-- An OGM of the originator that the relay receives. -/
def relayRecv (cost linkAirtime : U32) : OgmRecv where
  ogm := ⟨50, 1, 0x02000000000A, cost, []⟩
  source := 0x02000000000A
  ifIncoming := relayUplink linkAirtime
  jiffies := 100000
  alloc := Alloc.all

/-- The configuration of a premium node: priority 64, a factor of 500. -/
def premiumConfig : MeshConfig := netlinkSetMesh ⟨none, some 64, none, none⟩ meshConfigInit

/-- A premium relay stores a cost and advertises it scaled by its factor of 500: the theorem
applies to what it sends on over its second interface. -/
theorem path_cost_along_forwarding_relay :
    ∃ out ∈ (relayNode premiumConfig 10).hardIfaces, out.ifindex = 2 ∧
      ∃ (orig : OrigNode Unit) (info : NeighIfinfo),
        (vOgmMetricUpdate (BitVec.ofNat 64) premiumConfig (relayRecv 1000 10) orig
          (some out)).1.neighIfinfoGet (relayRecv 1000 10).neigh (ifKey (some out)) = some info ∧
        564 = max 1 (info.airtimeCost.toNat * 500 / 1000) := by
  obtain ⟨out, hmem, hindex, orig, info, -, hinfo, hcost, -⟩ :=
    (path_cost_along_forwarding (BitVec.ofNat 64) (relayNode premiumConfig 10)
      (Configured.set _ Configured.init) (relayRecv 1000 10)).2.1 2
        ⟨49, 1, 0x02000000000A, 564, []⟩ (by decide)
  refine ⟨out, hmem, hindex, orig, info, hinfo, ?_⟩
  have hfactor : (nodeWeightFactor (relayNode premiumConfig 10).config).toNat = 500 := by decide
  have hscale : nodeWeightFactor (relayNode premiumConfig 10).config ≠ WEIGHT_SCALE := by decide
  rw [if_neg hscale, hfactor] at hcost
  split_ifs at hcost with hover
  · exact absurd hcost (by decide)
  · exact hcost

/-- **The cost does get better** behind a premium node, and where the penalty does not fit: a
premium relay advertises 564 for a path of cost 1000, and a relay in the default configuration
advertises 16843007 for a path of cost 4026531840 over a link that is unusable. -/
theorem path_cost_improved :
    Configured premiumConfig ∧ Configured meshConfigInit ∧
      (vOgmProcess (BitVec.ofNat 64) (relayNode premiumConfig 10)
        (relayRecv 1000 10)).2.forwarded = [(2, ⟨49, 1, 0x02000000000A, 564, []⟩)] ∧
      (vOgmProcess (BitVec.ofNat 64) (relayNode meshConfigInit AIRTIME_MAX_VALUE)
        (relayRecv 0xF0000000 AIRTIME_MAX_VALUE)).2.forwarded =
          [(2, ⟨49, 1, 0x02000000000A, 16843007, []⟩)] :=
  ⟨Configured.set _ Configured.init, Configured.init, by decide, by decide⟩

end Batadv
