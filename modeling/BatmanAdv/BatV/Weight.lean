import BatmanAdv.BatV.PathCost

set_option relaxedAutoImplicit false
set_option autoImplicit false

/-!
# The cost a node advertises under its weight (`bat_v_ogm.c`)

`batadv_v_ogm_forward` scales the stored cost by the weight factor, which is in thousandths, with
a product of 64 bits.  It compares the product with the greatest cost before it divides it by 1000,
so that paths are advertised as unusable whose scaled cost would fit.

## Main definitions

* `Batadv.weightedCost` — the scaled cost, in unbounded numbers.
* `Batadv.WeightExact` — what is advertised for a stored cost is the scaled cost.
* `Batadv.WeightFits` — the product fits as well, or the scaled cost does not fit either.

## Main results

* `Batadv.weightExact_selfWeight_iff` — when a node advertises the scaled cost.
* `Batadv.selfWeight_mono` — scaling keeps the order of the costs.
* `Batadv.forwarded_cost_iff` — both, of the OGMs that are forwarded.
-/

namespace Batadv

/-- The cost scaled by a weight in thousandths: at least 1, and unusable from the greatest cost
on. -/
def weightedCost (weight cost : ℕ) : ℕ :=
  if weight = 1000 then cost else min (max 1 (cost * weight / 1000)) (2 ^ 32 - 1)

/-- **What is advertised** for a stored cost is the scaled cost, and usable where that one is. -/
structure WeightExact (config : MeshConfig) (cost sent : U32) : Prop where
  exact : sent.toNat = weightedCost (nodeWeightFactor config).toNat cost.toNat
  usable : weightedCost (nodeWeightFactor config).toNat cost.toNat < 2 ^ 32 - 1 →
    sent ≠ AIRTIME_MAX_VALUE

/-- The product of the cost and the weight fits into 32 bits, or the scaled cost is beyond them as
well; a weight of 1000 is not applied. -/
def WeightFits (config : MeshConfig) (cost : U32) : Prop :=
  (nodeWeightFactor config).toNat = 1000 ∨ cost.toNat * (nodeWeightFactor config).toNat < 2 ^ 32 ∨
    (2 ^ 32 - 1) * 1000 ≤ cost.toNat * (nodeWeightFactor config).toNat

/-- The test for the weight that is not applied. -/
lemma nodeWeightFactor_eq_scale_iff (config : MeshConfig) :
    nodeWeightFactor config = WEIGHT_SCALE ↔ (nodeWeightFactor config).toNat = 1000 :=
  ⟨fun h => by rw [h]; rfl, fun h => BitVec.eq_of_toNat_eq h⟩

/-- The scaled cost is what is advertised exactly if the test of the product goes the way the test
of the scaled cost would. -/
lemma toNat_selfWeight_eq_iff (config : MeshConfig) (cost : U32) :
    (selfWeight config cost).toNat = weightedCost (nodeWeightFactor config).toNat cost.toNat ↔
      WeightFits config cost := by
  rw [toNat_selfWeight, WeightFits, weightedCost]
  generalize hprod : cost.toNat * (nodeWeightFactor config).toNat = prod
  by_cases hscale : (nodeWeightFactor config).toNat = 1000
  · rw [if_pos ((nodeWeightFactor_eq_scale_iff config).2 hscale), if_pos hscale]
    exact ⟨fun _ => Or.inl hscale, fun _ => rfl⟩
  · rw [if_neg (mt (nodeWeightFactor_eq_scale_iff config).1 hscale), if_neg hscale]
    split_ifs with hover
    · -- the product does not fit: what is advertised is unusable
      omega
    · omega

/-- **When a node advertises the scaled cost.** -/
theorem weightExact_selfWeight_iff (config : MeshConfig) (cost : U32) :
    WeightExact config cost (selfWeight config cost) ↔ WeightFits config cost := by
  rw [← toNat_selfWeight_eq_iff]
  constructor
  · exact WeightExact.exact
  · intro hexact
    refine ⟨hexact, fun hlt hmax => ?_⟩
    rw [← hexact, hmax, toNat_AIRTIME_MAX_VALUE] at hlt
    exact lt_irrefl _ hlt

/-- **Scaling keeps the order of the costs.** -/
theorem selfWeight_mono (config : MeshConfig) {cost cost' : U32} (h : cost ≤ cost') :
    selfWeight config cost ≤ selfWeight config cost' := by
  have hlt := cost.isLt
  rw [BitVec.le_def] at h ⊢
  have hmul : cost.toNat * (nodeWeightFactor config).toNat ≤
      cost'.toNat * (nodeWeightFactor config).toNat := Nat.mul_le_mul_right _ h
  rw [toNat_selfWeight, toNat_selfWeight]
  split_ifs with hscale hover hover'
  · exact h
  · exact le_rfl
  · omega
  · omega
  · omega

variable {δ : Type*}

/-- **The cost in a forwarded OGM**, for every configuration and every stored cost: it is the scaled
cost exactly if the product with the weight fits, or the scaled cost does not fit either; and among
OGMs that a node forwards, one for a greater stored cost never carries a smaller cost. -/
theorem forwarded_cost_iff (msecsToJiffies : ℕ → Jiffies) (config : MeshConfig) (ev : OgmRecv)
    (orig : OrigNode δ) (out : HardIface) (p : Ogm2Packet)
    (hsent : (vOgmForward msecsToJiffies config ev orig (some out)).2 = some p) :
    ∃ info, orig.neighIfinfoGet ev.neigh (some out.ifindex) = some info ∧
      (WeightExact config info.airtimeCost p.throughput ↔ WeightFits config info.airtimeCost) ∧
      ∀ (ev' : OgmRecv) (orig' : OrigNode δ) (out' : HardIface) (p' : Ogm2Packet)
        (info' : NeighIfinfo),
        (vOgmForward msecsToJiffies config ev' orig' (some out')).2 = some p' →
        orig'.neighIfinfoGet ev'.neigh (some out'.ifindex) = some info' →
        info.airtimeCost ≤ info'.airtimeCost → p.throughput ≤ p'.throughput := by
  -- what a forwarded OGM carries
  have hcost : ∀ (ev : OgmRecv) (orig : OrigNode δ) (out : HardIface) (p : Ogm2Packet),
      (vOgmForward msecsToJiffies config ev orig (some out)).2 = some p →
      ∃ info, orig.neighIfinfoGet ev.neigh (some out.ifindex) = some info ∧
        p.throughput = selfWeight config info.airtimeCost := by
    intro ev orig out p hsent
    generalize hfwd : vOgmForward msecsToJiffies config ev orig (some out) = sent at hsent
    obtain ⟨out₁, info, hout, hinfo, -, hp⟩ := (vOgmForward_spec hfwd).2 p hsent
    cases hout
    exact ⟨info, hinfo, congrArg Ogm2Packet.throughput hp⟩
  obtain ⟨info, hinfo, hp⟩ := hcost ev orig out p hsent
  refine ⟨info, hinfo, ?_, ?_⟩
  · rw [hp]
    exact weightExact_selfWeight_iff config info.airtimeCost
  · intro ev' orig' out' p' info' hsent' hinfo' hle
    obtain ⟨info₁, hinfo₁, hp'⟩ := hcost ev' orig' out' p' hsent'
    rw [hinfo₁] at hinfo'
    cases hinfo'
    rw [hp, hp']
    exact selfWeight_mono config hle

/-! ### A forwarding node -/

/-- A node that has learnt of an originator over its link to it, with the given cost. -/
def forwardingOrig (cost : U32) : OrigNode Unit where
  orig := 0x02000000000A
  lastSeen := 100000
  neighList := [(⟨0x02000000000A, 1⟩, ⟨0x02000000000A, 100000, [(some 2, ⟨cost, 1, 50⟩)]⟩)]
  ifinfoList := [(some 2, ⟨some ⟨0x02000000000A, 1⟩, 1, 50, 0, 0⟩)]
  tvlv := origTvlvInit

/-- The interface the OGMs go out of. -/
def forwardingIface : HardIface := relayIface 2 ⟨0x02000000000C, 0x02000000000C, 10⟩

/-- The greatest weight that netlink accepts: a factor of 597600. -/
def heavyConfig : MeshConfig := netlinkSetMesh ⟨none, some 255, some 0, some 3⟩ meshConfigInit

/-- A node with half the weight forwards a path of cost 1000 at 500: the theorem applies. -/
theorem forwarded_cost_iff_premium :
    WeightExact premiumConfig 1000 500 ∧ WeightFits premiumConfig 1000 := by
  obtain ⟨info, hinfo, hiff, -⟩ := forwarded_cost_iff (BitVec.ofNat 64) premiumConfig
    (relayRecv 1000 10) (forwardingOrig 1000) forwardingIface
    ⟨49, 1, 0x02000000000A, 500, []⟩ (by decide)
  cases hinfo
  have hfits : WeightFits premiumConfig 1000 := Or.inr (Or.inl (by decide))
  exact ⟨hiff.2 hfits, hfits⟩

/-- **A path is advertised as unusable whose scaled cost fits**: at the greatest weight, a stored
cost of 10000 becomes 5976000, but what is sent is the greatest cost. -/
theorem forwarded_cost_unusable :
    Configured heavyConfig ∧ weightedCost (nodeWeightFactor heavyConfig).toNat 10000 = 5976000 ∧
      (vOgmForward (BitVec.ofNat 64) heavyConfig (relayRecv 1000 10) (forwardingOrig 10000)
        (some forwardingIface)).2 = some ⟨49, 1, 0x02000000000A, AIRTIME_MAX_VALUE, []⟩ ∧
      ¬ WeightExact heavyConfig 10000 AIRTIME_MAX_VALUE := by
  refine ⟨Configured.set _ Configured.init, by decide, by decide, fun hexact => ?_⟩
  exact absurd hexact.exact (by decide)

end Batadv
