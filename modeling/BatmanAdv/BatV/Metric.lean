import BatmanAdv.Originator

set_option relaxedAutoImplicit false
set_option autoImplicit false

/-!
# The airtime metric along a path (`bat_v_ogm.c`, `netlink.c`)

The cost of a path is an airtime in a 32-bit word; the greatest value means unusable.  On its way
through a node it is changed three times: the airtime of the link is added, a penalty for the hop
is applied, and the OGM that is sent on carries the result scaled by the node's own weight.

## Main definitions

* `Batadv.netlinkSetMesh`, `Batadv.Configured` — the configurations netlink can set.
* `Batadv.nodeWeightFactor` — `batadv_node_weight_factor`, in thousandths.
* `Batadv.addLink`, `Batadv.vForwardPenalty`, `Batadv.selfWeight` — the three changes.
* `Batadv.PenaltyFits` — the penalty can be computed in 32 bits.

## Main results

* `Batadv.toNat_nodeWeightFactor` — the factor, computed without wrapping.
* `Batadv.le_addLink`, `Batadv.le_vForwardPenalty`, `Batadv.le_selfWeight` — no step lowers the
  cost: the addition never, the penalty where it fits, the weight at a factor of 1000 or more.
* `Batadv.toNat_selfWeight` — what a node advertises.
-/

namespace Batadv

/-- `BATADV_AIRTIME_MAX_VALUE`: the cost of an unusable path. -/
def AIRTIME_MAX_VALUE : U32 := 0xFFFFFFFF

/-- `BATADV_AIRTIME_HALF_DUPLEX_PENALTY`. -/
def AIRTIME_HALF_DUPLEX_PENALTY : U32 := 2

/-- `BATADV_WEIGHT_SCALE`: weights are in thousandths. -/
def WEIGHT_SCALE : U32 := 1000

/-! ### Configuration -/

/-- The attributes of a request to `batadv_netlink_set_mesh` that concern the metric. -/
structure MeshAttrs where
  hopPenalty : Option U8
  nodePriority : Option U8
  dutyCycle : Option U8
  powerClass : Option U8

/-- `batadv_netlink_set_mesh`: a duty cycle above 100 and a power class other than 1, 2 and 3 are
ignored. -/
def netlinkSetMesh (attrs : MeshAttrs) (config : MeshConfig) : MeshConfig where
  hopPenalty := attrs.hopPenalty.getD config.hopPenalty
  nodePriority := attrs.nodePriority.getD config.nodePriority
  dutyCycle :=
    match attrs.dutyCycle with
    | some val => if val ≤ 100 then val else config.dutyCycle
    | none => config.dutyCycle
  powerClass :=
    match attrs.powerClass with
    | some val => if 1 ≤ val ∧ val ≤ 3 then val else config.powerClass
    | none => config.powerClass

/-- The configuration a mesh interface starts with. -/
def meshConfigInit : MeshConfig where
  nodePriority := NODE_PRIORITY_DEFAULT
  dutyCycle := DUTY_CYCLE_DEFAULT
  powerClass := POWER_CLASS_DEFAULT
  hopPenalty := 30

/-- The configurations reached by netlink requests. -/
inductive Configured : MeshConfig → Prop
  | init : Configured meshConfigInit
  | set (attrs : MeshAttrs) {config : MeshConfig} :
      Configured config → Configured (netlinkSetMesh attrs config)

/-- Netlink keeps the duty cycle and the power class in their ranges. -/
theorem Configured.range {config : MeshConfig} (h : Configured config) :
    config.dutyCycle.toNat ≤ 100 ∧ 1 ≤ config.powerClass.toNat ∧ config.powerClass.toNat ≤ 3 := by
  induction h with
  | init => decide
  | set attrs h ih =>
    obtain ⟨hduty, hpow⟩ := ih
    constructor
    · unfold netlinkSetMesh
      dsimp only
      split
      · split_ifs with hle
        · exact BitVec.le_def.1 hle
        · exact hduty
      · exact hduty
    · unfold netlinkSetMesh
      dsimp only
      split
      · split_ifs with hle
        · exact ⟨BitVec.le_def.1 hle.1, BitVec.le_def.1 hle.2⟩
        · exact hpow
      · exact hpow

/-! ### The three steps -/

/-- `priority_factor` in `batadv_node_weight_factor`: 128 is neutral. -/
def priorityFactor (priority : U32) : U32 := priority * WEIGHT_SCALE / 128

/-- `duty_factor` in `batadv_node_weight_factor`: 100 is neutral, and 0 is taken for 1. -/
def dutyFactor (dutyCycle : U32) : U32 :=
  100 * WEIGHT_SCALE / (if dutyCycle = 0 then 1 else dutyCycle)

/-- `power_factor` in `batadv_node_weight_factor`: class 1 is neutral. -/
def powerFactor (powerClass : U32) : U32 := powerClass * WEIGHT_SCALE

/-- `batadv_node_weight_factor`: the product of the three factors, in thousandths. -/
def nodeWeightFactor (config : MeshConfig) : U32 :=
  let result : U64 := (priorityFactor (config.nodePriority.setWidth 32)).setWidth 64 *
    (dutyFactor (config.dutyCycle.setWidth 32)).setWidth 64 *
    (powerFactor (config.powerClass.setWidth 32)).setWidth 64
  (result / 1000000).setWidth 32

/-- The addition in `batadv_v_ogm_metric_update`, with its test for an overflow. -/
def addLink (ogmPath linkAirtime : U32) : U32 :=
  let pathAirtime := ogmPath + linkAirtime
  if pathAirtime < ogmPath then AIRTIME_MAX_VALUE else pathAirtime

/-- `batadv_v_forward_penalty`. -/
def vForwardPenalty (config : MeshConfig) (ifIncoming : HardIface)
    (ifOutgoing : Option HardIface) (airtime : U32) : U32 :=
  let hopPenalty : U32 := config.hopPenalty.setWidth 32
  match ifOutgoing with
  | none => airtime
  | some out =>
    if ifIncoming.ifindex = out.ifindex ∧ ifIncoming.flags &&& FULL_DUPLEX = 0 then
      airtime * AIRTIME_HALF_DUPLEX_PENALTY
    else airtime + airtime * hopPenalty / TQ_MAX_VALUE

/-- The part of `batadv_v_ogm_forward` that applies the node's own weight to the stored cost. -/
def selfWeight (config : MeshConfig) (airtimeCost : U32) : U32 :=
  let factor := nodeWeightFactor config
  if factor = WEIGHT_SCALE then airtimeCost
  else
    let weightedPath : U64 := airtimeCost.setWidth 64 * factor.setWidth 64
    if AIRTIME_MAX_VALUE.setWidth 64 < weightedPath then AIRTIME_MAX_VALUE
    else
      let currentPath := (weightedPath / 1000).setWidth 32
      if currentPath = 0 then 1 else currentPath

/-! ### The weight factor -/

/-- A byte read as a 32-bit word. -/
lemma toNat_setWidth_u8 (x : U8) : (x.setWidth 32 : U32).toNat = x.toNat := by
  rw [BitVec.toNat_setWidth]
  omega

/-- The priority factor of a byte does not wrap. -/
lemma toNat_priorityFactor (x : U8) :
    (priorityFactor (x.setWidth 32)).toNat = x.toNat * 1000 / 128 := by
  have hx := x.isLt
  simp only [priorityFactor, WEIGHT_SCALE, BitVec.toNat_udiv, BitVec.toNat_mul,
    toNat_setWidth_u8, BitVec.ofNat_eq_ofNat, BitVec.toNat_ofNat, Nat.reducePow, Nat.reduceMod]
  omega

/-- The duty factor of a byte. -/
lemma toNat_dutyFactor (x : U8) :
    (dutyFactor (x.setWidth 32)).toNat = 100000 / max x.toNat 1 := by
  have hd : (if (x.setWidth 32 : U32) = 0 then 1 else x.setWidth 32 : U32).toNat =
      max x.toNat 1 := by
    split_ifs with h
    · have h0 : x.toNat = 0 := by rw [← toNat_setWidth_u8, h]; rfl
      rw [h0]
      rfl
    · have h0 : x.toNat ≠ 0 := by
        intro h0
        exact h (BitVec.eq_of_toNat_eq (by rw [toNat_setWidth_u8, h0]; rfl))
      rw [toNat_setWidth_u8]
      omega
  rw [dutyFactor, BitVec.toNat_udiv, hd]
  rfl

/-- The power factor of a byte does not wrap. -/
lemma toNat_powerFactor (x : U8) : (powerFactor (x.setWidth 32)).toNat = x.toNat * 1000 := by
  have hx := x.isLt
  simp only [powerFactor, WEIGHT_SCALE, BitVec.toNat_mul, toNat_setWidth_u8,
    BitVec.ofNat_eq_ofNat, BitVec.toNat_ofNat]
  omega

/-- The last two lines of `batadv_node_weight_factor` do not wrap for factors in range. -/
lemma mul_mul_div_mod {a b c : ℕ} (ha : a ≤ 1992) (hb : b ≤ 100000) (hc : c ≤ 255000) :
    a % 2 ^ 64 * (b % 2 ^ 64) % 2 ^ 64 * (c % 2 ^ 64) % 2 ^ 64 / 1000000 % 2 ^ 32 =
      a * b * c / 1000000 := by
  have hab := Nat.mul_le_mul ha hb
  have habc := Nat.mul_le_mul hab hc
  have hq : a * b * c / 1000000 < 2 ^ 32 := by omega
  rw [Nat.mod_eq_of_lt (by omega : a < 2 ^ 64), Nat.mod_eq_of_lt (by omega : b < 2 ^ 64),
    Nat.mod_eq_of_lt (by omega : c < 2 ^ 64), Nat.mod_eq_of_lt (by omega : a * b < 2 ^ 64),
    Nat.mod_eq_of_lt (by omega : a * b * c < 2 ^ 64), Nat.mod_eq_of_lt hq]

/-- **The factor, computed without wrapping.**

**Proof sketch.** The three factors are at most 1992, 100000 and 255000, so that their product
fits into 64 bits and the quotient into 32. -/
theorem toNat_nodeWeightFactor (config : MeshConfig) :
    (nodeWeightFactor config).toNat =
      config.nodePriority.toNat * 1000 / 128 * (100000 / max config.dutyCycle.toNat 1) *
        (config.powerClass.toNat * 1000) / 1000000 := by
  have hprio := config.nodePriority.isLt
  have hpower := config.powerClass.isLt
  simp only [nodeWeightFactor, BitVec.toNat_setWidth, BitVec.toNat_udiv, BitVec.toNat_mul,
    toNat_priorityFactor, toNat_dutyFactor, toNat_powerFactor]
  exact mul_mul_div_mod (by omega) (Nat.div_le_self _ _) (by omega)

/-! ### No step lowers the cost -/

/-- The greatest cost. -/
@[simp] lemma toNat_AIRTIME_MAX_VALUE : AIRTIME_MAX_VALUE.toNat = 2 ^ 32 - 1 := rfl

/-- No cost is above the greatest one. -/
lemma le_AIRTIME_MAX_VALUE (x : U32) : x ≤ AIRTIME_MAX_VALUE := by
  have := x.isLt
  rw [BitVec.le_def, toNat_AIRTIME_MAX_VALUE]
  omega

/-- The addition saturates. -/
lemma toNat_addLink (ogmPath linkAirtime : U32) :
    (addLink ogmPath linkAirtime).toNat =
      min (ogmPath.toNat + linkAirtime.toNat) AIRTIME_MAX_VALUE.toNat := by
  have hx := ogmPath.isLt
  have hy := linkAirtime.isLt
  rw [toNat_AIRTIME_MAX_VALUE]
  simp only [addLink, BitVec.lt_def]
  split_ifs with h
  · rw [BitVec.toNat_add] at h
    rw [toNat_AIRTIME_MAX_VALUE]
    omega
  · rw [BitVec.toNat_add] at h ⊢
    omega

/-- **The addition never lowers the cost.** -/
theorem le_addLink (ogmPath linkAirtime : U32) : ogmPath ≤ addLink ogmPath linkAirtime := by
  have := ogmPath.isLt
  rw [BitVec.le_def, toNat_addLink, toNat_AIRTIME_MAX_VALUE]
  omega

/-- An unusable link makes the path unusable. -/
lemma addLink_max (ogmPath : U32) : addLink ogmPath AIRTIME_MAX_VALUE = AIRTIME_MAX_VALUE := by
  apply BitVec.eq_of_toNat_eq
  rw [toNat_addLink]
  omega

/-- The penalty for going out through the given interface can be computed in 32 bits: twice the
cost on a half-duplex interface that the OGM came in on, otherwise the cost with the hop penalty
added. -/
def PenaltyFits (config : MeshConfig) (ifIncoming : HardIface) (ifOutgoing : Option HardIface)
    (airtime : U32) : Prop :=
  match ifOutgoing with
  | none => True
  | some out =>
    if ifIncoming.ifindex = out.ifindex ∧ ifIncoming.flags &&& FULL_DUPLEX = 0 then
      airtime.toNat * 2 < 2 ^ 32
    else airtime.toNat * config.hopPenalty.toNat < 2 ^ 32 ∧
      airtime.toNat + airtime.toNat * config.hopPenalty.toNat / 255 < 2 ^ 32

instance (config : MeshConfig) (ifIncoming : HardIface) (ifOutgoing : Option HardIface)
    (airtime : U32) : Decidable (PenaltyFits config ifIncoming ifOutgoing airtime) :=
  match ifOutgoing with
  | none => inferInstanceAs (Decidable True)
  | some out => inferInstanceAs (Decidable
      (if ifIncoming.ifindex = out.ifindex ∧ ifIncoming.flags &&& FULL_DUPLEX = 0 then _ else _))

/-- The penalty where it fits. -/
lemma toNat_vForwardPenalty {config : MeshConfig} {ifIncoming : HardIface}
    {ifOutgoing : Option HardIface} {airtime : U32}
    (h : PenaltyFits config ifIncoming ifOutgoing airtime) :
    (vForwardPenalty config ifIncoming ifOutgoing airtime).toNat =
      match ifOutgoing with
      | none => airtime.toNat
      | some out =>
        if ifIncoming.ifindex = out.ifindex ∧ ifIncoming.flags &&& FULL_DUPLEX = 0 then
          airtime.toNat * 2
        else airtime.toNat + airtime.toNat * config.hopPenalty.toNat / 255 := by
  cases ifOutgoing with
  | none => rfl
  | some out =>
    simp only [PenaltyFits] at h
    simp only [vForwardPenalty]
    split_ifs at h ⊢ with hdup
    · rw [BitVec.toNat_mul]
      exact Nat.mod_eq_of_lt h
    · rw [BitVec.toNat_add, BitVec.toNat_udiv, BitVec.toNat_mul, toNat_setWidth_u8,
        Nat.mod_eq_of_lt h.1]
      exact Nat.mod_eq_of_lt h.2

/-- **The penalty does not lower the cost where it fits.** -/
theorem le_vForwardPenalty {config : MeshConfig} {ifIncoming : HardIface}
    {ifOutgoing : Option HardIface} {airtime : U32}
    (h : PenaltyFits config ifIncoming ifOutgoing airtime) :
    airtime ≤ vForwardPenalty config ifIncoming ifOutgoing airtime := by
  rw [BitVec.le_def, toNat_vForwardPenalty h]
  cases ifOutgoing with
  | none => exact le_rfl
  | some out =>
    dsimp only
    split_ifs <;> omega

/-- The product in `selfWeight` is computed without wrapping. -/
lemma toNat_weightedPath (cost factor : U32) :
    (cost.setWidth 64 * factor.setWidth 64 : U64).toNat = cost.toNat * factor.toNat := by
  have hmul : cost.toNat * factor.toNat ≤ (2 ^ 32 - 1) * (2 ^ 32 - 1) :=
    Nat.mul_le_mul (Nat.le_sub_one_of_lt cost.isLt) (Nat.le_sub_one_of_lt factor.isLt)
  have hc : cost.toNat < 2 ^ 64 := lt_trans cost.isLt (by norm_num)
  have hf : factor.toNat < 2 ^ 64 := lt_trans factor.isLt (by norm_num)
  rw [BitVec.toNat_mul, BitVec.toNat_setWidth, BitVec.toNat_setWidth, Nat.mod_eq_of_lt hc,
    Nat.mod_eq_of_lt hf, Nat.mod_eq_of_lt (lt_of_le_of_lt hmul (by norm_num))]

/-- **What a node advertises**: the stored cost scaled by its weight, at least 1, and unusable
when the product leaves 32 bits. -/
theorem toNat_selfWeight (config : MeshConfig) (cost : U32) :
    (selfWeight config cost).toNat =
      if nodeWeightFactor config = WEIGHT_SCALE then cost.toNat
      else if 2 ^ 32 ≤ cost.toNat * (nodeWeightFactor config).toNat then 2 ^ 32 - 1
      else max 1 (cost.toNat * (nodeWeightFactor config).toNat / 1000) := by
  set q : U32 :=
    (cost.setWidth 64 * (nodeWeightFactor config).setWidth 64 / 1000 : U64).setWidth 32 with hqdef
  have hprod := toNat_weightedPath cost (nodeWeightFactor config)
  have hmax : (AIRTIME_MAX_VALUE.setWidth 64 : U64).toNat = 2 ^ 32 - 1 := rfl
  have hq : q.toNat = cost.toNat * (nodeWeightFactor config).toNat / 1000 % 2 ^ 32 := by
    rw [hqdef, BitVec.toNat_setWidth, BitVec.toNat_udiv, hprod]
    rfl
  simp only [selfWeight, BitVec.lt_def, hprod, hmax, ← hqdef]
  generalize cost.toNat * (nodeWeightFactor config).toNat = prod at hq
  by_cases hscale : nodeWeightFactor config = WEIGHT_SCALE
  · rw [if_pos hscale, if_pos hscale]
  rw [if_neg hscale, if_neg hscale]
  by_cases hover : 2 ^ 32 ≤ prod
  · rw [if_pos (by omega), if_pos hover, toNat_AIRTIME_MAX_VALUE]
  rw [if_neg (by omega), if_neg hover]
  by_cases hzero : q = 0
  · have h0 : q.toNat = 0 := by rw [hzero]; rfl
    rw [if_pos hzero]
    change 1 = _
    omega
  · have h0 : q.toNat ≠ 0 := fun h0 => hzero (BitVec.eq_of_toNat_eq h0)
    rw [if_neg hzero]
    omega

/-- A factor of 1000 or more does not lower the cost. -/
theorem le_selfWeight {config : MeshConfig} (h : 1000 ≤ (nodeWeightFactor config).toNat)
    (cost : U32) : cost ≤ selfWeight config cost := by
  have hlt := cost.isLt
  have hmul : cost.toNat * 1000 ≤ cost.toNat * (nodeWeightFactor config).toNat :=
    Nat.mul_le_mul_left _ h
  rw [BitVec.le_def, toNat_selfWeight]
  split_ifs <;> omega

/-- The smallest factor of a node with a priority of at least 1 is 7. -/
lemma seven_le_nodeWeightFactor {config : MeshConfig} (hc : Configured config)
    (hprio : 1 ≤ config.nodePriority.toNat) : 7 ≤ (nodeWeightFactor config).toNat := by
  obtain ⟨hduty, hpow, -⟩ := hc.range
  have h1 : 7 ≤ config.nodePriority.toNat * 1000 / 128 := by omega
  have h2 : 1000 ≤ 100000 / max config.dutyCycle.toNat 1 :=
    (Nat.le_div_iff_mul_le (by omega)).2 (by omega)
  have h3 : 1000 ≤ config.powerClass.toNat * 1000 := by omega
  have h123 := Nat.mul_le_mul (Nat.mul_le_mul h1 h2) h3
  rw [toNat_nodeWeightFactor]
  omega

/-- **An unusable path stays unusable** when it is advertised by a node of priority at least 1. -/
theorem selfWeight_max {config : MeshConfig} (hc : Configured config)
    (hprio : 1 ≤ config.nodePriority.toNat) :
    selfWeight config AIRTIME_MAX_VALUE = AIRTIME_MAX_VALUE := by
  have h7 := seven_le_nodeWeightFactor hc hprio
  apply BitVec.eq_of_toNat_eq
  rw [toNat_selfWeight, toNat_AIRTIME_MAX_VALUE]
  split_ifs with hscale hover
  · rfl
  · rfl
  · omega

end Batadv
