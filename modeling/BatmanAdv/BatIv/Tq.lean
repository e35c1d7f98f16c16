import BatmanAdv.Lib.Relay
import BatmanAdv.BatIv.Aggregation

set_option relaxedAutoImplicit false
set_option autoImplicit false

/-!
# Transmit qualities of B.A.T.M.A.N. IV (`bat_iv_ogm.c`)

An OGM carries the transmit quality (TQ) of the path it has taken.  A node that receives it scales
the TQ by the quality of the link to the sender, by how symmetric the link is and by a penalty of
the interface, and when it forwards the OGM, by its hop penalty.  All of them are fractions of 255.

## Main definitions

* `Batadv.IvLink` — what is read about the link an OGM came in on.
* `Batadv.hopPenalty`, `Batadv.ivOgmCalcTq`, `Batadv.ivOgmForward` — the functions of these names.
* `Batadv.IvLink.own`, `Batadv.IvLink.asym`, `Batadv.IvLink.iface` — the three factors, as numbers
  without a bound.
* `Batadv.IvHop`, `Batadv.ivOgmProcessPerOutif` — a node that receives an OGM, and what it forwards.

## Main results

* `Batadv.toNat_ivOgmTqProduct` — the product of the four factors fits into 32 bits.
* `Batadv.toNat_ivOgmCalcTq` — the TQ over a link.
* `Batadv.tq_never_grows` — the TQ along a path, and two OGMs that take the same path.
-/

namespace Batadv

/-- `BATADV_TQ_LOCAL_BIDRECT_SEND_MINIMUM`. -/
def TQ_LOCAL_BIDRECT_SEND_MINIMUM : U8 := 1

/-- `BATADV_TQ_LOCAL_BIDRECT_RECV_MINIMUM`. -/
def TQ_LOCAL_BIDRECT_RECV_MINIMUM : U8 := 1

/-- `BATADV_TQ_TOTAL_BIDRECT_LIMIT`. -/
def TQ_TOTAL_BIDRECT_LIMIT : U8 := 1

/-- `BATADV_NOT_BEST_NEXT_HOP`. -/
def NOT_BEST_NEXT_HOP : U8 := 1

/-! ### The link -/

/-- What is read about the link an OGM came in on: whether its one hop neighbour is known or can be
added; how many of the own OGMs the neighbour has rebroadcast, out of the last 64 ones, and how many
OGMs of it were received, if there is memory for counting them; the interfaces, and the penalties of
the incoming one and of the mesh. -/
structure IvLink where
  neighNode : Bool
  origEqCount : U8
  realPacketCount : Option U8
  ifIncoming : ℕ
  ifOutgoing : Option ℕ
  isWifiHardif : ℕ → Bool
  ifHopPenalty : U8
  meshHopPenalty : U8
  origEqCount_le : origEqCount ≤ 64
  realPacketCount_le : ∀ n ∈ realPacketCount, n ≤ 64

/-- `neigh_rq_count` -/
def IvLink.neighRqCount (link : IvLink) : U8 := link.realPacketCount.getD 0

lemma IvLink.neighRqCount_le (link : IvLink) : link.neighRqCount.toNat ≤ 64 := by
  unfold neighRqCount
  cases hcount : link.realPacketCount with
  | none => exact Nat.zero_le 64
  | some n => exact BitVec.le_def.1 (link.realPacketCount_le n hcount)

/-! ### The functions -/

/-- `batadv_hop_penalty`: apply hop penalty for a normal link. -/
def hopPenalty (tq hopPenalty : U8) : U8 :=
  let newTq : ℤ := tq.toNat * (TQ_MAX_VALUE.toNat - hopPenalty.toNat)
  BitVec.ofInt 8 (newTq.tdiv TQ_MAX_VALUE.toNat)

/-- `tq_own` -/
def ivOgmTqOwn (origEqCount neighRqCount : U8) : U8 :=
  -- pay attention to not get a value bigger than 100 %
  let totalCount := if neighRqCount < origEqCount then neighRqCount else origEqCount
  if totalCount < TQ_LOCAL_BIDRECT_SEND_MINIMUM ∨
      neighRqCount < TQ_LOCAL_BIDRECT_RECV_MINIMUM then 0
  else BitVec.ofNat 8 (TQ_MAX_VALUE.toNat * totalCount.toNat / neighRqCount.toNat)

/-- `tq_asym_penalty`: `1 - ((1-x) ** 3)`. -/
def ivOgmTqAsymPenalty (neighRqCount : U8) : U32 :=
  let neighRqInv : U8 := 64 - neighRqCount
  let neighRqInvCube : U32 :=
    neighRqInv.setWidth 32 * neighRqInv.setWidth 32 * neighRqInv.setWidth 32
  let neighRqMaxCube : U32 := 64 * 64 * 64
  TQ_MAX_VALUE - TQ_MAX_VALUE * neighRqInvCube / neighRqMaxCube

/-- `tq_iface_hop_penalty` -/
def ivOgmTqIfaceHopPenalty (link : IvLink) : U32 :=
  let penalty := TQ_MAX_VALUE - link.ifHopPenalty.setWidth 32
  -- penalize if the OGM is forwarded on the same interface
  if link.ifOutgoing = some link.ifIncoming ∧ link.isWifiHardif link.ifIncoming = true then
    (hopPenalty (penalty.setWidth 8) link.meshHopPenalty).setWidth 32
  else penalty

/-- The product that is assigned to `combined_tq`. -/
def ivOgmTqProduct (link : IvLink) (tq : U8) : U32 :=
  tq.setWidth 32 * (ivOgmTqOwn link.origEqCount link.neighRqCount).setWidth 32 *
    ivOgmTqAsymPenalty link.neighRqCount * ivOgmTqIfaceHopPenalty link

/-- `combined_tq` -/
def ivOgmCombinedTq (link : IvLink) (tq : U8) : U32 :=
  ivOgmTqProduct link tq / (TQ_MAX_VALUE * TQ_MAX_VALUE * TQ_MAX_VALUE)

/-- `batadv_iv_ogm_calc_tq`: the field `tq` of the OGM, and whether the link can be considered
bidirectional. -/
def ivOgmCalcTq (link : IvLink) (tq : U8) : U8 × Bool :=
  if !link.neighNode then (tq, false)
  else
    let tq := (ivOgmCombinedTq link tq).setWidth 8
    (tq, decide (TQ_TOTAL_BIDRECT_LIMIT ≤ tq))

/-- The fields of `struct batadv_ogm_packet` that a forwarding node changes or tests. -/
structure IvOgmFields where
  flags : U8
  ttl : U8
  tq : U8
  prevSender : EthAddr
deriving DecidableEq, Repr

/-- `batadv_iv_ogm_forward`: the OGM that is queued, if it is. -/
def ivOgmForward (ogm : IvOgmFields) (hSource : EthAddr) (isSingleHopNeigh isFromBestNextHop : Bool)
    (meshHopPenalty : U8) : Option IvOgmFields :=
  if ogm.ttl ≤ 1 then none
  else if !isFromBestNextHop && !isSingleHopNeigh then none
  else
    let flags := if isFromBestNextHop then ogm.flags else ogm.flags ||| NOT_BEST_NEXT_HOP
    some {
      ttl := ogm.ttl - 1
      prevSender := hSource
      tq := hopPenalty ogm.tq meshHopPenalty
      flags := if isSingleHopNeigh then flags ||| DIRECTLINK else flags &&& ~~~DIRECTLINK }

/-! ### The factors -/

namespace IvLink

variable (link : IvLink)

/-- The fraction of the own OGMs that the neighbour receives. -/
def own : ℕ := 255 * min link.origEqCount.toNat link.neighRqCount.toNat / link.neighRqCount.toNat

/-- The penalty for an asymmetric link. -/
def asym : ℕ := 255 - 255 * (64 - link.neighRqCount.toNat) ^ 3 / 64 ^ 3

/-- The penalty of the interface. -/
def iface : ℕ :=
  if link.ifOutgoing = some link.ifIncoming ∧ link.isWifiHardif link.ifIncoming = true then
    (255 - link.ifHopPenalty.toNat) * (255 - link.meshHopPenalty.toNat) / 255
  else 255 - link.ifHopPenalty.toNat

end IvLink

/-- A fraction of a number is not larger. -/
lemma mul_div_le_of_le {x y n : ℕ} (h : y ≤ n) : x * y / n ≤ x :=
  Nat.div_le_of_le_mul (by rw [Nat.mul_comm n x]; exact Nat.mul_le_mul_left x h)

/-- The hop penalty as a number without a bound. -/
lemma toNat_hopPenalty (tq penalty : U8) :
    (hopPenalty tq penalty).toNat = tq.toNat * (255 - penalty.toNat) / 255 := by
  have htq := tq.isLt
  have hle : tq.toNat * (255 - penalty.toNat) / 255 ≤ tq.toNat := mul_div_le_of_le (by omega)
  have hmax : TQ_MAX_VALUE.toNat = 255 := rfl
  have hsub : ((255 : ℕ) : ℤ) - penalty.toNat = (255 - penalty.toNat : ℕ) := by
    have hpenalty := penalty.isLt
    omega
  have hvalue : ((tq.toNat : ℤ) * ((255 : ℕ) - penalty.toNat)).tdiv (255 : ℕ) =
      (tq.toNat * (255 - penalty.toNat) / 255 : ℕ) := by
    rw [hsub, ← Nat.cast_mul]
    exact (Int.ofNat_tdiv _ _).symm
  unfold hopPenalty
  dsimp only
  rw [hmax, hvalue, BitVec.ofInt_natCast, BitVec.toNat_ofNat, Nat.mod_eq_of_lt (by omega)]

/-- The hop penalty does not raise a quality. -/
lemma hopPenalty_le (tq penalty : U8) : (hopPenalty tq penalty).toNat ≤ tq.toNat := by
  rw [toNat_hopPenalty]
  exact mul_div_le_of_le (by omega)

/-- The hop penalty keeps the order of two qualities. -/
lemma hopPenalty_mono {tq tq' : U8} (h : tq ≤ tq') (penalty : U8) :
    (hopPenalty tq penalty).toNat ≤ (hopPenalty tq' penalty).toNat := by
  rw [toNat_hopPenalty, toNat_hopPenalty]
  exact Nat.div_le_div_right (Nat.mul_le_mul_right _ (BitVec.le_def.1 h))

namespace IvLink

variable (link : IvLink)

lemma own_le : link.own ≤ 255 := by
  unfold own
  rcases Nat.eq_zero_or_pos link.neighRqCount.toNat with hzero | hpos
  · rw [hzero, Nat.div_zero]
    exact Nat.zero_le 255
  · refine Nat.div_le_of_le_mul ?_
    rw [Nat.mul_comm]
    exact Nat.mul_le_mul_right 255 (min_le_right _ _)

lemma asym_le : link.asym ≤ 255 := Nat.sub_le _ _

lemma iface_le : link.iface ≤ 255 := by
  unfold iface
  split_ifs
  · exact (mul_div_le_of_le (Nat.sub_le 255 _)).trans (Nat.sub_le 255 _)
  · exact Nat.sub_le 255 _

/-- The three factors together are a fraction. -/
lemma factors_le : link.own * link.asym * link.iface ≤ 255 ^ 3 :=
  Nat.mul_le_mul (Nat.mul_le_mul link.own_le link.asym_le) link.iface_le

end IvLink

/-- The share of the own OGMs is computed in 8 bits. -/
lemma toNat_ivOgmTqOwn (link : IvLink) :
    (ivOgmTqOwn link.origEqCount link.neighRqCount).toNat = link.own := by
  have hown := link.own_le
  have hmax : TQ_MAX_VALUE.toNat = 255 := rfl
  unfold IvLink.own at hown ⊢
  unfold ivOgmTqOwn TQ_LOCAL_BIDRECT_SEND_MINIMUM TQ_LOCAL_BIDRECT_RECV_MINIMUM
  have htotal : (if link.neighRqCount < link.origEqCount then link.neighRqCount
      else link.origEqCount).toNat = min link.origEqCount.toNat link.neighRqCount.toNat := by
    split_ifs with hlt
    · have := BitVec.lt_def.1 hlt
      omega
    · have := BitVec.le_def.1 (BitVec.not_lt.1 hlt)
      omega
  dsimp only
  generalize (if link.neighRqCount < link.origEqCount then link.neighRqCount
    else link.origEqCount) = totalCount at htotal ⊢
  split_ifs with hfew
  · have hone : (1 : U8).toNat = 1 := rfl
    rw [BitVec.lt_def, BitVec.lt_def, hone] at hfew
    have hzero : min link.origEqCount.toNat link.neighRqCount.toNat = 0 := by omega
    rw [hzero, Nat.mul_zero, Nat.zero_div]
    rfl
  · rw [htotal, hmax, BitVec.toNat_ofNat, Nat.mod_eq_of_lt (by omega)]

/-- The penalty for an asymmetric link is computed without a wrap. -/
lemma toNat_ivOgmTqAsymPenalty (link : IvLink) :
    (ivOgmTqAsymPenalty link.neighRqCount).toNat = link.asym := by
  have hcount := link.neighRqCount_le
  have hmax : TQ_MAX_VALUE.toNat = 255 := rfl
  have hsixty : (64 : U8).toNat = 64 := rfl
  obtain ⟨inv, hinv⟩ : ∃ inv : U32, inv = (64 - link.neighRqCount).setWidth 32 := ⟨_, rfl⟩
  have hinvNat : inv.toNat = 64 - link.neighRqCount.toNat := by
    rw [hinv, BitVec.toNat_setWidth, BitVec.toNat_sub, hsixty]
    omega
  have hle : inv.toNat ≤ 64 := by omega
  have hsquare : inv.toNat * inv.toNat ≤ 64 * 64 := Nat.mul_le_mul hle hle
  have hcube : inv.toNat * inv.toNat * inv.toNat ≤ 64 * 64 * 64 := Nat.mul_le_mul hsquare hle
  have hsquareNat : (inv * inv).toNat = inv.toNat * inv.toNat :=
    BitVec.toNat_mul_of_lt (by omega)
  have hcubeNat : (inv * inv * inv).toNat = inv.toNat * inv.toNat * inv.toNat := by
    rw [BitVec.toNat_mul_of_lt (by rw [hsquareNat]; omega), hsquareNat]
  have hscaled : (TQ_MAX_VALUE * (inv * inv * inv)).toNat =
      255 * (inv.toNat * inv.toNat * inv.toNat) := by
    rw [BitVec.toNat_mul_of_lt (by rw [hcubeNat, hmax]; omega), hcubeNat, hmax]
  have hquot : (TQ_MAX_VALUE * (inv * inv * inv) / (64 * 64 * 64)).toNat =
      255 * inv.toNat ^ 3 / 64 ^ 3 := by
    rw [BitVec.toNat_udiv, hscaled, Nat.pow_succ, Nat.pow_two]
    rfl
  have hfits : 255 * inv.toNat ^ 3 / 64 ^ 3 ≤ 255 := by
    rw [← hquot, BitVec.toNat_udiv, hscaled]
    have hden : (64 * 64 * 64 : U32).toNat = 64 * 64 * 64 := rfl
    rw [hden]
    omega
  unfold ivOgmTqAsymPenalty IvLink.asym
  dsimp only
  rw [← hinv, BitVec.toNat_sub_of_le, hquot, hmax, hinvNat]
  rw [BitVec.le_def, hquot, hmax]
  exact hfits

/-- The penalty of the interface is computed without a wrap. -/
lemma toNat_ivOgmTqIfaceHopPenalty (link : IvLink) :
    (ivOgmTqIfaceHopPenalty link).toNat = link.iface := by
  have hpenalty := link.ifHopPenalty.isLt
  have hsub : (TQ_MAX_VALUE - link.ifHopPenalty.setWidth 32).toNat =
      255 - link.ifHopPenalty.toNat := by
    have hmax : TQ_MAX_VALUE.toNat = 255 := rfl
    rw [BitVec.toNat_sub, hmax, BitVec.toNat_setWidth]
    omega
  unfold ivOgmTqIfaceHopPenalty IvLink.iface
  dsimp only
  split_ifs
  · rw [BitVec.toNat_setWidth, toNat_hopPenalty, BitVec.toNat_setWidth, hsub]
    have hmod : (255 - link.ifHopPenalty.toNat) % 2 ^ 8 = 255 - link.ifHopPenalty.toNat :=
      Nat.mod_eq_of_lt (by omega)
    rw [hmod]
    have hle := link.iface_le
    exact Nat.mod_eq_of_lt (lt_of_le_of_lt (mul_div_le_of_le (Nat.sub_le 255 _)) (by omega))
  · exact hsub

/-! ### One node -/

/-- **The product of the four factors fits into 32 bits.** -/
theorem toNat_ivOgmTqProduct (link : IvLink) (tq : U8) :
    (ivOgmTqProduct link tq).toNat = tq.toNat * link.own * link.asym * link.iface := by
  have htq := tq.isLt
  have hone : tq.toNat * link.own ≤ 255 * 255 := Nat.mul_le_mul (by omega) link.own_le
  have htwo : tq.toNat * link.own * link.asym ≤ 255 * 255 * 255 :=
    Nat.mul_le_mul hone link.asym_le
  have hthree : tq.toNat * link.own * link.asym * link.iface ≤ 255 * 255 * 255 * 255 :=
    Nat.mul_le_mul htwo link.iface_le
  have hown : (tq.setWidth 32 *
      (ivOgmTqOwn link.origEqCount link.neighRqCount).setWidth 32 : U32).toNat =
        tq.toNat * link.own := by
    have htq32 : (tq.setWidth 32).toNat = tq.toNat := by
      rw [BitVec.toNat_setWidth]
      omega
    have hown32 : ((ivOgmTqOwn link.origEqCount link.neighRqCount).setWidth 32).toNat =
        link.own := by
      have hle := link.own_le
      rw [BitVec.toNat_setWidth, toNat_ivOgmTqOwn]
      omega
    rw [BitVec.toNat_mul_of_lt (by rw [htq32, hown32]; omega), htq32, hown32]
  have hasym : (tq.setWidth 32 * (ivOgmTqOwn link.origEqCount link.neighRqCount).setWidth 32 *
      ivOgmTqAsymPenalty link.neighRqCount : U32).toNat = tq.toNat * link.own * link.asym := by
    rw [BitVec.toNat_mul_of_lt (by rw [hown, toNat_ivOgmTqAsymPenalty]; omega), hown,
      toNat_ivOgmTqAsymPenalty]
  unfold ivOgmTqProduct
  rw [BitVec.toNat_mul_of_lt (by rw [hasym, toNat_ivOgmTqIfaceHopPenalty]; omega), hasym,
    toNat_ivOgmTqIfaceHopPenalty]

/-- **The quality over a link** before it is stored in the field of the OGM. -/
lemma toNat_ivOgmCombinedTq (link : IvLink) (tq : U8) :
    (ivOgmCombinedTq link tq).toNat =
      tq.toNat * (link.own * link.asym * link.iface) / 255 ^ 3 := by
  have hden : (TQ_MAX_VALUE * TQ_MAX_VALUE * TQ_MAX_VALUE).toNat = 255 ^ 3 := rfl
  rw [ivOgmCombinedTq, BitVec.toNat_udiv, toNat_ivOgmTqProduct, hden]
  simp only [Nat.mul_assoc]

/-- It is at most the received one, so that it fits into the field. -/
lemma ivOgmCombinedTq_le (link : IvLink) (tq : U8) :
    (ivOgmCombinedTq link tq).toNat ≤ tq.toNat := by
  rw [toNat_ivOgmCombinedTq]
  exact mul_div_le_of_le link.factors_le

/-- **The quality over a link.** -/
theorem toNat_ivOgmCalcTq (link : IvLink) (tq : U8) :
    (ivOgmCalcTq link tq).1.toNat =
      if link.neighNode then tq.toNat * (link.own * link.asym * link.iface) / 255 ^ 3
      else tq.toNat := by
  have htq := tq.isLt
  have hle := ivOgmCombinedTq_le link tq
  unfold ivOgmCalcTq
  cases link.neighNode with
  | false => rfl
  | true =>
    change ((ivOgmCombinedTq link tq).setWidth 8).toNat = _
    rw [BitVec.toNat_setWidth, Nat.mod_eq_of_lt (by omega), toNat_ivOgmCombinedTq]
    rfl

/-- A link does not raise a quality. -/
lemma ivOgmCalcTq_le (link : IvLink) (tq : U8) : (ivOgmCalcTq link tq).1.toNat ≤ tq.toNat := by
  rw [toNat_ivOgmCalcTq]
  split_ifs
  · exact mul_div_le_of_le link.factors_le
  · exact Nat.le_refl _

/-- A link keeps the order of two qualities. -/
lemma ivOgmCalcTq_mono (link : IvLink) {tq tq' : U8} (h : tq ≤ tq') :
    (ivOgmCalcTq link tq).1.toNat ≤ (ivOgmCalcTq link tq').1.toNat := by
  rw [toNat_ivOgmCalcTq, toNat_ivOgmCalcTq]
  split_ifs
  · exact Nat.div_le_div_right (Nat.mul_le_mul_right _ (BitVec.le_def.1 h))
  · exact BitVec.le_def.1 h

/-- A better quality is that of a bidirectional link if the worse one is. -/
lemma ivOgmCalcTq_bidirect_mono (link : IvLink) {tq tq' : U8} (h : tq ≤ tq')
    (hbidirect : (ivOgmCalcTq link tq).2 = true) : (ivOgmCalcTq link tq').2 = true := by
  have hmono := ivOgmCalcTq_mono link h
  unfold ivOgmCalcTq at hbidirect hmono ⊢
  cases hneigh : link.neighNode with
  | false =>
    rw [hneigh] at hbidirect
    exact absurd hbidirect Bool.false_ne_true
  | true =>
    rw [hneigh] at hbidirect hmono
    have hlimit := of_decide_eq_true hbidirect
    exact decide_eq_true (BitVec.le_trans hlimit (BitVec.le_def.2 hmono))

/-- An OGM that is forwarded has the quality that it is given, less the hop penalty. -/
lemma ivOgmForward_tq {ogm ogm' : IvOgmFields} {hSource : EthAddr}
    {isSingleHopNeigh isFromBestNextHop : Bool} {penalty : U8}
    (h : ivOgmForward ogm hSource isSingleHopNeigh isFromBestNextHop penalty = some ogm') :
    ogm'.tq = hopPenalty ogm.tq penalty := by
  unfold ivOgmForward at h
  dsimp only at h
  split_ifs at h
  all_goals exact (congrArg IvOgmFields.tq (Option.some.inj h)).symm

/-! ### Paths -/

/-- A node that receives an OGM for an outgoing interface: the link, and what its other tests find
out: whether the OGM is protected, may loop or comes from an unknown neighbour, whether there is
memory for its originator's data, and whether the neighbour has sent it before. -/
structure IvHop where
  link : IvLink
  hSource : EthAddr
  isProtected : Bool
  mayLoop : Bool
  unknownNeigh : Bool
  origIfinfo : Bool
  neighDup : Bool
  isSingleHopNeigh : Bool
  isFromBestNextHop : Bool

/-- `batadv_iv_ogm_process_per_outif`: the OGM that is forwarded, if one is. -/
def ivOgmProcessPerOutif (hop : IvHop) (ogm : IvOgmFields) : Option IvOgmFields :=
  if hop.isProtected then none
  else if ogm.tq = 0 then none
  else if hop.mayLoop then none
  else if hop.unknownNeigh then none
  else
    let (tq, isBidirect) := ivOgmCalcTq hop.link ogm.tq
    let ogm := { ogm with tq := tq }
    if !hop.origIfinfo then none
    -- only forward for specific interface, not for the default one
    else if hop.link.ifOutgoing = none then none
    else if hop.isSingleHopNeigh then
      if ogm.ttl ≤ 2 ∧ hop.link.ifOutgoing ≠ some hop.link.ifIncoming then none
      else ivOgmForward ogm hop.hSource true hop.isFromBestNextHop hop.link.meshHopPenalty
    else if !isBidirect then none
    else if hop.neighDup then none
    else ivOgmForward ogm hop.hSource false hop.isFromBestNextHop hop.link.meshHopPenalty

/-- What an OGM has to pass to be forwarded, and what is forwarded then. -/
lemma ivOgmProcessPerOutif_eq_some_iff {hop : IvHop} {ogm fwd : IvOgmFields} :
    ivOgmProcessPerOutif hop ogm = some fwd ↔
      ¬ hop.isProtected = true ∧ ¬ ogm.tq = 0 ∧ ¬ hop.mayLoop = true ∧
        ¬ hop.unknownNeigh = true ∧ hop.origIfinfo = true ∧ ¬ hop.link.ifOutgoing = none ∧
        (if hop.isSingleHopNeigh then
          ¬ (ogm.ttl ≤ 2 ∧ hop.link.ifOutgoing ≠ some hop.link.ifIncoming)
        else (ivOgmCalcTq hop.link ogm.tq).2 = true ∧ ¬ hop.neighDup = true) ∧
        ivOgmForward { ogm with tq := (ivOgmCalcTq hop.link ogm.tq).1 } hop.hSource
          hop.isSingleHopNeigh hop.isFromBestNextHop hop.link.meshHopPenalty = some fwd := by
  unfold ivOgmProcessPerOutif
  simp only [Option.ite_none_left_eq_some, Bool.not_eq_true', Bool.not_eq_false]
  cases hop.isSingleHopNeigh with
  | true => simp only [if_true, Option.ite_none_left_eq_some]
  | false =>
    simp only [Bool.false_eq_true, if_false, Option.ite_none_left_eq_some, Bool.not_eq_false,
      and_assoc]

/-- An OGM is forwarded with the quality over the link, less the hop penalty. -/
lemma ivOgmProcessPerOutif_tq {hop : IvHop} {ogm ogm' : IvOgmFields}
    (h : ivOgmProcessPerOutif hop ogm = some ogm') :
    ogm'.tq = hopPenalty (ivOgmCalcTq hop.link ogm.tq).1 hop.link.meshHopPenalty := by
  obtain ⟨-, -, -, -, -, -, -, hforward⟩ := ivOgmProcessPerOutif_eq_some_iff.1 h
  rw [ivOgmForward_tq hforward]

/-- A node does not raise the quality. -/
lemma ivOgmProcessPerOutif_le (hop : IvHop) (ogm ogm' : IvOgmFields)
    (h : ivOgmProcessPerOutif hop ogm = some ogm') : ogm'.tq ≤ ogm.tq := by
  rw [ivOgmProcessPerOutif_tq h, BitVec.le_def]
  exact (hopPenalty_le _ _).trans (ivOgmCalcTq_le _ _)

/-- The same OGM with a quality that is not worse. -/
def IvOgmFields.NotBetter (ogm ogm' : IvOgmFields) : Prop :=
  ogm.tq ≤ ogm'.tq ∧ ogm' = { ogm with tq := ogm'.tq }

/-- Forwarding does not read the quality. -/
lemma ivOgmForward_mono {ogm ogm' fwd : IvOgmFields} (hle : ogm.NotBetter ogm') {hSource : EthAddr}
    {isSingleHopNeigh isFromBestNextHop : Bool} {penalty : U8}
    (h : ivOgmForward ogm hSource isSingleHopNeigh isFromBestNextHop penalty = some fwd) :
    ∃ fwd', ivOgmForward ogm' hSource isSingleHopNeigh isFromBestNextHop penalty = some fwd' ∧
      fwd.NotBetter fwd' := by
  obtain ⟨htq, heq⟩ := hle
  rw [heq]
  unfold ivOgmForward at h ⊢
  dsimp only at h ⊢
  split_ifs at h ⊢
  all_goals
    obtain rfl := Option.some.inj h
    exact ⟨_, rfl, BitVec.le_def.2 (hopPenalty_mono htq penalty), rfl⟩

/-- **A node keeps the order of two OGMs**, and forwards the better one if it forwards the other. -/
lemma ivOgmProcessPerOutif_mono (hop : IvHop) (ogm ogm' fwd : IvOgmFields)
    (hle : ogm.NotBetter ogm') (h : ivOgmProcessPerOutif hop ogm = some fwd) :
    ∃ fwd', ivOgmProcessPerOutif hop ogm' = some fwd' ∧ fwd.NotBetter fwd' := by
  obtain ⟨htq, heq⟩ := hle
  obtain ⟨hprotected, hzero, hloop, hunknown, hinfo, hout, hlink, hforward⟩ :=
    ivOgmProcessPerOutif_eq_some_iff.1 h
  have hcalc : (ivOgmCalcTq hop.link ogm.tq).1 ≤ (ivOgmCalcTq hop.link ogm'.tq).1 :=
    BitVec.le_def.2 (ivOgmCalcTq_mono hop.link htq)
  have hzero' : ogm'.tq ≠ 0 := fun hnone => hzero (BitVec.le_zero_iff.1 (by rwa [hnone] at htq))
  have hstored : IvOgmFields.NotBetter { ogm with tq := (ivOgmCalcTq hop.link ogm.tq).1 }
      { ogm' with tq := (ivOgmCalcTq hop.link ogm'.tq).1 } := ⟨hcalc, by rw [heq]⟩
  obtain ⟨fwd', hforward', hle'⟩ := ivOgmForward_mono hstored hforward
  refine ⟨fwd', ivOgmProcessPerOutif_eq_some_iff.2
    ⟨hprotected, hzero', hloop, hunknown, hinfo, hout, ?_, hforward'⟩, hle'⟩
  rw [show ogm'.ttl = ogm.ttl by rw [heq]]
  split_ifs at hlink ⊢ with hsingle
  · exact hlink
  · exact ⟨ivOgmCalcTq_bidirect_mono hop.link htq hlink.1, hlink.2⟩

/-- **The transmit quality never grows.**  Over every link the product of the factors is computed
without a wrap, and what is stored in the OGM is at most what was received, and better for a better
one.  What is forwarded is at most what is given.  Along every path the quality never grows, and of
two OGMs that take the same path the one with the better quality keeps it, and is not dropped
before the other. -/
theorem tq_never_grows (link : IvLink) (tq tq' : U8) (ogm ogm' : IvOgmFields) (hSource : EthAddr)
    (isSingleHopNeigh isFromBestNextHop : Bool) (path : List IvHop) :
    (ivOgmTqProduct link tq).toNat = tq.toNat * link.own * link.asym * link.iface ∧
      (ivOgmCombinedTq link tq).toNat ≤ tq.toNat ∧
      (ivOgmCalcTq link tq).1 ≤ tq ∧
      (tq ≤ tq' → (ivOgmCalcTq link tq).1 ≤ (ivOgmCalcTq link tq').1) ∧
      (∀ fwd ∈ ivOgmForward ogm hSource isSingleHopNeigh isFromBestNextHop link.meshHopPenalty,
        fwd.tq ≤ ogm.tq) ∧
      (Relay.along ivOgmProcessPerOutif path ogm).Pairwise
        (fun fwd fwd' : IvOgmFields => fwd'.tq ≤ fwd.tq) ∧
      (ogm.NotBetter ogm' → ∀ (i : ℕ) (fwd : IvOgmFields),
        (Relay.along ivOgmProcessPerOutif path ogm)[i]? = some fwd →
          ∃ fwd' : IvOgmFields, (Relay.along ivOgmProcessPerOutif path ogm')[i]? = some fwd' ∧
            fwd.tq ≤ fwd'.tq) := by
  refine ⟨toNat_ivOgmTqProduct link tq, ivOgmCombinedTq_le link tq,
    BitVec.le_def.2 (ivOgmCalcTq_le link tq), fun h => BitVec.le_def.2 (ivOgmCalcTq_mono link h),
    fun fwd hfwd => ?_, ?_, fun hle i fwd hfwd => ?_⟩
  · rw [ivOgmForward_tq hfwd]
    exact BitVec.le_def.2 (hopPenalty_le _ _)
  · exact Relay.along_pairwise (r := fun fwd fwd' : IvOgmFields => fwd'.tq ≤ fwd.tq)
      (fun hxy hyz => BitVec.le_trans hyz hxy) ivOgmProcessPerOutif_le path ogm
  · obtain ⟨fwd', hfwd', hle'⟩ := Relay.along_mono ivOgmProcessPerOutif_mono hle hfwd
    exact ⟨fwd', hfwd', hle'.1⟩

/-- A link over one WIFI interface: the neighbour has rebroadcast 48 of the last 64 OGMs, 56 of its
own ones were received, and the penalties have their defaults. -/
def ivWifiLink : IvLink where
  neighNode := true
  origEqCount := 48
  realPacketCount := some 56
  ifIncoming := 1
  ifOutgoing := some 1
  isWifiHardif ifindex := ifindex == 1
  ifHopPenalty := 15
  meshHopPenalty := 30
  origEqCount_le := by decide
  realPacketCount_le := by decide

/-- A relay that hears the OGMs of its best next hop over this link. -/
def ivWifiRelay : IvHop :=
  ⟨ivWifiLink, 0x020000000002, false, false, false, true, false, false, true⟩

/-- An OGM of the originator itself. -/
def ivOwnOgm : IvOgmFields := ⟨0, 50, 255, 0x020000000001⟩

/-- Over this link none of the factors is trivial, and along two relays the quality falls from 255
to 158 and to 97. -/
theorem tq_never_grows_wifi :
    (ivOgmTqProduct ivWifiLink 255).toNat = 255 * 218 * 255 * 211 ∧
      (Relay.along ivOgmProcessPerOutif [ivWifiRelay, ivWifiRelay] ivOwnOgm).map IvOgmFields.tq =
        [255, 158, 97] ∧
      (Relay.along ivOgmProcessPerOutif [ivWifiRelay, ivWifiRelay] ivOwnOgm).Pairwise
        (fun fwd fwd' : IvOgmFields => fwd'.tq ≤ fwd.tq) := by
  obtain ⟨hproduct, -, -, -, -, hpairwise, -⟩ := tq_never_grows ivWifiLink 255 0 ivOwnOgm ivOwnOgm 0
    true true [ivWifiRelay, ivWifiRelay]
  exact ⟨hproduct, by decide, hpairwise⟩

end Batadv
