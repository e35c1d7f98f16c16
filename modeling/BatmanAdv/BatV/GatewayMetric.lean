import BatmanAdv.BatV.BestNeighbor
import BatmanAdv.BatV.Elp
import BatmanAdv.Gateway.Election

set_option relaxedAutoImplicit false
set_option autoImplicit false

/-!
# The metric of a gateway (`bat_v.c`)

A gateway announces its downlink in units of 100 kbit/s.  Its metric is the greater one of the
airtime of the test frame at that rate and the cost of the path to it, and the gateway with the
least metric is the best one.  The rate is converted to bit/s in 32 bits and divides without a
further test; a division by zero has no result.

## Main definitions

* `Batadv.vGwThroughputGet`, `Batadv.vGwGetBestGwNode` — the functions of these names.
* `Batadv.gwMetric` — the metric, in unbounded numbers.
* `Batadv.GwMetricsFaithful` — the metrics of the gateways are right, and a least one is found.
* `Batadv.GwRateFits` — the rate fits into 32 bits, or its airtime does not matter.

## Main results

* `Batadv.vGwThroughputGet_iff` — when the metric of one gateway is right.
* `Batadv.vGwGetBestGwNode_eq` — the loop keeps a best one of the gateways with a router.
* `Batadv.gw_metric_iff` — when all of this holds of a list of gateways.
-/

namespace Batadv

variable {δ : Type*}

/-! ### The functions -/

/-- `gw_airtime` in `batadv_v_gw_throughput_get`: the airtime at the announced rate, which was
tested for zero before it was converted. -/
def gwAirtime (bandwidthDown : U32) : Option U32 :=
  if 0 < bandwidthDown then
    let gwBitrate := bandwidthDown * 100000
    if gwBitrate = 0 then none
    else
      some <| (AIRTIME_OVERHEAD +
        AIRTIME_TEST_FRAME_SIZE * 1000000 / gwBitrate.setWidth 64).setWidth 32
  else some AIRTIME_MAX_VALUE

/-- The record of the router to a gateway for `BATADV_IF_DEFAULT`. -/
def gwRouterIfinfo (bat : BatPriv δ) (gwNode : GwNode) : Option NeighIfinfo :=
  (origRouter bat gwNode.origNode none).bind fun router => router.ifinfoList.get none

/-- `batadv_v_gw_throughput_get`: the metric if it returns 0. -/
def vGwThroughputGet (bat : BatPriv δ) (gwNode : GwNode) : Option (Option U32) :=
  match gwRouterIfinfo bat gwNode with
  | none => some none
  | some routerIfinfo =>
    (gwAirtime gwNode.bandwidthDown).map fun airtime =>
      some (if airtime < routerIfinfo.airtimeCost then routerIfinfo.airtimeCost else airtime)

/-- The loop of `batadv_v_gw_get_best_gw_node`; `kref` tells which gateways are not being freed. -/
def vGwBestLoop (bat : BatPriv δ) (kref : GwNode → Bool) :
    List GwNode → Option GwNode → U32 → Option (Option GwNode)
  | [], currGw, _ => some currGw
  | gwNode :: gatewayList, currGw, minAirtime =>
    if !kref gwNode then vGwBestLoop bat kref gatewayList currGw minAirtime
    else
      match vGwThroughputGet bat gwNode with
      | none => none
      | some none => vGwBestLoop bat kref gatewayList currGw minAirtime
      | some (some airtime) =>
        if currGw.isSome && decide (minAirtime ≤ airtime) then
          vGwBestLoop bat kref gatewayList currGw minAirtime
        else vGwBestLoop bat kref gatewayList (some gwNode) airtime

/-- `batadv_v_gw_get_best_gw_node`. -/
def vGwGetBestGwNode (bat : BatPriv δ) (kref : GwNode → Bool) (gatewayList : List GwNode) :
    Option (Option GwNode) :=
  vGwBestLoop bat kref gatewayList none AIRTIME_MAX_VALUE

/-! ### What they should do -/

/-- The metric of a gateway with the given announcement and the given cost of the path to it. -/
def gwMetric (cost bandwidthDown : ℕ) : ℕ := max cost (frameAirtime (bandwidthDown * 100000))

/-- **The metrics are right**, for the gateways that are not being freed and have a router: each is
determined without a division by zero, at equal costs a greater bandwidth has no greater metric, and
the gateway that is found has the least metric. -/
structure GwMetricsFaithful (bat : BatPriv δ) (kref : GwNode → Bool) (gatewayList : List GwNode) :
    Prop where
  exact : ∀ gw ∈ gatewayList, kref gw = true → ∀ info, gwRouterIfinfo bat gw = some info →
    ∃ airtime, vGwThroughputGet bat gw = some (some airtime) ∧
      airtime.toNat = gwMetric info.airtimeCost.toNat gw.bandwidthDown.toNat
  antitone : ∀ gw ∈ gatewayList, ∀ gw' ∈ gatewayList, kref gw = true → kref gw' = true →
    ∀ airtime airtime', vGwThroughputGet bat gw = some (some airtime) →
      vGwThroughputGet bat gw' = some (some airtime') →
      (gwRouterIfinfo bat gw).map NeighIfinfo.airtimeCost =
        (gwRouterIfinfo bat gw').map NeighIfinfo.airtimeCost →
      gw.bandwidthDown ≤ gw'.bandwidthDown → airtime' ≤ airtime
  best : ∃ found, vGwGetBestGwNode bat kref gatewayList = some found ∧
    match found with
    | none => ∀ gw ∈ gatewayList, kref gw = true → gwRouterIfinfo bat gw = none
    | some gw => gw ∈ gatewayList ∧ kref gw = true ∧
      ∃ airtime, vGwThroughputGet bat gw = some (some airtime) ∧
        ∀ gw' ∈ gatewayList, kref gw' = true →
          ∀ airtime', vGwThroughputGet bat gw' = some (some airtime') → airtime ≤ airtime'

/-- The announced rate fits into 32 bits; or what is left of it is not zero, and its airtime is not
above the cost of the path. -/
def GwRateFits (bandwidthDown cost : U32) : Prop :=
  bandwidthDown.toNat * 100000 < 2 ^ 32 ∨
    bandwidthDown.toNat * 100000 % 2 ^ 32 ≠ 0 ∧
      300 + 8192000000 / (bandwidthDown.toNat * 100000 % 2 ^ 32) ≤ cost.toNat

/-! ### One gateway -/

/-- The airtime of an announced rate, if it can be determined at all. -/
lemma gwAirtime_eq (bandwidthDown : U32) :
    gwAirtime bandwidthDown =
      if bandwidthDown = 0 then some AIRTIME_MAX_VALUE
      else elpCalculate (bandwidthDown * 100000) := by
  unfold gwAirtime elpCalculate elpFrameAirtime
  by_cases hzero : bandwidthDown = 0
  · rw [hzero]
    rfl
  · have hpos : 0 < bandwidthDown := (BitVec.pos_iff_ne_zero _).2 hzero
    rw [if_neg hzero, if_pos hpos]
    dsimp only
    split_ifs with hprod hpos'
    · rfl
    · rfl
    · exact absurd ((BitVec.pos_iff_ne_zero _).2 hprod) hpos'

/-- A rate that is left over is a multiple of 32 bit/s. -/
lemma toNat_gwAirtime {bandwidthDown airtime : U32} (h : gwAirtime bandwidthDown = some airtime)
    (hzero : bandwidthDown ≠ 0) :
    bandwidthDown.toNat * 100000 % 2 ^ 32 ≠ 0 ∧
      airtime.toNat = 300 + 8192000000 / (bandwidthDown.toNat * 100000 % 2 ^ 32) := by
  rw [gwAirtime_eq, if_neg hzero] at h
  unfold elpCalculate at h
  have hmul : (bandwidthDown * 100000).toNat = bandwidthDown.toNat * 100000 % 2 ^ 32 :=
    BitVec.toNat_mul ..
  split_ifs at h with hprod
  cases h
  have hne : bandwidthDown.toNat * 100000 % 2 ^ 32 ≠ 0 := by
    intro h0
    exact hprod (BitVec.eq_of_toNat_eq (hmul.trans h0))
  have hdvd : 32 ∣ bandwidthDown.toNat * 100000 % 2 ^ 32 :=
    (Nat.dvd_mod_iff (by norm_num)).2 (Dvd.dvd.mul_left (by norm_num) _)
  have hle : 8192000000 / (bandwidthDown.toNat * 100000 % 2 ^ 32) ≤ 8192000000 / 32 :=
    Nat.div_le_div_left (Nat.le_of_dvd (Nat.pos_of_ne_zero hne) hdvd) (by norm_num)
  refine ⟨hne, ?_⟩
  rw [toNat_elpFrameAirtime hprod, hmul]
  exact Nat.mod_eq_of_lt (by omega)

/-- **When the metric of a gateway is right**, for every announcement and every cost of the path:
the rate fits into 32 bits, or its airtime is not above the cost. -/
lemma gwAirtime_iff (bandwidthDown cost : U32) :
    (∃ airtime, gwAirtime bandwidthDown = some airtime ∧
        (if airtime < cost then cost else airtime).toNat =
          gwMetric cost.toNat bandwidthDown.toNat) ↔
      GwRateFits bandwidthDown cost := by
  have hmax (airtime : U32) :
      (if airtime < cost then cost else airtime).toNat = max cost.toNat airtime.toNat := by
    by_cases hlt : airtime < cost
    · rw [if_pos hlt, max_eq_left (le_of_lt (BitVec.lt_def.1 hlt))]
    · rw [if_neg hlt, max_eq_right (not_lt.1 (mt BitVec.lt_def.2 hlt))]
  simp only [hmax, gwMetric, GwRateFits]
  by_cases hzero : bandwidthDown = 0
  · rw [hzero]
    have hmetric : frameAirtime ((0 : U32).toNat * 100000) = AIRTIME_MAX_VALUE.toNat := by decide
    rw [hmetric]
    exact ⟨fun _ => Or.inl (by decide), fun _ => ⟨AIRTIME_MAX_VALUE, rfl, rfl⟩⟩
  · have hne : bandwidthDown.toNat ≠ 0 := fun h0 => hzero (BitVec.eq_of_toNat_eq h0)
    have hframe : frameAirtime (bandwidthDown.toNat * 100000) =
        300 + 8192000000 / (bandwidthDown.toNat * 100000) := frameAirtime_of_ne (by omega)
    rw [hframe]
    cases hair : gwAirtime bandwidthDown with
    | none =>
      -- the division by zero
      rw [gwAirtime_eq, if_neg hzero, elpCalculate] at hair
      have hmul : (bandwidthDown * 100000).toNat = bandwidthDown.toNat * 100000 % 2 ^ 32 :=
        BitVec.toNat_mul ..
      split_ifs at hair with hprod
      rw [hprod] at hmul
      have h0 : bandwidthDown.toNat * 100000 % 2 ^ 32 = 0 := hmul.symm
      constructor
      · rintro ⟨airtime, hnone, -⟩
        cases hnone
      · rintro (hlt | ⟨hleft, -⟩)
        · rw [Nat.mod_eq_of_lt hlt] at h0
          exact absurd h0 (by omega)
        · exact absurd h0 hleft
    | some airtime =>
      obtain ⟨hleft, hair'⟩ := toNat_gwAirtime hair hzero
      have hexists : (∃ airtime', some airtime = some airtime' ∧
          max cost.toNat airtime'.toNat =
            max cost.toNat (300 + 8192000000 / (bandwidthDown.toNat * 100000))) ↔
          max cost.toNat (300 + 8192000000 / (bandwidthDown.toNat * 100000 % 2 ^ 32)) =
            max cost.toNat (300 + 8192000000 / (bandwidthDown.toNat * 100000)) := by
        rw [← hair']
        exact ⟨fun ⟨_, hs, heq⟩ => by cases hs; exact heq, fun heq => ⟨airtime, rfl, heq⟩⟩
      rw [hexists]
      by_cases hlt : bandwidthDown.toNat * 100000 < 2 ^ 32
      · rw [Nat.mod_eq_of_lt hlt]
        exact ⟨fun _ => Or.inl hlt, fun _ => rfl⟩
      · -- the airtime is greater than the one of the whole rate
        have hlonger := frame_lt_wrapped (not_lt.1 hlt) hleft
        generalize 8192000000 / (bandwidthDown.toNat * 100000 % 2 ^ 32) = left at hlonger ⊢
        generalize 8192000000 / (bandwidthDown.toNat * 100000) = whole at hlonger ⊢
        constructor
        · intro heq
          refine Or.inr ⟨hleft, ?_⟩
          by_contra hle
          rw [max_eq_right (by omega)] at heq
          exact absurd heq (by omega)
        · rintro (hfits | ⟨-, hle⟩)
          · exact absurd hfits hlt
          · rw [max_eq_left hle, max_eq_left (by omega)]

/-- A gateway with a router has the metric of its airtime. -/
lemma vGwThroughputGet_of_router {bat : BatPriv δ} {gwNode : GwNode} {info : NeighIfinfo}
    (h : gwRouterIfinfo bat gwNode = some info) :
    vGwThroughputGet bat gwNode = (gwAirtime gwNode.bandwidthDown).map fun airtime =>
      some (if airtime < info.airtimeCost then info.airtimeCost else airtime) := by
  rw [vGwThroughputGet, h]

/-- A metric belongs to a gateway with a router. -/
lemma exists_router_of_metric {bat : BatPriv δ} {gwNode : GwNode} {airtime : U32}
    (h : vGwThroughputGet bat gwNode = some (some airtime)) :
    ∃ info, gwRouterIfinfo bat gwNode = some info := by
  unfold vGwThroughputGet at h
  cases hinfo : gwRouterIfinfo bat gwNode with
  | none =>
    rw [hinfo] at h
    cases h
  | some info => exact ⟨info, rfl⟩

/-- **When the metric of a gateway is right**, for every gateway with a router. -/
lemma vGwThroughputGet_iff {bat : BatPriv δ} {gwNode : GwNode} {info : NeighIfinfo}
    (h : gwRouterIfinfo bat gwNode = some info) :
    (∃ airtime, vGwThroughputGet bat gwNode = some (some airtime) ∧
        airtime.toNat = gwMetric info.airtimeCost.toNat gwNode.bandwidthDown.toNat) ↔
      GwRateFits gwNode.bandwidthDown info.airtimeCost := by
  rw [vGwThroughputGet_of_router h, ← gwAirtime_iff]
  cases gwAirtime gwNode.bandwidthDown with
  | none =>
    constructor
    · rintro ⟨airtime, hnone, -⟩
      cases hnone
    · rintro ⟨airtime, hnone, -⟩
      cases hnone
  | some airtime =>
    constructor
    · rintro ⟨airtime', hsome, heq⟩
      cases hsome
      exact ⟨airtime, rfl, heq⟩
    · rintro ⟨airtime', hsome, heq⟩
      cases hsome
      exact ⟨_, rfl, heq⟩

/-! ### The best gateway -/

/-- The gateways that have a metric, with it. -/
def gwCandidates (bat : BatPriv δ) (kref : GwNode → Bool) (gatewayList : List GwNode) :
    List (GwNode × U32) :=
  gatewayList.filterMap fun gwNode =>
    if kref gwNode then ((vGwThroughputGet bat gwNode).bind id).map (gwNode, ·) else none

lemma mem_gwCandidates {bat : BatPriv δ} {kref : GwNode → Bool} {gatewayList : List GwNode}
    {gwNode : GwNode} {airtime : U32} :
    (gwNode, airtime) ∈ gwCandidates bat kref gatewayList ↔
      gwNode ∈ gatewayList ∧ kref gwNode = true ∧
        vGwThroughputGet bat gwNode = some (some airtime) := by
  unfold gwCandidates
  rw [List.mem_filterMap]
  constructor
  · rintro ⟨gw, hmem, hcand⟩
    split_ifs at hcand with hkref
    rw [Option.map_eq_some_iff] at hcand
    obtain ⟨a, hbind, heq⟩ := hcand
    cases heq
    rw [Option.bind_eq_some_iff] at hbind
    obtain ⟨got, hgot, hid⟩ := hbind
    exact ⟨hmem, hkref, hgot.trans (congrArg some hid)⟩
  · rintro ⟨hmem, hkref, hgot⟩
    exact ⟨gwNode, hmem, by simp [hkref, hgot]⟩

/-- The loop keeps a best one of the candidates, if there is no division by zero.

**Proof sketch.** Induction on the list, with the gateway that is kept general. -/
lemma vGwBestLoop_eq {bat : BatPriv δ} {kref : GwNode → Bool} {gatewayList : List GwNode}
    (h : ∀ gw ∈ gatewayList, kref gw = true → vGwThroughputGet bat gw ≠ none)
    (best : Option (GwNode × U32)) :
    vGwBestLoop bat kref gatewayList (best.map Prod.fst) (best.elim AIRTIME_MAX_VALUE Prod.snd) =
      some (((gwCandidates bat kref gatewayList).foldl
        (Selection.keepBest fun a b => decide (a.2 < b.2)) best).map Prod.fst) := by
  induction gatewayList generalizing best with
  | nil => rfl
  | cons gw gws ih =>
    rw [List.forall_mem_cons] at h
    unfold vGwBestLoop
    cases hkref : kref gw with
    | false =>
      have hcand : gwCandidates bat kref (gw :: gws) = gwCandidates bat kref gws := by
        simp [gwCandidates, hkref]
      rw [hcand]
      exact ih h.2 best
    | true =>
      simp only [Bool.not_true, Bool.false_eq_true, if_false]
      cases hgot : vGwThroughputGet bat gw with
      | none => exact absurd hgot (h.1 hkref)
      | some got =>
        cases got with
        | none =>
          have hcand : gwCandidates bat kref (gw :: gws) = gwCandidates bat kref gws := by
            simp [gwCandidates, hkref, hgot]
          rw [hcand]
          exact ih h.2 best
        | some airtime =>
          have hcand : gwCandidates bat kref (gw :: gws) =
              (gw, airtime) :: gwCandidates bat kref gws := by
            simp [gwCandidates, hkref, hgot]
          rw [hcand, List.foldl_cons]
          cases best with
          | none => exact ih h.2 (some (gw, airtime))
          | some best =>
            obtain ⟨bestGw, minAirtime⟩ := best
            have hkeep : Selection.keepBest (fun a b => decide (a.2 < b.2))
                (some (bestGw, minAirtime)) (gw, airtime) =
                  if airtime < minAirtime then some (gw, airtime)
                  else some (bestGw, minAirtime) := by
              simp [Selection.keepBest]
            change (if decide (minAirtime ≤ airtime) = true then
                vGwBestLoop bat kref gws (some bestGw) minAirtime
              else vGwBestLoop bat kref gws (some gw) airtime) = _
            rw [hkeep]
            by_cases hlt : airtime < minAirtime
            · rw [if_pos hlt, if_neg (by simpa using hlt)]
              exact ih h.2 (some (gw, airtime))
            · rw [if_neg hlt, if_pos (by simpa using hlt)]
              exact ih h.2 (some (bestGw, minAirtime))

/-- **The loop keeps a best one** of the gateways with a metric. -/
lemma vGwGetBestGwNode_eq {bat : BatPriv δ} {kref : GwNode → Bool} {gatewayList : List GwNode}
    (h : ∀ gw ∈ gatewayList, kref gw = true → vGwThroughputGet bat gw ≠ none) :
    vGwGetBestGwNode bat kref gatewayList =
      some ((Selection.best (fun a b => decide (a.2 < b.2))
        (gwCandidates bat kref gatewayList)).map Prod.fst) :=
  vGwBestLoop_eq h none

/-! ### All gateways -/

/-- A greater bandwidth has no greater metric. -/
lemma gwMetric_antitone (cost : ℕ) {bw bw' : ℕ} (h : bw ≤ bw') :
    gwMetric cost bw' ≤ gwMetric cost bw := by
  refine max_le_max_left cost ?_
  rcases Nat.eq_zero_or_pos bw' with hzero | hpos'
  · have hzero' : bw = 0 := by omega
    rw [hzero, hzero']
  · have hshort : 8192000000 / (bw' * 100000) ≤ 8192000000 / 100000 :=
      Nat.div_le_div_left (by omega) (by norm_num)
    rw [frameAirtime_of_ne (by omega : bw' * 100000 ≠ 0)]
    rcases Nat.eq_zero_or_pos bw with hzero | hpos
    · -- a gateway without a bandwidth has the greatest metric
      rw [hzero, frameAirtime, if_pos (Nat.zero_mul _)]
      omega
    · rw [frameAirtime_of_ne (by omega : bw * 100000 ≠ 0)]
      have hle : 8192000000 / (bw' * 100000) ≤ 8192000000 / (bw * 100000) :=
        Nat.div_le_div_left (Nat.mul_le_mul_right _ h) (by omega)
      omega

/-- **When the metrics of the gateways are right**, for every list of gateways, every announcement
and every cost of the paths: each rate of a gateway with a router fits into 32 bits, or its airtime
is not above the cost of the path. -/
theorem gw_metric_iff (bat : BatPriv δ) (kref : GwNode → Bool) (gatewayList : List GwNode) :
    GwMetricsFaithful bat kref gatewayList ↔
      ∀ gw ∈ gatewayList, kref gw = true → ∀ info, gwRouterIfinfo bat gw = some info →
        GwRateFits gw.bandwidthDown info.airtimeCost := by
  constructor
  · intro hfaithful gw hgw hkref info hinfo
    exact (vGwThroughputGet_iff hinfo).1 (hfaithful.exact gw hgw hkref info hinfo)
  intro hfits
  have hexact : ∀ gw ∈ gatewayList, kref gw = true → ∀ info, gwRouterIfinfo bat gw = some info →
      ∃ airtime, vGwThroughputGet bat gw = some (some airtime) ∧
        airtime.toNat = gwMetric info.airtimeCost.toNat gw.bandwidthDown.toNat :=
    fun gw hgw hkref info hinfo => (vGwThroughputGet_iff hinfo).2 (hfits gw hgw hkref info hinfo)
  refine ⟨hexact, ?_, ?_⟩
  · intro gw hgw gw' hgw' hkref hkref' airtime airtime' hair hair' hcost hle
    obtain ⟨info, hinfo⟩ := exists_router_of_metric hair
    obtain ⟨info', hinfo'⟩ := exists_router_of_metric hair'
    obtain ⟨a, ha, heq⟩ := hexact gw hgw hkref info hinfo
    obtain ⟨a', ha', heq'⟩ := hexact gw' hgw' hkref' info' hinfo'
    cases ha.symm.trans hair
    cases ha'.symm.trans hair'
    have hcosts : info.airtimeCost = info'.airtimeCost := by
      rw [hinfo, hinfo'] at hcost
      exact Option.some.inj hcost
    rw [BitVec.le_def, heq, heq', hcosts]
    exact gwMetric_antitone _ (BitVec.le_def.1 hle)
  · -- there is no division by zero, so that the loop keeps a best candidate
    have hgot : ∀ gw ∈ gatewayList, kref gw = true → vGwThroughputGet bat gw ≠ none := by
      intro gw hgw hkref hnone
      cases hinfo : gwRouterIfinfo bat gw with
      | none =>
        rw [vGwThroughputGet, hinfo] at hnone
        cases hnone
      | some info =>
        obtain ⟨airtime, hair, -⟩ := hexact gw hgw hkref info hinfo
        cases hnone.symm.trans hair
    refine ⟨_, vGwGetBestGwNode_eq hgot, ?_⟩
    have hspec := Selection.best_spec (fun c : GwNode × U32 => c.2.toNat)
      (fun a b => decide (a.2 < b.2)) (l := gwCandidates bat kref gatewayList)
      fun a _ b _ => by rw [decide_eq_true_iff, BitVec.lt_def]
    cases hbest : Selection.best (fun a b : GwNode × U32 => decide (a.2 < b.2))
        (gwCandidates bat kref gatewayList) with
    | none =>
      rw [hbest] at hspec
      intro gw hgw hkref
      cases hinfo : gwRouterIfinfo bat gw with
      | none => rfl
      | some info =>
        obtain ⟨airtime, hair, -⟩ := hexact gw hgw hkref info hinfo
        have hmem := mem_gwCandidates.2 ⟨hgw, hkref, hair⟩
        rw [hspec] at hmem
        exact absurd hmem List.not_mem_nil
    | some found =>
      rw [hbest] at hspec
      obtain ⟨hmem, hleast⟩ := hspec
      obtain ⟨hgw, hkref, hair⟩ := mem_gwCandidates.1 hmem
      refine ⟨hgw, hkref, found.2, hair, fun gw' hgw' hkref' airtime' hair' => ?_⟩
      exact BitVec.le_def.2 (hleast (gw', airtime') (mem_gwCandidates.2 ⟨hgw', hkref', hair'⟩))

/-! ### Two gateways -/

/-- A node with paths of these costs to two gateways. -/
def twoGwOrigs (cost1 cost2 : U32) : BatPriv Unit where
  config := meshConfigInit
  hardIfaces := []
  origHash := [(0x02000000000A, ⟨0x02000000000A, 0,
      [(⟨0x02000000000A, 1⟩, ⟨0x02000000000A, 0, [(none, ⟨cost1, 1, 50⟩)]⟩)],
      [(none, ⟨some ⟨0x02000000000A, 1⟩, 1, 50, 0, 0⟩)], origTvlvInit⟩),
    (0x02000000000B, ⟨0x02000000000B, 0,
      [(⟨0x02000000000B, 1⟩, ⟨0x02000000000B, 0, [(none, ⟨cost2, 1, 50⟩)]⟩)],
      [(none, ⟨some ⟨0x02000000000B, 1⟩, 1, 50, 0, 0⟩)], origTvlvInit⟩)]
  handlerList := []

/-- **The faster gateway is worse, and the zero of a product stops the node**: of two gateways at
equal costs, one with 5 Gbit/s has a metric of 311 and one with 4 Gbit/s one of 302; and an
announcement of `2 ^ 27` divides by zero. -/
theorem gw_metric_wrong :
    (vGwThroughputGet (twoGwOrigs 300 300) ⟨0x02000000000A, 50000, 0⟩ = some (some 311) ∧
      vGwThroughputGet (twoGwOrigs 300 300) ⟨0x02000000000B, 40000, 0⟩ = some (some 302) ∧
      ¬ GwMetricsFaithful (twoGwOrigs 300 300) (fun _ => true)
        [⟨0x02000000000A, 50000, 0⟩, ⟨0x02000000000B, 40000, 0⟩]) ∧
    vGwGetBestGwNode (twoGwOrigs 300 300) (fun _ => true) [⟨0x02000000000A, 134217728, 0⟩] = none ∧
      ¬ GwMetricsFaithful (twoGwOrigs 300 300) (fun _ => true)
        [⟨0x02000000000A, 134217728, 0⟩] := by
  have hfast : vGwThroughputGet (twoGwOrigs 300 300) ⟨0x02000000000A, 50000, 0⟩ =
    some (some 311) := by decide
  have hslow : vGwThroughputGet (twoGwOrigs 300 300) ⟨0x02000000000B, 40000, 0⟩ =
    some (some 302) := by decide
  have htrap : vGwGetBestGwNode (twoGwOrigs 300 300) (fun _ => true)
    [⟨0x02000000000A, 134217728, 0⟩] = none := by decide
  refine ⟨⟨hfast, hslow, fun hfaithful => ?_⟩, htrap, fun hfaithful => ?_⟩
  · have hle := hfaithful.antitone ⟨0x02000000000B, 40000, 0⟩ (by simp)
      ⟨0x02000000000A, 50000, 0⟩ (by simp) rfl rfl 302 311 hslow hfast (by decide) (by decide)
    exact absurd hle (by decide)
  · obtain ⟨found, hfound, -⟩ := hfaithful.best
    cases htrap.symm.trans hfound

end Batadv
