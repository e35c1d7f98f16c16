import BatmanAdv.Gateway.Election
import BatmanAdv.Lib.Maxima

set_option relaxedAutoImplicit false
set_option autoImplicit false

/-!
# Selecting a gateway in B.A.T.M.A.N. IV (`bat_iv_ogm.c`)

In selection class 1 the best gateway is the one with the greatest factor, which is made of its
bandwidth and of the transmit quality (TQ) towards it, and of those the one with the greatest TQ.
In every other class it is the one with the greatest TQ.  The loop keeps the maximum of the factors
and the maximum of the TQs, and compares the TQ of a gateway with the latter also when the factors
tie, though it may be that of a gateway with a smaller factor.

## Main definitions

* `Batadv.IvGwMesh` — what is read about the gateways.
* `Batadv.ivGwGetBestGwNode` — `batadv_iv_gw_get_best_gw_node`.
* `Batadv.IvGwBestOk` — the gateway that is returned is a best one.
* `Batadv.IvGwTiesFit` — the first best gateway is not passed over.

## Main results

* `Batadv.toNat_ivGwFactor` — the factor is computed without an overflow.
* `Batadv.ivGwGetBestGwNode_eq` — the loop is one that remembers two maxima.
* `Batadv.iv_gw_selection_iff` — when the gateway that is returned is a best one.
-/

namespace Batadv

/-! ### The loop -/

/-- What is read about the gateways: the TQ of the router towards a gateway, if there is one with a
record for `BATADV_IF_DEFAULT`, and whether the gateway is not being freed. -/
structure IvGwMesh where
  routerTqAvg : GwNode → Option U8
  kref : GwNode → Bool

/-- `tmp_gw_factor` in selection class 1. -/
def ivGwFactor (tqAvg : U8) (bandwidthDown : U32) : U64 :=
  (tqAvg.setWidth 64 * tqAvg.setWidth 64 * bandwidthDown.setWidth 64 * (100 * 100)) >>> 18

/-- The variables of the loop. -/
structure IvGwLoop where
  currGw : Option GwNode
  maxGwFactor : U64
  maxTq : U8
deriving DecidableEq, Repr

/-- A turn of the loop for a gateway with a router. -/
def ivGwTurn (selClass : ℤ) (s : IvGwLoop) (gwNode : GwNode) (tqAvg : U8) : IvGwLoop :=
  let tmpGwFactor := if selClass = 1 then ivGwFactor tqAvg gwNode.bandwidthDown else 0
  let currGw :=
    if selClass = 1 then
      if s.maxGwFactor < tmpGwFactor ∨ (tmpGwFactor = s.maxGwFactor ∧ s.maxTq < tqAvg) then
        some gwNode
      else s.currGw
    else if s.maxTq < tqAvg then some gwNode else s.currGw
  { currGw := currGw
    maxGwFactor := if s.maxGwFactor < tmpGwFactor then tmpGwFactor else s.maxGwFactor
    maxTq := if s.maxTq < tqAvg then tqAvg else s.maxTq }

/-- The loop of `batadv_iv_gw_get_best_gw_node`. -/
def ivGwLoop (mesh : IvGwMesh) (selClass : ℤ) : List GwNode → IvGwLoop → IvGwLoop
  | [], s => s
  | gwNode :: gatewayList, s =>
    match mesh.routerTqAvg gwNode with
    | none => ivGwLoop mesh selClass gatewayList s
    | some tqAvg =>
      if !mesh.kref gwNode then ivGwLoop mesh selClass gatewayList s
      else ivGwLoop mesh selClass gatewayList (ivGwTurn selClass s gwNode tqAvg)

/-- `batadv_iv_gw_get_best_gw_node`. -/
def ivGwGetBestGwNode (mesh : IvGwMesh) (selClass : ℤ) (gatewayList : List GwNode) :
    Option GwNode :=
  (ivGwLoop mesh selClass gatewayList ⟨none, 0, 0⟩).currGw

/-! ### What it should return -/

/-- The gateways with a router, with their TQ. -/
def ivGwCandidates (mesh : IvGwMesh) (gatewayList : List GwNode) : List (GwNode × U8) :=
  gatewayList.filterMap fun gwNode =>
    (mesh.routerTqAvg gwNode).bind fun tqAvg =>
      if mesh.kref gwNode then some (gwNode, tqAvg) else none

/-- The factor of a gateway, as a number without a bound; it does not count in other classes. -/
def ivGwRate (selClass : ℤ) (gw : GwNode × U8) : ℕ :=
  if selClass = 1 then gw.2.toNat ^ 2 * gw.1.bandwidthDown.toNat * 10000 / 2 ^ 18 else 0

/-- The TQ of a gateway. -/
def ivGwTq (gw : GwNode × U8) : ℕ := gw.2.toNat

/-- **What is returned is a best gateway**: one with a router whose factor and TQ are maximal in the
lexicographic order among the gateways with a router, or in other classes than 1 one whose TQ is
maximal; and none only if no gateway with a router has a positive TQ. -/
structure IvGwBestOk (mesh : IvGwMesh) (selClass : ℤ) (gatewayList : List GwNode) : Prop where
  best : ∀ gwNode, ivGwGetBestGwNode mesh selClass gatewayList = some gwNode →
    ∃ tqAvg, (gwNode, tqAvg) ∈ ivGwCandidates mesh gatewayList ∧
      ∀ gw ∈ ivGwCandidates mesh gatewayList,
        ivGwRate selClass gw < ivGwRate selClass (gwNode, tqAvg) ∨
          (ivGwRate selClass gw = ivGwRate selClass (gwNode, tqAvg) ∧ gw.2 ≤ tqAvg)
  none : ivGwGetBestGwNode mesh selClass gatewayList = none →
    ∀ gw ∈ ivGwCandidates mesh gatewayList, gw.2 = 0

/-- **The first best gateway is not passed over**: in class 1, it is the first one with its factor,
or its TQ is greater than that of all gateways with a router before it. -/
def IvGwTiesFit (mesh : IvGwMesh) (selClass : ℤ) (gatewayList : List GwNode) : Prop :=
  selClass = 1 →
    Maxima.TiesFit (ivGwRate selClass) ivGwTq (ivGwCandidates mesh gatewayList)

/-! ### The factor -/

/-- **The factor is computed without an overflow.** -/
theorem toNat_ivGwFactor (tqAvg : U8) (bandwidthDown : U32) :
    (ivGwFactor tqAvg bandwidthDown).toNat =
      tqAvg.toNat ^ 2 * bandwidthDown.toNat * 10000 / 2 ^ 18 := by
  have htq : (tqAvg.setWidth 64).toNat = tqAvg.toNat := by
    have hlt := tqAvg.isLt
    rw [BitVec.toNat_setWidth]
    omega
  have hbandwidth : (bandwidthDown.setWidth 64).toNat = bandwidthDown.toNat := by
    have hlt := bandwidthDown.isLt
    rw [BitVec.toNat_setWidth]
    omega
  have hsquare : tqAvg.toNat * tqAvg.toNat ≤ 255 * 255 :=
    Nat.mul_le_mul (Nat.le_of_lt_succ tqAvg.isLt) (Nat.le_of_lt_succ tqAvg.isLt)
  have hproduct : tqAvg.toNat * tqAvg.toNat * bandwidthDown.toNat ≤ 255 * 255 * 2 ^ 32 :=
    Nat.mul_le_mul hsquare bandwidthDown.isLt.le
  have htq2 : (tqAvg.setWidth 64 * tqAvg.setWidth 64 : U64).toNat =
      tqAvg.toNat * tqAvg.toNat := by
    rw [BitVec.toNat_mul_of_lt (by rw [htq]; omega), htq]
  have hscaled : (tqAvg.setWidth 64 * tqAvg.setWidth 64 * bandwidthDown.setWidth 64 : U64).toNat =
      tqAvg.toNat * tqAvg.toNat * bandwidthDown.toNat := by
    rw [BitVec.toNat_mul_of_lt (by rw [htq2, hbandwidth]; omega), htq2, hbandwidth]
  have hconst : (100 * 100 : U64).toNat = 10000 := rfl
  rw [ivGwFactor, BitVec.toNat_ushiftRight, Nat.shiftRight_eq_div_pow,
    BitVec.toNat_mul_of_lt (by rw [hscaled, hconst]; omega), hscaled, hconst, Nat.pow_two]

/-! ### The two maxima -/

/-- The variables of the loop are those of one that remembers two maxima. -/
structure IvGwLoop.Refines (selClass : ℤ) (s : IvGwLoop)
    (m : Maxima.State (GwNode × U8) ℕ ℕ) : Prop where
  currGw : s.currGw = m.best.map Prod.fst
  maxGwFactor : s.maxGwFactor.toNat = m.maxF
  maxTq : s.maxTq.toNat = m.maxT
  idle : selClass ≠ 1 → m.maxF = 0

/-- The greater one of two words. -/
lemma toNat_ite_lt {w : ℕ} (x y : BitVec w) :
    (if x < y then y else x).toNat = max x.toNat y.toNat := by
  split_ifs with h
  · exact (max_eq_right (BitVec.lt_def.1 h).le).symm
  · exact (max_eq_left (BitVec.le_def.1 (BitVec.not_lt.1 h))).symm

/-- **One turn of the loop.** -/
lemma IvGwLoop.Refines.turn {selClass : ℤ} {s : IvGwLoop}
    {m : Maxima.State (GwNode × U8) ℕ ℕ} (h : s.Refines selClass m) (gwNode : GwNode)
    (tqAvg : U8) :
    (ivGwTurn selClass s gwNode tqAvg).Refines selClass
      (Maxima.turn (ivGwRate selClass) ivGwTq m (gwNode, tqAvg)) := by
  have htq : s.maxTq < tqAvg ↔ m.maxT < ivGwTq (gwNode, tqAvg) := by
    rw [BitVec.lt_def, h.maxTq]
    rfl
  have hmaxTq : (if s.maxTq < tqAvg then tqAvg else s.maxTq).toNat =
      max m.maxT (ivGwTq (gwNode, tqAvg)) := by
    rw [toNat_ite_lt, h.maxTq]
    rfl
  by_cases hclass : selClass = 1
  · have hrate : (ivGwFactor tqAvg gwNode.bandwidthDown).toNat =
        ivGwRate selClass (gwNode, tqAvg) := by
      rw [toNat_ivGwFactor, ivGwRate, if_pos hclass]
    have hbetter : (s.maxGwFactor < ivGwFactor tqAvg gwNode.bandwidthDown ∨
        (ivGwFactor tqAvg gwNode.bandwidthDown = s.maxGwFactor ∧ s.maxTq < tqAvg)) ↔
        (m.maxF < ivGwRate selClass (gwNode, tqAvg) ∨
          (ivGwRate selClass (gwNode, tqAvg) = m.maxF ∧
            m.maxT < ivGwTq (gwNode, tqAvg))) := by
      rw [BitVec.lt_def, ← BitVec.toNat_inj, htq, hrate, h.maxGwFactor]
    refine ⟨?_, ?_, hmaxTq, fun hne => absurd hclass hne⟩
    · simp only [ivGwTurn, Maxima.turn, if_pos hclass, hbetter, h.currGw]
      split_ifs <;> rfl
    · simp only [ivGwTurn, Maxima.turn, if_pos hclass, toNat_ite_lt, hrate, h.maxGwFactor]
  · have hidle := h.idle hclass
    have hrate : ivGwRate selClass (gwNode, tqAvg) = 0 := if_neg hclass
    have hzero : s.maxGwFactor = 0 := BitVec.eq_of_toNat_eq (h.maxGwFactor.trans hidle)
    refine ⟨?_, ?_, hmaxTq, fun _ => ?_⟩
    · have hbetter : m.maxF < ivGwRate selClass (gwNode, tqAvg) ∨
          (ivGwRate selClass (gwNode, tqAvg) = m.maxF ∧ m.maxT < ivGwTq (gwNode, tqAvg)) ↔
            m.maxT < ivGwTq (gwNode, tqAvg) := by
        rw [hidle, hrate]
        simp
      simp only [ivGwTurn, Maxima.turn, if_neg hclass, hbetter, htq, h.currGw]
      split_ifs <;> rfl
    · simp only [ivGwTurn, Maxima.turn, if_neg hclass, hidle, hrate, hzero]
      rfl
    · simp only [Maxima.turn, hidle, hrate]
      rfl

/-- The loop, from any state on. -/
lemma IvGwLoop.Refines.loop {mesh : IvGwMesh} {selClass : ℤ} (gatewayList : List GwNode)
    {s : IvGwLoop} {m : Maxima.State (GwNode × U8) ℕ ℕ} (h : s.Refines selClass m) :
    (ivGwLoop mesh selClass gatewayList s).Refines selClass
      ((ivGwCandidates mesh gatewayList).foldl (Maxima.turn (ivGwRate selClass) ivGwTq) m) := by
  induction gatewayList generalizing s m with
  | nil => exact h
  | cons gwNode gatewayList ih =>
    rw [ivGwLoop]
    cases htq : mesh.routerTqAvg gwNode with
    | none =>
      have hskip : ivGwCandidates mesh (gwNode :: gatewayList) =
          ivGwCandidates mesh gatewayList := by
        simp [ivGwCandidates, htq]
      rw [hskip]
      exact ih h
    | some tqAvg =>
      cases hkref : mesh.kref gwNode with
      | false =>
        have hskip : ivGwCandidates mesh (gwNode :: gatewayList) =
            ivGwCandidates mesh gatewayList := by
          simp [ivGwCandidates, htq, hkref]
        rw [hskip]
        exact ih h
      | true =>
        have htake : ivGwCandidates mesh (gwNode :: gatewayList) =
            (gwNode, tqAvg) :: ivGwCandidates mesh gatewayList := by
          simp [ivGwCandidates, htq, hkref]
        rw [htake]
        exact ih (h.turn gwNode tqAvg)

/-- **The loop is one that remembers two maxima.** -/
theorem ivGwGetBestGwNode_eq (mesh : IvGwMesh) (selClass : ℤ) (gatewayList : List GwNode) :
    ivGwGetBestGwNode mesh selClass gatewayList =
      (Maxima.loop (ivGwRate selClass) ivGwTq (ivGwCandidates mesh gatewayList)).best.map
        Prod.fst := by
  have hstart : IvGwLoop.Refines selClass ⟨none, 0, 0⟩ ⟨none, ⊥, ⊥⟩ :=
    ⟨rfl, rfl, rfl, fun _ => rfl⟩
  exact (hstart.loop gatewayList).currGw

/-! ### The result -/

/-- The TQ of a candidate is that of its router. -/
lemma routerTqAvg_of_mem {mesh : IvGwMesh} {gatewayList : List GwNode} {gw : GwNode × U8}
    (h : gw ∈ ivGwCandidates mesh gatewayList) : mesh.routerTqAvg gw.1 = some gw.2 := by
  obtain ⟨gwNode, -, hgw⟩ := List.mem_filterMap.1 h
  obtain ⟨tqAvg, htq, hsome⟩ := Option.bind_eq_some_iff.1 hgw
  split_ifs at hsome
  obtain rfl := Option.some.inj hsome
  exact htq

/-- In other classes than 1 there is nothing to pass over. -/
lemma tiesFit_of_ne_one {selClass : ℤ} (hclass : selClass ≠ 1) (gws : List (GwNode × U8)) :
    Maxima.TiesFit (ivGwRate selClass) ivGwTq gws := by
  intro pre gw post _ _ hfirst
  refine .inr fun gw' hgw' => ?_
  have hrate (x : GwNode × U8) : ivGwRate selClass x = 0 := if_neg hclass
  rcases Maxima.key_lt_iff.1 (hfirst gw' hgw') with hlt | ⟨-, hlt⟩
  · rw [hrate, hrate] at hlt
    exact absurd hlt (Nat.lt_irrefl 0)
  · exact hlt

/-- **Selecting a gateway.**  What is returned is a best gateway if and only if, in class 1, the
first best gateway is the first one with its factor, or its TQ is greater than that of all gateways
with a router before it. -/
theorem iv_gw_selection_iff (mesh : IvGwMesh) (selClass : ℤ) (gatewayList : List GwNode) :
    IvGwBestOk mesh selClass gatewayList ↔ IvGwTiesFit mesh selClass gatewayList := by
  have hties : IvGwTiesFit mesh selClass gatewayList ↔
      Maxima.TiesFit (ivGwRate selClass) ivGwTq (ivGwCandidates mesh gatewayList) := by
    by_cases hclass : selClass = 1
    · exact ⟨fun h => h hclass, fun h _ => h⟩
    · exact iff_of_true (fun h => absurd h hclass) (tiesFit_of_ne_one hclass _)
  have hinv := Maxima.loop_inv (f := ivGwRate selClass) (t := ivGwTq)
    (ivGwCandidates mesh gatewayList)
  have hresult := ivGwGetBestGwNode_eq mesh selClass gatewayList
  rw [hties, ← Maxima.keeps_iff_tiesFit]
  constructor
  · intro hok gw hgw
    rw [hgw] at hresult
    obtain ⟨tqAvg, hmem, hbest⟩ := hok.best gw.1 hresult
    have hgwMem := (hinv.some gw hgw).1
    obtain rfl : tqAvg = gw.2 :=
      Option.some.inj ((routerTqAvg_of_mem hmem).symm.trans (routerTqAvg_of_mem hgwMem))
    refine ⟨hgwMem, fun gw' hgw' => Maxima.key_le_iff.2 ?_⟩
    exact (hbest gw' hgw').imp_right (And.imp_right fun hle => BitVec.le_def.1 hle)
  · intro hkeeps
    refine ⟨fun gwNode hgw => ?_, fun hnone gw hgw => ?_⟩
    · rw [hresult] at hgw
      obtain ⟨gw, hbest, rfl⟩ := Option.map_eq_some_iff.1 hgw
      obtain ⟨hmem, hall⟩ := hkeeps gw hbest
      refine ⟨gw.2, hmem, fun gw' hgw' => ?_⟩
      exact (Maxima.key_le_iff.1 (hall gw' hgw')).imp_right
        (And.imp_right fun hle => BitVec.le_def.2 hle)
    · rw [hresult, Option.map_eq_none_iff] at hnone
      exact BitVec.eq_of_toNat_eq ((hinv.none hnone).1 gw hgw)

/-! ### Three gateways -/

/-- A gateway with the given bandwidth. -/
def ivGateway (bandwidthDown : U32) : GwNode :=
  ⟨0x020000000000 + bandwidthDown.setWidth 48, bandwidthDown, 0⟩

/-- Three gateways with bandwidths of 400, 1 and 100, and TQs of 100, 255 and 200. -/
def ivGwThree : IvGwMesh where
  routerTqAvg gwNode :=
    if gwNode = ivGateway 400 then some 100
    else if gwNode = ivGateway 1 then some 255
    else if gwNode = ivGateway 100 then some 200
    else none
  kref _ := true

/-- **A gateway that is passed over.**  The first and the last one have the same factor, and the
last one has the greater TQ.  The loop returns the first one when the second one stands between
them, and the last one in another order. -/
theorem iv_gw_selection_passed_over :
    ivGwGetBestGwNode ivGwThree 1 [ivGateway 400, ivGateway 1, ivGateway 100] =
        some (ivGateway 400) ∧
      ivGwGetBestGwNode ivGwThree 1 [ivGateway 400, ivGateway 100, ivGateway 1] =
        some (ivGateway 100) ∧
      ¬ IvGwBestOk ivGwThree 1 [ivGateway 400, ivGateway 1, ivGateway 100] := by
  have hfirst : ivGwGetBestGwNode ivGwThree 1 [ivGateway 400, ivGateway 1, ivGateway 100] =
      some (ivGateway 400) := by decide
  refine ⟨hfirst, by decide, fun hok => ?_⟩
  obtain ⟨tqAvg, hmem, hbest⟩ := hok.best _ hfirst
  obtain rfl : 100 = tqAvg := Option.some.inj (routerTqAvg_of_mem hmem)
  have hlast := hbest (ivGateway 100, 200) (by decide)
  revert hlast
  decide

end Batadv
