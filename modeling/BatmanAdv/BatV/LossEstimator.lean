import BatmanAdv.BatV.Elp
import BatmanAdv.Lib.Run

set_option relaxedAutoImplicit false
set_option autoImplicit false

/-!
# The loss estimator of a link (`bat_v_elp.c`)

Between two updates of the metric `batadv_v_elp_neigh_update` counts the ELP packets of a neighbour
that were received and those that were expected; an update takes the rate of lost packets from the
two counters, smooths it, and resets them.  An update for which the link has no base airtime
returns before that, and the counters go on.

## Main definitions

* `Batadv.ElpEvent`, `Batadv.elpRunNext` — packets are received, and the metric is updated.
* `Batadv.ElpBounds` — the bounds of the counters, the sample and the smoothed rate.
* `Batadv.elpPeriodicRuns` — updates of the metric while no packet is received.

## Main results

* `Batadv.elp_loss_bounds` — the bounds hold while few packets come between two updates that reset
  the counters.
* `Batadv.elp_loss_overflow` — few packets between two updates are not enough for that.
* `Batadv.elp_silent_iff` — when a silent neighbour does not look better.
-/

namespace Batadv

/-! ### Runs -/

/-- The link has a base airtime. -/
def ElpLink.hasBase (link : ElpLink) : Bool :=
  match elpAirtimeGetBase link with
  | some (_, some _) => true
  | _ => false

/-- What happens to a neighbour: an ELP packet of it is received, or its metric is updated. -/
inductive ElpEvent
  | recv (recv : ElpRecv)
  | update (link : ElpLink)

/-- A neighbour with two numbers of ELP packets: those since the last update of the metric, and
those since the last one that had a base airtime. -/
structure ElpRun where
  neigh : HardifNeighBatV
  sinceUpdate : ℕ
  sinceReset : ℕ

/-- A neighbour that is created. -/
def ElpRun.new (jiffies : Jiffies) : ElpRun := ⟨hardifNeighInit jiffies, 0, 0⟩

/-- The effect of an event.  After a division by zero nothing changes any more. -/
def elpRunNext (s : ElpRun) : ElpEvent → ElpRun
  | .recv recv => ⟨elpNeighUpdate recv s.neigh, s.sinceUpdate + 1, s.sinceReset + 1⟩
  | .update link =>
    match elpAirtimeMetricUpdate link s.neigh with
    | none => s
    | some (_, neigh) => ⟨neigh, 0, if link.hasBase then 0 else s.sinceReset⟩

/-- **The bounds of the estimator**: no more packets are received than expected, the rate of lost
packets is computed without wrapping and is at most 1000 thousandths, the smoothed one is below
that, and an update leaves it between its old value and the sample. -/
structure ElpBounds (neigh : HardifNeighBatV) : Prop where
  received_le : neigh.elpReceived ≤ neigh.elpExpected
  quotient_le : neigh.elpReceived * 1000 / neigh.elpExpected ≤ 1000
  sample_le : elpLossSample neigh ≤ 1000
  smoothed_le : neigh.ePtSmoothed ≤ 999
  between : ∀ base, min neigh.ePtSmoothed.toNat (elpLossSample neigh).toNat ≤
      (elpAirtimeStore base neigh).ePtSmoothed.toNat ∧
    (elpAirtimeStore base neigh).ePtSmoothed.toNat ≤
      max neigh.ePtSmoothed.toNat (elpLossSample neigh).toNat

/-- What holds of a neighbour between two events: the counters grow by one and by at most 101 with
each packet. -/
structure ElpRun.Inv (s : ElpRun) : Prop where
  received_le : s.neigh.elpReceived.toNat ≤ s.neigh.elpExpected.toNat
  received_since : s.neigh.elpReceived.toNat ≤ s.sinceReset
  expected_since : s.neigh.elpExpected.toNat ≤ 101 * s.sinceReset
  smoothed_le : s.neigh.ePtSmoothed.toNat ≤ 999
  since_lt : s.sinceReset < 2 ^ 22

/-! ### One event -/

/-- A gap is at most 100. -/
lemma elpGap_le (newSeqno lastSeqno : U32) : (elpGap newSeqno lastSeqno).toNat ≤ 100 := by
  unfold elpGap
  dsimp only
  split_ifs with hneg hfar
  · exact Nat.zero_le _
  · exact Nat.zero_le _
  · rw [BitVec.toInt_eq_toNat_cond] at hneg hfar
    split_ifs at hneg hfar <;> omega

/-- What a packet does to the counters, if they are far from wrapping. -/
lemma elpCount_spec (newSeqno : U32) {neigh : HardifNeighBatV} {n : ℕ} (hn : n < 2 ^ 22)
    (hle : neigh.elpReceived.toNat ≤ neigh.elpExpected.toNat)
    (hreceived : neigh.elpReceived.toNat ≤ n) (hexpected : neigh.elpExpected.toNat ≤ 101 * n) :
    (elpCount newSeqno neigh).elpReceived.toNat ≤ (elpCount newSeqno neigh).elpExpected.toNat ∧
      (elpCount newSeqno neigh).elpReceived.toNat ≤ n + 1 ∧
      (elpCount newSeqno neigh).elpExpected.toNat ≤ 101 * (n + 1) := by
  have hgap := elpGap_le newSeqno neigh.elpLastSeqno
  have hone : (1 : U32).toNat = 1 := rfl
  unfold elpCount
  split_ifs with hfirst
  · dsimp only
    rw [BitVec.toNat_add, BitVec.toNat_add, BitVec.toNat_add, hone]
    omega
  · dsimp only
    rw [hone]
    omega

/-- What a packet does to the estimator: it is counted if the records of the neighbour are
found. -/
lemma elpNeighUpdate_counts (recv : ElpRecv) (neigh : HardifNeighBatV) :
    let counted := if recv.found then elpCount recv.seqno neigh else neigh
    (elpNeighUpdate recv neigh).elpReceived = counted.elpReceived ∧
      (elpNeighUpdate recv neigh).elpExpected = counted.elpExpected ∧
      (elpNeighUpdate recv neigh).elpLastSeqno = counted.elpLastSeqno ∧
      (elpNeighUpdate recv neigh).ePtSmoothed = counted.ePtSmoothed := by
  unfold elpNeighUpdate
  cases recv.found with
  | false => exact ⟨rfl, rfl, rfl, rfl⟩
  | true =>
    simp only [Bool.not_true, Bool.false_eq_true, if_false, if_true]
    split_ifs <;> exact ⟨rfl, rfl, rfl, rfl⟩

/-- Counting a packet does not touch the smoothed rate. -/
lemma elpCount_ePtSmoothed (newSeqno : U32) (neigh : HardifNeighBatV) :
    (elpCount newSeqno neigh).ePtSmoothed = neigh.ePtSmoothed := by
  unfold elpCount
  split_ifs <;> rfl

/-- The rate of lost packets, while the counters are far from wrapping. -/
lemma ElpRun.Inv.quotient {s : ElpRun} (h : s.Inv) :
    (s.neigh.elpReceived * 1000 / s.neigh.elpExpected).toNat =
        s.neigh.elpReceived.toNat * 1000 / s.neigh.elpExpected.toNat ∧
      s.neigh.elpReceived.toNat * 1000 / s.neigh.elpExpected.toNat ≤ 1000 := by
  have hsince := h.since_lt
  have hreceived := h.received_since
  have hthousand : (1000 : U32).toNat = 1000 := rfl
  constructor
  · rw [BitVec.toNat_udiv, BitVec.toNat_mul, hthousand, Nat.mod_eq_of_lt (by omega)]
  · calc s.neigh.elpReceived.toNat * 1000 / s.neigh.elpExpected.toNat
        ≤ s.neigh.elpExpected.toNat * 1000 / s.neigh.elpExpected.toNat :=
          Nat.div_le_div_right (Nat.mul_le_mul_right _ h.received_le)
      _ ≤ 1000 := Nat.div_le_of_le_mul (le_refl _)

/-- The sample is at most 1000. -/
lemma ElpRun.Inv.sample_le {s : ElpRun} (h : s.Inv) : (elpLossSample s.neigh).toNat ≤ 1000 := by
  obtain ⟨hquot, hle⟩ := h.quotient
  have hthousand : (1000 : U32).toNat = 1000 := rfl
  unfold elpLossSample
  split_ifs
  · rw [BitVec.toNat_sub, hquot, hthousand]
    omega
  · exact Nat.zero_le _

/-- The smoothed rate after an update. -/
lemma toNat_elpSmooth {ePt ePtSmoothed : U32} (h : ePt.toNat ≤ 1000)
    (h' : ePtSmoothed.toNat ≤ 999) :
    (elpSmooth ePt ePtSmoothed).toNat = (ePt.toNat + 3 * ePtSmoothed.toNat) / 4 := by
  have hweight : (AIRTIME_EWMA_WEIGHT - 1).toNat = 3 := rfl
  have hfour : AIRTIME_EWMA_WEIGHT.toNat = 4 := rfl
  rw [elpSmooth, BitVec.toNat_udiv, BitVec.toNat_add, BitVec.toNat_mul, hweight, hfour]
  omega

/-- The bounds follow from the invariant. -/
lemma ElpRun.Inv.bounds {s : ElpRun} (h : s.Inv) : ElpBounds s.neigh := by
  have hsample := h.sample_le
  obtain ⟨hquot, hle⟩ := h.quotient
  refine ⟨h.received_le, ?_, hsample, h.smoothed_le, fun base => ?_⟩
  · rw [BitVec.le_def, hquot]
    exact hle
  · have hsmooth : (elpAirtimeStore base s.neigh).ePtSmoothed.toNat =
        ((elpLossSample s.neigh).toNat + 3 * s.neigh.ePtSmoothed.toNat) / 4 :=
      toNat_elpSmooth hsample h.smoothed_le
    rw [hsmooth]
    omega

/-- What an update of the metric does: nothing after a division by zero, nothing but being one
without a base airtime, or it stores the metric and resets the counters. -/
lemma elpRunNext_update (s : ElpRun) (link : ElpLink) :
    elpRunNext s (.update link) = s ∨
      elpRunNext s (.update link) = ⟨s.neigh, 0, s.sinceReset⟩ ∨
      ∃ base, elpRunNext s (.update link) = ⟨elpAirtimeStore base s.neigh, 0, 0⟩ := by
  cases hbase : elpAirtimeGetBase link with
  | none =>
    left
    simp [elpRunNext, elpAirtimeMetricUpdate, hbase]
  | some got =>
    obtain ⟨flags, base⟩ := got
    right
    cases base with
    | none =>
      left
      simp [elpRunNext, elpAirtimeMetricUpdate, ElpLink.hasBase, hbase]
    | some base =>
      right
      exact ⟨base, by simp [elpRunNext, elpAirtimeMetricUpdate, ElpLink.hasBase, hbase]⟩

/-- **Every event keeps the invariant** while few packets come between two updates that reset the
counters. -/
lemma ElpRun.Inv.step {s : ElpRun} (h : s.Inv) (e : ElpEvent)
    (hfew : (elpRunNext s e).sinceReset < 2 ^ 22) : (elpRunNext s e).Inv := by
  cases e with
  | recv recv =>
    have hreceived := h.received_since
    have hexpected := h.expected_since
    obtain ⟨hr, he, -, hsmoothed⟩ := elpNeighUpdate_counts recv s.neigh
    cases hfound : recv.found with
    | false =>
      simp only [hfound, Bool.false_eq_true, if_false] at hr he hsmoothed
      refine ⟨?_, ?_, ?_, ?_, hfew⟩
      · simpa only [elpRunNext, hr, he] using h.received_le
      · simp only [elpRunNext, hr]
        omega
      · simp only [elpRunNext, he]
        omega
      · simpa only [elpRunNext, hsmoothed] using h.smoothed_le
    | true =>
      obtain ⟨hle, hreceived', hexpected'⟩ :=
        elpCount_spec recv.seqno h.since_lt h.received_le hreceived hexpected
      simp only [hfound, if_true, elpCount_ePtSmoothed] at hr he hsmoothed
      refine ⟨?_, ?_, ?_, ?_, hfew⟩
      · simpa only [elpRunNext, hr, he] using hle
      · simpa only [elpRunNext, hr] using hreceived'
      · simpa only [elpRunNext, he] using hexpected'
      · simpa only [elpRunNext, hsmoothed] using h.smoothed_le
  | update link =>
    rcases elpRunNext_update s link with heq | heq | ⟨base, heq⟩
    · rw [heq]
      exact h
    · rw [heq]
      exact ⟨h.received_le, h.received_since, h.expected_since, h.smoothed_le, h.since_lt⟩
    · rw [heq]
      have hsample := h.sample_le
      have hsmoothed := h.smoothed_le
      refine ⟨le_rfl, le_rfl, le_rfl, ?_, by norm_num⟩
      change (elpSmooth (elpLossSample s.neigh) s.neigh.ePtSmoothed).toNat ≤ 999
      rw [toNat_elpSmooth hsample hsmoothed]
      omega

/-- A new neighbour. -/
lemma ElpRun.inv_new (jiffies : Jiffies) : (ElpRun.new jiffies).Inv :=
  ⟨le_rfl, le_rfl, le_rfl, Nat.zero_le _, by norm_num [ElpRun.new]⟩

/-- **The bounds of the estimator hold in every state** of every run with fewer than `2 ^ 22` ELP
packets between two updates of the metric that have a base airtime. -/
theorem elp_loss_bounds (jiffies : Jiffies) (es : List ElpEvent)
    (hfew : Run.AllSteps elpRunNext (fun s e => (elpRunNext s e).sinceReset < 2 ^ 22)
      (.new jiffies) es) :
    ∀ s ∈ Run.states elpRunNext (.new jiffies) es, ElpBounds s.neigh := by
  intro s hs
  have hinv := Run.AllSteps.forall_mem_states ElpRun.Inv (fun _ e hinv hfew => hinv.step e hfew)
    (ElpRun.inv_new jiffies) hfew s hs
  exact hinv.bounds

/-- A neighbour one of whose packets was lost: the theorem applies. -/
theorem elp_loss_bounds_one :
    ElpBounds (Run.final elpRunNext (.new 0) [.recv ⟨1, 500, 0, true⟩, .recv ⟨3, 500, 0, true⟩,
      .update (ethernetLink 1000)]).neigh :=
  elp_loss_bounds 0 _ (by decide) _ (Run.final_mem_states _ _)

/-! ### Updates that do not reset the counters -/

/-- Two packets after one with the number 1: the first one has a gap of 100 in front of it, and the
second one goes back. -/
def elpPair : List ElpEvent := [.recv ⟨102, 500, 0, true⟩, .recv ⟨1, 500, 0, true⟩]

/-- An update of the metric that does not get the lock it needs. -/
def elpBusyUpdate : ElpEvent := .update { ethernetLink 1000 with rtnlTrylock := false }

/-- As many pairs as come between two updates, and an update. -/
def elpBusyTurn : List ElpEvent := (List.replicate 2005120 elpPair).flatten ++ [elpBusyUpdate]

/-- A run in which 21 updates do not get the lock. -/
def elpBusyRun : List ElpEvent :=
  .recv ⟨1, 500, 0, true⟩ ::
    ((List.replicate 21 elpBusyTurn).flatten ++ (List.replicate 3 elpPair).flatten)

/-- The counters after so many pairs, and the packets since the last update. -/
structure ElpBusyAt (pairs since : ℕ) (s : ElpRun) : Prop where
  last : s.neigh.elpLastSeqno = 1
  expected : s.neigh.elpExpected = BitVec.ofNat 32 (1 + 102 * pairs)
  received : s.neigh.elpReceived = BitVec.ofNat 32 (1 + 2 * pairs)
  since : s.sinceUpdate = since

/-- A packet that is counted, after another one. -/
lemma ElpBusyAt.recv {s : ElpRun} {recv : ElpRecv} (hfound : recv.found = true)
    (hlast : s.neigh.elpLastSeqno ≠ 0) :
    (elpRunNext s (.recv recv)).neigh.elpLastSeqno = recv.seqno ∧
      (elpRunNext s (.recv recv)).neigh.elpExpected =
        s.neigh.elpExpected + (1 + elpGap recv.seqno s.neigh.elpLastSeqno) ∧
      (elpRunNext s (.recv recv)).neigh.elpReceived = s.neigh.elpReceived + 1 ∧
      (elpRunNext s (.recv recv)).sinceUpdate = s.sinceUpdate + 1 := by
  obtain ⟨hr, he, hl, -⟩ := elpNeighUpdate_counts recv s.neigh
  have hpos : 0 < s.neigh.elpLastSeqno := (BitVec.pos_iff_ne_zero _).2 hlast
  simp only [hfound, if_true, elpCount, if_pos hpos] at hr he hl
  exact ⟨hl, he, hr, rfl⟩

/-- A pair makes the expected packets 102 more, and the received ones 2 more. -/
lemma ElpBusyAt.pair {pairs since : ℕ} {s : ElpRun} (h : ElpBusyAt pairs since s)
    (hsince : since + 2 < 2 ^ 22) :
    Run.AllSteps elpRunNext (fun s e => (elpRunNext s e).sinceUpdate < 2 ^ 22) s elpPair ∧
      ElpBusyAt (pairs + 1) (since + 2) (Run.final elpRunNext s elpPair) := by
  obtain ⟨hl₁, he₁, hr₁, hs₁⟩ := @recv s ⟨102, 500, 0, true⟩ rfl (by rw [h.last]; decide)
  obtain ⟨hl₂, he₂, hr₂, hs₂⟩ := @recv (elpRunNext s (.recv ⟨102, 500, 0, true⟩))
    ⟨1, 500, 0, true⟩ rfl (by rw [hl₁]; decide)
  have hsu := h.since
  refine ⟨⟨by omega, by omega, trivial⟩, hl₂, ?_, ?_, ?_⟩
  · have hgaps : (1 + elpGap 102 1 + (1 + elpGap 1 102) : U32) = BitVec.ofNat 32 102 := by decide
    rw [elpPair, Run.final_cons, Run.final_cons, Run.final_nil, he₂, he₁, hl₁, h.last, h.expected,
      BitVec.add_assoc, hgaps, ← BitVec.ofNat_add]
    congr 1
  · rw [elpPair, Run.final_cons, Run.final_cons, Run.final_nil, hr₂, hr₁, h.received,
      BitVec.add_assoc]
    change _ + BitVec.ofNat 32 2 = _
    rw [← BitVec.ofNat_add]
    congr 1
  · rw [elpPair, Run.final_cons, Run.final_cons, Run.final_nil, hs₂, hs₁, hsu]

/-- Some pairs. -/
lemma ElpBusyAt.pairs {pairs since n : ℕ} {s : ElpRun} (h : ElpBusyAt pairs since s)
    (hsince : since + 2 * n < 2 ^ 22) :
    Run.AllSteps elpRunNext (fun s e => (elpRunNext s e).sinceUpdate < 2 ^ 22) s
        (List.replicate n elpPair).flatten ∧
      ElpBusyAt (pairs + n) (since + 2 * n)
        (Run.final elpRunNext s (List.replicate n elpPair).flatten) :=
  Run.AllSteps.repeat (fun i => ElpBusyAt (pairs + i) (since + 2 * i))
    (fun i _ _ hi => hi.pair (by omega)) h

/-- An update that does not get the lock. -/
lemma ElpBusyAt.update {pairs since : ℕ} {s : ElpRun} (h : ElpBusyAt pairs since s) :
    ElpBusyAt pairs 0 (elpRunNext s elpBusyUpdate) :=
  ⟨h.last, h.expected, h.received, rfl⟩

/-- A turn. -/
lemma ElpBusyAt.turn {pairs : ℕ} {s : ElpRun} {since : ℕ} (h : ElpBusyAt pairs since s)
    (hsince : since ≤ 1) :
    Run.AllSteps elpRunNext (fun s e => (elpRunNext s e).sinceUpdate < 2 ^ 22) s elpBusyTurn ∧
      ElpBusyAt (pairs + 2005120) 0 (Run.final elpRunNext s elpBusyTurn) := by
  obtain ⟨hsteps, hpairs⟩ := h.pairs (n := 2005120) (by omega)
  have hlast := hpairs.update
  rw [elpBusyTurn, Run.allSteps_append, Run.final_append]
  refine ⟨⟨hsteps, ?_, trivial⟩, hlast⟩
  exact lt_of_eq_of_lt hlast.since (by norm_num)

/-- **Few packets between two updates are not enough**: if the updates do not get the lock they
need, 84215047 packets are counted as received where 51 are expected. -/
theorem elp_loss_overflow :
    Run.AllSteps elpRunNext (fun s e => (elpRunNext s e).sinceUpdate < 2 ^ 22) (.new 0)
        elpBusyRun ∧
      (Run.final elpRunNext (.new 0) elpBusyRun).neigh.elpReceived = 84215047 ∧
      (Run.final elpRunNext (.new 0) elpBusyRun).neigh.elpExpected = 51 := by
  have hfirst : ElpBusyAt 0 1 (elpRunNext (.new 0) (.recv ⟨1, 500, 0, true⟩)) :=
    ⟨by decide, by decide, by decide, rfl⟩
  have hturns := @Run.AllSteps.repeat _ _ _ _ _ elpBusyTurn 21
    (fun i s => ∃ since ≤ 1, ElpBusyAt (2005120 * i) since s)
    (fun i _ s hi => by
      obtain ⟨since, hle, hi⟩ := hi
      obtain ⟨hsteps, hnext⟩ := hi.turn hle
      exact ⟨hsteps, 0, Nat.zero_le _, hnext⟩)
    ⟨1, le_rfl, hfirst⟩
  obtain ⟨hsteps, since, hle, hat⟩ := hturns
  obtain ⟨hsteps', hat'⟩ := hat.pairs (n := 3) (by omega)
  rw [elpBusyRun, Run.allSteps_cons, Run.final_cons, Run.allSteps_append, Run.final_append]
  refine ⟨⟨?_, hsteps, hsteps'⟩, ?_, ?_⟩
  · exact lt_of_eq_of_lt hfirst.since (by norm_num)
  · rw [hat'.received]
    rfl
  · rw [hat'.expected]
    rfl

/-! ### A silent neighbour -/

/-- The metric of a neighbour after runs of the periodic worker with the given links, while no
packet of the neighbour is received. -/
def elpPeriodicRuns (links : List ElpLink) (neigh : HardifNeighBatV) : HardifNeighBatV :=
  links.foldl (fun n link => ((elpAirtimeMetricUpdate link n).map Prod.snd).getD n) neigh

/-- In this run the link has the given base airtime, or none. -/
def ElpLink.KeepsBase (base : U32) (link : ElpLink) : Prop :=
  ∃ flags, elpAirtimeGetBase link = some (flags, some base) ∨
    elpAirtimeGetBase link = some (flags, none)

/-- The cost does not fall below that of a link without losses. -/
lemma elpCost_zero_le (base ePt : U32) : elpCost base 0 ≤ elpCost base ePt := by
  by_cases h : ePt < 1000
  · have hlt : ePt.toNat < 1000 := h
    rw [BitVec.le_def, toNat_elpCost (by decide : (0 : U32).toNat < 1000), toNat_elpCost hlt]
    exact Nat.div_le_div_left (by simp) (by omega)
  · have hmax : elpCost base ePt = AIRTIME_MAX_VALUE := if_neg h
    rw [hmax]
    exact le_AIRTIME_MAX_VALUE _

/-- One run. -/
lemma elpPeriodicRuns_cons (link : ElpLink) (links : List ElpLink) (neigh : HardifNeighBatV) :
    elpPeriodicRuns (link :: links) neigh =
      elpPeriodicRuns links (((elpAirtimeMetricUpdate link neigh).map Prod.snd).getD neigh) := rfl

/-- A neighbour without losses so far, whose cost is not above that of such a link, does not look
better after any runs.

**Proof sketch.** Induction on the runs: a run stores nothing, or the cost for some loss, which is
at least that for none. -/
lemma elpPeriodicRuns_le {base cost : U32} (hcost : cost ≤ elpCost base 0) {links : List ElpLink}
    (hlinks : ∀ link ∈ links, link.KeepsBase base) {neigh : HardifNeighBatV}
    (hneigh : cost ≤ neigh.airtimeCost) : cost ≤ (elpPeriodicRuns links neigh).airtimeCost := by
  induction links generalizing neigh with
  | nil => exact hneigh
  | cons link links ih =>
    rw [List.forall_mem_cons] at hlinks
    rw [elpPeriodicRuns_cons]
    refine ih hlinks.2 ?_
    obtain ⟨flags, hbase | hnone⟩ := hlinks.1
    · rw [elpAirtimeMetricUpdate_of_base hbase]
      exact BitVec.le_trans hcost (elpCost_zero_le base _)
    · simpa only [elpAirtimeMetricUpdate, hnone, Option.map_some, Option.getD_some] using hneigh

/-- Without packets a run makes the smoothed rate smaller, until it is 0.

**Proof sketch.** Induction on the rate, which a run takes three quarters of. -/
lemma exists_elpPeriodicRuns_eq_zero {link : ElpLink} {flags : U8} {base : U32}
    (hlink : elpAirtimeGetBase link = some (flags, some base)) (n : ℕ) :
    ∀ neigh : HardifNeighBatV, neigh.ePtSmoothed.toNat = n → neigh.elpExpected = 0 →
      neigh.airtimeCost = elpCost base neigh.ePtSmoothed →
      ∃ k, (elpPeriodicRuns (List.replicate k link) neigh).ePtSmoothed = 0 ∧
        (elpPeriodicRuns (List.replicate k link) neigh).airtimeCost = elpCost base 0 := by
  induction n using Nat.strong_induction_on with
  | _ n ih =>
    intro neigh hn hexpected hcost
    by_cases hzero : neigh.ePtSmoothed = 0
    · refine ⟨0, hzero, ?_⟩
      rw [List.replicate_zero]
      exact hcost.trans (by rw [hzero])
    · -- another run makes the rate smaller
      have hpos : neigh.ePtSmoothed.toNat ≠ 0 := fun h0 => hzero (BitVec.eq_of_toNat_eq h0)
      have hsample : elpLossSample neigh = 0 := by
        rw [elpLossSample, hexpected]
        rfl
      have hless : (elpAirtimeStore base neigh).ePtSmoothed.toNat < n := by
        have hweight : (AIRTIME_EWMA_WEIGHT - 1).toNat = 3 := rfl
        have hfour : AIRTIME_EWMA_WEIGHT.toNat = 4 := rfl
        change (elpSmooth (elpLossSample neigh) neigh.ePtSmoothed).toNat < n
        rw [hsample, elpSmooth, BitVec.toNat_udiv, BitVec.toNat_add, BitVec.toNat_mul, hweight,
          hfour]
        have hle : 3 * neigh.ePtSmoothed.toNat % 2 ^ 32 ≤ 3 * neigh.ePtSmoothed.toNat :=
          Nat.mod_le _ _
        simp only [BitVec.ofNat_eq_ofNat, BitVec.toNat_ofNat, Nat.zero_mod, Nat.zero_add,
          Nat.mod_mod]
        omega
      obtain ⟨k, hk, hkcost⟩ := ih _ hless (elpAirtimeStore base neigh) rfl rfl rfl
      refine ⟨k + 1, ?_, ?_⟩
      · rw [List.replicate_succ, elpPeriodicRuns_cons, elpAirtimeMetricUpdate_of_base hlink]
        exact hk
      · rw [List.replicate_succ, elpPeriodicRuns_cons, elpAirtimeMetricUpdate_of_base hlink]
        exact hkcost

/-- **When a silent neighbour does not look better**, for every state of it and every link that has
its base airtime: after any runs of the periodic worker that keep the base airtime, the smoothed
loss and the cost are at least what they were, exactly if the smoothed loss was 0 and the cost was
not above that of a link without losses.

**Proof sketch.** After enough runs the loss is 0, and the cost is that of a link without losses;
conversely no run stores less. -/
theorem elp_silent_iff (neigh : HardifNeighBatV) (link : ElpLink) (flags : U8)
    (hlink : elpAirtimeGetBase link = some (flags, some neigh.baseAirtime)) :
    (∀ links : List ElpLink, links ≠ [] → (∀ l ∈ links, l.KeepsBase neigh.baseAirtime) →
      neigh.ePtSmoothed ≤ (elpPeriodicRuns links neigh).ePtSmoothed ∧
        neigh.airtimeCost ≤ (elpPeriodicRuns links neigh).airtimeCost) ↔
      neigh.ePtSmoothed = 0 ∧
        neigh.airtimeCost.toNat ≤ neigh.baseAirtime.toNat * 1000 % 2 ^ 32 / 1000 := by
  have hzero : (elpCost neigh.baseAirtime 0).toNat =
      neigh.baseAirtime.toNat * 1000 % 2 ^ 32 / 1000 :=
    toNat_elpCost (by decide : (0 : U32).toNat < 1000)
  rw [← hzero]
  constructor
  · intro hnever
    obtain ⟨k, hk, hkcost⟩ := exists_elpPeriodicRuns_eq_zero hlink _
      (elpAirtimeStore neigh.baseAirtime neigh) rfl rfl rfl
    have hruns : elpPeriodicRuns (List.replicate (k + 1) link) neigh =
        elpPeriodicRuns (List.replicate k link) (elpAirtimeStore neigh.baseAirtime neigh) := by
      rw [List.replicate_succ, elpPeriodicRuns_cons, elpAirtimeMetricUpdate_of_base hlink]
      rfl
    have hle := hnever (List.replicate (k + 1) link) (by simp)
      (fun l hl => ⟨flags, Or.inl (by rw [List.eq_of_mem_replicate hl, hlink])⟩)
    rw [hruns, hk, hkcost] at hle
    exact ⟨BitVec.le_antisymm hle.1 (BitVec.le_def.2 (Nat.zero_le _)), hle.2⟩
  · rintro ⟨hsmoothed, hcost⟩ links - hlinks
    refine ⟨?_, elpPeriodicRuns_le hcost hlinks (BitVec.le_refl _)⟩
    rw [hsmoothed]
    exact BitVec.le_def.2 (Nat.zero_le _)

/-- A neighbour whose metric was updated before any packet was lost. -/
def losslessNeigh : HardifNeighBatV :=
  (Run.final elpRunNext (.new 0) [.recv ⟨1, 500, 0, true⟩, .update (ethernetLink 1000)]).neigh

/-- It keeps its cost: the theorem applies. -/
theorem elp_silent_iff_lossless :
    losslessNeigh.ePtSmoothed ≤
        (elpPeriodicRuns [ethernetLink 1000, ethernetLink 1000] losslessNeigh).ePtSmoothed ∧
      losslessNeigh.airtimeCost ≤
        (elpPeriodicRuns [ethernetLink 1000, ethernetLink 1000] losslessNeigh).airtimeCost := by
  refine (elp_silent_iff losslessNeigh (ethernetLink 1000) 1 (by decide)).2
    ⟨by decide, by decide⟩ _ (by simp) ?_
  intro link hlink
  have hlink : link = ethernetLink 1000 := by simpa using hlink
  exact ⟨1, Or.inl (by rw [hlink]; decide)⟩

/-- A neighbour whose metric was updated after 100 of its packets were lost. -/
def lossyNeigh : HardifNeighBatV :=
  (Run.final elpRunNext (.new 0) [.recv ⟨1, 500, 0, true⟩, .recv ⟨102, 500, 0, true⟩,
    .update (ethernetLink 1000)]).neigh

/-- **A silent neighbour looks better**: with a smoothed loss of 245 thousandths it has a cost of
407; after one run of the worker without a packet the loss is 183 and the cost 376, and after twenty
it has the cost of a link without losses. -/
theorem elp_silent_improves :
    lossyNeigh.ePtSmoothed = 245 ∧ lossyNeigh.airtimeCost = 407 ∧
      (elpPeriodicRuns [ethernetLink 1000] lossyNeigh).ePtSmoothed = 183 ∧
      (elpPeriodicRuns [ethernetLink 1000] lossyNeigh).airtimeCost = 376 ∧
      (elpPeriodicRuns (List.replicate 20 (ethernetLink 1000)) lossyNeigh).airtimeCost =
        (elpPeriodicRuns [ethernetLink 1000] losslessNeigh).airtimeCost := by
  decide

end Batadv
