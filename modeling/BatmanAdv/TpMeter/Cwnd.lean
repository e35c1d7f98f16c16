import BatmanAdv.TpMeter.FastRetransmit

set_option relaxedAutoImplicit false
set_option autoImplicit false

/-!
# The arithmetic of the congestion window (`tp_meter.c`)

The congestion window grows by a segment for each ACK in slow start, and by a fraction of a segment
in congestion avoidance.  The fraction is scaled by eight, and so is the window it is divided by:
the largest window, 2^29 bytes, is scaled to a number that does not fit into 32 bits, and the
division is one by zero.  The fraction that was collected, `dec_cwnd`, is not set when a session
starts.

## Main definitions

* `Batadv.TpCwndOk` — the bounds of the window, the threshold and the fraction.
* `Batadv.tpCwndCalls`, `Batadv.TpUpdates` — which sizes are computed in an event.
* `Batadv.TpCwndExact` — nothing wraps, the divisor is not zero, and the window does not shrink.
* `Batadv.TpBelowWindow` — in congestion avoidance the window is not the largest one.

## Main results

* `Batadv.tpUpdateCwnd_ok` — the update of the window, below the largest one.
* `Batadv.tp_cwnd_iff` — when the bounds and the exactness hold along a run.
* `Batadv.tp_cwnd_divides_by_zero` — a run that gets to the division by zero.
-/

namespace Batadv

/-! ### Bounds -/

/-- **The bounds**: the window has at least a segment and at most the advertised window, the
threshold is not larger than that, and the fraction is less than a segment. -/
structure TpCwndOk (v : TpVars) : Prop where
  segment : TP_PLEN ≤ v.cwnd
  awnd : v.cwnd ≤ TP_AWND
  threshold : v.ssThreshold ≤ TP_AWND
  fraction : v.decCwnd.setWidth 32 < TP_PLEN <<< 3

/-- The base and the increment of the sizes that an event computes with `batadv_tp_cwnd`, other than
in `batadv_tp_update_cwnd`. -/
def tpCwndCalls (v : TpVars) : TpRunEvent → List (U32 × U32)
  | .handler (.ack ack) =>
    if ¬ ack.Processed v then []
    else if v.lastAcked = ack.seqno then
      if v.dupAcks = 2 ∧ ack.seqno < v.recover then [(v.cwnd >>> 1, 3 * TP_PLEN)] else []
    else if v.fastRecovery then
      if seqBefore ack.seqno v.recover then [(v.cwnd, TP_PLEN)] else [(v.ssThreshold, 0)]
    else []
  | _ => []

/-- The event calls `batadv_tp_update_cwnd`. -/
def TpUpdates (v : TpVars) : TpRunEvent → Prop
  | .handler (.ack ack) =>
    ack.Processed v ∧ v.lastAcked ≠ ack.seqno ∧ v.fastRecovery = false ∧
      TP_PLEN ≤ ack.seqno - v.lastAcked
  | _ => False

/-- Nothing wraps in `batadv_tp_update_cwnd`, in congestion avoidance it does not divide by zero,
and the window does not shrink. -/
structure TpUpdateExact (v : TpVars) : Prop where
  sum : v.cwnd.toNat + TP_PLEN.toNat < 2 ^ 32
  square : TP_PLEN.toNat * TP_PLEN.toNat * 2 ^ 6 < 2 ^ 32
  limit : TP_PLEN.toNat * 2 ^ 3 < 2 ^ 32
  scaled : v.ssThreshold < v.cwnd → v.cwnd.toNat * 2 ^ 3 < 2 ^ 32
  divisor : v.ssThreshold < v.cwnd → v.cwnd <<< 3 ≠ 0
  grows : ∃ v', tpUpdateCwnd v TP_PLEN = some v' ∧ v.cwnd ≤ v'.cwnd

/-- **The arithmetic of an event is exact.** -/
def TpCwndExact (v : TpVars) (e : TpRunEvent) : Prop :=
  (∀ call ∈ tpCwndCalls v e, call.1.toNat + call.2.toNat < 2 ^ 32) ∧
    (TpUpdates v e → TpUpdateExact v)

/-- When the window is updated in congestion avoidance, it is not the largest one. -/
def TpBelowWindow (v : TpVars) (e : TpRunEvent) : Prop :=
  TpUpdates v e → v.ssThreshold < v.cwnd → v.cwnd ≠ TP_AWND

/-! ### One event -/

/-- Half of a window is not larger than the advertised one. -/
lemma shiftRight_le_awnd {x : U32} (h : x ≤ TP_AWND) : x >>> 1 ≤ TP_AWND := by
  rw [BitVec.le_def] at h ⊢
  rw [BitVec.toNat_ushiftRight, Nat.shiftRight_eq_div_pow]
  exact (Nat.div_le_self _ _).trans h

/-- No fraction is less than a segment. -/
lemma zero_fraction : (0 : U16).setWidth 32 < TP_PLEN <<< 3 := by decide

/-- The bounds speak about three fields only. -/
lemma TpCwndOk.congr {v v' : TpVars} (h : TpCwndOk v) (hcwnd : v'.cwnd = v.cwnd)
    (hthreshold : v'.ssThreshold = v.ssThreshold) (hfraction : v'.decCwnd = v.decCwnd) :
    TpCwndOk v' :=
  ⟨hcwnd ▸ h.segment, hcwnd ▸ h.awnd, hthreshold ▸ h.threshold, hfraction ▸ h.fraction⟩

/-- A size that `batadv_tp_cwnd` computed has the bounds. -/
lemma TpCwndOk.resize {v : TpVars} (h : TpCwndOk v) (base increment : U32) :
    TpCwndOk { v with cwnd := tpCwnd base increment TP_PLEN } :=
  ⟨le_tpCwnd _ _ _, tpCwnd_le _ _ (by decide), h.threshold, h.fraction⟩

/-- **The update of the window**, where in congestion avoidance it is not the largest one. -/
lemma tpUpdateCwnd_ok {v : TpVars} (h : TpCwndOk v)
    (hbelow : v.ssThreshold < v.cwnd → v.cwnd ≠ TP_AWND) :
    ∃ v', tpUpdateCwnd v TP_PLEN = some v' ∧ TpCwndOk v' ∧ v.cwnd ≤ v'.cwnd := by
  have hgrows := le_tpCwnd_base TP_PLEN TP_PLEN h.awnd
  unfold tpUpdateCwnd
  dsimp only
  by_cases hslow : v.cwnd ≤ v.ssThreshold
  · rw [if_pos hslow]
    exact ⟨_, rfl, ⟨le_tpCwnd _ _ _, tpCwnd_le _ _ (by decide), h.threshold, zero_fraction⟩,
      hgrows⟩
  have hdivisor : v.cwnd <<< 3 ≠ 0 := by
    have hne := hbelow (BitVec.not_le.1 hslow)
    have hawnd : v.cwnd.toNat ≤ 536870912 := h.awnd
    have hpos : 1476 ≤ v.cwnd.toNat := h.segment
    intro hscaled
    have hnat : (v.cwnd <<< 3).toNat = 0 := congrArg BitVec.toNat hscaled
    rw [BitVec.toNat_shiftLeft, Nat.shiftLeft_eq] at hnat
    have hlargest : v.cwnd.toNat = 536870912 := by omega
    exact hne (BitVec.eq_of_toNat_eq hlargest)
  rw [if_neg hslow, if_neg hdivisor]
  split_ifs with hfraction
  · exact ⟨_, rfl, ⟨h.segment, h.awnd, h.threshold, hfraction⟩, BitVec.le_refl _⟩
  · exact ⟨_, rfl, ⟨le_tpCwnd _ _ _, tpCwnd_le _ _ (by decide), h.threshold, zero_fraction⟩,
      hgrows⟩

/-- An ACK for new data keeps the bounds. -/
lemma tpRecvNewAck_cwndOk {v : TpVars} {recvAck : U32} (h : TpCwndOk v)
    (hbelow : v.fastRecovery = false → TP_PLEN ≤ recvAck - v.lastAcked →
      v.ssThreshold < v.cwnd → v.cwnd ≠ TP_AWND) :
    TpCwndOk (tpRecvNewAck v recvAck).1 := by
  unfold tpRecvNewAck
  dsimp only
  split_ifs with hrecovery hbefore hsegment
  · exact (h.resize v.cwnd TP_PLEN).congr rfl rfl rfl
  · exact (h.resize v.ssThreshold 0).congr rfl rfl rfl
  · obtain ⟨v', hupdate, hok, -⟩ := @tpUpdateCwnd_ok { v with
        totSent := v.totSent + (recvAck - v.lastAcked).setWidth 64, dupAcks := 0 }
      (h.congr rfl rfl rfl) (hbelow (by simpa using hrecovery) hsegment)
    rw [hupdate]
    exact hok.congr rfl rfl rfl
  · exact h.congr rfl rfl rfl

/-- An ACK keeps the bounds. -/
lemma tpRecvAck_cwndOk {v : TpVars} {ack : TpAck} (h : TpCwndOk v)
    (hbelow : TpBelowWindow v (.handler (.ack ack))) : TpCwndOk (tpRecvAck v ack).1 := by
  by_cases hproc : ack.Processed v
  · obtain ⟨srtt, rttvar, rto, heq⟩ := tpRecvAck_of_processed hproc
    rw [heq]
    split_ifs with hdup
    · rw [tpRecvDupAck_eq]
      split_ifs
      · exact ⟨le_tpCwnd _ _ _, tpCwnd_le _ _ (by decide), shiftRight_le_awnd h.awnd, zero_fraction⟩
      · exact h.congr rfl rfl rfl
    · exact tpRecvNewAck_cwndOk (h.congr rfl rfl rfl)
        fun hrecovery hsegment => hbelow ⟨hproc, hdup, hrecovery, hsegment⟩
  · rw [tpRecvAck_of_not_processed hproc]
    exact h

/-- Stopping a session keeps the bounds. -/
lemma tpSenderShutdown_cwndOk {v : TpVars} (h : TpCwndOk v) (reason : TpReason) :
    TpCwndOk (tpSenderShutdown v reason) := by
  obtain ⟨reason', heq⟩ := tpSenderShutdown_frame v reason
  rw [heq]
  exact h.congr rfl rfl rfl

/-- **Every event keeps the bounds**, where in congestion avoidance the window is not the largest
one. -/
lemma TpCwndOk.next {v : TpVars} (h : TpCwndOk v) {e : TpRunEvent} (hbelow : TpBelowWindow v e) :
    TpCwndOk (tpRunNext v e) := by
  cases e with
  | stop reason => exact tpSenderShutdown_cwndOk h reason
  | handler e =>
    cases e with
    | ack ack => exact tpRecvAck_cwndOk h hbelow
    | timeout =>
      have hsegment : TP_PLEN ≤ TP_PLEN * 3 := by decide
      have hawnd : TP_PLEN * 3 ≤ TP_AWND := by decide
      have hthreshold : TP_PLEN * 2 ≤ TP_AWND := by decide
      change TpCwndOk (tpSenderTimeout v).1
      unfold tpSenderTimeout tpSenderBackoff
      split_ifs
      · exact h
      · exact tpSenderShutdown_cwndOk h _
      · exact ⟨hsegment, hawnd, hthreshold, h.fraction⟩
      · exact ⟨hsegment, hawnd, shiftRight_le_awnd h.awnd, h.fraction⟩
    | send err =>
      change TpCwndOk (tpSendOnce v err).1
      unfold tpSendOnce
      split_ifs
      · exact h
      · exact h
      · exact h.congr rfl rfl rfl
      · exact h
      · exact tpSenderShutdown_cwndOk h _

/-- The sizes that an event computes do not wrap. -/
lemma TpCwndOk.calls {v : TpVars} (h : TpCwndOk v) (e : TpRunEvent) :
    ∀ call ∈ tpCwndCalls v e, call.1.toNat + call.2.toNat < 2 ^ 32 := by
  have hcwnd : v.cwnd.toNat ≤ 2 ^ 29 := h.awnd
  have hthreshold : v.ssThreshold.toNat ≤ 2 ^ 29 := h.threshold
  have hhalf : (v.cwnd >>> 1).toNat ≤ 2 ^ 29 := shiftRight_le_awnd h.awnd
  have hplen : TP_PLEN.toNat = 1476 := rfl
  have hthree : (3 * TP_PLEN).toNat = 4428 := rfl
  have hzero : (0 : U32).toNat = 0 := rfl
  unfold tpCwndCalls
  split
  · split_ifs
    all_goals
      intro call hcall
      first
        | exact absurd hcall List.not_mem_nil
        | (rw [List.mem_singleton.1 hcall]; dsimp only; omega)
  · exact nofun

/-- The arithmetic is exact, where in congestion avoidance the window is not the largest one. -/
lemma TpCwndOk.exact_iff {v : TpVars} (h : TpCwndOk v) (e : TpRunEvent) :
    TpCwndExact v e ↔ TpBelowWindow v e := by
  have hcwnd : v.cwnd.toNat ≤ 2 ^ 29 := h.awnd
  constructor
  · intro hexact hupdates havoid heq
    have hscaled := (hexact.2 hupdates).scaled havoid
    rw [heq] at hscaled
    exact absurd hscaled (by decide)
  · intro hbelow
    refine ⟨h.calls e, fun hupdates => ?_⟩
    obtain ⟨v', hupdate, -, hgrows⟩ := tpUpdateCwnd_ok h (hbelow hupdates)
    have hlt : v.ssThreshold < v.cwnd → v.cwnd.toNat < 2 ^ 29 := fun havoid =>
      lt_of_le_of_ne hcwnd fun heq => hbelow hupdates havoid (BitVec.eq_of_toNat_eq heq)
    have hplen : TP_PLEN.toNat = 1476 := rfl
    refine ⟨by omega, by decide, by decide, fun havoid => ?_, fun havoid => ?_, v', hupdate, hgrows⟩
    · have := hlt havoid
      omega
    · intro hzero
      have hslow : ¬ v.cwnd ≤ v.ssThreshold := BitVec.not_le.2 havoid
      unfold tpUpdateCwnd at hupdate
      rw [if_neg hslow, if_pos hzero] at hupdate
      cases hupdate

/-- **The congestion window.**  Along a run from the start of a session the window, the threshold
and the fraction keep their bounds, and all of their arithmetic is exact, exactly if the fraction
that was in the memory of the session is in its bounds, and the window is never updated in
congestion avoidance while it is the largest one. -/
theorem tp_cwnd_iff (memory : TpVars) (es : List TpRunEvent) :
    ((∀ v ∈ Run.states tpRunNext (tpStart memory) es, TpCwndOk v) ∧
        Run.AllSteps tpRunNext TpCwndExact (tpStart memory) es) ↔
      memory.decCwnd.setWidth 32 < TP_PLEN <<< 3 ∧
        Run.AllSteps tpRunNext TpBelowWindow (tpStart memory) es := by
  have hsegment : TP_PLEN ≤ TP_PLEN * 3 := by decide
  have hawnd : TP_PLEN * 3 ≤ TP_AWND := by decide
  by_cases hfraction : memory.decCwnd.setWidth 32 < TP_PLEN <<< 3
  · have hstart : TpCwndOk (tpStart memory) := ⟨hsegment, hawnd, BitVec.le_refl _, hfraction⟩
    have hall : Run.AllSteps tpRunNext (fun _ _ => True) (tpStart memory) es :=
      .of_forall (fun _ _ => trivial) es
    rw [and_iff_right hfraction]
    refine Run.forall_mem_states_and_allSteps_iff TpCwndOk TpCwndOk (fun _ _ => True) ?_
      (fun v e h _ hbelow => h.next hbelow) hstart hstart hall
    intro v e h _ _
    rw [h.exact_iff]
    exact and_iff_right_of_imp h.next
  · refine iff_of_false (fun h => hfraction ?_) (fun h => hfraction h.1)
    have hfirst : tpStart memory ∈ Run.states tpRunNext (tpStart memory) es := by
      cases es <;> simp [Run.states]
    exact (h.1 _ hfirst).fraction

/-! ### A long run -/

/-- A segment is sent and acknowledged, the one with the number `i`. -/
def tpTurn (i : ℕ) : List TpRunEvent := tpSendAndAck 1 (i + 1) 1

/-- Between two turns: all segments up to the `i`-th are acknowledged, and the timeout, the window,
the threshold and the fraction have the given values. -/
structure TpSteady (rto : U32) (i cwnd ssThreshold decCwnd : ℕ) (v : TpVars) : Prop where
  sending : v.sending = 1
  lastAcked : v.lastAcked = TP_FIRST_SEQ + BitVec.ofNat 32 (i * 1476)
  lastSent : v.lastSent = v.lastAcked
  fastRecovery : v.fastRecovery = false
  rto : v.rto = rto
  cwnd : v.cwnd.toNat = cwnd
  ssThreshold : v.ssThreshold.toNat = ssThreshold
  decCwnd : v.decCwnd.toNat = decCwnd

/-- `batadv_tp_update_cwnd` for the given values. -/
def TpUpdatesTo (cwnd ssThreshold decCwnd cwnd' decCwnd' : ℕ) : Prop :=
  ∀ v : TpVars, v.cwnd.toNat = cwnd → v.ssThreshold.toNat = ssThreshold →
    v.decCwnd.toNat = decCwnd → ∃ v', tpUpdateCwnd v TP_PLEN = some v' ∧
      v'.cwnd.toNat = cwnd' ∧ v'.decCwnd.toNat = decCwnd'

/-- The size after a segment is added. -/
lemma toNat_tpCwnd_plen {cwnd : U32} (hsegment : 1476 ≤ cwnd.toNat) (hawnd : cwnd.toNat ≤ 2 ^ 29) :
    (tpCwnd cwnd TP_PLEN TP_PLEN).toNat = min (cwnd.toNat + 1476) (2 ^ 29) := by
  have hsum : (cwnd + TP_PLEN).toNat = cwnd.toNat + 1476 := by
    rw [BitVec.toNat_add]
    exact Nat.mod_eq_of_lt (show cwnd.toNat + 1476 < 2 ^ 32 by omega)
  have hplen : TP_PLEN.toNat = 1476 := rfl
  have hlargest : TP_AWND.toNat = 2 ^ 29 := rfl
  have hwrap : ¬ cwnd + TP_PLEN < cwnd := by
    rw [BitVec.lt_def, hsum]
    omega
  unfold tpCwnd maxU32 minU32
  dsimp only
  rw [if_neg hwrap]
  simp only [BitVec.lt_def]
  split_ifs <;> omega

/-- Slow start. -/
lemma tpUpdatesTo_slow {cwnd ssThreshold decCwnd : ℕ} (hsegment : 1476 ≤ cwnd)
    (hawnd : cwnd ≤ 2 ^ 29) (hslow : cwnd ≤ ssThreshold) :
    TpUpdatesTo cwnd ssThreshold decCwnd (min (cwnd + 1476) (2 ^ 29)) 0 := by
  rintro v rfl rfl -
  refine ⟨{ v with decCwnd := 0, cwnd := tpCwnd v.cwnd TP_PLEN TP_PLEN }, if_pos hslow,
    toNat_tpCwnd_plen hsegment hawnd, rfl⟩

/-- Congestion avoidance with a large window: the fraction grows by one, scaled by eight. -/
lemma tpUpdatesTo_avoid {cwnd ssThreshold decCwnd : ℕ} (hlarge : 2 ^ 28 ≤ cwnd)
    (hawnd : cwnd < 2 ^ 29) (havoid : ssThreshold < cwnd) (hfraction : decCwnd + 8 ≤ 11808) :
    TpUpdatesTo cwnd ssThreshold decCwnd
      (if decCwnd + 8 < 11808 then cwnd else min (cwnd + 1476) (2 ^ 29))
      (if decCwnd + 8 < 11808 then decCwnd + 8 else 0) := by
  rintro v rfl rfl rfl
  have hslow : ¬ v.cwnd ≤ v.ssThreshold := Nat.not_le.2 havoid
  have hscaled : (v.cwnd <<< 3).toNat = v.cwnd.toNat * 8 := by
    rw [BitVec.toNat_shiftLeft, Nat.shiftLeft_eq]
    omega
  have hdivisor : v.cwnd <<< 3 ≠ 0 := by
    intro hzero
    have hnat : (v.cwnd <<< 3).toNat = 0 := congrArg BitVec.toNat hzero
    omega
  have hquotient : ((TP_PLEN * TP_PLEN) <<< 6 / (v.cwnd <<< 3)).toNat = 0 := by
    rw [BitVec.toNat_udiv, hscaled]
    exact Nat.div_eq_of_lt (show 139428864 < v.cwnd.toNat * 8 by omega)
  have hincrement : maxU32 ((1 : U32) <<< 3) ((TP_PLEN * TP_PLEN) <<< 6 / (v.cwnd <<< 3)) = 8 := by
    have height : (TP_PLEN * TP_PLEN) <<< 6 / (v.cwnd <<< 3) < (1 : U32) <<< 3 := by
      rw [BitVec.lt_def, hquotient]
      decide
    rw [maxU32, if_pos height]
    rfl
  have hsum : (v.decCwnd + (8 : U32).setWidth 16).toNat = v.decCwnd.toNat + 8 := by
    rw [BitVec.toNat_add]
    exact Nat.mod_eq_of_lt (show v.decCwnd.toNat + 8 < 2 ^ 16 by omega)
  have hlimit : (v.decCwnd + (8 : U32).setWidth 16).setWidth 32 < TP_PLEN <<< 3 ↔
      v.decCwnd.toNat + 8 < 11808 := by
    rw [BitVec.lt_def, BitVec.toNat_setWidth, hsum]
    change (v.decCwnd.toNat + 8) % 2 ^ 32 < 11808 ↔ _
    omega
  unfold tpUpdateCwnd
  dsimp only
  rw [if_neg hslow, if_neg hdivisor, hincrement]
  by_cases hless : v.decCwnd.toNat + 8 < 11808
  · rw [if_pos (hlimit.2 hless), if_pos hless, if_pos hless]
    exact ⟨_, rfl, rfl, hsum⟩
  · rw [if_neg (mt hlimit.1 hless), if_neg hless, if_neg hless]
    exact ⟨_, rfl, toNat_tpCwnd_plen (by omega) (by omega), rfl⟩

/-- The end of the next segment. -/
lemma TpSteady.seqno {rto : U32} {i cwnd ssThreshold decCwnd : ℕ} {v : TpVars}
    (h : TpSteady rto i cwnd ssThreshold decCwnd v) :
    TP_FIRST_SEQ + BitVec.ofNat 32 ((i + 1) * 1476) = v.lastAcked + TP_PLEN := by
  rw [h.lastAcked, Nat.succ_mul, BitVec.ofNat_add, ← BitVec.add_assoc]
  rfl

/-- The ACK of the next segment. -/
lemma TpSteady.ack {rto : U32} {i cwnd ssThreshold decCwnd : ℕ} {v : TpVars}
    (h : TpSteady rto i cwnd ssThreshold decCwnd v) :
    tpAckUpTo (i + 1) = ⟨v.lastAcked + TP_PLEN, 0, 0, true, true⟩ := by
  rw [tpAckUpTo, h.seqno]

/-- A segment is sent. -/
lemma TpSteady.send {rto : U32} {i cwnd ssThreshold decCwnd : ℕ} {v : TpVars}
    (h : TpSteady rto i cwnd ssThreshold decCwnd v) (hsegment : 1476 ≤ cwnd) :
    tpRunNext v (.handler (.send 0)) = { v with lastSent := v.lastSent + TP_PLEN } := by
  have hrunning : v.sending ≠ 0 := by
    rw [h.sending]
    decide
  have havail : tpAvail v TP_PLEN = true := by
    have hleft : v.lastAcked + v.cwnd - v.lastSent = v.cwnd := by
      rw [h.lastSent]
      exact add_sub_cancel_left v.lastAcked v.cwnd
    have hfits : TP_PLEN.toNat ≤ v.cwnd.toNat := h.cwnd.symm ▸ hsegment
    unfold tpAvail
    dsimp only
    rw [hleft]
    exact decide_eq_true hfits
  change (tpSendOnce v 0).1 = _
  unfold tpSendOnce
  rw [if_neg hrunning, havail]
  rfl

/-- The ACK of the next segment updates the window. -/
lemma tpUpdates_next {v : TpVars} (hrunning : v.sending ≠ 0) (hrecovery : v.fastRecovery = false) :
    TpUpdates v (.handler (.ack ⟨v.lastAcked + TP_PLEN, 0, 0, true, true⟩)) := by
  have hold : seqBefore (v.lastAcked + TP_PLEN) v.lastAcked = false := by
    have hmove := seqBefore_add_right TP_PLEN 0 v.lastAcked
    rw [zero_add, add_comm] at hmove
    rw [hmove]
    decide
  have hnew : v.lastAcked ≠ v.lastAcked + TP_PLEN := by
    intro heq
    have hzero : TP_PLEN = 0 := left_eq_add.1 heq
    revert hzero
    decide
  have hsegment : TP_PLEN ≤ v.lastAcked + TP_PLEN - v.lastAcked := by
    rw [add_sub_cancel_left]
    exact BitVec.le_refl _
  exact ⟨⟨hrunning, hold, rfl, rfl⟩, hnew, hrecovery, hsegment⟩

/-- The next segment is acknowledged. -/
lemma tpRecvAck_next {v : TpVars} (hrunning : v.sending ≠ 0) (hrecovery : v.fastRecovery = false) :
    tpRecvAck v ⟨v.lastAcked + TP_PLEN, 0, 0, true, true⟩ =
      (tpUpdateCwnd { v with
        totSent := v.totSent + TP_PLEN.setWidth 64, dupAcks := 0 } TP_PLEN).elim
        ({ v with totSent := v.totSent + TP_PLEN.setWidth 64, dupAcks := 0 }, .divideError)
        fun v' => ({ v' with lastAcked := v.lastAcked + TP_PLEN }, .newAck) := by
  obtain ⟨⟨-, hold, -, -⟩, hnew, -, -⟩ := tpUpdates_next hrunning hrecovery
  dsimp only at hold hnew
  have hdiff : v.lastAcked + TP_PLEN - v.lastAcked = TP_PLEN := add_sub_cancel_left _ _
  have hrto : (if (0 : U32) ≠ 0 ∧ (0 : U32) - 0 ≠ 0 then tpUpdateRto v (0 - 0) else v) = v :=
    if_neg fun h => h.1 rfl
  unfold tpRecvAck
  dsimp only
  rw [if_neg hrunning, hold, hrto, if_neg (by decide), if_neg (by decide), if_neg hnew]
  unfold tpRecvNewAck
  dsimp only
  rw [hdiff, if_neg (by rw [hrecovery]; exact Bool.false_ne_true), if_pos (BitVec.le_refl _)]
  cases tpUpdateCwnd _ _ <;> rfl

/-- **A turn.** -/
lemma TpSteady.turn {rto : U32} {i cwnd ssThreshold decCwnd cwnd' decCwnd' : ℕ} {v : TpVars}
    (h : TpSteady rto i cwnd ssThreshold decCwnd v) (hsegment : 1476 ≤ cwnd)
    (hupdate : TpUpdatesTo cwnd ssThreshold decCwnd cwnd' decCwnd') :
    TpSteady rto (i + 1) cwnd' ssThreshold decCwnd' (Run.final tpRunNext v (tpTurn i)) := by
  have hrunning : v.sending ≠ 0 := by
    rw [h.sending]
    decide
  have hnext := @tpRecvAck_next { v with lastSent := v.lastSent + TP_PLEN } hrunning h.fastRecovery
  obtain ⟨v', heq, hcwnd, hfraction⟩ := hupdate { v with
    lastSent := v.lastSent + TP_PLEN
    totSent := v.totSent + TP_PLEN.setWidth 64
    dupAcks := 0 } h.cwnd h.ssThreshold h.decCwnd
  obtain ⟨newCwnd, newDec, rfl, -⟩ := tpUpdateCwnd_spec heq
  dsimp only at hnext hcwnd hfraction heq
  rw [heq] at hnext
  have hfinal : Run.final tpRunNext v (tpTurn i) =
      (tpRecvAck { v with lastSent := v.lastSent + TP_PLEN } (tpAckUpTo (i + 1))).1 := by
    change tpRunNext (tpRunNext v (.handler (.send 0))) (.handler (.ack (tpAckUpTo (i + 1)))) = _
    rw [h.send hsegment]
    rfl
  rw [hfinal, h.ack, hnext]
  exact ⟨h.sending, h.seqno.symm, congrArg (· + TP_PLEN) h.lastSent, h.fastRecovery, h.rto, hcwnd,
    h.ssThreshold, hfraction⟩

/-- Turns, the first one with the number `k`. -/
def tpTurns (k n : ℕ) : List TpRunEvent := (List.range n).flatMap fun i => tpTurn (k + i)

/-- **Slow start** up to the threshold: the window grows by a segment in each turn. -/
lemma TpSteady.slowStart {rto : U32} {k ssThreshold : ℕ} {v : TpVars}
    (h : TpSteady rto k 4428 ssThreshold 0 v) {n : ℕ}
    (hslow : ∀ i < n, min ((3 + i) * 1476) (2 ^ 29) ≤ ssThreshold) :
    TpSteady rto (k + n) (min ((3 + n) * 1476) (2 ^ 29)) ssThreshold 0
      (Run.final tpRunNext v (tpTurns k n)) := by
  refine Run.final_flatMap_range
    (fun i => TpSteady rto (k + i) (min ((3 + i) * 1476) (2 ^ 29)) ssThreshold 0) ?_ h
  intro i hi v hv
  have hturn := hv.turn (by omega) (tpUpdatesTo_slow (by omega) (by omega) (hslow i hi))
  have hgrown : min (min ((3 + i) * 1476) (2 ^ 29) + 1476) (2 ^ 29) =
      min ((3 + (i + 1)) * 1476) (2 ^ 29) := by omega
  rw [hgrown] at hturn
  exact hturn

/-- **Congestion avoidance** with a large window: it grows by a segment in 1476 turns. -/
lemma TpSteady.avoidance {rto : U32} {k cwnd ssThreshold : ℕ} {v : TpVars}
    (h : TpSteady rto k cwnd ssThreshold 0 v) (hlarge : 2 ^ 28 ≤ cwnd) (havoid : ssThreshold < cwnd)
    {n : ℕ} (hbelow : ∀ i < n, cwnd + i / 1476 * 1476 < 2 ^ 29) (hcwnd : cwnd ≤ 2 ^ 29) :
    TpSteady rto (k + n) (min (cwnd + n / 1476 * 1476) (2 ^ 29)) ssThreshold (n % 1476 * 8)
      (Run.final tpRunNext v (tpTurns k n)) := by
  refine Run.final_flatMap_range (fun i => TpSteady rto (k + i)
    (min (cwnd + i / 1476 * 1476) (2 ^ 29)) ssThreshold (i % 1476 * 8)) ?_ ?_
  · intro i hi v hv
    have hlt := hbelow i hi
    rw [min_eq_left hlt.le] at hv
    have hturn := hv.turn (by omega)
      (tpUpdatesTo_avoid (by omega) hlt (by omega) (by omega))
    have hwindow : (if i % 1476 * 8 + 8 < 11808 then cwnd + i / 1476 * 1476
          else min (cwnd + i / 1476 * 1476 + 1476) (2 ^ 29)) =
        min (cwnd + (i + 1) / 1476 * 1476) (2 ^ 29) := by
      split_ifs <;> omega
    have hfraction : (if i % 1476 * 8 + 8 < 11808 then i % 1476 * 8 + 8 else 0) =
        (i + 1) % 1476 * 8 := by
      split_ifs <;> omega
    rw [hwindow, hfraction] at hturn
    exact hturn
  · have hfirst : min (cwnd + 0 / 1476 * 1476) (2 ^ 29) = cwnd := by omega
    rw [hfirst]
    exact h

/-- The timer fires: the threshold is half of the window. -/
lemma TpSteady.timeout {rto : U32} {i ssThreshold : ℕ} {v : TpVars}
    (h : TpSteady rto i (2 ^ 29) ssThreshold 0 v) (hrto : rto < TP_MAX_RTO) :
    TpSteady (rto <<< 1) i 4428 (2 ^ 28) 0 (tpRunNext v (.handler .timeout)) := by
  have hhalf : (v.cwnd >>> 1).toNat = 2 ^ 28 := by
    rw [BitVec.toNat_ushiftRight, h.cwnd]
    rfl
  have hthreshold : ¬ v.cwnd >>> 1 < TP_PLEN * 2 := by
    rw [BitVec.lt_def, hhalf]
    decide
  have hrunning : v.sending ≠ 0 := by
    rw [h.sending]
    decide
  change TpSteady (rto <<< 1) i 4428 (2 ^ 28) 0 (tpSenderTimeout v).1
  unfold tpSenderTimeout tpSenderBackoff
  rw [if_neg hrunning, h.rto, if_neg (BitVec.not_le.2 hrto), if_neg hthreshold]
  exact ⟨h.sending, h.lastAcked, rfl, h.fastRecovery, rfl, rfl, hhalf, h.decCwnd⟩

/-- **With the largest window in congestion avoidance** the next ACK divides by zero. -/
lemma TpSteady.divides {rto : U32} {i ssThreshold decCwnd : ℕ} {v : TpVars}
    (h : TpSteady rto i (2 ^ 29) ssThreshold decCwnd v) (hlt : ssThreshold < 2 ^ 29) :
    (tpRunNext v (.handler (.send 0))).cwnd = TP_AWND ∧
      (tpRunNext v (.handler (.send 0))).ssThreshold.toNat = ssThreshold ∧
      (tpRecvAck (tpRunNext v (.handler (.send 0))) (tpAckUpTo (i + 1))).2 = .divideError ∧
      ¬ TpCwndExact (tpRunNext v (.handler (.send 0))) (.handler (.ack (tpAckUpTo (i + 1)))) := by
  have hlargest : v.cwnd = TP_AWND := BitVec.eq_of_toNat_eq h.cwnd
  have havoid : v.ssThreshold < v.cwnd := by
    rw [BitVec.lt_def, h.ssThreshold, h.cwnd]
    exact hlt
  have hscaled : v.cwnd <<< 3 = 0 := by
    rw [hlargest]
    decide
  have hrunning : v.sending ≠ 0 := by
    rw [h.sending]
    decide
  have hnext := @tpRecvAck_next { v with lastSent := v.lastSent + TP_PLEN } hrunning
    h.fastRecovery
  have hdivides : tpUpdateCwnd { v with
      lastSent := v.lastSent + TP_PLEN
      totSent := v.totSent + TP_PLEN.setWidth 64
      dupAcks := 0 } TP_PLEN = none := by
    unfold tpUpdateCwnd
    dsimp only
    rw [if_neg (BitVec.not_le.2 havoid), if_pos hscaled]
  dsimp only at hnext
  rw [hdivides] at hnext
  rw [h.send (by norm_num), h.ack, hnext]
  refine ⟨hlargest, h.ssThreshold, rfl, fun hexact => ?_⟩
  exact (hexact.2 (@tpUpdates_next { v with lastSent := v.lastSent + TP_PLEN } hrunning
    h.fastRecovery)).divisor havoid hscaled

/-- In slow start the window grows to the largest one; the timer fires once, and without another
loss the window grows to the largest one again, in slow start and then in congestion avoidance. -/
def tpLongRun : List TpRunEvent :=
  tpTurns 0 363731 ++ [.handler .timeout] ++ tpTurns 363731 181864 ++
    tpTurns (363731 + 181864) 268435692

/-- The number of turns in the long run. -/
def tpLongTurns : ℕ := 363731 + 181864 + 268435692

/-- The window after the long run. -/
lemma tpLongRun_steady :
    TpSteady 2000 tpLongTurns (2 ^ 29) (2 ^ 28) 0
      (Run.final tpRunNext (tpStart tpMemory) tpLongRun) := by
  have hstart : TpSteady 1000 0 4428 (2 ^ 29) 0 (tpStart tpMemory) :=
    ⟨rfl, rfl, rfl, rfl, rfl, rfl, rfl, rfl⟩
  have hgrown := hstart.slowStart (n := 363731) fun i _ => min_le_right _ _
  rw [Nat.zero_add, min_eq_right (by norm_num)] at hgrown
  have hslow := (hgrown.timeout (by decide)).slowStart (n := 181864) fun i hi =>
    (min_le_left _ _).trans (by omega)
  rw [min_eq_left (by norm_num)] at hslow
  have hlast := hslow.avoidance (n := 268435692) (by norm_num) (by norm_num)
    (fun i hi => by omega) (by norm_num)
  have hrto : (1000 : U32) <<< 1 = 2000 := by decide
  have hfraction : 268435692 % 1476 * 8 = 0 := by norm_num
  rw [min_eq_right (by norm_num), hrto, hfraction] at hlast
  rw [tpLongTurns, tpLongRun, Run.final_append, Run.final_append, Run.final_append, Run.final_cons,
    Run.final_nil]
  exact hlast

/-- **A division by zero**: after the long run another segment is sent, and its ACK is the one at
which the window is divided by.  Also, the fraction is not in its bounds when a session starts in
memory that holds another one. -/
theorem tp_cwnd_divides_by_zero :
    (∃ v, v = tpRunNext (Run.final tpRunNext (tpStart tpMemory) tpLongRun) (.handler (.send 0)) ∧
      v.cwnd = TP_AWND ∧ v.ssThreshold.toNat = 2 ^ 28 ∧
      (tpRecvAck v (tpAckUpTo (tpLongTurns + 1))).2 = .divideError ∧
      ¬ TpCwndExact v (.handler (.ack (tpAckUpTo (tpLongTurns + 1))))) ∧
    ¬ TpCwndOk (tpStart { tpMemory with decCwnd := 11808 }) := by
  constructor
  · exact ⟨_, rfl, tpLongRun_steady.divides (by norm_num)⟩
  · intro hok
    have hfraction := hok.fraction
    revert hfraction
    decide

end Batadv
