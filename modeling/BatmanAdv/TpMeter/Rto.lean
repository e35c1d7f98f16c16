import BatmanAdv.Lib.FloorFilter
import BatmanAdv.TpMeter.FastRetransmit

set_option relaxedAutoImplicit false
set_option autoImplicit false

/-!
# The retransmission timeout of the throughput meter (`tp_meter.c`)

A sender keeps a smoothed round-trip time and a smoothed deviation from it, both with some low bits
more than the average has, and computes its retransmission timeout from them.  The timeout is
doubled every time the timer fires, until it is so long that the other side is taken for
unreachable.

What is to be computed is stated with numbers that have no bound: two exponential filters of whole
numbers.

## Main definitions

* `Batadv.tpSample` — the round-trip time with which an event updates the timeout.
* `Batadv.RttEstimate`, `Batadv.RttEstimate.update` — the estimate, without a bound on the numbers.
* `Batadv.TpSampleIn` — the samples of a run lie in an interval.
* `Batadv.TpUpdateOk` — an update computes the estimate, which is within its bounds.
* `Batadv.TpBackoffOk` — the timer doubles the timeout, without overflow.

## Main results

* `Batadv.RttEstimate.Bounded.update` — the estimate stays within its bounds.
* `Batadv.tpUpdateRto_eq` — the code computes the estimate.
* `Batadv.tp_silence` — a session from which no ACK comes any more ends.
* `Batadv.tp_rto_bounded` — the bounds of the timeout over a run, and how a silence ends.
-/

namespace Batadv

/-! ### The estimate -/

/-- The estimate of the round-trip time: eight times the average, and four times the average
deviation. -/
structure RttEstimate where
  srtt : ℕ
  rttvar : ℕ
deriving DecidableEq, Repr

namespace RttEstimate

/-- The estimate after a sample `m`; there is none before the first sample. -/
def update (est : RttEstimate) (m : ℕ) : RttEstimate :=
  if est.srtt = 0 then ⟨8 * m, 2 * m⟩
  else
    ⟨FloorFilter.step 8 est.srtt m,
      FloorFilter.step 4 est.rttvar ((m : ℤ) - (est.srtt / 8 : ℕ)).natAbs⟩

/-- The timeout: the average round-trip time and four times the average deviation. -/
def rto (est : RttEstimate) : ℕ := est.srtt / 8 + est.rttvar

/-- The bounds of an estimate from samples between `a` and `b`. -/
structure Bounded (a b : ℕ) (est : RttEstimate) : Prop where
  le_srtt : a ≤ est.srtt / 8
  srtt_le : est.srtt / 8 ≤ b
  rttvar_le : est.rttvar ≤ max (2 * b) (4 * (b - a) + 3)

variable {a b m : ℕ} {est : RttEstimate}

/-- **The estimate stays within its bounds**, whether it is the first one or not. -/
theorem Bounded.update (h : est.srtt = 0 ∨ est.Bounded a b) (ham : a ≤ m) (hmb : m ≤ b) :
    (est.update m).Bounded a b := by
  unfold RttEstimate.update
  split_ifs with hfirst
  · refine ⟨?_, ?_, ?_⟩
    all_goals dsimp only
    all_goals omega
  · obtain hzero | hbounded := h
    · exact absurd hzero hfirst
    · obtain ⟨hlow, hhigh, hvar⟩ := hbounded
      -- the deviation of a sample is at most the width of the interval
      have hdev : ((m : ℤ) - (est.srtt / 8 : ℕ)).natAbs ≤ b - a := by omega
      exact ⟨FloorFilter.le_step_div (by decide) hlow ham,
        FloorFilter.step_div_le (by decide) hhigh hmb,
        FloorFilter.step_le (by decide) hvar hdev (by omega)⟩

end RttEstimate

/-! ### The code -/

/-- The estimate in the variables of a session. -/
def TpVars.estimate (v : TpVars) : RttEstimate := ⟨v.srtt.toNat, v.rttvar.toNat⟩

/-- The round-trip time with which an event updates the timeout, if it does: that of an ACK which is
processed and carries a timestamp. -/
def tpSample (v : TpVars) : TpSenderEvent → Option U32
  | .ack ack =>
    if ack.Processed v ∧ ack.timestamp ≠ 0 ∧ ack.now - ack.timestamp ≠ 0 then
      some (ack.now - ack.timestamp)
    else none
  | _ => none

/-- The numbers of the code that fit into 32 bits. -/
lemma toNat_ofInt_of_eq {z : ℤ} {n : ℕ} (h : z = n) (hn : n < 2 ^ 32) :
    (BitVec.ofInt 32 z).toNat = n := by
  rw [h, BitVec.ofInt_natCast, BitVec.toNat_ofNat, Nat.mod_eq_of_lt hn]

/-- **The code computes the estimate**, where that fits into 32 bits. -/
theorem tpUpdateRto_eq {v : TpVars} {m : U32} (hsrtt : (v.estimate.update m.toNat).srtt < 2 ^ 32)
    (hrttvar : (v.estimate.update m.toNat).rttvar < 2 ^ 32)
    (hrto : (v.estimate.update m.toNat).rto < 2 ^ 32) :
    (tpUpdateRto v m).estimate = v.estimate.update m.toNat ∧
      (tpUpdateRto v m).rto.toNat = (v.estimate.update m.toNat).rto := by
  have hzero : v.estimate.srtt = 0 ↔ v.srtt = 0 :=
    ⟨fun h => BitVec.eq_of_toNat_eq h, fun h => congrArg BitVec.toNat h⟩
  have hestimate : (tpUpdateRto v m).estimate = v.estimate.update m.toNat := by
    unfold RttEstimate.update at hsrtt hrttvar ⊢
    unfold tpUpdateRto
    by_cases hfirst : v.srtt = 0
    · rw [if_pos (hzero.2 hfirst)] at hsrtt hrttvar ⊢
      dsimp only
      rw [if_neg (not_not.2 hfirst)]
      unfold TpVars.estimate
      dsimp only at hsrtt hrttvar ⊢
      rw [toNat_ofInt_of_eq (by omega) hsrtt, toNat_ofInt_of_eq (by omega) hrttvar]
    · rw [if_neg fun h => hfirst (hzero.1 h)] at hsrtt hrttvar ⊢
      dsimp only
      rw [if_pos hfirst]
      unfold TpVars.estimate at hsrtt hrttvar ⊢
      unfold FloorFilter.step at hsrtt hrttvar ⊢
      dsimp only at hsrtt hrttvar ⊢
      rw [toNat_ofInt_of_eq _ hsrtt, toNat_ofInt_of_eq _ hrttvar]
      · rw [BitVec.toNat_ushiftRight, BitVec.toNat_ushiftRight, Nat.shiftRight_eq_div_pow,
          Nat.shiftRight_eq_div_pow]
        split_ifs <;> omega
      · rw [BitVec.toNat_ushiftRight, Nat.shiftRight_eq_div_pow]
        omega
  refine ⟨hestimate, ?_⟩
  have hvalue : (tpUpdateRto v m).rto = (tpUpdateRto v m).srtt >>> 3 + (tpUpdateRto v m).rttvar :=
    rfl
  rw [hvalue, BitVec.toNat_add, BitVec.toNat_ushiftRight, Nat.shiftRight_eq_div_pow]
  rw [← hestimate] at hrto ⊢
  exact Nat.mod_eq_of_lt hrto

/-- What the timeout is computed from, and the timeout. -/
def TpVars.timing (v : TpVars) : U32 × U32 × U32 := (v.srtt, v.rttvar, v.rto)

lemma tpRecvDupAck_timing (v : TpVars) (recvAck : U32) :
    (tpRecvDupAck v recvAck).1.timing = v.timing := by
  unfold tpRecvDupAck
  dsimp only
  split_ifs <;> rfl

lemma tpRecvNewAck_timing (v : TpVars) (recvAck : U32) :
    (tpRecvNewAck v recvAck).1.timing = v.timing := by
  unfold tpRecvNewAck
  dsimp only
  split_ifs
  · rfl
  · rfl
  · split
    · rfl
    · next hupdate =>
      obtain ⟨cwnd, decCwnd, rfl, -⟩ := tpUpdateCwnd_spec hupdate
      rfl
  · rfl

lemma tpSample_ack (v : TpVars) (ack : TpAck) :
    tpSample v (.ack ack) =
      if ack.Processed v ∧ ack.timestamp ≠ 0 ∧ ack.now - ack.timestamp ≠ 0 then
        some (ack.now - ack.timestamp)
      else none := rfl

/-- An ACK changes the timeout by its sample, or not at all. -/
lemma tpRecvAck_timing (v : TpVars) (ack : TpAck) :
    (tpRecvAck v ack).1.timing = ((tpSample v (.ack ack)).elim v (tpUpdateRto v)).timing := by
  rw [tpSample_ack]
  by_cases hproc : ack.Processed v
  · obtain ⟨hsending, hold, hprimary, horig⟩ := hproc
    have hroute : (!ack.primaryIf || !ack.origNode) = false := by rw [hprimary, horig]; rfl
    unfold tpRecvAck
    dsimp only
    rw [if_neg hsending, hold, hroute, if_neg Bool.false_ne_true, if_neg Bool.false_ne_true]
    by_cases hsample : ack.timestamp ≠ 0 ∧ ack.now - ack.timestamp ≠ 0
    · have hboth : ack.Processed v ∧ ack.timestamp ≠ 0 ∧ ack.now - ack.timestamp ≠ 0 :=
        ⟨⟨hsending, hold, hprimary, horig⟩, hsample⟩
      rw [if_pos hsample, if_pos hboth]
      split_ifs
      · exact tpRecvDupAck_timing _ _
      · exact tpRecvNewAck_timing _ _
    · have hboth : ¬ (ack.Processed v ∧ ack.timestamp ≠ 0 ∧ ack.now - ack.timestamp ≠ 0) :=
        fun h => hsample h.2
      rw [if_neg hsample, if_neg hboth]
      split_ifs
      · exact tpRecvDupAck_timing _ _
      · exact tpRecvNewAck_timing _ _
  · rw [tpRecvAck_of_not_processed hproc, if_neg fun h => hproc h.1]
    rfl

/-- Shutting a session down leaves the timeout. -/
lemma tpSenderShutdown_timing (v : TpVars) (reason : TpReason) :
    (tpSenderShutdown v reason).timing = v.timing := by
  obtain ⟨reason', heq⟩ := tpSenderShutdown_frame v reason
  rw [heq]
  rfl

/-- A session that runs ends with the reason that is given. -/
lemma tpSenderShutdown_of_running {v : TpVars} (h : v.sending = 1) (reason : TpReason) :
    (tpSenderShutdown v reason).sending = 0 ∧ (tpSenderShutdown v reason).reason = reason := by
  have hzero : v.sending - 1 = 0 := by rw [h]; rfl
  unfold tpSenderShutdown tpDecAndTest
  dsimp only
  rw [hzero]
  simp

/-- Sending leaves the timeout. -/
lemma tpSendOnce_timing (v : TpVars) (err : TpReason) :
    (tpSendOnce v err).1.timing = v.timing := by
  unfold tpSendOnce TpVars.timing
  split_ifs
  · rfl
  · rfl
  · rfl
  · rfl
  · exact tpSenderShutdown_timing v err

/-- A session that has ended stays as it is. -/
lemma tpSenderNext_of_stopped {v : TpVars} (h : v.sending = 0) (e : TpSenderEvent) :
    tpSenderNext v e = v := by
  cases e with
  | ack ack => exact tpRecvAck_of_not_processed fun hproc => hproc.1 h
  | timeout =>
    change (tpSenderTimeout v).1 = v
    rw [tpSenderTimeout, if_pos h]
  | send err =>
    change (tpSendOnce v err).1 = v
    rw [tpSendOnce, if_pos h]

/-- **The three things that the timer does.** -/
lemma tpSenderTimeout_cases (v : TpVars) :
    (v.sending = 0 ∧ tpSenderTimeout v = (v, .stopped)) ∨
      (v.sending ≠ 0 ∧ TP_MAX_RTO ≤ v.rto ∧
        tpSenderTimeout v = (tpSenderShutdown v TP_REASON_DST_UNREACHABLE, .shutdown)) ∨
      (v.sending ≠ 0 ∧ v.rto.toNat < 30000 ∧
        tpSenderTimeout v = (tpSenderBackoff v, .backoff)) := by
  unfold tpSenderTimeout
  split_ifs with hsending hmax
  · exact .inl ⟨hsending, rfl⟩
  · exact .inr (.inl ⟨hsending, hmax, rfl⟩)
  · exact .inr (.inr ⟨hsending, BitVec.lt_def.1 (BitVec.not_le.1 hmax), rfl⟩)

/-- Doubling a timeout that is not too long. -/
lemma tpSenderBackoff_rto {v : TpVars} (h : v.rto.toNat < 30000) :
    (tpSenderBackoff v).rto.toNat = 2 * v.rto.toNat := by
  change (v.rto <<< 1).toNat = 2 * v.rto.toNat
  rw [BitVec.toNat_shiftLeft, Nat.shiftLeft_eq]
  omega

/-! ### Runs -/

/-- The sample of an event lies between `a` and `b`. -/
def TpSampleIn (a b : ℕ) (v : TpVars) (e : TpSenderEvent) : Prop :=
  ∀ m ∈ tpSample v e, a ≤ m.toNat ∧ m.toNat ≤ b

instance (a b : ℕ) (v : TpVars) (e : TpSenderEvent) : Decidable (TpSampleIn a b v e) :=
  decidable_of_iff ((tpSample v e).all fun m => decide (a ≤ m.toNat ∧ m.toNat ≤ b)) (by
    unfold TpSampleIn
    cases tpSample v e <;> simp)

/-- **An update of the timeout** computes what it would compute if the numbers had no bound, and
the average, the deviation and the timeout are within their bounds. -/
def TpUpdateOk (a b : ℕ) (v : TpVars) (e : TpSenderEvent) : Prop :=
  ∀ m ∈ tpSample v e,
    (tpSenderNext v e).estimate = v.estimate.update m.toNat ∧
      (tpSenderNext v e).rto.toNat = (v.estimate.update m.toNat).rto ∧
      a ≤ ((tpSenderNext v e).srtt >>> 3).toNat ∧ ((tpSenderNext v e).srtt >>> 3).toNat ≤ b ∧
      (tpSenderNext v e).rttvar.toNat ≤ max (2 * b) (4 * (b - a) + 3) ∧
      1 ≤ (tpSenderNext v e).rto.toNat

/-- **A timer that does not end the session doubles the timeout**, without overflow. -/
def TpBackoffOk (v : TpVars) (e : TpSenderEvent) : Prop :=
  e = .timeout → (tpSenderTimeout v).2 = .backoff →
    (tpSenderNext v e).rto.toNat = 2 * v.rto.toNat

/-- The invariant of a run: there is no estimate yet, or it is within its bounds, and the session
runs or has ended. -/
structure TpRtoInv (a b : ℕ) (v : TpVars) : Prop where
  estimate : v.estimate.srtt = 0 ∨ v.estimate.Bounded a b
  rto : 1 ≤ v.rto.toNat
  sending : v.sending = 0 ∨ v.sending = 1

/-- Steps that leave the timeout keep the invariant. -/
lemma TpRtoInv.of_timing {a b : ℕ} {v v' : TpVars} (h : TpRtoInv a b v)
    (htiming : v'.timing = v.timing) (hsending : v'.sending = 0 ∨ v'.sending = 1) :
    TpRtoInv a b v' := by
  obtain ⟨hsrtt, hvar, hrto⟩ : v'.srtt = v.srtt ∧ v'.rttvar = v.rttvar ∧ v'.rto = v.rto := by
    simpa [TpVars.timing] using htiming
  have hestimate : v'.estimate = v.estimate := by rw [TpVars.estimate, hsrtt, hvar]; rfl
  exact ⟨hestimate ▸ h.estimate, hrto ▸ h.rto, hsending⟩

/-- **An update is as it should be.** -/
lemma TpRtoInv.update {a b : ℕ} (ha : 1 ≤ a) (hb : b < 2 ^ 28) {v : TpVars} (h : TpRtoInv a b v)
    {m : U32} (ham : a ≤ m.toNat) (hmb : m.toNat ≤ b) :
    (tpUpdateRto v m).estimate = v.estimate.update m.toNat ∧
      (tpUpdateRto v m).rto.toNat = (v.estimate.update m.toNat).rto ∧
      (tpUpdateRto v m).estimate.Bounded a b ∧ 1 ≤ (tpUpdateRto v m).rto.toNat := by
  have hbounded := RttEstimate.Bounded.update h.estimate ham hmb
  obtain ⟨hlow, hhigh, hvar⟩ := hbounded
  obtain ⟨hestimate, hrto⟩ := tpUpdateRto_eq (v := v) (m := m) (by omega) (by omega)
    (by unfold RttEstimate.rto; omega)
  refine ⟨hestimate, hrto, hestimate ▸ ⟨hlow, hhigh, hvar⟩, ?_⟩
  rw [hrto, RttEstimate.rto]
  omega

/-- Events that neither carry a sample nor fire the timer leave the timeout. -/
lemma tpSenderNext_timing {v : TpVars} {e : TpSenderEvent} (hsample : tpSample v e = none)
    (htimeout : e ≠ .timeout) : (tpSenderNext v e).timing = v.timing := by
  cases e with
  | ack ack =>
    have htiming := tpRecvAck_timing v ack
    rw [hsample] at htiming
    exact htiming
  | timeout => exact absurd rfl htimeout
  | send err => exact tpSendOnce_timing v err

/-- A session runs or has ended. -/
lemma tpSenderNext_sending {v : TpVars} (h : v.sending = 0 ∨ v.sending = 1) (e : TpSenderEvent) :
    (tpSenderNext v e).sending = 0 ∨ (tpSenderNext v e).sending = 1 := by
  rcases h with hstopped | hrunning
  · rw [tpSenderNext_of_stopped hstopped]
    exact .inl hstopped
  · cases e with
    | ack ack => exact .inr ((tpRecvAck_frame v ack).1.trans hrunning)
    | timeout =>
      change (tpSenderTimeout v).1.sending = 0 ∨ (tpSenderTimeout v).1.sending = 1
      obtain ⟨-, heq⟩ | ⟨-, -, heq⟩ | ⟨-, -, heq⟩ := tpSenderTimeout_cases v
      · rw [heq]
        exact .inr hrunning
      · rw [heq]
        exact .inl (tpSenderShutdown_of_running hrunning _).1
      · rw [heq]
        exact .inr hrunning
    | send err =>
      change (tpSendOnce v err).1.sending = 0 ∨ (tpSendOnce v err).1.sending = 1
      unfold tpSendOnce
      split_ifs
      · exact .inr hrunning
      · exact .inr hrunning
      · exact .inr hrunning
      · exact .inr hrunning
      · exact .inl (tpSenderShutdown_of_running hrunning err).1

/-- **One event keeps the invariant, and is as it should be.** -/
lemma TpRtoInv.step {a b : ℕ} (ha : 1 ≤ a) (hb : b < 2 ^ 28) {v : TpVars} (h : TpRtoInv a b v)
    {e : TpSenderEvent} (he : TpSampleIn a b v e) :
    (TpUpdateOk a b v e ∧ TpBackoffOk v e) ∧ TpRtoInv a b (tpSenderNext v e) := by
  have hsending := tpSenderNext_sending h.sending e
  by_cases htimeout : e = .timeout
  · subst htimeout
    have hnext : tpSenderNext v .timeout = (tpSenderTimeout v).1 := rfl
    have hno : TpUpdateOk a b v .timeout := by
      intro m hm
      cases hm
    rw [hnext] at hsending ⊢
    obtain ⟨-, heq⟩ | ⟨-, -, heq⟩ | ⟨-, hmax, heq⟩ := tpSenderTimeout_cases v
    all_goals rw [heq] at hsending ⊢
    · refine ⟨⟨hno, fun _ hbackoff => ?_⟩, h⟩
      rw [heq] at hbackoff
      cases hbackoff
    · refine ⟨⟨hno, fun _ hbackoff => ?_⟩, h.of_timing (tpSenderShutdown_timing v _) hsending⟩
      rw [heq] at hbackoff
      cases hbackoff
    · have hrto := tpSenderBackoff_rto hmax
      have hpos := h.rto
      refine ⟨⟨hno, fun _ _ => ?_⟩, h.estimate, by dsimp only; omega, hsending⟩
      rw [hnext, heq]
      exact hrto
  · have hbackoff : TpBackoffOk v e := fun heq => absurd heq htimeout
    cases hsample : tpSample v e with
    | none =>
      refine ⟨⟨fun m hm => ?_, hbackoff⟩,
        h.of_timing (tpSenderNext_timing hsample htimeout) hsending⟩
      rw [hsample] at hm
      cases hm
    | some m =>
      cases e with
      | timeout => cases hsample
      | send err => cases hsample
      | ack ack =>
        obtain ⟨ham, hmb⟩ := he m hsample
        obtain ⟨hestimate, hrto, hbounded, hpos⟩ := h.update ha hb ham hmb
        have htiming : (tpSenderNext v (.ack ack)).timing = _ := tpRecvAck_timing v ack
        rw [hsample] at htiming
        obtain ⟨hsrtt, hvar, hrto'⟩ :
            (tpSenderNext v (.ack ack)).srtt = (tpUpdateRto v m).srtt ∧
              (tpSenderNext v (.ack ack)).rttvar = (tpUpdateRto v m).rttvar ∧
              (tpSenderNext v (.ack ack)).rto = (tpUpdateRto v m).rto := by
          simpa [TpVars.timing] using htiming
        have hsame : (tpSenderNext v (.ack ack)).estimate = (tpUpdateRto v m).estimate := by
          rw [TpVars.estimate, hsrtt, hvar]
          rfl
        have hshift : ((tpUpdateRto v m).srtt >>> 3).toNat =
            (tpUpdateRto v m).estimate.srtt / 8 := by
          rw [BitVec.toNat_ushiftRight, Nat.shiftRight_eq_div_pow]
          rfl
        refine ⟨⟨fun m' hm' => ?_, hbackoff⟩, .inr (hsame ▸ hbounded), hrto' ▸ hpos, hsending⟩
        obtain rfl : m = m' := Option.some.inj (hsample.symm.trans hm')
        rw [hsame, hestimate, hrto', hrto, hsrtt, hvar, hshift]
        exact ⟨rfl, rfl, hbounded.le_srtt, hbounded.srtt_le, hbounded.rttvar_le, hrto ▸ hpos⟩

/-! ### Silence -/

/-- No ACK is received: the timer fires, and messages are sent or cannot be sent. -/
def TpSilent : TpSenderEvent → Prop
  | .ack _ => False
  | .timeout => True
  | .send err => err = 0 ∨ err = TP_REASON_CANT_SEND

/-- A session that has ended stays so. -/
lemma final_of_stopped {v : TpVars} (h : v.sending = 0) (es : List TpSenderEvent) :
    Run.final tpSenderNext v es = v := by
  induction es with
  | nil => rfl
  | cons e es ih => rw [Run.final_cons, tpSenderNext_of_stopped h, ih]

/-- **A silence ends the session**, once the timeout has been doubled often enough.

**Proof sketch.** Induction on the events: sending leaves the timeout, and a timer that does not end
the session doubles it. -/
theorem tp_silence {v : TpVars} {n : ℕ} (hsending : v.sending = 1)
    (hrto : 30000 ≤ 2 ^ n * v.rto.toNat) {es : List TpSenderEvent} (hes : ∀ e ∈ es, TpSilent e)
    (hcount : n < es.count .timeout) :
    (Run.final tpSenderNext v es).sending = 0 ∧
      (Run.final tpSenderNext v es).reason = TP_REASON_DST_UNREACHABLE := by
  induction es generalizing v n with
  | nil => exact absurd hcount (Nat.not_lt_zero n)
  | cons e es ih =>
    rw [List.forall_mem_cons] at hes
    rw [Run.final_cons]
    cases e with
    | ack ack => exact hes.1.elim
    | timeout =>
      have hnext : tpSenderNext v .timeout = (tpSenderTimeout v).1 := rfl
      rw [List.count_cons_self] at hcount
      obtain ⟨hstopped, -⟩ | ⟨-, -, heq⟩ | ⟨-, hmax, heq⟩ := tpSenderTimeout_cases v
      · rw [hsending] at hstopped
        exact absurd hstopped (by decide)
      · rw [hnext, heq]
        have hended := tpSenderShutdown_of_running hsending TP_REASON_DST_UNREACHABLE
        rw [final_of_stopped hended.1]
        exact hended
      · have hdouble := tpSenderBackoff_rto hmax
        rw [hnext, heq]
        cases n with
        | zero => omega
        | succ n =>
          rw [Nat.pow_succ, Nat.mul_assoc, ← hdouble] at hrto
          exact ih hsending hrto hes.2 (by omega)
    | send err =>
      rw [List.count_cons_of_ne (by simp)] at hcount
      have hnext : (tpSenderNext v (.send err)).sending = v.sending := by
        change (tpSendOnce v err).1.sending = v.sending
        unfold tpSendOnce
        split_ifs with hstopped hwindow herr hcant
        · rfl
        · rfl
        · rfl
        · rfl
        · exact (hes.1.elim herr hcant).elim
      have htiming := tpSendOnce_timing v err
      have hsame : (tpSenderNext v (.send err)).rto = v.rto :=
        congrArg (fun timing => timing.2.2) htiming
      exact ih (hnext.trans hsending) (hsame ▸ hrto) hes.2 hcount

/-- **The retransmission timeout.**  In a run from the start of a session in which the round-trip
times lie between `a` and `b`, every update of the timeout computes what it would compute if the
numbers had no bound, within the bounds, and the timer doubles the timeout without overflow.  When
no ACK is received any more, a session that runs ends, as the other side is unreachable, when the
timer has fired at most 16 times. -/
theorem tp_rto_bounded {a b : ℕ} (ha : 1 ≤ a) (hb : b < 2 ^ 28) (memory : TpVars)
    {es : List TpSenderEvent}
    (hes : Run.AllSteps tpSenderNext (TpSampleIn a b) (tpStart memory) es) :
    Run.AllSteps tpSenderNext (fun v e => TpUpdateOk a b v e ∧ TpBackoffOk v e)
        (tpStart memory) es ∧
      ((Run.final tpSenderNext (tpStart memory) es).sending ≠ 0 →
        ∀ silence : List TpSenderEvent, (∀ e ∈ silence, TpSilent e) → 16 ≤ silence.count .timeout →
          (Run.final tpSenderNext (tpStart memory) (es ++ silence)).sending = 0 ∧
            (Run.final tpSenderNext (tpStart memory) (es ++ silence)).reason =
              TP_REASON_DST_UNREACHABLE) := by
  have hstart : TpRtoInv a b (tpStart memory) := by
    refine ⟨.inl rfl, ?_, .inr rfl⟩
    change 1 ≤ (1000 : U32).toNat
    decide
  refine ⟨?_, fun hrunning silence hsilent hcount => ?_⟩
  · exact Run.AllSteps.imp (TpRtoInv a b) (fun v e hinv he => hinv.step ha hb he) hstart hes
  · have hinv : TpRtoInv a b (Run.final tpSenderNext (tpStart memory) es) :=
      Run.AllSteps.invariant (TpRtoInv a b) (fun v e hinv he => (hinv.step ha hb he).2) hstart hes
    have hrto := hinv.rto
    rw [Run.final_append]
    -- fifteen doublings of a timeout of one millisecond exceed the maximum
    exact tp_silence (n := 15) (hinv.sending.resolve_left hrunning) (by omega) hsilent hcount

/-- A round-trip time of 7 ms, and a timeout. -/
def tpOneSample : List TpSenderEvent :=
  [.send 0, .ack ⟨TP_FIRST_SEQ + TP_PLEN, 93, 100, true, true⟩, .timeout]

/-- After that, silence: the theorem applies. -/
theorem tp_rto_bounded_sample :
    (Run.final tpSenderNext (tpStart tpMemory)
        (tpOneSample ++ List.replicate 16 .timeout)).sending = 0 ∧
      (Run.final tpSenderNext (tpStart tpMemory)
        (tpOneSample ++ List.replicate 16 .timeout)).reason = TP_REASON_DST_UNREACHABLE := by
  have hes : Run.AllSteps tpSenderNext (TpSampleIn 7 7) (tpStart tpMemory) tpOneSample := by
    decide +kernel
  have hrunning : (Run.final tpSenderNext (tpStart tpMemory) tpOneSample).sending ≠ 0 := by
    decide +kernel
  have hsilent : ∀ e ∈ List.replicate 16 TpSenderEvent.timeout, TpSilent e := by
    intro e he
    rw [List.eq_of_mem_replicate he]
    trivial
  have hcount : 16 ≤ (List.replicate 16 TpSenderEvent.timeout).count .timeout :=
    List.count_replicate_self.ge
  exact (tp_rto_bounded (by omega) (by omega) tpMemory hes).2 hrunning _ hsilent hcount

end Batadv
