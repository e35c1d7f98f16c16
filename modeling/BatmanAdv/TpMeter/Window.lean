import BatmanAdv.Lib.Run
import BatmanAdv.TpMeter.Sender

set_option relaxedAutoImplicit false
set_option autoImplicit false

/-!
# The sender and its congestion window (`tp_meter.c`)

The window is full when the bytes in flight reach its size, which `batadv_tp_avail` finds out with
an unsigned subtraction.  Every step but one keeps the bytes in flight within the window: where
the window is cut back on leaving Fast Recovery, what has been sent beyond the acknowledged point
is not taken back.

## Main definitions

* `Batadv.tpInFlight` — the signed distance from what is acknowledged to what is sent.
* `Batadv.TpWindowOk` — the bytes in flight fit the window, and `batadv_tp_avail` is right.
* `Batadv.TpSeqNear` — all sequence numbers lie within 2^31 of each other.
* `Batadv.TpRecoveryFits` — an ACK that ends Fast Recovery finds no more in flight than fits.

## Main results

* `Batadv.tpAvail_iff` — what `batadv_tp_avail` decides when the window is respected.
* `Batadv.tp_window_iff` — a run respects the window exactly when every recovery ends with no more
  in flight than fits.
* `Batadv.tp_window_overrun` — a recovery from two losses that ends with more.
-/

namespace Batadv

/-! ### Properties -/

/-- The signed distance from what is acknowledged to what is sent. -/
def tpInFlight (v : TpVars) : ℤ := (v.lastSent - v.lastAcked).toInt

/-- The window is respected. -/
structure TpWindowOk (v : TpVars) : Prop where
  /-- `win_limit - last_sent` does not wrap. -/
  noWrap : tpInFlight v ≤ v.cwnd.toNat
  /-- A segment is sent only if it fits the window. -/
  avail : tpAvail v TP_PLEN = true →
    (v.lastSent + TP_PLEN - v.lastAcked).toInt ≤ v.cwnd.toNat

/-- The sequence numbers in play at an event. -/
def tpSeqnos (v : TpVars) : TpSenderEvent → List U32
  | .ack ack => [v.lastAcked, v.lastSent, v.recover, ack.seqno]
  | .timeout | .send _ => [v.lastAcked, v.lastSent, v.recover]

/-- All sequence numbers are within 2^31 of each other: the half circle that starts at one of them
has them all. -/
def TpSeqNear (v : TpVars) (e : TpSenderEvent) : Prop :=
  ∃ b ∈ tpSeqnos v e, ∀ x ∈ tpSeqnos v e, SerialNumber.Near b x

instance (v : TpVars) (e : TpSenderEvent) : Decidable (TpSeqNear v e) :=
  have (b : U32) : Decidable (∀ x ∈ tpSeqnos v e, SerialNumber.Near b x) :=
    List.decidableBAll _ _
  List.decidableBEx _ _

/-- The ACK ends Fast Recovery. -/
def TpEndsRecovery (v : TpVars) (ack : TpAck) : Prop :=
  v.sending ≠ 0 ∧ seqBefore ack.seqno v.lastAcked = false ∧ ack.primaryIf = true ∧
    ack.origNode = true ∧ v.lastAcked ≠ ack.seqno ∧ v.fastRecovery = true ∧
    seqBefore ack.seqno v.recover = false

instance (v : TpVars) (ack : TpAck) : Decidable (TpEndsRecovery v ack) := by
  unfold TpEndsRecovery; infer_instance

/-- An ACK that ends Fast Recovery leaves no more in flight than the slow start threshold, within
the bounds of the window. -/
def TpRecoveryFits (v : TpVars) : TpSenderEvent → Prop
  | .ack ack => TpEndsRecovery v ack →
      (v.lastSent - ack.seqno).toInt ≤
        (max (min v.ssThreshold.toNat TP_AWND.toNat) TP_PLEN.toNat : ℕ)
  | .timeout | .send _ => True

instance (v : TpVars) : ∀ e, Decidable (TpRecoveryFits v e)
  | .ack ack => inferInstanceAs (Decidable (TpEndsRecovery v ack → _))
  | .timeout | .send _ => .isTrue trivial

/-! ### What a step does to the window -/

/-- What a step does to the window, where it does not end a recovery. -/
inductive TpWindowStep (v : TpVars) : TpSenderEvent → TpVars → Prop
  | same {e : TpSenderEvent} {v' : TpVars} (acked : v'.lastAcked = v.lastAcked)
      (sent : v'.lastSent = v.lastSent) (cwnd : v'.cwnd = v.cwnd) : TpWindowStep v e v'
  /-- Fast retransmit and timeout go back to the first byte that is not acknowledged. -/
  | rewind {e : TpSenderEvent} {v' : TpVars} (acked : v'.lastAcked = v.lastAcked)
      (sent : v'.lastSent = v.lastAcked) (plen_le : TP_PLEN ≤ v'.cwnd)
      (le_awnd : v'.cwnd ≤ TP_AWND) : TpWindowStep v e v'
  | advance {ack : TpAck} {v' : TpVars} (new : seqBefore ack.seqno v.lastAcked = false)
      (acked : v'.lastAcked = ack.seqno) (sent : v'.lastSent = v.lastSent)
      (cwnd : v'.cwnd = v.cwnd ∨ v'.cwnd = tpCwnd v.cwnd TP_PLEN TP_PLEN) :
      TpWindowStep v (.ack ack) v'
  | send {err : TpReason} {v' : TpVars} (avail : tpAvail v TP_PLEN = true)
      (acked : v'.lastAcked = v.lastAcked) (sent : v'.lastSent = v.lastSent + TP_PLEN)
      (cwnd : v'.cwnd = v.cwnd) : TpWindowStep v (.send err) v'

/-- `batadv_tp_recv_ack` on a duplicate ACK. -/
lemma tpRecvDupAck_window {v : TpVars} {ack : TpAck} (h : v.lastAcked = ack.seqno) :
    TpWindowStep v (.ack ack) (tpRecvDupAck v ack.seqno).1 := by
  unfold tpRecvDupAck
  dsimp only
  split_ifs
  · exact .same rfl rfl rfl
  · exact .same rfl rfl rfl
  · exact .rewind rfl h.symm (le_tpCwnd _ _ _) (tpCwnd_le _ _ (by decide))

/-- `batadv_tp_recv_ack` on an ACK for new data that does not end a recovery. -/
lemma tpRecvNewAck_window {v : TpVars} {ack : TpAck} (new : seqBefore ack.seqno v.lastAcked = false)
    (h : ¬ (v.fastRecovery = true ∧ seqBefore ack.seqno v.recover = false)) :
    TpWindowStep v (.ack ack) (tpRecvNewAck v ack.seqno).1 := by
  unfold tpRecvNewAck
  dsimp only
  split_ifs with hfast hpartial hmss
  · exact .advance new rfl rfl (.inr rfl)
  · exact absurd ⟨hfast, by simpa using hpartial⟩ h
  · split
    · exact .same rfl rfl rfl
    · next hupdate =>
      obtain ⟨cwnd, decCwnd, rfl, hcwnd⟩ := tpUpdateCwnd_spec hupdate
      exact .advance new rfl rfl hcwnd
  · exact .advance new rfl rfl (.inl rfl)

/-- What a step does to the window depends on the window only. -/
lemma TpWindowStep.congr {v w v' : TpVars} {e : TpSenderEvent} (h : TpWindowStep w e v')
    (hacked : w.lastAcked = v.lastAcked) (hsent : w.lastSent = v.lastSent)
    (hcwnd : w.cwnd = v.cwnd) : TpWindowStep v e v' := by
  cases h with
  | same acked sent cwnd => exact .same (acked.trans hacked) (sent.trans hsent) (cwnd.trans hcwnd)
  | rewind acked sent plen_le le_awnd =>
    exact .rewind (acked.trans hacked) (sent.trans hacked) plen_le le_awnd
  | advance new acked sent cwnd =>
    rw [hacked] at new
    rw [hcwnd] at cwnd
    exact .advance new acked (sent.trans hsent) cwnd
  | send avail acked sent cwnd =>
    have havail : tpAvail w TP_PLEN = tpAvail v TP_PLEN := by
      simp only [tpAvail, hacked, hsent, hcwnd]
    rw [hsent] at sent
    exact .send (havail ▸ avail) (acked.trans hacked) sent (cwnd.trans hcwnd)

/-- `batadv_tp_recv_ack`, where it does not end a recovery. -/
lemma tpRecvAck_window {v : TpVars} {ack : TpAck} (h : ¬ TpEndsRecovery v ack) :
    TpWindowStep v (.ack ack) (tpRecvAck v ack).1 := by
  obtain ⟨srtt, rttvar, rto, hrto⟩ := tpRecvAck_rto v ack
  unfold tpRecvAck
  dsimp only
  rw [hrto]
  split_ifs with hsending hold hroute hdup
  · exact .same rfl rfl rfl
  · exact .same rfl rfl rfl
  · exact .same rfl rfl rfl
  · exact (tpRecvDupAck_window hdup).congr rfl rfl rfl
  · have hold' : seqBefore ack.seqno v.lastAcked = false := by simpa using hold
    simp only [Bool.or_eq_true, Bool.not_eq_true', not_or, Bool.not_eq_false] at hroute
    have hnew := tpRecvNewAck_window (v := { v with srtt := srtt, rttvar := rttvar, rto := rto })
      hold' fun hends => h ⟨hsending, hold', hroute.1, hroute.2, hdup, hends.1, hends.2⟩
    exact hnew.congr rfl rfl rfl

/-- An ACK that ends a recovery cuts the window back. -/
lemma tpRecvAck_endsRecovery {v : TpVars} {ack : TpAck} (h : TpEndsRecovery v ack) :
    (tpRecvAck v ack).1.lastAcked = ack.seqno ∧
      (tpRecvAck v ack).1.lastSent = v.lastSent ∧
      (tpRecvAck v ack).1.cwnd = tpCwnd v.ssThreshold 0 TP_PLEN := by
  obtain ⟨hsending, hold, hif, horig, hdup, hfast, hfull⟩ := h
  obtain ⟨srtt, rttvar, rto, hrto⟩ := tpRecvAck_rto v ack
  unfold tpRecvAck
  dsimp only
  rw [hrto, if_neg hsending, hold, hif, horig]
  simp only [Bool.false_eq_true, if_false, Bool.not_true, Bool.or_self, hdup, tpRecvNewAck, hfast,
    hfull, if_true, and_self]

/-- **One step**, where it does not end a recovery. -/
lemma tpSenderNext_window {v : TpVars} {e : TpSenderEvent}
    (h : ∀ ack, e = .ack ack → ¬ TpEndsRecovery v ack) : TpWindowStep v e (tpSenderNext v e) := by
  cases e with
  | ack ack => exact tpRecvAck_window (h ack rfl)
  | timeout =>
    simp only [tpSenderNext, tpSenderStep, tpSenderTimeout]
    split_ifs
    · exact .same rfl rfl rfl
    · obtain ⟨reason, hv⟩ := tpSenderShutdown_frame v TP_REASON_DST_UNREACHABLE
      rw [hv]
      exact .same rfl rfl rfl
    · have hcwnd : (tpSenderBackoff v).cwnd = TP_PLEN * 3 := rfl
      exact .rewind rfl rfl (by rw [hcwnd]; decide) (by rw [hcwnd]; decide)
  | send err =>
    simp only [tpSenderNext, tpSenderStep, tpSendOnce]
    split_ifs with hsending havail
    · exact .same rfl rfl rfl
    · exact .same rfl rfl rfl
    · exact .send (by simpa using havail) rfl rfl rfl
    · exact .same rfl rfl rfl
    · obtain ⟨reason, hv⟩ := tpSenderShutdown_frame v err
      rw [hv]
      exact .same rfl rfl rfl

/-! ### The window is respected -/

/-- The bounds of the window, and of what is in flight. -/
structure TpWindowInv (v : TpVars) : Prop where
  plen_le : TP_PLEN ≤ v.cwnd
  le_awnd : v.cwnd ≤ TP_AWND
  inFlight_le : tpInFlight v ≤ v.cwnd.toNat

/-- The bytes in flight after another segment. -/
lemma toInt_add_plen {d : U32} (h : d.toInt ≤ TP_AWND.toNat) :
    (d + TP_PLEN).toInt = d.toInt + TP_PLEN.toNat := by
  have hd := d.isLt
  rw [BitVec.toInt_eq_toNat_cond] at h ⊢
  rw [BitVec.toInt_eq_toNat_cond, BitVec.toNat_add]
  simp only [TP_AWND, TP_PLEN, BitVec.reduceToNat] at h ⊢
  split_ifs at h ⊢ <;> omega

/-- **What `batadv_tp_avail` decides**: there is room for another segment. -/
theorem tpAvail_iff {v : TpVars} (hawnd : v.cwnd ≤ TP_AWND)
    (hfits : tpInFlight v ≤ v.cwnd.toNat) :
    tpAvail v TP_PLEN = true ↔ tpInFlight v + TP_PLEN.toNat ≤ v.cwnd.toNat := by
  have hleft : v.lastAcked + v.cwnd - v.lastSent = v.cwnd - (v.lastSent - v.lastAcked) := by ring
  simp only [tpAvail, hleft, decide_eq_true_eq, tpInFlight] at hfits ⊢
  generalize v.lastSent - v.lastAcked = d at hfits ⊢
  have hd := d.isLt
  rw [BitVec.toInt_eq_toNat_cond] at hfits ⊢
  rw [BitVec.le_def, BitVec.toNat_sub]
  simp only [BitVec.le_def, TP_AWND, TP_PLEN, BitVec.reduceToNat] at hawnd ⊢
  split_ifs at hfits ⊢ <;> omega

/-- The invariant implies that the window is respected. -/
lemma TpWindowInv.ok {v : TpVars} (h : TpWindowInv v) : TpWindowOk v := by
  refine ⟨h.inFlight_le, fun havail => ?_⟩
  have hroom := (tpAvail_iff h.le_awnd h.inFlight_le).1 havail
  have hsum : v.lastSent + TP_PLEN - v.lastAcked = v.lastSent - v.lastAcked + TP_PLEN := by ring
  have hawnd : v.cwnd.toNat ≤ TP_AWND.toNat := h.le_awnd
  have hfits := h.inFlight_le
  unfold tpInFlight at hroom hfits
  rw [hsum, toInt_add_plen (by omega)]
  exact hroom

/-- The bytes in flight do not grow when an ACK arrives that is not old. -/
lemma tpInFlight_ack_le {v : TpVars} {ack : TpAck} (hnear : TpSeqNear v (.ack ack))
    (hnew : seqBefore ack.seqno v.lastAcked = false) :
    (v.lastSent - ack.seqno).toInt ≤ tpInFlight v := by
  obtain ⟨b, -, hb⟩ := hnear
  have hbefore : ¬ SerialNumber.Before ack.seqno v.lastAcked := by
    rw [← seqBefore_u32, hnew]
    decide
  exact SerialNumber.toInt_sub_le_of_not_before (by decide) (hb _ (by simp [tpSeqnos]))
    (hb _ (by simp [tpSeqnos])) (hb _ (by simp [tpSeqnos])) hbefore

/-- **The invariant is kept** by every step that does not end a recovery. -/
lemma TpWindowInv.step {v v' : TpVars} {e : TpSenderEvent} (h : TpWindowInv v)
    (hnear : TpSeqNear v e) (hstep : TpWindowStep v e v') : TpWindowInv v' := by
  obtain ⟨hplen, hawnd, hfits⟩ := h
  cases hstep with
  | same acked sent cwnd =>
    rw [← cwnd] at hplen hawnd
    refine ⟨hplen, hawnd, ?_⟩
    rw [tpInFlight, acked, sent, cwnd]
    exact hfits
  | rewind acked sent plen_le le_awnd =>
    refine ⟨plen_le, le_awnd, ?_⟩
    have hzero : v.lastAcked - v.lastAcked = 0 := by ring
    rw [tpInFlight, acked, sent, hzero]
    simp
  | advance new acked sent cwnd =>
    have hgrow : v.cwnd ≤ v'.cwnd := by
      rcases cwnd with hc | hc <;> rw [hc]
      · exact BitVec.le_refl _
      · exact le_tpCwnd_base _ _ hawnd
    have hcut : v'.cwnd ≤ TP_AWND := by
      rcases cwnd with hc | hc <;> rw [hc]
      · exact hawnd
      · exact tpCwnd_le _ _ (by decide)
    have hle : tpInFlight v' ≤ tpInFlight v := by
      rw [tpInFlight, acked, sent]
      exact tpInFlight_ack_le hnear new
    have hcast : v.cwnd.toNat ≤ v'.cwnd.toNat := hgrow
    exact ⟨BitVec.le_trans hplen hgrow, hcut, by omega⟩
  | send avail acked sent cwnd =>
    have hroom := (tpAvail_iff hawnd hfits).1 avail
    have hsum : v.lastSent + TP_PLEN - v.lastAcked = v.lastSent - v.lastAcked + TP_PLEN := by ring
    have hcast : v.cwnd.toNat ≤ TP_AWND.toNat := hawnd
    rw [← cwnd] at hplen hawnd
    refine ⟨hplen, hawnd, ?_⟩
    unfold tpInFlight at hroom hfits
    rw [tpInFlight, acked, sent, cwnd, hsum, toInt_add_plen (by omega)]
    exact hroom

/-- **The end of a recovery** respects the window exactly if what is in flight fits. -/
lemma TpWindowInv.endsRecovery {v : TpVars} {ack : TpAck} (hends : TpEndsRecovery v ack) :
    (TpWindowOk (tpSenderNext v (.ack ack)) → TpRecoveryFits v (.ack ack)) ∧
      (TpRecoveryFits v (.ack ack) → TpWindowInv (tpSenderNext v (.ack ack))) := by
  obtain ⟨hacked, hsent, hcwnd⟩ := tpRecvAck_endsRecovery hends
  change (tpSenderNext v (.ack ack)).lastAcked = _ at hacked
  change (tpSenderNext v (.ack ack)).lastSent = _ at hsent
  change (tpSenderNext v (.ack ack)).cwnd = _ at hcwnd
  constructor
  · intro hok _
    have hwrap := hok.noWrap
    rwa [tpInFlight, hacked, hsent, hcwnd, toNat_tpCwnd_zero] at hwrap
  · intro hfits
    refine ⟨?_, ?_, ?_⟩
    · rw [hcwnd]
      exact le_tpCwnd _ _ _
    · rw [hcwnd]
      exact tpCwnd_le _ _ (by decide)
    · rw [tpInFlight, hacked, hsent, hcwnd, toNat_tpCwnd_zero]
      exact hfits hends

/-- **One step**: it respects the window exactly if it does not end a recovery with more in flight
than fits, and then it keeps the invariant. -/
lemma TpWindowInv.next {v : TpVars} {e : TpSenderEvent} (h : TpWindowInv v)
    (hnear : TpSeqNear v e) :
    (TpWindowOk (tpSenderNext v e) → TpRecoveryFits v e) ∧
      (TpRecoveryFits v e → TpWindowInv (tpSenderNext v e)) := by
  by_cases hends : ∃ ack, e = .ack ack ∧ TpEndsRecovery v ack
  · obtain ⟨ack, rfl, hack⟩ := hends
    exact TpWindowInv.endsRecovery hack
  · have hno : ∀ ack, e = .ack ack → ¬ TpEndsRecovery v ack :=
      fun ack he hack => hends ⟨ack, he, hack⟩
    refine ⟨fun _ => ?_, fun _ => h.step hnear (tpSenderNext_window hno)⟩
    cases e with
    | ack ack => exact fun hack => absurd hack (hno ack rfl)
    | timeout => trivial
    | send err => trivial

/-- A new session respects the window. -/
lemma tpStart_windowInv (memory : TpVars) : TpWindowInv (tpStart memory) := by
  have hcwnd : (tpStart memory).cwnd = TP_PLEN * 3 := rfl
  have hflight : tpInFlight (tpStart memory) = (TP_FIRST_SEQ - TP_FIRST_SEQ).toInt := rfl
  refine ⟨?_, ?_, ?_⟩
  · rw [hcwnd]
    decide
  · rw [hcwnd]
    decide
  · rw [hflight, hcwnd]
    decide

/-- **The sender respects its congestion window.**  Along every sequence of ACKs, timeouts and send
steps with all sequence numbers within 2^31 of each other, the window is respected in every state
exactly if every ACK that ends Fast Recovery leaves no more in flight than the window that is
given back. -/
theorem tp_window_iff (memory : TpVars) (es : List TpSenderEvent)
    (hnear : Run.AllSteps tpSenderNext TpSeqNear (tpStart memory) es) :
    (∀ v ∈ Run.states tpSenderNext (tpStart memory) es, TpWindowOk v) ↔
      Run.AllSteps tpSenderNext TpRecoveryFits (tpStart memory) es :=
  Run.forall_mem_states_iff TpWindowInv TpWindowOk TpSeqNear
    (fun _ _ hinv hn => ⟨(hinv.next hn).1, fun hfits => ((hinv.next hn).2 hfits).ok⟩)
    (fun _ _ hinv hn hfits => (hinv.next hn).2 hfits)
    (tpStart_windowInv memory) (tpStart_windowInv memory).ok hnear

/-! ### A recovery from two losses -/

/-- The sequence number of a segment of a session. -/
def tpSegment (i : ℕ) : U32 := TP_FIRST_SEQ + BitVec.ofNat 32 (i * 1476)

/-- The segments before this one are acknowledged. -/
def tpAckOf (i : ℕ) : TpSenderEvent := .ack ⟨tpSegment i, 0, 0, true, true⟩

/-- A session in which the segments 3 and 6 are lost: the recovery is entered with six segments in
flight, is continued by an ACK up to the second loss, and is ended by an ACK of all six, when four
more have been sent. -/
def tpTwoLosses : List TpSenderEvent :=
  List.replicate 3 (.send 0) ++ [tpAckOf 1, tpAckOf 2, tpAckOf 3] ++
    List.replicate 6 (.send 0) ++ [tpAckOf 3, tpAckOf 3, tpAckOf 3] ++
    List.replicate 6 (.send 0) ++ [tpAckOf 6] ++ List.replicate 4 (.send 0) ++ [tpAckOf 9]

/-- The sequence numbers of this session are within 2^31 of each other, and its recovery ends with
more in flight than fits. -/
theorem tp_window_iff_twoLosses :
    (∀ v ∈ Run.states tpSenderNext (tpStart tpMemory) tpTwoLosses, TpWindowOk v) ↔
      Run.AllSteps tpSenderNext TpRecoveryFits (tpStart tpMemory) tpTwoLosses :=
  tp_window_iff tpMemory tpTwoLosses (by decide +kernel)

/-- **The window is overrun**: after a recovery from two losses four segments are in flight in a
window of three, and `batadv_tp_avail` lets the next one through. -/
theorem tp_window_overrun :
    Run.AllSteps tpSenderNext TpSeqNear (tpStart tpMemory) tpTwoLosses ∧
      (Run.final tpSenderNext (tpStart tpMemory) tpTwoLosses).cwnd = 3 * TP_PLEN ∧
      tpInFlight (Run.final tpSenderNext (tpStart tpMemory) tpTwoLosses) = 4 * 1476 ∧
      tpAvail (Run.final tpSenderNext (tpStart tpMemory) tpTwoLosses) TP_PLEN = true ∧
      ¬ ∀ v ∈ Run.states tpSenderNext (tpStart tpMemory) tpTwoLosses, TpWindowOk v := by
  have hflight : tpInFlight (Run.final tpSenderNext (tpStart tpMemory) tpTwoLosses) = 4 * 1476 := by
    decide +kernel
  refine ⟨by decide +kernel, by decide +kernel, hflight, by decide +kernel, fun h => ?_⟩
  have hwrap := (h _ (Run.final_mem_states _ _)).noWrap
  rw [hflight] at hwrap
  exact absurd hwrap (by decide +kernel)

end Batadv
