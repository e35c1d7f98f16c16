import BatmanAdv.Lib.Run
import BatmanAdv.TpMeter.Sender

set_option relaxedAutoImplicit false
set_option autoImplicit false

/-!
# The sender and the position of its sequence numbers (`tp_meter.c`)

Sequence numbers wrap, so nothing a sender does should depend on where in their range a session is.
All comparisons are made by differences, but for the one that guards fast retransmit.

## Main definitions

* `Batadv.TpVars.shift`, `Batadv.TpSenderEvent.shift`, `Batadv.TpDecision.shift` — sequence numbers
  are moved by a constant.
* `Batadv.TpCompareShifts` — the guard of fast retransmit decides alike before and after.

## Main results

* `Batadv.tp_translation_iff` — a run is invariant under translation exactly when the guard of fast
  retransmit decides alike in all its steps.
* `Batadv.tp_translation_fails` — a session in which it does not.
-/

namespace Batadv

/-! ### Translation -/

/-- The sequence numbers of a session are moved by a constant. -/
def TpVars.shift (k : U32) (v : TpVars) : TpVars :=
  { v with lastAcked := v.lastAcked + k, lastSent := v.lastSent + k, recover := v.recover + k }

/-- The sequence number of an ACK is moved by a constant. -/
def TpSenderEvent.shift (k : U32) : TpSenderEvent → TpSenderEvent
  | .ack a => .ack { a with seqno := a.seqno + k }
  | .timeout => .timeout
  | .send err => .send err

/-- The sequence number of the message that is sent is moved by a constant. -/
def TpDecision.shift (k : U32) : TpDecision → TpDecision
  | .fastRetransmit seqno => .fastRetransmit (seqno + k)
  | .partialAck seqno => .partialAck (seqno + k)
  | .sent seqno => .sent (seqno + k)
  | .cantSend seqno => .cantSend (seqno + k)
  | .sendError seqno => .sendError (seqno + k)
  | decision => decision

/-- What a step returns is moved by a constant. -/
abbrev tpShift (k : U32) : TpVars × TpDecision → TpVars × TpDecision :=
  Prod.map (TpVars.shift k) (TpDecision.shift k)

/-- The ACK is a duplicate, and the third one. -/
def TpThirdDup (v : TpVars) (ack : TpAck) : Prop :=
  v.sending ≠ 0 ∧ ack.primaryIf = true ∧ ack.origNode = true ∧ v.lastAcked = ack.seqno ∧
    v.dupAcks + 1 = 3

instance (v : TpVars) (ack : TpAck) : Decidable (TpThirdDup v ack) := by
  unfold TpThirdDup; infer_instance

/-- On a third duplicate ACK the plain comparison of `recv_ack` with `recover` decides alike before
and after the translation. -/
def TpCompareShifts (k : U32) (v : TpVars) : TpSenderEvent → Prop
  | .ack ack => TpThirdDup v ack →
      (v.recover ≤ ack.seqno ↔ v.recover + k ≤ ack.seqno + k)
  | .timeout | .send _ => True

/-! ### The functions -/

variable (k : U32) (v : TpVars)

@[simp] lemma TpVars.shift_sending : (v.shift k).sending = v.sending := rfl

@[simp] lemma TpVars.shift_rto : (v.shift k).rto = v.rto := rfl

@[simp] lemma TpVars.shift_lastAcked : (v.shift k).lastAcked = v.lastAcked + k := rfl

lemma tpUpdateRto_shift (newRtt : U32) :
    tpUpdateRto (v.shift k) newRtt = (tpUpdateRto v newRtt).shift k := by
  unfold tpUpdateRto TpVars.shift
  dsimp only
  split_ifs <;> rfl

lemma tpUpdateCwnd_shift (mss : U32) :
    tpUpdateCwnd (v.shift k) mss = (tpUpdateCwnd v mss).map (TpVars.shift k) := by
  unfold tpUpdateCwnd TpVars.shift
  dsimp only
  split_ifs <;> rfl

lemma tpAvail_shift (payloadLen : U32) : tpAvail (v.shift k) payloadLen = tpAvail v payloadLen := by
  have hleft : v.lastAcked + k + v.cwnd - (v.lastSent + k) = v.lastAcked + v.cwnd - v.lastSent := by
    ring
  simp only [tpAvail, TpVars.shift, hleft]

lemma tpSenderShutdown_shift (reason : TpReason) :
    tpSenderShutdown (v.shift k) reason = (tpSenderShutdown v reason).shift k := by
  unfold tpSenderShutdown tpDecAndTest TpVars.shift
  dsimp only
  split_ifs <;> rfl

lemma tpSenderTimeout_shift : tpSenderTimeout (v.shift k) = tpShift k (tpSenderTimeout v) := by
  unfold tpSenderTimeout
  rw [tpSenderShutdown_shift, TpVars.shift_sending, TpVars.shift_rto]
  split_ifs <;> rfl

lemma tpSendOnce_shift (err : TpReason) :
    tpSendOnce (v.shift k) err = tpShift k (tpSendOnce v err) := by
  have hsum : v.lastSent + k + TP_PLEN = v.lastSent + TP_PLEN + k := by ring
  unfold tpSendOnce
  rw [tpAvail_shift, tpSenderShutdown_shift, TpVars.shift_sending]
  split_ifs
  all_goals simp only [tpShift, Prod.map, TpVars.shift, TpDecision.shift, hsum]

/-- An ACK for new data is processed alike. -/
lemma tpRecvNewAck_shift (recvAck : U32) :
    tpRecvNewAck (v.shift k) (recvAck + k) = tpShift k (tpRecvNewAck v recvAck) := by
  have hdiff : recvAck + k - (v.lastAcked + k) = recvAck - v.lastAcked := by ring
  have hupdate := tpUpdateCwnd_shift k
    { v with totSent := v.totSent + (recvAck - v.lastAcked).setWidth 64, dupAcks := 0 } TP_PLEN
  unfold tpRecvNewAck
  simp only [TpVars.shift, hdiff, seqBefore_add_right] at hupdate ⊢
  rw [hupdate]
  split_ifs
  · rfl
  · rfl
  · cases tpUpdateCwnd _ _ <;> rfl
  · rfl

/-- What is decided on a duplicate ACK. -/
lemma tpRecvDupAck_decision (recvAck : U32) :
    (tpRecvDupAck v recvAck).2 =
      if v.dupAcks + 1 = 3 ∧ ¬ v.recover ≤ recvAck then .fastRetransmit recvAck
      else .duplicate := by
  unfold tpRecvDupAck
  dsimp only
  by_cases hthird : v.dupAcks + 1 = 3
  · by_cases hguard : v.recover ≤ recvAck
    · rw [if_neg (not_not.2 hthird), if_pos hguard, if_neg fun h => h.2 hguard]
    · rw [if_neg (not_not.2 hthird), if_neg hguard, if_pos ⟨hthird, hguard⟩]
  · rw [if_pos hthird, if_neg fun h => hthird h.1]

/-- A duplicate ACK is processed alike exactly if it is not the third one, or the guard decides
alike. -/
lemma tpRecvDupAck_shift_iff (recvAck : U32) :
    tpRecvDupAck (v.shift k) (recvAck + k) = tpShift k (tpRecvDupAck v recvAck) ↔
      (v.dupAcks + 1 = 3 → (v.recover ≤ recvAck ↔ v.recover + k ≤ recvAck + k)) := by
  constructor
  · intro h hthird
    have hdecision := congrArg Prod.snd h
    simp only [tpShift, Prod.map_snd, tpRecvDupAck_decision, TpVars.shift, hthird] at hdecision
    by_cases hguard : v.recover ≤ recvAck <;> by_cases hmoved : v.recover + k ≤ recvAck + k
    all_goals simp [hguard, hmoved, TpDecision.shift] at hdecision ⊢
  · intro h
    by_cases hthird : v.dupAcks + 1 = 3
    · have hsame := h hthird
      unfold tpRecvDupAck TpVars.shift
      dsimp only
      by_cases hguard : v.recover ≤ recvAck
      · rw [if_neg (not_not.2 hthird), if_neg (not_not.2 hthird), if_pos hguard,
          if_pos (hsame.1 hguard)]
        rfl
      · rw [if_neg (not_not.2 hthird), if_neg (not_not.2 hthird), if_neg hguard,
          if_neg (hguard ∘ hsame.2)]
        rfl
    · unfold tpRecvDupAck TpVars.shift
      dsimp only
      rw [if_pos hthird, if_pos hthird]
      rfl

/-- **One ACK** is processed alike exactly if the guard of fast retransmit decides alike. -/
lemma tpRecvAck_shift_iff (ack : TpAck) :
    tpRecvAck (v.shift k) { ack with seqno := ack.seqno + k } = tpShift k (tpRecvAck v ack) ↔
      TpCompareShifts k v (.ack ack) := by
  obtain ⟨srtt, rttvar, rto, hrto⟩ := tpRecvAck_rto v ack
  have hshifted : (if ack.timestamp ≠ 0 ∧ ack.now - ack.timestamp ≠ 0 then
      tpUpdateRto (v.shift k) (ack.now - ack.timestamp) else v.shift k) =
      TpVars.shift k { v with srtt := srtt, rttvar := rttvar, rto := rto } := by
    rw [← hrto, tpUpdateRto_shift]
    split_ifs <;> rfl
  unfold tpRecvAck
  dsimp only
  rw [hrto, hshifted, TpVars.shift_sending, TpVars.shift_lastAcked, TpVars.shift_lastAcked,
    seqBefore_add_right]
  by_cases hsending : v.sending = 0
  · rw [if_pos hsending, if_pos hsending]
    exact iff_of_true rfl fun h => absurd hsending h.1
  rw [if_neg hsending, if_neg hsending]
  by_cases hold : seqBefore ack.seqno v.lastAcked = true
  · have hne : v.lastAcked ≠ ack.seqno := fun h => by simp [h] at hold
    rw [if_pos hold, if_pos hold]
    exact iff_of_true rfl fun h => absurd h.2.2.2.1 hne
  rw [if_neg hold, if_neg hold]
  by_cases hroute : (!ack.primaryIf || !ack.origNode) = true
  · rw [if_pos hroute, if_pos hroute]
    refine iff_of_true rfl fun h => ?_
    rw [h.2.1, h.2.2.1] at hroute
    exact absurd hroute (by decide)
  have hif : ack.primaryIf = true ∧ ack.origNode = true := by simpa using hroute
  rw [if_neg hroute, if_neg hroute]
  by_cases hdup : v.lastAcked = ack.seqno
  · rw [if_pos hdup, if_pos (congrArg (· + k) hdup)]
    refine (tpRecvDupAck_shift_iff k _ _).trans
      ⟨fun h hthird => h hthird.2.2.2.2, fun h hthird => ?_⟩
    exact h ⟨hsending, hif.1, hif.2, hdup, hthird⟩
  · have hmoved : v.lastAcked + k ≠ ack.seqno + k := fun h => hdup (by simpa using h)
    rw [if_neg hdup, if_neg hmoved]
    exact iff_of_true (tpRecvNewAck_shift k _ _) fun h => absurd h.2.2.2.1 hdup

/-- **One step** is taken alike exactly if the guard of fast retransmit decides alike. -/
lemma tpSenderStep_shift_iff (e : TpSenderEvent) :
    tpSenderStep (v.shift k) (e.shift k) = tpShift k (tpSenderStep v e) ↔
      TpCompareShifts k v e := by
  cases e with
  | ack ack => exact tpRecvAck_shift_iff k v ack
  | timeout => exact iff_of_true (tpSenderTimeout_shift k v) trivial
  | send err => exact iff_of_true (tpSendOnce_shift k v err) trivial

/-- **The sender is invariant under translation of sequence numbers.**  For every state, every
constant and every sequence of ACKs, timeouts and send steps, the run with all sequence numbers
moved takes the same decisions and passes through the same states, moved, exactly if in every step
the guard of fast retransmit decides alike. -/
theorem tp_translation_iff (es : List TpSenderEvent) :
    Run.trace tpSenderStep (v.shift k) (es.map (TpSenderEvent.shift k)) =
        (Run.trace tpSenderStep v es).map (tpShift k) ↔
      Run.AllSteps tpSenderNext (TpCompareShifts k) v es :=
  Run.trace_map_iff (TpVars.shift k) (TpSenderEvent.shift k) (TpDecision.shift k)
    (tpSenderStep_shift_iff k) v es

/-! ### Three duplicates before the wrap -/

/-- The first segment is acknowledged, and three duplicates of that ACK follow. -/
def tpEarlyLoss : List TpSenderEvent :=
  List.replicate 3 (.send 0) ++
    List.replicate 4 (.ack ⟨TP_FIRST_SEQ + TP_PLEN, 0, 0, true, true⟩)

/-- **The position decides**: in a new session the third duplicate is ignored, for what is
acknowledged has not wrapped; moved by 1000 it starts a fast retransmit. -/
theorem tp_translation_fails :
    ((Run.trace tpSenderStep (tpStart tpMemory) tpEarlyLoss).map Prod.snd).getLast? =
        some .duplicate ∧
      ((Run.trace tpSenderStep ((tpStart tpMemory).shift 1000)
        (tpEarlyLoss.map (TpSenderEvent.shift 1000))).map Prod.snd).getLast? =
        some (.fastRetransmit (TP_FIRST_SEQ + TP_PLEN + 1000)) ∧
      ¬ Run.trace tpSenderStep ((tpStart tpMemory).shift 1000)
          (tpEarlyLoss.map (TpSenderEvent.shift 1000)) =
        (Run.trace tpSenderStep (tpStart tpMemory) tpEarlyLoss).map (tpShift 1000) := by
  have hplain : ((Run.trace tpSenderStep (tpStart tpMemory) tpEarlyLoss).map Prod.snd).getLast? =
      some .duplicate := by decide +kernel
  have hmoved : ((Run.trace tpSenderStep ((tpStart tpMemory).shift 1000)
      (tpEarlyLoss.map (TpSenderEvent.shift 1000))).map Prod.snd).getLast? =
      some (.fastRetransmit (TP_FIRST_SEQ + TP_PLEN + 1000)) := by decide +kernel
  refine ⟨hplain, hmoved, by decide +kernel⟩

end Batadv
