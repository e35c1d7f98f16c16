import BatmanAdv.Lib.Run
import BatmanAdv.TpMeter.Sender

set_option relaxedAutoImplicit false
set_option autoImplicit false

/-!
# Fast retransmit of the throughput meter (`tp_meter.c`)

On the third duplicate ACK a sender resends what is missing and enters a recovery, unless the data
was sent before the last recovery began: then `last_acked` is before `recover`, the last number
that was sent at that time.  The code compares the two as plain numbers, while they wrap, and the
other way round: it retransmits if `last_acked` is smaller than `recover`.

The duplicates in a row, and whether any data was acknowledged in the session, are history that
only the statements read.  An ACK that a stopped session gets, or that cannot be answered, is
dropped and is none of them.

## Main definitions

* `Batadv.TpLossRun`, `Batadv.tpLossNext` — a sender with that history.
* `Batadv.TpThirdDuplicate` — the third duplicate in a row, outside of a recovery.
* `Batadv.TpFastRetransmitOk` — it starts a fast retransmit exactly if it should.
* `Batadv.TpGuardFits` — the counter stands at two, and the plain comparison decides as it should.

## Main results

* `Batadv.tpLossNext_dupAcks` — the counter of the code counts the duplicates in a row.
* `Batadv.tp_fast_retransmit_iff` — when fast retransmit happens in a run as it should.
-/

namespace Batadv

/-! ### History -/

/-- A sender, with the number of duplicates of `last_acked` in a row, and whether data was
acknowledged in the session. -/
structure TpLossRun where
  vars : TpVars
  dups : ℕ
  acked : Bool
deriving DecidableEq, Repr

/-- The ACK is processed: the session runs, the ACK is not an old one, and it can be answered. -/
def TpAck.Processed (v : TpVars) (ack : TpAck) : Prop :=
  v.sending ≠ 0 ∧ seqBefore ack.seqno v.lastAcked = false ∧ ack.primaryIf = true ∧
    ack.origNode = true

instance (v : TpVars) (ack : TpAck) : Decidable (ack.Processed v) :=
  inferInstanceAs (Decidable (_ ∧ _ ∧ _ ∧ _))

/-- A sender in a new session. -/
def TpLossRun.new (memory : TpVars) : TpLossRun := ⟨tpStart memory, 0, false⟩

/-- The sender after an event. -/
def tpLossNext (s : TpLossRun) (e : TpRunEvent) : TpLossRun :=
  let vars := tpRunNext s.vars e
  match e with
  | .handler (.ack ack) =>
    if ack.Processed s.vars then
      if s.vars.lastAcked = ack.seqno then ⟨vars, s.dups + 1, s.acked⟩ else ⟨vars, 0, true⟩
    else ⟨vars, s.dups, s.acked⟩
  | _ => ⟨vars, s.dups, s.acked⟩

/-! ### Handlers -/

/-- An ACK that is not processed changes nothing. -/
lemma tpRecvAck_of_not_processed {v : TpVars} {ack : TpAck} (h : ¬ ack.Processed v) :
    (tpRecvAck v ack).1 = v := by
  unfold tpRecvAck
  split_ifs with hsending hold hroute
  · rfl
  · rfl
  · rfl
  all_goals
    refine absurd ⟨hsending, by simpa using hold, ?_⟩ h
    simpa using hroute

/-- An ACK that is processed is a duplicate or one for new data, whatever it does to the timeout. -/
lemma tpRecvAck_of_processed {v : TpVars} {ack : TpAck} (h : ack.Processed v) :
    ∃ srtt rttvar rto, tpRecvAck v ack =
      if v.lastAcked = ack.seqno then
        tpRecvDupAck { v with srtt := srtt, rttvar := rttvar, rto := rto } ack.seqno
      else tpRecvNewAck { v with srtt := srtt, rttvar := rttvar, rto := rto } ack.seqno := by
  obtain ⟨hsending, hold, hprimary, horig⟩ := h
  obtain ⟨srtt, rttvar, rto, hrto⟩ := tpRecvAck_rto v ack
  refine ⟨srtt, rttvar, rto, ?_⟩
  unfold tpRecvAck
  dsimp only
  rw [hrto, if_neg hsending, hold, hprimary, horig]
  rfl

/-- What a duplicate ACK does. -/
lemma tpRecvDupAck_eq (v : TpVars) (recvAck : U32) :
    tpRecvDupAck v recvAck =
      if v.dupAcks = 2 ∧ recvAck < v.recover then
        ({ v with
          dupAcks := 3
          fastRecovery := true
          recover := v.lastSent
          ssThreshold := v.cwnd >>> 1
          cwnd := tpCwnd (v.cwnd >>> 1) (3 * TP_PLEN) TP_PLEN
          decCwnd := 0
          lastSent := recvAck }, .fastRetransmit recvAck)
      else ({ v with dupAcks := v.dupAcks + 1 }, .duplicate) := by
  unfold tpRecvDupAck
  dsimp only
  by_cases hthird : v.dupAcks = 2
  · have hthree : v.dupAcks + 1 = 3 := by rw [hthird]; rfl
    by_cases hguard : recvAck < v.recover
    · rw [if_neg (not_not.2 hthree), if_neg (BitVec.not_le.2 hguard), if_pos ⟨hthird, hguard⟩,
        hthree]
    · rw [if_neg (not_not.2 hthree), if_pos (BitVec.not_lt.1 hguard), if_neg fun h => hguard h.2]
  · have hthree : v.dupAcks + 1 ≠ 3 := fun h => hthird (eq_sub_of_add_eq h)
    rw [if_pos hthree, if_neg fun h => hthird h.1]

/-- An ACK for new data resets the counter of duplicates. -/
lemma tpRecvNewAck_dupAcks (v : TpVars) (recvAck : U32) :
    (tpRecvNewAck v recvAck).1.dupAcks = 0 := by
  unfold tpRecvNewAck
  dsimp only
  split_ifs
  · rfl
  · rfl
  · split
    · rfl
    · next hupdate =>
      obtain ⟨cwnd, decCwnd, rfl, -⟩ := tpUpdateCwnd_spec hupdate
      rfl
  · rfl

/-- Only ACKs change the counter of duplicates. -/
lemma tpRunNext_dupAcks (v : TpVars) {e : TpRunEvent} (h : ∀ ack, e ≠ .handler (.ack ack)) :
    (tpRunNext v e).dupAcks = v.dupAcks := by
  have hshutdown (reason : TpReason) : (tpSenderShutdown v reason).dupAcks = v.dupAcks := by
    obtain ⟨reason', heq⟩ := tpSenderShutdown_frame v reason
    rw [heq]
  cases e with
  | stop reason => exact hshutdown reason
  | handler e =>
    cases e with
    | ack ack => exact absurd rfl (h ack)
    | timeout =>
      change (tpSenderTimeout v).1.dupAcks = _
      unfold tpSenderTimeout
      split_ifs
      · rfl
      · exact hshutdown _
      · rfl
    | send err =>
      change (tpSendOnce v err).1.dupAcks = _
      unfold tpSendOnce
      split_ifs
      · rfl
      · rfl
      · rfl
      · rfl
      · exact hshutdown _

/-! ### The counter -/

/-- The counter of the code is the number of duplicates in a row.  Until data is acknowledged it
begins with what was in the memory of the session. -/
def TpDupAcksOk (memory : TpVars) (s : TpLossRun) : Prop :=
  s.vars.dupAcks = BitVec.ofNat 32 s.dups + if s.acked then 0 else memory.dupAcks

/-- A duplicate that is processed counts. -/
lemma tpLossNext_dup {s : TpLossRun} {ack : TpAck} (hproc : ack.Processed s.vars)
    (hdup : s.vars.lastAcked = ack.seqno) :
    tpLossNext s (.handler (.ack ack)) = ⟨(tpRecvAck s.vars ack).1, s.dups + 1, s.acked⟩ := by
  unfold tpLossNext
  dsimp only
  rw [if_pos hproc, if_pos hdup]
  rfl

/-- An ACK for new data ends the row. -/
lemma tpLossNext_new {s : TpLossRun} {ack : TpAck} (hproc : ack.Processed s.vars)
    (hdup : s.vars.lastAcked ≠ ack.seqno) :
    tpLossNext s (.handler (.ack ack)) = ⟨(tpRecvAck s.vars ack).1, 0, true⟩ := by
  unfold tpLossNext
  dsimp only
  rw [if_pos hproc, if_neg hdup]
  rfl

/-- Everything else leaves the row, and the counter of the code. -/
lemma tpLossNext_other {s : TpLossRun} {e : TpRunEvent}
    (h : ∀ ack, e = .handler (.ack ack) → ¬ ack.Processed s.vars) :
    tpLossNext s e = ⟨tpRunNext s.vars e, s.dups, s.acked⟩ ∧
      (tpRunNext s.vars e).dupAcks = s.vars.dupAcks := by
  by_cases hack : ∃ ack, e = .handler (.ack ack)
  · obtain ⟨ack, rfl⟩ := hack
    have hproc := h ack rfl
    refine ⟨?_, congrArg TpVars.dupAcks (tpRecvAck_of_not_processed hproc)⟩
    unfold tpLossNext
    dsimp only
    rw [if_neg hproc]
  · refine ⟨?_, tpRunNext_dupAcks s.vars fun ack heq => hack ⟨ack, heq⟩⟩
    unfold tpLossNext
    split
    · exact absurd ⟨_, rfl⟩ hack
    · rfl

/-- **The counter of the code counts the duplicates in a row.** -/
lemma tpLossNext_dupAcks {memory : TpVars} {s : TpLossRun} (h : TpDupAcksOk memory s)
    (e : TpRunEvent) : TpDupAcksOk memory (tpLossNext s e) := by
  by_cases hack : ∃ ack, e = .handler (.ack ack) ∧ ack.Processed s.vars
  · obtain ⟨ack, rfl, hproc⟩ := hack
    obtain ⟨srtt, rttvar, rto, heq⟩ := tpRecvAck_of_processed hproc
    by_cases hdup : s.vars.lastAcked = ack.seqno
    · rw [tpLossNext_dup hproc hdup, heq, if_pos hdup, tpRecvDupAck_eq]
      unfold TpDupAcksOk at h ⊢
      dsimp only
      rw [BitVec.ofNat_add, add_right_comm, ← h]
      split_ifs with hthird
      · rw [hthird.1]
        rfl
      · rfl
    · rw [tpLossNext_new hproc hdup, heq, if_neg hdup]
      exact tpRecvNewAck_dupAcks _ _
  · obtain ⟨hnext, hkeep⟩ := tpLossNext_other fun ack heq hproc => hack ⟨ack, heq, hproc⟩
    rw [hnext]
    exact hkeep.trans h

/-! ### The third duplicate -/

/-- The third duplicate in a row, outside of a recovery. -/
def TpThirdDuplicate (s : TpLossRun) (ack : TpAck) : Prop :=
  s.vars.fastRecovery = false ∧ ack.Processed s.vars ∧ s.vars.lastAcked = ack.seqno ∧ s.dups = 2

instance (s : TpLossRun) (ack : TpAck) : Decidable (TpThirdDuplicate s ack) :=
  inferInstanceAs (Decidable (_ ∧ _ ∧ _ ∧ _))

/-- The segment that is missing is sent again, and a recovery begins. -/
structure TpRetransmits (v : TpVars) (ack : TpAck) : Prop where
  decision : (tpRecvAck v ack).2 = .fastRetransmit v.lastAcked
  fastRecovery : (tpRecvAck v ack).1.fastRecovery = true
  recover : (tpRecvAck v ack).1.recover = v.lastSent
  ssThreshold : (tpRecvAck v ack).1.ssThreshold = v.cwnd >>> 1

/-- **On the third duplicate in a row there is a fast retransmit exactly if what is acknowledged is
not before `recover`.** -/
def TpFastRetransmitOk (s : TpLossRun) : TpRunEvent → Prop
  | .handler (.ack ack) => TpThirdDuplicate s ack →
    if seqBefore s.vars.lastAcked s.vars.recover then
      (tpRecvAck s.vars ack).2 = .duplicate ∧ (tpRecvAck s.vars ack).1.fastRecovery = false
    else TpRetransmits s.vars ack
  | _ => True

/-- On the third duplicate in a row the counter of the code stands at two and the plain comparison
says that `last_acked` is smaller than `recover`, exactly if it is not before it. -/
def TpGuardFits (s : TpLossRun) : TpRunEvent → Prop
  | .handler (.ack ack) => TpThirdDuplicate s ack →
    (s.vars.dupAcks = 2 ∧ s.vars.lastAcked < s.vars.recover ↔
      seqBefore s.vars.lastAcked s.vars.recover = false)
  | _ => True

/-- **When a third duplicate is treated as it should be.** -/
lemma tpFastRetransmitOk_iff (s : TpLossRun) (e : TpRunEvent) :
    TpFastRetransmitOk s e ↔ TpGuardFits s e := by
  unfold TpFastRetransmitOk TpGuardFits
  split
  · next ack =>
    refine imp_congr_right fun hthird => ?_
    obtain ⟨hrecovery, hproc, hdup, -⟩ := hthird
    obtain ⟨srtt, rttvar, rto, heq⟩ := tpRecvAck_of_processed hproc
    rw [if_pos hdup, tpRecvDupAck_eq, ← hdup] at heq
    by_cases hcode : s.vars.dupAcks = 2 ∧ s.vars.lastAcked < s.vars.recover
    · rw [if_pos hcode] at heq
      have hretransmits : TpRetransmits s.vars ack := by
        constructor <;> rw [heq]
      cases seqBefore s.vars.lastAcked s.vars.recover with
      | true =>
        refine iff_of_false (fun h => ?_) (fun h => Bool.noConfusion (h.1 hcode))
        exact TpDecision.noConfusion (h.1.symm.trans hretransmits.decision)
      | false => exact iff_of_true hretransmits (iff_of_true hcode rfl)
    · rw [if_neg hcode] at heq
      have hduplicate : (tpRecvAck s.vars ack).2 = .duplicate := by rw [heq]
      cases seqBefore s.vars.lastAcked s.vars.recover with
      | true =>
        exact iff_of_true ⟨hduplicate, by rw [heq]; exact hrecovery⟩
          (iff_of_false hcode Bool.noConfusion)
      | false =>
        refine iff_of_false (fun h => ?_) (fun h => hcode (h.2 rfl))
        exact TpDecision.noConfusion (hduplicate.symm.trans h.decision)
  · exact Iff.rfl

/-- **Fast retransmit.**  In a run from the start of a session, every third duplicate in a row is
treated as it should be exactly if, at each of them, the counter of the code stands at two and its
plain comparison decides as it should.  The counter is the number of duplicates in a row once data
was acknowledged, and before that if the memory of the session was zero. -/
theorem tp_fast_retransmit_iff (memory : TpVars) (es : List TpRunEvent) :
    (Run.AllSteps tpLossNext TpFastRetransmitOk (.new memory) es ↔
      Run.AllSteps tpLossNext TpGuardFits (.new memory) es) ∧
    ∀ s ∈ Run.states tpLossNext (.new memory) es,
      s.vars.dupAcks = BitVec.ofNat 32 s.dups + if s.acked then 0 else memory.dupAcks := by
  have hstart : TpDupAcksOk memory (.new memory) := (BitVec.zero_add memory.dupAcks).symm
  have hall : Run.AllSteps tpLossNext (fun _ _ => True) (.new memory) es :=
    .of_forall (fun _ _ => trivial) es
  refine ⟨?_, ?_⟩
  · exact Run.allSteps_iff (TpDupAcksOk memory) (fun s e h => tpLossNext_dupAcks h e)
      (fun s e _ => tpFastRetransmitOk_iff s e) hstart es
  · exact hall.forall_mem_states (TpDupAcksOk memory) (fun s e h _ => tpLossNext_dupAcks h e) hstart

/-! ### Two losses -/

/-- The data up to the `i`-th segment is acknowledged. -/
def tpAckUpTo (i : ℕ) : TpAck := ⟨TP_FIRST_SEQ + BitVec.ofNat 32 (i * 1476), 0, 0, true, true⟩

/-- Segments are sent, and the data up to the `i`-th one is acknowledged `n` times. -/
def tpSendAndAck (sent i n : ℕ) : List TpRunEvent :=
  List.replicate sent (.handler (.send 0)) ++ List.replicate n (.handler (.ack (tpAckUpTo i)))

/-- The sequence numbers have wrapped when the third segment is lost: two duplicates. -/
def tpFirstLoss : List TpRunEvent := tpSendAndAck 3 1 1 ++ tpSendAndAck 0 2 3

/-- After a third duplicate the segment is sent again and acknowledged, and two more are sent, of
which the second one is lost: two duplicates. -/
def tpSecondLoss : List TpRunEvent :=
  tpFirstLoss ++ tpSendAndAck 0 2 1 ++ tpSendAndAck 1 3 1 ++ tpSendAndAck 2 4 3

/-- **The second loss is not repaired**: right after the wrap the third duplicate starts a fast
retransmit, and when the recovery is completed, the third duplicate of the next loss does not,
though what it acknowledges is not before `recover`. -/
theorem tp_fast_retransmit_suppressed :
    let first := Run.final tpLossNext (.new tpMemory) tpFirstLoss
    let second := Run.final tpLossNext (.new tpMemory) tpSecondLoss
    TpThirdDuplicate first (tpAckUpTo 2) ∧
      (tpRecvAck first.vars (tpAckUpTo 2)).2 = .fastRetransmit 951 ∧
      TpThirdDuplicate second (tpAckUpTo 4) ∧
      (second.vars.lastAcked = 3903 ∧ second.vars.recover = 2427) ∧
      (tpRecvAck second.vars (tpAckUpTo 4)).2 = .duplicate ∧
      ¬ TpFastRetransmitOk second (.handler (.ack (tpAckUpTo 4))) := by
  have hsecond : TpThirdDuplicate (Run.final tpLossNext (.new tpMemory) tpSecondLoss)
      (tpAckUpTo 4) := by decide +kernel
  refine ⟨by decide +kernel, by decide +kernel, hsecond, by decide +kernel, by decide +kernel, ?_⟩
  intro hok
  have hguard := (tpFastRetransmitOk_iff _ _).1 hok hsecond
  revert hguard
  decide +kernel

end Batadv
