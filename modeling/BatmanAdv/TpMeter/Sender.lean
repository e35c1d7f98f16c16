import BatmanAdv.TpMeter.Vars

set_option relaxedAutoImplicit false
set_option autoImplicit false

/-!
# The sender of the throughput meter (`tp_meter.c`)

The sender keeps a congestion window in the manner of TCP NewReno.  It is driven by the ACKs that
arrive, by its retransmission timer and by the thread that sends.

## Main definitions

* `Batadv.tpCwnd`, `Batadv.tpUpdateCwnd`, `Batadv.tpUpdateRto`, `Batadv.tpSenderShutdown`,
  `Batadv.tpSenderTimeout`, `Batadv.tpRecvAck`, `Batadv.tpAvail` — the functions of these names.
* `Batadv.tpStart` — the sender's variables in a new session.
* `Batadv.tpSendOnce` — one iteration of the loop of `batadv_tp_send`.
* `Batadv.TpSenderEvent`, `Batadv.tpSenderStep` — what may happen to a sender, handler by handler.
* `Batadv.TpRunEvent`, `Batadv.tpRunNext` — the same, with the stop from outside.

## Main results

* `Batadv.tpUpdateCwnd_spec`, `Batadv.tpUpdateRto_frame` — what the two updates may change.
* `Batadv.le_tpCwnd`, `Batadv.tpCwnd_le` — the bounds of a window size.
-/

namespace Batadv

/-! ### The congestion window -/

/-- `min_t(u32, x, y)`. -/
def minU32 (x y : U32) : U32 := if x < y then x else y

/-- `max_t(u32, x, y)`. -/
def maxU32 (x y : U32) : U32 := if y < x then x else y

lemma le_maxU32_left (x y : U32) : x ≤ maxU32 x y := by
  unfold maxU32
  split_ifs with h
  · exact BitVec.le_refl x
  · exact BitVec.not_lt.1 h

lemma le_maxU32_right (x y : U32) : y ≤ maxU32 x y := by
  unfold maxU32
  split_ifs with h
  · exact BitVec.le_of_lt h
  · exact BitVec.le_refl y

lemma maxU32_le {x y z : U32} (hx : x ≤ z) (hy : y ≤ z) : maxU32 x y ≤ z := by
  unfold maxU32
  split_ifs
  · exact hx
  · exact hy

lemma minU32_le_right (x y : U32) : minU32 x y ≤ y := by
  unfold minU32
  split_ifs with h
  · exact BitVec.le_of_lt h
  · exact BitVec.le_refl y

lemma le_minU32 {x y z : U32} (hx : z ≤ x) (hy : z ≤ y) : z ≤ minU32 x y := by
  unfold minU32
  split_ifs
  · exact hx
  · exact hy

/-- `batadv_tp_cwnd`: compute the new cwnd size. -/
def tpCwnd (base increment minSize : U32) : U32 :=
  let newSize := base + increment
  -- check for wrap-around
  let newSize := if newSize < base then -1 else newSize
  maxU32 (minU32 newSize TP_AWND) minSize

/-- `batadv_tp_update_cwnd`: update the congestion window.  `none` when it divides by zero, which
`cwnd << 3` is for the largest window. -/
def tpUpdateCwnd (v : TpVars) (mss : U32) : Option TpVars :=
  if v.cwnd ≤ v.ssThreshold then
    -- slow start
    some { v with decCwnd := 0, cwnd := tpCwnd v.cwnd mss mss }
  else if v.cwnd <<< 3 = 0 then none
  else
    -- increment CWND at least of 1
    let increment := maxU32 ((1 : U32) <<< 3) (((mss * mss) <<< 6) / (v.cwnd <<< 3))
    let v := { v with decCwnd := v.decCwnd + increment.setWidth 16 }
    if v.decCwnd.setWidth 32 < mss <<< 3 then some v
    else some { v with cwnd := tpCwnd v.cwnd mss mss, decCwnd := 0 }

/-- A window size is at least the minimum. -/
lemma le_tpCwnd (base increment minSize : U32) : minSize ≤ tpCwnd base increment minSize :=
  le_maxU32_right _ _

/-- A window size is at most the advertised window, or the minimum if that is larger. -/
lemma tpCwnd_le (base increment : U32) {minSize : U32} (hmin : minSize ≤ TP_AWND) :
    tpCwnd base increment minSize ≤ TP_AWND :=
  maxU32_le (minU32_le_right _ _) hmin

/-- Growing a window does not shrink it. -/
lemma le_tpCwnd_base {base : U32} (increment minSize : U32) (hbase : base ≤ TP_AWND) :
    base ≤ tpCwnd base increment minSize := by
  refine BitVec.le_trans (le_minU32 ?_ hbase) (le_maxU32_left _ _)
  split_ifs with hwrap
  · exact BitVec.not_lt.1 BitVec.not_allOnes_lt
  · exact BitVec.not_lt.1 hwrap

/-- The size of the window that is given back after a recovery. -/
lemma toNat_tpCwnd_zero (base minSize : U32) :
    (tpCwnd base 0 minSize).toNat = max (min base.toNat TP_AWND.toNat) minSize.toNat := by
  have hzero : base + 0 = base := BitVec.add_zero base
  simp only [tpCwnd, maxU32, minU32, hzero, BitVec.lt_irrefl, if_false, BitVec.lt_def]
  split_ifs <;> omega

/-- What `batadv_tp_update_cwnd` may change. -/
lemma tpUpdateCwnd_spec {v v' : TpVars} {mss : U32} (h : tpUpdateCwnd v mss = some v') :
    ∃ cwnd decCwnd, v' = { v with cwnd := cwnd, decCwnd := decCwnd } ∧
      (cwnd = v.cwnd ∨ cwnd = tpCwnd v.cwnd mss mss) := by
  unfold tpUpdateCwnd at h
  dsimp only at h
  split_ifs at h
  · obtain rfl := Option.some.inj h
    exact ⟨_, _, rfl, .inr rfl⟩
  · obtain rfl := Option.some.inj h
    exact ⟨_, _, rfl, .inl rfl⟩
  · obtain rfl := Option.some.inj h
    exact ⟨_, _, rfl, .inr rfl⟩

/-- `batadv_tp_avail`: check if the congestion window is not full. -/
def tpAvail (v : TpVars) (payloadLen : U32) : Bool :=
  let winLimit := v.lastAcked + v.cwnd
  let winLeft := winLimit - v.lastSent
  decide (payloadLen ≤ winLeft)

/-! ### The timer -/

/-- `batadv_tp_update_rto`: calculate a new retransmission timeout.  `m` is a `long`, which is
truncated where it is added to a `u32`. -/
def tpUpdateRto (v : TpVars) (newRtt : U32) : TpVars :=
  let m : ℤ := newRtt.toNat
  let v :=
    if v.srtt ≠ 0 then
      let m := m - (v.srtt >>> 3).toNat
      let srtt := BitVec.ofInt 32 (v.srtt.toNat + m)
      let m := if m < 0 then -m else m
      let m := m - (v.rttvar >>> 2).toNat
      { v with srtt := srtt, rttvar := BitVec.ofInt 32 (v.rttvar.toNat + m) }
    else
      -- first measure getting in
      { v with srtt := BitVec.ofInt 32 (m * 2 ^ 3), rttvar := BitVec.ofInt 32 (m * 2 ^ 1) }
  { v with rto := (v.srtt >>> 3) + v.rttvar }

/-- What `batadv_tp_update_rto` may change. -/
lemma tpUpdateRto_frame (v : TpVars) (newRtt : U32) :
    ∃ srtt rttvar rto, tpUpdateRto v newRtt =
      { v with srtt := srtt, rttvar := rttvar, rto := rto } := by
  unfold tpUpdateRto
  dsimp only
  split_ifs <;> exact ⟨_, _, _, rfl⟩

/-- `atomic_dec_and_test` on `sending`. -/
def tpDecAndTest (v : TpVars) : TpVars × Bool :=
  ({ v with sending := v.sending - 1 }, v.sending - 1 == 0)

/-- `batadv_tp_sender_shutdown`: let the sender's thread and timer stop gracefully. -/
def tpSenderShutdown (v : TpVars) (reason : TpReason) : TpVars :=
  let (v, zero) := tpDecAndTest v
  if zero then { v with reason := reason } else v

/-- What `batadv_tp_sender_shutdown` may change. -/
lemma tpSenderShutdown_frame (v : TpVars) (reason : TpReason) :
    ∃ reason', tpSenderShutdown v reason =
      { v with sending := v.sending - 1, reason := reason' } := by
  unfold tpSenderShutdown tpDecAndTest
  dsimp only
  split_ifs
  · exact ⟨_, rfl⟩
  · exact ⟨v.reason, rfl⟩

/-- `batadv_tp_sender_timeout` after its tests: switch to slow start and resend what has not been
acknowledged. -/
def tpSenderBackoff (v : TpVars) : TpVars :=
  { v with
    rto := v.rto <<< 1
    ssThreshold := if v.cwnd >>> 1 < TP_PLEN * 2 then TP_PLEN * 2 else v.cwnd >>> 1
    cwnd := TP_PLEN * 3
    lastSent := v.lastAcked }

/-! ### Answers -/

/-- What a handler decided, with the sequence number of the message it sent, if any. -/
inductive TpDecision
  /-- The session was seen as stopped. -/
  | stopped
  /-- An old ACK was dropped. -/
  | oldAck
  /-- There was no primary interface, or the originator was unknown. -/
  | noRoute
  /-- A duplicate ACK was counted. -/
  | duplicate
  /-- Fast retransmit; fast recovery was entered. -/
  | fastRetransmit (seqno : U32)
  | partialAck (seqno : U32)
  | leaveRecovery
  | newAck
  /-- The machine trapped on a division by zero. -/
  | divideError
  /-- The timer fired once too often, and the session was shut down. -/
  | shutdown
  | backoff
  | windowFull
  | sent (seqno : U32)
  | cantSend (seqno : U32)
  /-- The thread left its loop on an error. -/
  | sendError (seqno : U32)
deriving DecidableEq, Repr

/-! ### The functions -/

/-- An ACK of the session that is received, and what its handler finds. -/
structure TpAck where
  seqno : U32
  /-- `icmp->timestamp`, which the receiver copied from the message it acknowledges. -/
  timestamp : U32
  /-- `jiffies_to_msecs(jiffies)`. -/
  now : U32
  primaryIf : Bool
  origNode : Bool
deriving DecidableEq, Repr

/-- `batadv_tp_recv_ack` on a duplicate ACK. -/
def tpRecvDupAck (v : TpVars) (recvAck : U32) : TpVars × TpDecision :=
  let v := { v with dupAcks := v.dupAcks + 1 }
  if v.dupAcks ≠ 3 then (v, .duplicate)
  -- a plain comparison, where the others are modular
  else if v.recover ≤ recvAck then (v, .duplicate)
  else
    ({ v with
      fastRecovery := true
      recover := v.lastSent
      ssThreshold := v.cwnd >>> 1
      cwnd := tpCwnd (v.cwnd >>> 1) (3 * TP_PLEN) TP_PLEN
      decCwnd := 0
      lastSent := recvAck }, .fastRetransmit recvAck)

/-- `batadv_tp_recv_ack` on an ACK for new data. -/
def tpRecvNewAck (v : TpVars) (recvAck : U32) : TpVars × TpDecision :=
  -- count the acked data
  let v := { v with
    totSent := v.totSent + (recvAck - v.lastAcked).setWidth 64
    dupAcks := 0 }
  if v.fastRecovery then
    if seqBefore recvAck v.recover then
      -- another hole in the window
      ({ v with cwnd := tpCwnd v.cwnd TP_PLEN TP_PLEN, lastAcked := recvAck }, .partialAck recvAck)
    else
      ({ v with
        fastRecovery := false
        cwnd := tpCwnd v.ssThreshold 0 TP_PLEN
        lastAcked := recvAck }, .leaveRecovery)
  else if TP_PLEN ≤ recvAck - v.lastAcked then
    match tpUpdateCwnd v TP_PLEN with
    | none => (v, .divideError)
    | some v => ({ v with lastAcked := recvAck }, .newAck)
  else ({ v with lastAcked := recvAck }, .newAck)

/-- `batadv_tp_recv_ack`: process a received TP ACK packet. -/
def tpRecvAck (v : TpVars) (ack : TpAck) : TpVars × TpDecision :=
  if v.sending = 0 then (v, .stopped)
  -- old ACK? silently drop it..
  else if seqBefore ack.seqno v.lastAcked then (v, .oldAck)
  else if !ack.primaryIf || !ack.origNode then (v, .noRoute)
  else
    let rtt := ack.now - ack.timestamp
    let v := if ack.timestamp ≠ 0 ∧ rtt ≠ 0 then tpUpdateRto v rtt else v
    if v.lastAcked = ack.seqno then tpRecvDupAck v ack.seqno else tpRecvNewAck v ack.seqno

/-- The variables with which an ACK is processed, after the timeout is updated. -/
lemma tpRecvAck_rto (v : TpVars) (ack : TpAck) :
    ∃ srtt rttvar rto,
      (if ack.timestamp ≠ 0 ∧ ack.now - ack.timestamp ≠ 0 then
        tpUpdateRto v (ack.now - ack.timestamp) else v) =
      { v with srtt := srtt, rttvar := rttvar, rto := rto } := by
  split_ifs
  · exact tpUpdateRto_frame v _
  · exact ⟨v.srtt, v.rttvar, v.rto, rfl⟩

/-- ACKs do not stop a session. -/
lemma tpRecvAck_frame (v : TpVars) (ack : TpAck) :
    (tpRecvAck v ack).1.sending = v.sending ∧ (tpRecvAck v ack).1.reason = v.reason := by
  obtain ⟨srtt, rttvar, rto, hrto⟩ := tpRecvAck_rto v ack
  unfold tpRecvAck
  dsimp only
  rw [hrto]
  split_ifs
  · exact ⟨rfl, rfl⟩
  · exact ⟨rfl, rfl⟩
  · exact ⟨rfl, rfl⟩
  · unfold tpRecvDupAck
    dsimp only
    split_ifs <;> exact ⟨rfl, rfl⟩
  · unfold tpRecvNewAck
    dsimp only
    split_ifs
    · exact ⟨rfl, rfl⟩
    · exact ⟨rfl, rfl⟩
    · split
      · exact ⟨rfl, rfl⟩
      · next hupdate =>
        obtain ⟨cwnd, decCwnd, rfl, -⟩ := tpUpdateCwnd_spec hupdate
        exact ⟨rfl, rfl⟩
    · exact ⟨rfl, rfl⟩

/-- `batadv_tp_sender_timeout`: the timer that fires in case of packet loss. -/
def tpSenderTimeout (v : TpVars) : TpVars × TpDecision :=
  if v.sending = 0 then (v, .stopped)
  else if TP_MAX_RTO ≤ v.rto then
    (tpSenderShutdown v TP_REASON_DST_UNREACHABLE, .shutdown)
  else (tpSenderBackoff v, .backoff)

/-- One iteration of the loop of `batadv_tp_send`; `err` is what `batadv_tp_send_msg` returns. -/
def tpSendOnce (v : TpVars) (err : TpReason) : TpVars × TpDecision :=
  if v.sending = 0 then (v, .stopped)
  else if !tpAvail v TP_PLEN then (v, .windowFull)
  else if err = 0 then
    -- right-shift the TWND
    ({ v with lastSent := v.lastSent + TP_PLEN }, .sent v.lastSent)
  else if err = TP_REASON_CANT_SEND then (v, .cantSend v.lastSent)
  else (tpSenderShutdown v err, .sendError v.lastSent)

/-- `batadv_tp_start`: the variables of a new session, whose memory is not zeroed. -/
def tpStart (memory : TpVars) : TpVars :=
  { memory with
    role := .sender
    sending := 1
    lastSent := TP_FIRST_SEQ
    lastAcked := TP_FIRST_SEQ
    fastRecovery := false
    recover := TP_FIRST_SEQ
    cwnd := TP_PLEN * 3
    ssThreshold := TP_AWND
    rto := 1000
    srtt := 0
    rttvar := 0
    totSent := 0
    unackedList := [] }

/-! ### Runs -/

/-- What may happen to a sender. -/
inductive TpSenderEvent
  | ack (ack : TpAck)
  | timeout
  | send (err : TpReason)
deriving DecidableEq, Repr

/-- The handlers of a sender, one at a time. -/
def tpSenderStep (v : TpVars) : TpSenderEvent → TpVars × TpDecision
  | .ack ack => tpRecvAck v ack
  | .timeout => tpSenderTimeout v
  | .send err => tpSendOnce v err

/-- The variables after an event. -/
def tpSenderNext (v : TpVars) (e : TpSenderEvent) : TpVars := (tpSenderStep v e).1

/-- What may happen to a sender, that it is stopped from outside (`batadv_tp_stop`) included. -/
inductive TpRunEvent
  | handler (e : TpSenderEvent)
  | stop (reason : TpReason)
deriving DecidableEq, Repr

/-- The variables after such an event. -/
def tpRunNext (v : TpVars) : TpRunEvent → TpVars
  | .handler e => tpSenderNext v e
  | .stop reason => tpSenderShutdown v reason

end Batadv
