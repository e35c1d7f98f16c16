import Mathlib.Data.List.Dedup
import Mathlib.Data.List.Range
import BatmanAdv.TpMeter.Receiver
import BatmanAdv.TpMeter.Sender

set_option relaxedAutoImplicit false
set_option autoImplicit false

/-!
# A transfer of the throughput meter (`tp_meter.c`)

The sender and the receiver of a session, with a network between them that may lose, repeat, delay
and reorder messages and ACKs.  What the sender counts as transferred was received: for every byte
in `tot_sent` the receiver has answered the segment it is in, even though the receiver's list of
segments that wait may be out of order, and even if the receiver loses its session.

## Main definitions

* `Batadv.TpNet`, `Batadv.TpNetEvent`, `Batadv.tpNetNext` — the two parties and what is under way.
* `Batadv.TpNetGuard` — only what was sent arrives.
* `Batadv.TpNet.Inv` — the invariant.

## Main results

* `Batadv.tpRecvMsg_safe` — what the receiver acknowledges it has received, in any order.
* `Batadv.TpNet.Inv.step` — every event keeps the invariant.
* `Batadv.tp_transfer_sound` — **what is reported was received**.
-/

namespace Batadv

open SerialNumber (offset)

/-! ### The two parties -/

/-- The sender, the receiver's session, the sequence numbers of all messages and of all ACKs that
were sent, and those of the messages that the receiver has answered. -/
structure TpNet where
  sender : TpVars
  receiver : Option TpVars
  messages : List U32
  acks : List U32
  received : List U32

/-- What can happen: the sender's thread tries to send, its timer fires, an ACK arrives, it is
stopped; a message arrives at the receiver, or the receiver's session times out. -/
inductive TpNetEvent
  | send (err : TpReason)
  | timeout
  | ack (ack : TpAck)
  | stop (reason : TpReason)
  | message (seqno : U32) (jiffies : Jiffies) (memory : TpVars) (sessionNew unackedNew : Bool)
  | forget

/-- The message that a handler has sent. -/
def TpDecision.message : TpDecision → Option U32
  | .sent seqno | .fastRetransmit seqno | .partialAck seqno => some seqno
  | _ => none

/-- A message of a session as it arrives at the receiver. -/
def tpMessage (seqno : U32) (jiffies : Jiffies) (memory : TpVars) (sessionNew unackedNew : Bool) :
    TpMsg :=
  ⟨seqno, TP_PLEN.toNat + UNICAST_HDR_SIZE, jiffies, memory, sessionNew, unackedNew⟩

/-- The state after a handler of the sender has run. -/
def TpNet.handled (s : TpNet) (r : TpVars × TpDecision) : TpNet :=
  { s with sender := r.1, messages := r.2.message.toList ++ s.messages }

/-- The state after an event. -/
def tpNetNext (s : TpNet) : TpNetEvent → TpNet
  | .send err => s.handled (tpSendOnce s.sender err)
  | .timeout => s.handled (tpSenderTimeout s.sender)
  | .ack ack => s.handled (tpRecvAck s.sender ack)
  | .stop reason => { s with sender := tpSenderShutdown s.sender reason }
  | .message seqno jiffies memory sessionNew unackedNew =>
    let r := tpRecvMsg s.receiver (tpMessage seqno jiffies memory sessionNew unackedNew)
    { s with
      receiver := r.1
      acks := r.2.toList ++ s.acks
      received := if r.2.isSome then seqno :: s.received else s.received }
  | .forget => { s with receiver := none }

/-- **Only what was sent arrives**, any number of times and in any order; fewer than 2^31 bytes are
sent, and the machine does not trap. -/
def TpNetGuard (s : TpNet) : TpNetEvent → Prop
  | .send _ => offset TP_FIRST_SEQ s.sender.lastSent + TP_PLEN.toNat < 2 ^ 31
  | .ack ack => ack.seqno ∈ s.acks ∧ offset TP_FIRST_SEQ ack.seqno + TP_PLEN.toNat < 2 ^ 31 ∧
      (tpRecvAck s.sender ack).2 ≠ .divideError
  | .message seqno _ _ _ _ => seqno ∈ s.messages
  | .timeout | .stop _ | .forget => True

instance (s : TpNet) : (e : TpNetEvent) → Decidable (TpNetGuard s e)
  | .send _ => inferInstanceAs (Decidable (_ < _))
  | .ack _ => inferInstanceAs (Decidable (_ ∧ _))
  | .message _ _ _ _ _ => inferInstanceAs (Decidable (_ ∈ s.messages))
  | .timeout => inferInstanceAs (Decidable True)
  | .stop _ => inferInstanceAs (Decidable True)
  | .forget => inferInstanceAs (Decidable True)

/-- A session that has just been started, before the receiver knows of it. -/
def tpNetStart (memory : TpVars) : TpNet := ⟨tpStart memory, none, [], [], []⟩

/-! ### The sender -/

/-- **What an ACK does to the counters.**  It changes none of them; or it is as new as the last one
and may make the thread send again from there; or it is newer, and what lies between is counted. -/
inductive TpAckStep (v : TpVars) (ack : TpAck) (v' : TpVars) (message : Option U32) : Prop
  | ignored (hv : v' = v) (hmessage : message = none)
  | duplicate (hseqno : v.lastAcked = ack.seqno) (hacked : v'.lastAcked = v.lastAcked)
      (htot : v'.totSent = v.totSent) (hsent : v'.lastSent = v.lastSent ∨ v'.lastSent = ack.seqno)
      (hmessage : ∀ seqno ∈ message, seqno = ack.seqno)
  | new (hnew : seqBefore ack.seqno v.lastAcked = false) (hacked : v'.lastAcked = ack.seqno)
      (htot : v'.totSent = v.totSent + (ack.seqno - v.lastAcked).setWidth 64)
      (hsent : v'.lastSent = v.lastSent) (hmessage : ∀ seqno ∈ message, seqno = ack.seqno)

/-- An ACK does this, unless the machine traps. -/
lemma tpRecvAck_step (v : TpVars) (ack : TpAck) (htrap : (tpRecvAck v ack).2 ≠ .divideError) :
    TpAckStep v ack (tpRecvAck v ack).1 (tpRecvAck v ack).2.message := by
  obtain ⟨srtt, rttvar, rto, hrto⟩ := tpRecvAck_rto v ack
  unfold tpRecvAck at htrap ⊢
  dsimp only at htrap ⊢
  rw [hrto] at htrap ⊢
  by_cases hstopped : v.sending = 0
  · rw [if_pos hstopped]
    exact .ignored rfl rfl
  rw [if_neg hstopped] at htrap ⊢
  by_cases hold : seqBefore ack.seqno v.lastAcked = true
  · rw [if_pos hold]
    exact .ignored rfl rfl
  rw [if_neg hold] at htrap ⊢
  by_cases hroute : (!ack.primaryIf || !ack.origNode) = true
  · rw [if_pos hroute]
    exact .ignored rfl rfl
  rw [if_neg hroute] at htrap ⊢
  have hnew := Bool.not_eq_true _ ▸ hold
  by_cases hdup : v.lastAcked = ack.seqno
  · rw [if_pos hdup]
    unfold tpRecvDupAck
    dsimp only
    split_ifs
    · exact .duplicate hdup rfl rfl (.inl rfl) fun _ h => absurd h (Option.not_mem_none _)
    · exact .duplicate hdup rfl rfl (.inl rfl) fun _ h => absurd h (Option.not_mem_none _)
    · exact .duplicate hdup rfl rfl (.inr rfl) fun _ h => (Option.some.inj h).symm
  · rw [if_neg hdup] at htrap ⊢
    unfold tpRecvNewAck at htrap ⊢
    dsimp only at htrap ⊢
    by_cases hrecovery : v.fastRecovery = true
    · rw [if_pos hrecovery]
      split_ifs
      · exact .new hnew rfl rfl rfl fun _ h => (Option.some.inj h).symm
      · exact .new hnew rfl rfl rfl fun _ h => absurd h (Option.not_mem_none _)
    · rw [if_neg hrecovery] at htrap ⊢
      split_ifs at htrap ⊢
      · generalize hupdate : tpUpdateCwnd _ TP_PLEN = updated at htrap ⊢
        cases updated with
        | none => exact absurd rfl htrap
        | some v' =>
          obtain ⟨cwnd, decCwnd, rfl, -⟩ := tpUpdateCwnd_spec hupdate
          exact .new hnew rfl rfl rfl fun _ h => absurd h (Option.not_mem_none _)
      · exact .new hnew rfl rfl rfl fun _ h => absurd h (Option.not_mem_none _)

/-- What the sender's thread does to the counters. -/
lemma tpSendOnce_step (v : TpVars) (err : TpReason) :
    (tpSendOnce v err).1.lastAcked = v.lastAcked ∧ (tpSendOnce v err).1.totSent = v.totSent ∧
      ((tpSendOnce v err).1.lastSent = v.lastSent ∧ (tpSendOnce v err).2.message = none ∨
        (tpSendOnce v err).1.lastSent = v.lastSent + TP_PLEN ∧
          (tpSendOnce v err).2.message = some v.lastSent) := by
  unfold tpSendOnce
  split_ifs
  · exact ⟨rfl, rfl, .inl ⟨rfl, rfl⟩⟩
  · exact ⟨rfl, rfl, .inl ⟨rfl, rfl⟩⟩
  · exact ⟨rfl, rfl, .inr ⟨rfl, rfl⟩⟩
  · exact ⟨rfl, rfl, .inl ⟨rfl, rfl⟩⟩
  · obtain ⟨reason, hv⟩ := tpSenderShutdown_frame v err
    rw [hv]
    exact ⟨rfl, rfl, .inl ⟨rfl, rfl⟩⟩

/-- What the sender's timer does to the counters. -/
lemma tpSenderTimeout_step (v : TpVars) :
    (tpSenderTimeout v).1.lastAcked = v.lastAcked ∧ (tpSenderTimeout v).1.totSent = v.totSent ∧
      ((tpSenderTimeout v).1.lastSent = v.lastSent ∨
        (tpSenderTimeout v).1.lastSent = v.lastAcked) ∧
      (tpSenderTimeout v).2.message = none := by
  unfold tpSenderTimeout
  split_ifs
  · exact ⟨rfl, rfl, .inl rfl, rfl⟩
  · obtain ⟨reason, hv⟩ := tpSenderShutdown_frame v TP_REASON_DST_UNREACHABLE
    rw [hv]
    exact ⟨rfl, rfl, .inl rfl, rfl⟩
  · exact ⟨rfl, rfl, .inr rfl, rfl⟩

/-! ### The receiver -/

/-- All segments before this one were received. -/
def TpPrefix (received : List U32) (m : ℕ) : Prop := ∀ j < m, tpStream.seq j ∈ received

/-- **What a receiver's session has was received**, in whatever order its list is. -/
def TpSessionSafe (received : List U32) (v : TpVars) : Prop :=
  v.role = .receiver ∧ ∃ (m : ℕ) (waiting : List ℕ), v.lastRecv = tpStream.seq m ∧
    tpStream.Fits m ∧ TpPrefix received m ∧ v.unackedList = waiting.map tpStream.segment ∧
      ∀ j ∈ waiting, tpStream.Fits (j + 1) ∧ tpStream.seq j ∈ received

lemma TpPrefix.succ {received : List U32} {m : ℕ} (h : TpPrefix received m)
    (hm : tpStream.seq m ∈ received) : TpPrefix received (m + 1) := by
  intro j hj
  rcases Nat.lt_succ_iff_lt_or_eq.1 hj with hlt | rfl
  · exact h j hlt
  · exact hm

lemma TpPrefix.mono {received received' : List U32} {m : ℕ} (h : TpPrefix received m)
    (hsub : ∀ seqno ∈ received, seqno ∈ received') : TpPrefix received' m :=
  fun j hj => hsub _ (h j hj)

/-- The loop of `batadv_tp_ack_unordered` acknowledges only what was received.

**Proof sketch.** Induction along the list.  An entry behind the first gap ends the loop; one before
it is thrown away; and the one at the gap closes it. -/
lemma tpAckUnorderedLoop_safe {received : List U32} {k : ℕ} {waiting : List ℕ}
    (hk : tpStream.Fits k) (hpre : TpPrefix received k)
    (hwaiting : ∀ j ∈ waiting, tpStream.Fits (j + 1) ∧ tpStream.seq j ∈ received) :
    ∃ (m : ℕ) (rest : List ℕ),
      tpAckUnorderedLoop (tpStream.seq k) (waiting.map tpStream.segment) =
        (tpStream.seq m, rest.map tpStream.segment) ∧
      tpStream.Fits m ∧ TpPrefix received m ∧
        ∀ j ∈ rest, tpStream.Fits (j + 1) ∧ tpStream.seq j ∈ received := by
  induction waiting generalizing k with
  | nil => exact ⟨k, [], rfl, hk, hpre, fun _ h => absurd h List.not_mem_nil⟩
  | cons i waiting ih =>
    obtain ⟨hi, hmem⟩ := hwaiting i List.mem_cons_self
    have hrest := fun j hj => hwaiting j (List.mem_cons_of_mem i hj)
    rw [List.map_cons, tpAckUnorderedLoop, TpStream.segment_end]
    by_cases hgap : seqBefore (tpStream.seq k) (tpStream.segment i).seqno = true
    · rw [if_pos hgap]
      exact ⟨k, i :: waiting, rfl, hk, hpre, hwaiting⟩
    · rw [if_neg hgap]
      have hle : i ≤ k := by
        by_contra hlt
        exact hgap ((TpStream.seqBefore_seq hk (hi.mono (Nat.le_succ i))).2 (not_le.1 hlt))
      dsimp only
      by_cases hbefore : seqBefore (tpStream.seq k) (tpStream.seq (i + 1)) = true
      · have hlt := (TpStream.seqBefore_seq hk hi).1 hbefore
        obtain rfl : i = k := by omega
        have hnext : tpStream.seq i + (tpStream.seq (i + 1) - tpStream.seq i) =
            tpStream.seq (i + 1) := by ring
        rw [if_pos hbefore, hnext]
        exact ih hi (hpre.succ hmem) hrest
      · rw [if_neg hbefore]
        exact ih hk hpre hrest

/-- The search for a place puts no other segment into the list. -/
lemma tpUnackedScan_safe {i : ℕ} {desc : List ℕ} {list : List TpUnacked}
    (h : tpUnackedScan (tpStream.segment i) (desc.map tpStream.segment) = some list) :
    ∃ desc' : List ℕ, list = desc'.map tpStream.segment ∧ ∀ j ∈ desc', j = i ∨ j ∈ desc := by
  induction desc generalizing list with
  | nil => cases h
  | cons k rest ih =>
    rw [List.map_cons, tpUnackedScan] at h
    by_cases heq : (tpStream.segment i).seqno = (tpStream.segment k).seqno
    · rw [if_pos heq] at h
      cases h
      refine ⟨k :: rest, ?_, fun j hj => .inr hj⟩
      simp [TpStream.segment]
    rw [if_neg heq] at h
    by_cases hbefore : seqBefore (tpStream.segment i).seqno (tpStream.segment k).seqno = true
    · rw [if_pos hbefore] at h
      obtain ⟨list', hscan, rfl⟩ := Option.map_eq_some_iff.1 h
      obtain ⟨desc', rfl, hmem⟩ := ih hscan
      refine ⟨k :: desc', rfl, fun j hj => ?_⟩
      rcases List.mem_cons.1 hj with rfl | hj
      · exact .inr List.mem_cons_self
      · exact (hmem j hj).imp_right (List.mem_cons_of_mem k)
    · rw [if_neg hbefore] at h
      cases h
      refine ⟨k :: i :: rest, rfl, fun j hj => ?_⟩
      rcases List.mem_cons.1 hj with rfl | hj
      · exact .inr List.mem_cons_self
      · exact (List.mem_cons.1 hj).imp_right (List.mem_cons_of_mem k)

/-- A segment that is stored out of order. -/
lemma tpHandleOutOfOrder_safe {v v' : TpVars} {msg : TpMsg} {i : ℕ} {waiting : List ℕ}
    (hmsg : (⟨msg.seqno, BitVec.ofNat 16 (msg.len - UNICAST_HDR_SIZE)⟩ : TpUnacked) =
      tpStream.segment i) (hlist : v.unackedList = waiting.map tpStream.segment)
    (h : tpHandleOutOfOrder v msg = some v') :
    ∃ waiting' : List ℕ, v' = { v with unackedList := waiting'.map tpStream.segment } ∧
      ∀ j ∈ waiting', j = i ∨ j ∈ waiting := by
  unfold tpHandleOutOfOrder at h
  by_cases halloc : (!msg.unackedNew) = true
  · rw [if_pos halloc] at h
    cases h
  rw [if_neg halloc, hmsg] at h
  dsimp only at h
  by_cases hempty : v.unackedList.isEmpty = true
  · rw [if_pos hempty] at h
    cases h
    exact ⟨[i], rfl, fun j hj => .inl (List.mem_singleton.1 hj)⟩
  · rw [if_neg hempty, hlist, ← List.map_reverse] at h
    cases hscan : tpUnackedScan (tpStream.segment i) (waiting.reverse.map tpStream.segment) with
    | none =>
      rw [hscan] at h
      cases h
      refine ⟨i :: waiting, by rw [List.map_cons], fun j hj => List.mem_cons.1 hj⟩
    | some list =>
      rw [hscan] at h
      cases h
      obtain ⟨desc, rfl, hmem⟩ := tpUnackedScan_safe hscan
      refine ⟨desc.reverse, by rw [List.map_reverse], fun j hj => ?_⟩
      exact (hmem j (List.mem_reverse.1 hj)).imp_right List.mem_reverse.1

lemma TpSessionSafe.mono {received received' : List U32} {v : TpVars}
    (h : TpSessionSafe received v) (hsub : ∀ seqno ∈ received, seqno ∈ received')
    (jiffies : Jiffies) : TpSessionSafe received' { v with lastRecvTime := jiffies } := by
  obtain ⟨hrole, m, waiting, hlast, hm, hpre, hlist, hwaiting⟩ := h
  exact ⟨hrole, m, waiting, hlast, hm, hpre.mono hsub, hlist, fun j hj =>
    ⟨(hwaiting j hj).1, hsub _ (hwaiting j hj).2⟩⟩

/-- The session that a message is for, which the first segment may create. -/
lemma tpInitRecv_safe {received : List U32} {session : Option TpVars} {msg : TpMsg} {v : TpVars}
    (hsession : ∀ v ∈ session, TpSessionSafe received v)
    (h : (if msg.seqno = TP_FIRST_SEQ then tpInitRecv session msg else session) = some v) :
    TpSessionSafe received v := by
  by_cases hfirst : msg.seqno = TP_FIRST_SEQ
  · rw [if_pos hfirst] at h
    cases session with
    | some v₀ => exact hsession v h
    | none =>
      unfold tpInitRecv at h
      dsimp only at h
      split_ifs at h
      cases h
      exact ⟨rfl, 0, [], (BitVec.add_zero _).symm, by decide, fun j hj =>
        absurd hj (Nat.not_lt_zero j), rfl, fun j hj => absurd hj List.not_mem_nil⟩
  · rw [if_neg hfirst] at h
    exact hsession v h

/-- **What the receiver acknowledges it has received**, for segments in any order. -/
theorem tpRecvMsg_safe {received : List U32} {session : Option TpVars}
    (hsession : ∀ v ∈ session, TpSessionSafe received v) {i : ℕ} (hi : tpStream.Fits (i + 1))
    (jiffies : Jiffies) (memory : TpVars) (sessionNew unackedNew : Bool)
    {session' : Option TpVars} {ack : Option U32}
    (h : tpRecvMsg session (tpMessage (tpStream.seq i) jiffies memory sessionNew unackedNew) =
      (session', ack)) :
    (∀ v ∈ session',
        TpSessionSafe (if ack.isSome then tpStream.seq i :: received else received) v) ∧
      ∀ seqno ∈ ack, ∃ m, seqno = tpStream.seq m ∧ tpStream.Fits m ∧
        TpPrefix (tpStream.seq i :: received) m := by
  generalize hmsg : tpMessage (tpStream.seq i) jiffies memory sessionNew unackedNew = msg at h
  have hseqno : msg.seqno = tpStream.seq i := by
    rw [← hmsg]
    rfl
  unfold tpRecvMsg at h
  cases hfound : (if msg.seqno = TP_FIRST_SEQ then tpInitRecv session msg else session) with
  | none =>
    rw [hfound] at h
    cases h
    exact ⟨hsession, fun _ h => absurd h (Option.not_mem_none _)⟩
  | some v =>
    rw [hfound] at h
    have hsafe := tpInitRecv_safe hsession hfound
    have hparts := hsafe
    obtain ⟨hrole, m, waiting, hlast, hm, hpre, hlist, hwaiting⟩ := hparts
    have hmono : ∀ seqno ∈ received, seqno ∈ tpStream.seq i :: received := fun _ =>
      List.mem_cons_of_mem _
    dsimp only at h
    rw [if_neg (not_not.2 hrole)] at h
    have hidx : tpStream.Fits i := hi.mono (Nat.le_succ i)
    by_cases hbefore : seqBefore msg.seqno v.lastRecv = true
    · rw [if_pos hbefore] at h
      cases h
      refine ⟨?_, ?_⟩
      · rintro _ ⟨⟩
        exact hsafe.mono hmono _
      · rintro _ ⟨⟩
        exact ⟨m, hlast, hm, hpre.mono hmono⟩
    rw [if_neg hbefore] at h
    by_cases hne : msg.seqno ≠ v.lastRecv
    · rw [if_pos hne] at h
      have hentry : (⟨msg.seqno, BitVec.ofNat 16 (msg.len - UNICAST_HDR_SIZE)⟩ : TpUnacked) =
          tpStream.segment i := by
        rw [← hmsg]
        rfl
      cases hstore : tpHandleOutOfOrder { v with lastRecvTime := msg.jiffies } msg with
      | none =>
        rw [hstore] at h
        cases h
        refine ⟨?_, fun _ h => absurd h (Option.not_mem_none _)⟩
        rintro _ ⟨⟩
        exact hsafe.mono (fun _ h => h) _
      | some v' =>
        rw [hstore] at h
        cases h
        have hlist' : { v with lastRecvTime := msg.jiffies }.unackedList =
            waiting.map tpStream.segment := hlist
        obtain ⟨waiting', rfl, hmem⟩ := tpHandleOutOfOrder_safe hentry hlist' hstore
        refine ⟨?_, ?_⟩
        · rintro _ ⟨⟩
          refine ⟨hrole, m, waiting', hlast, hm, hpre.mono hmono, rfl, fun j hj => ?_⟩
          rcases hmem j hj with rfl | hj
          · exact ⟨hi, List.mem_cons_self⟩
          · exact ⟨(hwaiting j hj).1, hmono _ (hwaiting j hj).2⟩
        · rintro _ ⟨⟩
          exact ⟨m, hlast, hm, hpre.mono hmono⟩
    · rw [if_neg hne] at h
      have hnext : tpStream.seq i = tpStream.seq m := by
        rw [← hseqno, ← hlast]
        exact not_not.1 hne
      obtain rfl : i = m := (TpStream.seq_inj hidx hm).1 hnext
      have hsize : BitVec.ofNat 32 (msg.len - UNICAST_HDR_SIZE) =
          BitVec.ofNat 32 tpStream.plen := by
        rw [← hmsg]
        rfl
      obtain ⟨k, rest, hloop, hk, hpre, hrest⟩ := tpAckUnorderedLoop_safe hi
        ((hpre.mono hmono).succ List.mem_cons_self) fun j hj =>
          ⟨(hwaiting j hj).1, hmono _ (hwaiting j hj).2⟩
      simp only [tpAckUnordered, hlast, hsize, TpStream.seq_succ, hlist, hloop] at h
      cases h
      refine ⟨?_, ?_⟩
      · rintro _ ⟨⟩
        exact ⟨hrole, k, rest, rfl, hk, hpre, rfl, hrest⟩
      · rintro _ ⟨⟩
        exact ⟨k, rfl, hk, hpre⟩

/-! ### Runs -/

/-- **The invariant.**  Messages are segments of the stream; what ACKs acknowledge was received; so
was all that the sender counts. -/
structure TpNet.Inv (s : TpNet) : Prop where
  messages : ∀ seqno ∈ s.messages, ∃ i, seqno = tpStream.seq i ∧ tpStream.Fits (i + 1)
  acks : ∀ seqno ∈ s.acks, ∃ m, seqno = tpStream.seq m ∧ tpStream.Fits m ∧ TpPrefix s.received m
  receiver : ∀ v ∈ s.receiver, TpSessionSafe s.received v
  acked : ∃ a, s.sender.lastAcked = tpStream.seq a ∧ tpStream.Fits a ∧ TpPrefix s.received a ∧
    s.sender.totSent = BitVec.ofNat 64 (a * tpStream.plen)
  sent : ∃ k, s.sender.lastSent = tpStream.seq k ∧ tpStream.Fits k

/-- The distance of a segment from the start of the stream. -/
lemma offset_seq {i : ℕ} (hi : tpStream.Fits i) :
    offset TP_FIRST_SEQ (tpStream.seq i) = i * tpStream.plen :=
  SerialNumber.offset_add_ofNat _ (lt_trans hi (by decide))

/-- A segment that the guard admits can be sent. -/
lemma fits_succ_of_guard {i : ℕ} (hi : tpStream.Fits i)
    (h : offset TP_FIRST_SEQ (tpStream.seq i) + TP_PLEN.toNat < 2 ^ 31) :
    tpStream.Fits (i + 1) := by
  rw [offset_seq hi] at h
  have hplen : TP_PLEN.toNat = tpStream.plen := rfl
  rw [hplen, ← Nat.succ_mul] at h
  exact h

/-- What is counted for an ACK. -/
lemma totSent_add {a b : ℕ} (hle : a ≤ b) (hb : tpStream.Fits b) :
    BitVec.ofNat 64 (a * tpStream.plen) + (tpStream.seq b - tpStream.seq a).setWidth 64 =
      BitVec.ofNat 64 (b * tpStream.plen) := by
  obtain ⟨d, rfl⟩ := Nat.exists_eq_add_of_le hle
  have hdiff : tpStream.seq (a + d) - tpStream.seq a = BitVec.ofNat 32 (d * tpStream.plen) := by
    have hsplit : tpStream.seq (a + d) = tpStream.seq a + BitVec.ofNat 32 (d * tpStream.plen) := by
      rw [TpStream.seq, TpStream.seq, Nat.add_mul, BitVec.ofNat_add, BitVec.add_assoc]
    rw [hsplit]
    ring
  have hlt : d * tpStream.plen < 2 ^ 32 := by
    have hfits : (a + d) * tpStream.plen < 2 ^ 31 := hb
    rw [Nat.add_mul] at hfits
    omega
  have hwidth : (BitVec.ofNat 32 (d * tpStream.plen)).setWidth 64 =
      BitVec.ofNat 64 (d * tpStream.plen) := by
    apply BitVec.eq_of_toNat_eq
    rw [BitVec.toNat_setWidth, BitVec.toNat_ofNat, BitVec.toNat_ofNat, Nat.mod_eq_of_lt hlt]
  rw [hdiff, hwidth, ← BitVec.ofNat_add, Nat.add_mul]

/-- A session that was just started. -/
lemma tpNetStart_inv (memory : TpVars) : (tpNetStart memory).Inv where
  messages := fun _ h => absurd h List.not_mem_nil
  acks := fun _ h => absurd h List.not_mem_nil
  receiver := fun _ h => absurd h (Option.not_mem_none _)
  acked := ⟨0, (BitVec.add_zero _).symm, by decide, fun j hj => absurd hj (Nat.not_lt_zero j), rfl⟩
  sent := ⟨0, (BitVec.add_zero _).symm, by decide⟩

/-- A handler of the sender. -/
lemma TpNet.Inv.handled {s : TpNet} (h : s.Inv) {r : TpVars × TpDecision}
    (hmessages : ∀ seqno ∈ r.2.message, ∃ i, seqno = tpStream.seq i ∧ tpStream.Fits (i + 1))
    (hacked : ∃ a, r.1.lastAcked = tpStream.seq a ∧ tpStream.Fits a ∧ TpPrefix s.received a ∧
      r.1.totSent = BitVec.ofNat 64 (a * tpStream.plen))
    (hsent : ∃ k, r.1.lastSent = tpStream.seq k ∧ tpStream.Fits k) : (s.handled r).Inv := by
  refine ⟨fun seqno hq => ?_, h.acks, h.receiver, hacked, hsent⟩
  rcases List.mem_append.1 hq with hq | hq
  · exact hmessages seqno (Option.mem_toList.1 hq)
  · exact h.messages seqno hq

/-- **Every event keeps the invariant.** -/
theorem TpNet.Inv.step {s : TpNet} (h : s.Inv) {e : TpNetEvent} (hguard : TpNetGuard s e) :
    (tpNetNext s e).Inv := by
  obtain ⟨a, hacked, ha, hpre, htot⟩ := h.acked
  obtain ⟨k, hsent, hk⟩ := h.sent
  cases e with
  | send err =>
    obtain ⟨hacked', htot', hcases⟩ := tpSendOnce_step s.sender err
    have hfits : tpStream.Fits (k + 1) := fits_succ_of_guard hk (hsent ▸ hguard)
    refine h.handled ?_ ⟨a, hacked'.trans hacked, ha, hpre, htot'.trans htot⟩ ?_
    · rcases hcases with ⟨-, hmessage⟩ | ⟨-, hmessage⟩
      · rw [hmessage]
        exact fun _ hq => absurd hq (Option.not_mem_none _)
      · rw [hmessage]
        rintro _ ⟨⟩
        exact ⟨k, hsent, hfits⟩
    · rcases hcases with ⟨hsame, -⟩ | ⟨hnext, -⟩
      · exact ⟨k, hsame.trans hsent, hk⟩
      · refine ⟨k + 1, ?_, hfits⟩
        rw [hnext, hsent]
        exact TpStream.seq_succ k
  | timeout =>
    obtain ⟨hacked', htot', hsent', hmessage⟩ := tpSenderTimeout_step s.sender
    refine h.handled ?_ ⟨a, hacked'.trans hacked, ha, hpre, htot'.trans htot⟩ ?_
    · rw [hmessage]
      exact fun _ hq => absurd hq (Option.not_mem_none _)
    · rcases hsent' with hsame | hback
      · exact ⟨k, hsame.trans hsent, hk⟩
      · exact ⟨a, hback.trans hacked, ha⟩
  | ack ack =>
    obtain ⟨hmem, hlt, htrap⟩ := hguard
    obtain ⟨m, hseqno, hm, hack⟩ := h.acks _ hmem
    rw [hseqno] at hlt
    have hfits := fits_succ_of_guard hm hlt
    cases tpRecvAck_step s.sender ack htrap with
    | ignored hv hmessage =>
      refine h.handled ?_ ⟨a, by rw [hv, hacked], ha, hpre, by rw [hv, htot]⟩
        ⟨k, by rw [hv, hsent], hk⟩
      rw [hmessage]
      exact fun _ hq => absurd hq (Option.not_mem_none _)
    | duplicate hsame hacked' htot' hsent' hmessage =>
      refine h.handled (fun seqno hq => ⟨m, (hmessage seqno hq).trans hseqno, hfits⟩)
        ⟨a, hacked'.trans hacked, ha, hpre, htot'.trans htot⟩ ?_
      rcases hsent' with hkept | hback
      · exact ⟨k, hkept.trans hsent, hk⟩
      · exact ⟨m, hback.trans hseqno, hm⟩
    | new hnew hacked' htot' hsent' hmessage =>
      have hle : a ≤ m := by
        by_contra hlt'
        have hbefore := (TpStream.seqBefore_seq hm ha).2 (not_le.1 hlt')
        rw [← hseqno, ← hacked, hnew] at hbefore
        exact Bool.false_ne_true hbefore
      refine h.handled (fun seqno hq => ⟨m, (hmessage seqno hq).trans hseqno, hfits⟩)
        ⟨m, hacked'.trans hseqno, hm, hack, ?_⟩ ⟨k, hsent'.trans hsent, hk⟩
      rw [htot', htot, hseqno, hacked, totSent_add hle hm]
  | stop reason =>
    obtain ⟨reason', hv⟩ := tpSenderShutdown_frame s.sender reason
    simp only [tpNetNext, hv]
    exact ⟨h.messages, h.acks, h.receiver, ⟨a, hacked, ha, hpre, htot⟩, ⟨k, hsent, hk⟩⟩
  | message seqno jiffies memory sessionNew unackedNew =>
    obtain ⟨i, rfl, hi⟩ := h.messages _ hguard
    generalize hrecv : tpRecvMsg s.receiver
      (tpMessage (tpStream.seq i) jiffies memory sessionNew unackedNew) = r
    obtain ⟨session', ack⟩ := r
    obtain ⟨hsession, hack⟩ := tpRecvMsg_safe h.receiver hi jiffies memory sessionNew unackedNew
      hrecv
    simp only [tpNetNext, hrecv]
    have hmono : ∀ q ∈ s.received,
        q ∈ if ack.isSome then tpStream.seq i :: s.received else s.received := by
      intro q hq
      split_ifs
      · exact List.mem_cons_of_mem _ hq
      · exact hq
    refine ⟨h.messages, fun q hq => ?_, hsession, ⟨a, hacked, ha, hpre.mono hmono, htot⟩,
      ⟨k, hsent, hk⟩⟩
    rcases List.mem_append.1 hq with hq | hq
    · obtain rfl := Option.mem_toList.1 hq
      exact hack q rfl
    · obtain ⟨m, hm, hfits, hpre⟩ := h.acks q hq
      exact ⟨m, hm, hfits, hpre.mono hmono⟩
  | forget =>
    exact ⟨h.messages, h.acks, fun _ hv => absurd hv (Option.not_mem_none _), h.acked, h.sent⟩

/-- Different segments that were received are counted once each. -/
lemma TpPrefix.le_length {received : List U32} {a : ℕ} (ha : tpStream.Fits a)
    (h : TpPrefix received a) : a ≤ received.dedup.length := by
  have hnodup : ((List.range a).map tpStream.seq).Nodup :=
    List.Nodup.map_on (fun i hi j hj heq => (TpStream.seq_inj
      (ha.mono (List.mem_range.1 hi).le) (ha.mono (List.mem_range.1 hj).le)).1 heq) List.nodup_range
  have hsub : (List.range a).map tpStream.seq ⊆ received.dedup := by
    intro q hq
    obtain ⟨j, hj, rfl⟩ := List.mem_map.1 hq
    exact List.mem_dedup.2 (h j (List.mem_range.1 hj))
  have hle := (hnodup.subperm hsub).length_le
  rwa [List.length_map, List.length_range] at hle

/-- **What the sender reports was received.**  In every state of every session, over a network that
may lose, repeat, delay and reorder messages and ACKs, the bytes that the sender has counted are
whole segments; these are the first of the stream, and the receiver has answered each of them.  So
they are at most the bytes that the receiver has received.

**Proof sketch.** Whatever the order of its list, the receiver acknowledges a prefix of the stream
that it has received; the sender counts up to an acknowledged end. -/
theorem tp_transfer_sound (memory : TpVars) (es : List TpNetEvent)
    (hguard : Run.AllSteps tpNetNext TpNetGuard (tpNetStart memory) es) :
    ∀ s ∈ Run.states tpNetNext (tpNetStart memory) es, ∃ a,
      s.sender.lastAcked = tpStream.seq a ∧ s.sender.totSent.toNat = a * TP_PLEN.toNat ∧
      (∀ j < a, tpStream.seq j ∈ s.received) ∧
      s.sender.totSent.toNat ≤ s.received.dedup.length * TP_PLEN.toNat := by
  intro s hs
  have hinv := Run.AllSteps.forall_mem_states TpNet.Inv (fun _ _ h hg => h.step hg)
    (tpNetStart_inv memory) hguard s hs
  obtain ⟨a, hacked, ha, hpre, htot⟩ := hinv.acked
  have hbytes : s.sender.totSent.toNat = a * TP_PLEN.toNat := by
    rw [htot, BitVec.toNat_ofNat]
    exact Nat.mod_eq_of_lt (lt_trans ha (by decide))
  refine ⟨a, hacked, hbytes, hpre, ?_⟩
  rw [hbytes]
  exact Nat.mul_le_mul_right _ (hpre.le_length ha)

/-- A message arrives, and there is memory for everything. -/
def tpArrives (i : ℕ) : TpNetEvent := .message (tpStream.seq i) 0 tpMemory true true

/-- An ACK arrives. -/
def tpAcks (i : ℕ) : TpNetEvent := .ack ⟨tpStream.seq i, 0, 0, true, true⟩

/-- Three segments are sent and arrive, the first one twice and the third before the second; the
last ACK arrives, and then an old one. -/
def tpThreeSegments : List TpNetEvent :=
  [.send 0, .send 0, .send 0, tpArrives 0, tpArrives 2, tpArrives 1, tpArrives 0, tpAcks 3,
    tpAcks 1]

/-- Three segments are counted, and were received. -/
theorem tp_transfer_sound_three :
    (Run.final tpNetNext (tpNetStart tpMemory) tpThreeSegments).sender.totSent = 4428 ∧
      (4428 : U64).toNat ≤ (Run.final tpNetNext (tpNetStart tpMemory)
        tpThreeSegments).received.dedup.length * TP_PLEN.toNat := by
  have htot : (Run.final tpNetNext (tpNetStart tpMemory)
      tpThreeSegments).sender.totSent = 4428 := by decide
  obtain ⟨a, -, -, -, hle⟩ := tp_transfer_sound tpMemory tpThreeSegments
    ⟨by decide, by decide, by decide, by decide, by decide, by decide, by decide, by decide,
      by decide, trivial⟩ _ (Run.final_mem_states _ _)
  exact ⟨htot, htot ▸ hle⟩

end Batadv
