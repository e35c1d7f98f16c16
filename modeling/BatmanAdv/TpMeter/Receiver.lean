import Mathlib.Data.List.Basic
import BatmanAdv.Lib.Run
import BatmanAdv.TpMeter.Vars

set_option relaxedAutoImplicit false
set_option autoImplicit false

/-!
# The receiver of the throughput meter (`tp_meter.c`)

The receiver acknowledges what it has received without a gap, and keeps the segments beyond the
first gap in a list that should ascend.  A segment that is out of order is put in its place by a
search from the end of the list; where that ends in the middle, the segment is attached before the
entry it should come after.

## Main definitions

* `Batadv.tpHandleOutOfOrder`, `Batadv.tpAckUnordered`, `Batadv.tpInitRecv`, `Batadv.tpRecvMsg` —
  the functions of these names.
* `Batadv.TpStream`, `Batadv.TpArrival`, `Batadv.tpReceiverNext` — segments of one length arrive.
* `Batadv.TpContiguous` — the list ascends and has the segments beyond the first gap.
* `Batadv.TpInFront` — a segment that is out of order precedes those that wait.

## Main results

* `Batadv.tp_receiver_contiguous_iff` — a run keeps the list as it should be exactly when every
  segment that is out of order precedes those that wait.
* `Batadv.tp_receiver_misorders` — the segments 0, 2, 3 leave a list that does not ascend.
-/

namespace Batadv

/-! ### The functions -/

/-- A message that is received, and what the receiver may run out of. -/
structure TpMsg where
  seqno : U32
  /-- `skb->len`. -/
  len : ℕ
  jiffies : Jiffies
  /-- What is in the memory of a new session. -/
  memory : TpVars
  /-- A new session can be created: there is memory, and there are not too many. -/
  sessionNew : Bool
  /-- There is memory for a list entry. -/
  unackedNew : Bool

/-- The loop of `batadv_tp_handle_out_of_order`, which goes through the list from its end; the list
is given and returned in that direction.  `none` when no position was found. -/
def tpUnackedScan (new : TpUnacked) : List TpUnacked → Option (List TpUnacked)
  | [] => none
  | un :: rest =>
    if new.seqno = un.seqno then
      some ({ un with len := if un.len < new.len then new.len else un.len } :: rest)
    else if seqBefore new.seqno un.seqno then (tpUnackedScan new rest).map (un :: ·)
    -- `list_add_tail` to the entry: the new one comes before it
    else some (un :: new :: rest)

/-- `batadv_tp_handle_out_of_order`: store an out of order packet.  `none` when there is no memory
for it. -/
def tpHandleOutOfOrder (tpVars : TpVars) (msg : TpMsg) : Option TpVars :=
  if !msg.unackedNew then none
  else
    let new : TpUnacked := ⟨msg.seqno, BitVec.ofNat 16 (msg.len - UNICAST_HDR_SIZE)⟩
    if tpVars.unackedList.isEmpty then some { tpVars with unackedList := [new] }
    else
      match tpUnackedScan new tpVars.unackedList.reverse with
      | some list => some { tpVars with unackedList := list.reverse }
      -- received packet with smallest seqno out of order; add it to front
      | none => some { tpVars with unackedList := new :: tpVars.unackedList }

/-- The loop of `batadv_tp_ack_unordered`: the new `last_recv` and the list that is left. -/
def tpAckUnorderedLoop : U32 → List TpUnacked → U32 × List TpUnacked
  | lastRecv, [] => (lastRecv, [])
  | lastRecv, un :: rest =>
    if seqBefore lastRecv un.seqno then (lastRecv, un :: rest)
    else
      let toAck := un.seqno + un.len.setWidth 32 - lastRecv
      if seqBefore lastRecv (un.seqno + un.len.setWidth 32) then
        tpAckUnorderedLoop (lastRecv + toAck) rest
      else tpAckUnorderedLoop lastRecv rest

/-- `batadv_tp_ack_unordered`: update number received bytes in current stream without gaps. -/
def tpAckUnordered (tpVars : TpVars) : TpVars :=
  { tpVars with
    lastRecv := (tpAckUnorderedLoop tpVars.lastRecv tpVars.unackedList).1
    unackedList := (tpAckUnorderedLoop tpVars.lastRecv tpVars.unackedList).2 }

/-- `batadv_tp_init_recv`: return matching or create new receiver session. -/
def tpInitRecv (session : Option TpVars) (msg : TpMsg) : Option TpVars :=
  match session with
  | some tpVars => some tpVars
  | none =>
    if !msg.sessionNew then none
    else some
      { msg.memory with
        role := .receiver
        lastRecv := TP_FIRST_SEQ
        unackedList := [] }

/-- `batadv_tp_recv_msg`: process a single data message.  Returns the session and the sequence
number of the ACK that is sent, if any. -/
def tpRecvMsg (session : Option TpVars) (msg : TpMsg) : Option TpVars × Option U32 :=
  match if msg.seqno = TP_FIRST_SEQ then tpInitRecv session msg else session with
  | none => (session, none)
  | some tpVars =>
    if tpVars.role ≠ .receiver then (some tpVars, none)
    else
      let tpVars := { tpVars with lastRecvTime := msg.jiffies }
      -- if the packet is a duplicate, resend the ACK
      if seqBefore msg.seqno tpVars.lastRecv then (some tpVars, some tpVars.lastRecv)
      else if msg.seqno ≠ tpVars.lastRecv then
        match tpHandleOutOfOrder tpVars msg with
        | none => (some tpVars, none)
        | some tpVars => (some tpVars, some tpVars.lastRecv)
      else
        let packetSize := BitVec.ofNat 32 (msg.len - UNICAST_HDR_SIZE)
        let tpVars := tpAckUnordered { tpVars with lastRecv := tpVars.lastRecv + packetSize }
        (some tpVars, some tpVars.lastRecv)

/-! ### Segments of one length -/

/-- A stream of segments of one length. -/
structure TpStream where
  plen : ℕ
  pos : 0 < plen
  lt : plen < 2 ^ 16

namespace TpStream

variable (p : TpStream)

/-- The sequence number of a segment. -/
def seq (i : ℕ) : U32 := TP_FIRST_SEQ + BitVec.ofNat 32 (i * p.plen)

/-- The list entry of a segment. -/
def segment (i : ℕ) : TpUnacked := ⟨p.seq i, BitVec.ofNat 16 p.plen⟩

/-- Segments up to this one span fewer than 2^31 bytes. -/
def Fits (i : ℕ) : Prop := i * p.plen < 2 ^ 31

instance (i : ℕ) : Decidable (p.Fits i) := inferInstanceAs (Decidable (i * p.plen < 2 ^ 31))

variable {p}

/-- Segments that fit are compared by their place in the stream. -/
lemma seqBefore_seq {i j : ℕ} (hi : p.Fits i) (hj : p.Fits j) :
    seqBefore (p.seq i) (p.seq j) = true ↔ i < j := by
  rw [seqBefore_u32, seq, seq, SerialNumber.before_add_ofNat (by decide) _ hi hj,
    Nat.mul_lt_mul_right p.pos]

/-- Segments that fit are determined by their sequence number. -/
lemma seq_inj {i j : ℕ} (hi : p.Fits i) (hj : p.Fits j) : p.seq i = p.seq j ↔ i = j := by
  refine ⟨fun h => ?_, fun h => h ▸ rfl⟩
  have hij := seqBefore_seq hi hj
  have hji := seqBefore_seq hj hi
  rw [h, seqBefore_self] at hij
  rw [h, seqBefore_self] at hji
  simp only [Bool.false_eq_true, false_iff, not_lt] at hij hji
  exact le_antisymm hji hij

/-- The next segment starts where this one ends. -/
lemma seq_succ (i : ℕ) : p.seq i + BitVec.ofNat 32 p.plen = p.seq (i + 1) := by
  rw [seq, seq, Nat.succ_mul, BitVec.ofNat_add, BitVec.add_assoc]

/-- The end of a segment, computed from its entry. -/
lemma segment_end (i : ℕ) :
    (p.segment i).seqno + (p.segment i).len.setWidth 32 = p.seq (i + 1) := by
  have hwidth : (BitVec.ofNat 16 p.plen).setWidth 32 = BitVec.ofNat 32 p.plen := by
    apply BitVec.eq_of_toNat_eq
    have hlt := p.lt
    rw [BitVec.toNat_setWidth, BitVec.toNat_ofNat, BitVec.toNat_ofNat]
    omega
  rw [segment, hwidth, seq_succ]

lemma Fits.mono {i j : ℕ} (h : p.Fits j) (hle : i ≤ j) : p.Fits i :=
  lt_of_le_of_lt (Nat.mul_le_mul_right _ hle) h

end TpStream

/-- A segment of the stream arrives. -/
structure TpArrival (p : TpStream) where
  idx : ℕ
  fits : p.Fits (idx + 1)
  jiffies : Jiffies
  memory : TpVars
  sessionNew : Bool
  unackedNew : Bool

/-- The message that carries the segment. -/
def TpArrival.msg {p : TpStream} (a : TpArrival p) : TpMsg where
  seqno := p.seq a.idx
  len := p.plen + UNICAST_HDR_SIZE
  jiffies := a.jiffies
  memory := a.memory
  sessionNew := a.sessionNew
  unackedNew := a.unackedNew

/-- The receiver, and the segments it has received: those it answered with an ACK. -/
abbrev TpReceiver := Option TpVars × List ℕ

/-- The effect of a segment. -/
def tpReceiverNext {p : TpStream} (s : TpReceiver) (a : TpArrival p) : TpReceiver :=
  let r := tpRecvMsg s.1 a.msg
  (r.1, if r.2.isSome then a.idx :: s.2 else s.2)

variable {p : TpStream}

/-- The list ascends, and has exactly the segments beyond the first gap: `last_recv` is at the end
of the first `m` segments, where `m` is the largest number for which all of these were received. -/
structure TpContiguous (p : TpStream) (received : List ℕ) (tpVars : TpVars) : Prop where
  ascending : tpVars.unackedList.Pairwise (fun a b => seqBefore a.seqno b.seqno = true)
  contiguous : ∃ m, tpVars.lastRecv = p.seq m ∧ (∀ j < m, j ∈ received) ∧ m ∉ received ∧
    ∀ un, un ∈ tpVars.unackedList ↔ ∃ j ∈ received, m < j ∧ un = p.segment j

/-- What a segment should do: leave a receiver that is in order. -/
def TpReceiverOk (s : TpReceiver) (a : TpArrival p) : Prop :=
  ∀ tpVars, (tpReceiverNext s a).1 = some tpVars →
    TpContiguous p (tpReceiverNext s a).2 tpVars

/-- When it does so: a segment that is out of order and is to be stored anew precedes all those
that wait. -/
def TpInFront (s : TpReceiver) (a : TpArrival p) : Prop :=
  ∀ tpVars, s.1 = some tpVars → a.unackedNew = true →
    seqBefore a.msg.seqno tpVars.lastRecv = false → a.msg.seqno ≠ tpVars.lastRecv →
    (∀ un ∈ tpVars.unackedList, un.seqno ≠ a.msg.seqno) →
    ∀ un ∈ tpVars.unackedList, seqBefore a.msg.seqno un.seqno = true

/-! ### The invariant -/

/-- The state of a receiver that is in order, in terms of places in the stream: the segments before
`m` are acknowledged, and `waiting` are those that wait. -/
structure TpReceiverInv (p : TpStream) (m : ℕ) (waiting received : List ℕ) (tpVars : TpVars) :
    Prop where
  role : tpVars.role = .receiver
  lastRecv : tpVars.lastRecv = p.seq m
  list : tpVars.unackedList = waiting.map p.segment
  ascending : waiting.Pairwise (· < ·)
  beyond : ∀ j ∈ waiting, m < j
  received : ∀ j, j ∈ received ↔ j < m ∨ j ∈ waiting
  fits : p.Fits m ∧ ∀ j ∈ waiting, p.Fits (j + 1)

/-- The invariant of a receiver with or without a session. -/
def TpReceiver.Inv (p : TpStream) (s : TpReceiver) : Prop :=
  (s.1 = none → s.2 = []) ∧
    ∀ tpVars, s.1 = some tpVars → ∃ m waiting, TpReceiverInv p m waiting s.2 tpVars

/-- Under the invariant the receiver is in order. -/
lemma TpReceiverInv.contiguous {m : ℕ} {waiting received : List ℕ} {tpVars : TpVars}
    (h : TpReceiverInv p m waiting received tpVars) : TpContiguous p received tpVars where
  ascending := by
    rw [h.list, List.pairwise_map]
    refine h.ascending.imp_of_mem fun {i j} hi hj hlt => ?_
    exact (TpStream.seqBefore_seq ((h.fits.2 i hi).mono (Nat.le_succ i))
      ((h.fits.2 j hj).mono (Nat.le_succ j))).2 hlt
  contiguous := by
    refine ⟨m, h.lastRecv, fun j hj => (h.received j).2 (Or.inl hj), fun hm => ?_, fun un => ?_⟩
    · rcases (h.received m).1 hm with hlt | hin
      · exact lt_irrefl m hlt
      · exact lt_irrefl m (h.beyond m hin)
    · rw [h.list, List.mem_map]
      constructor
      · rintro ⟨j, hj, rfl⟩
        exact ⟨j, (h.received j).2 (Or.inr hj), h.beyond j hj, rfl⟩
      · rintro ⟨j, hj, hlt, rfl⟩
        rcases (h.received j).1 hj with hlt' | hin
        · omega
        · exact ⟨j, hin, rfl⟩

/-! ### A segment in order -/

/-- **The segments up to the next gap are acknowledged.**

**Proof sketch.** Induction along the list, which starts at `k` or beyond it: beyond, there is the
gap; at `k`, the segment is acknowledged and the next one is looked for at `k + 1`. -/
lemma tpAckUnorderedLoop_spec {k : ℕ} {waiting : List ℕ} (hasc : waiting.Pairwise (· < ·))
    (hge : ∀ j ∈ waiting, k ≤ j) (hk : p.Fits k) (hfits : ∀ j ∈ waiting, p.Fits (j + 1)) :
    ∃ (m : ℕ) (rest : List ℕ), tpAckUnorderedLoop (p.seq k) (waiting.map p.segment) =
        (p.seq m, rest.map p.segment) ∧
      k ≤ m ∧ p.Fits m ∧ rest.Pairwise (· < ·) ∧ (∀ j ∈ rest, m < j) ∧
      ∀ j, j < k ∨ j ∈ waiting ↔ j < m ∨ j ∈ rest := by
  induction waiting generalizing k with
  | nil =>
    exact ⟨k, [], rfl, le_rfl, hk, List.Pairwise.nil, fun _ h => (nomatch h), fun _ => Iff.rfl⟩
  | cons i waiting ih =>
    obtain ⟨hi, hasc'⟩ := List.pairwise_cons.1 hasc
    have hki := hge i List.mem_cons_self
    have hifits := hfits i List.mem_cons_self
    rw [List.map_cons, tpAckUnorderedLoop, TpStream.segment_end]
    rcases Nat.lt_or_ge k i with hlt | hle
    · -- the gap
      refine ⟨k, i :: waiting, ?_, le_rfl, hk, hasc, fun j hj => ?_, fun _ => Iff.rfl⟩
      · rw [if_pos]
        · rfl
        · exact (TpStream.seqBefore_seq hk (hifits.mono (Nat.le_succ i))).2 hlt
      · rcases List.mem_cons.1 hj with rfl | hj
        · exact hlt
        · exact hlt.trans (hi j hj)
    · obtain rfl : k = i := le_antisymm hki hle
      have hbefore : seqBefore (p.seq k) (p.seq (k + 1)) = true :=
        (TpStream.seqBefore_seq hk hifits).2 (Nat.lt_succ_self k)
      have hnext : p.seq k + (p.seq (k + 1) - p.seq k) = p.seq (k + 1) := by ring
      obtain ⟨m, rest, hloop, hkm, hm, hrest, hbeyond, hmem⟩ :=
        ih hasc' (fun j hj => hi j hj) hifits fun j hj => hfits j (List.mem_cons_of_mem k hj)
      refine ⟨m, rest, ?_, by omega, hm, hrest, hbeyond, fun j => ?_⟩
      · rw [if_neg (by simp [TpStream.segment]), if_pos hbefore, hnext, hloop]
      · rw [← hmem j, List.mem_cons, Nat.lt_succ_iff_lt_or_eq, or_assoc]

/-! ### A segment out of order -/

/-- The search finds an entry with the same sequence number, and leaves the list as it is. -/
lemma tpUnackedScan_of_mem {i : ℕ} {desc : List ℕ} (hi : p.Fits (i + 1)) (hmem : i ∈ desc)
    (hdesc : desc.Pairwise (· > ·)) (hfits : ∀ j ∈ desc, p.Fits (j + 1)) :
    tpUnackedScan (p.segment i) (desc.map p.segment) = some (desc.map p.segment) := by
  induction desc with
  | nil => cases hmem
  | cons j rest ih =>
    have hj := hfits j List.mem_cons_self
    rw [List.map_cons, tpUnackedScan]
    rcases List.mem_cons.1 hmem with rfl | hrest
    · simp
    · have hlt : i < j := (List.pairwise_cons.1 hdesc).1 i hrest
      have hne : (p.segment i).seqno ≠ (p.segment j).seqno := fun heq =>
        absurd ((TpStream.seq_inj (hi.mono (Nat.le_succ i)) (hj.mono (Nat.le_succ j))).1 heq)
          (Nat.ne_of_lt hlt)
      have hbefore : seqBefore (p.segment i).seqno (p.segment j).seqno = true :=
        (TpStream.seqBefore_seq (hi.mono (Nat.le_succ i)) (hj.mono (Nat.le_succ j))).2 hlt
      rw [if_neg hne, if_pos hbefore, ih hrest (List.pairwise_cons.1 hdesc).2
        fun j' hj' => hfits j' (List.mem_cons_of_mem j hj')]
      rfl

/-- The search runs through a list whose entries all come after the new one. -/
lemma tpUnackedScan_eq_none {new : TpUnacked} {desc : List TpUnacked}
    (hne : ∀ un ∈ desc, un.seqno ≠ new.seqno)
    (hbefore : ∀ un ∈ desc, seqBefore new.seqno un.seqno = true) :
    tpUnackedScan new desc = none := by
  induction desc with
  | nil => rfl
  | cons un rest ih =>
    rw [tpUnackedScan, if_neg (hne un List.mem_cons_self).symm,
      if_pos (hbefore un List.mem_cons_self),
      ih (fun un' h => hne un' (List.mem_cons_of_mem un h))
        fun un' h => hbefore un' (List.mem_cons_of_mem un h)]
    rfl

/-- **The search goes wrong** at an entry that does not come after the new one: the new one is
attached before it. -/
lemma tpUnackedScan_misorders {new : TpUnacked} {desc : List TpUnacked}
    (hne : ∀ un ∈ desc, un.seqno ≠ new.seqno)
    (hbad : ∃ un ∈ desc, ¬ seqBefore new.seqno un.seqno = true) :
    ∃ pre un rest, tpUnackedScan new desc = some (pre ++ un :: new :: rest) ∧
      ¬ seqBefore new.seqno un.seqno = true := by
  induction desc with
  | nil => obtain ⟨un, hun, -⟩ := hbad; cases hun
  | cons un rest ih =>
    rw [tpUnackedScan, if_neg (hne un List.mem_cons_self).symm]
    by_cases hbefore : seqBefore new.seqno un.seqno = true
    · rw [if_pos hbefore]
      obtain ⟨pre, un', rest', hscan, hun'⟩ := ih
        (fun un' h => hne un' (List.mem_cons_of_mem un h)) (by
          obtain ⟨un', hun', hnot⟩ := hbad
          rcases List.mem_cons.1 hun' with rfl | hin
          · exact absurd hbefore hnot
          · exact ⟨un', hin, hnot⟩)
      exact ⟨un :: pre, un', rest', by rw [hscan]; rfl, hun'⟩
    · rw [if_neg hbefore]
      exact ⟨[], un, rest, rfl, hbefore⟩

/-! ### Every segment -/

/-- The invariant does not mention when the last segment came. -/
lemma TpReceiverInv.setTime {m : ℕ} {waiting received : List ℕ} {tpVars : TpVars}
    (h : TpReceiverInv p m waiting received tpVars) (jiffies : Jiffies) :
    TpReceiverInv p m waiting received { tpVars with lastRecvTime := jiffies } :=
  ⟨h.role, h.lastRecv, h.list, h.ascending, h.beyond, h.received, h.fits⟩

/-- A message for a session. -/
lemma tpRecvMsg_some {tpVars : TpVars} (hrole : tpVars.role = .receiver) (msg : TpMsg) :
    tpRecvMsg (some tpVars) msg =
      let tpVars := { tpVars with lastRecvTime := msg.jiffies }
      if seqBefore msg.seqno tpVars.lastRecv then (some tpVars, some tpVars.lastRecv)
      else if msg.seqno ≠ tpVars.lastRecv then
        match tpHandleOutOfOrder tpVars msg with
        | none => (some tpVars, none)
        | some tpVars => (some tpVars, some tpVars.lastRecv)
      else
        let packetSize := BitVec.ofNat 32 (msg.len - UNICAST_HDR_SIZE)
        let tpVars := tpAckUnordered { tpVars with lastRecv := tpVars.lastRecv + packetSize }
        (some tpVars, some tpVars.lastRecv) := by
  rw [tpRecvMsg]
  simp only [tpInitRecv, ite_self, hrole, ne_eq, not_true_eq_false, if_false]

/-- A segment that was acknowledged before changes nothing. -/
lemma TpReceiverInv.step_old {m : ℕ} {waiting received : List ℕ} {tpVars : TpVars}
    (h : TpReceiverInv p m waiting received tpVars) {a : TpArrival p} (hlt : a.idx < m) :
    ∃ tpVars', (tpReceiverNext (some tpVars, received) a).1 = some tpVars' ∧
      TpReceiverInv p m waiting (tpReceiverNext (some tpVars, received) a).2 tpVars' := by
  have hbefore : seqBefore a.msg.seqno tpVars.lastRecv = true := by
    rw [h.lastRecv]
    exact (TpStream.seqBefore_seq (a.fits.mono (Nat.le_succ _)) h.fits.1).2 hlt
  have hstep : tpReceiverNext (some tpVars, received) a =
      (some { tpVars with lastRecvTime := a.msg.jiffies }, a.idx :: received) := by
    simp only [tpReceiverNext, tpRecvMsg_some h.role, hbefore, if_true, Option.isSome_some]
  rw [hstep]
  refine ⟨_, rfl, { h.setTime a.msg.jiffies with received := fun j => ?_ }⟩
  rw [List.mem_cons, h.received]
  constructor
  · rintro (rfl | hj)
    · exact Or.inl hlt
    · exact hj
  · exact Or.inr

/-- The segment that is missing next is acknowledged, with those that wait behind it. -/
lemma TpReceiverInv.step_next {m : ℕ} {waiting received : List ℕ} {tpVars : TpVars}
    (h : TpReceiverInv p m waiting received tpVars) {a : TpArrival p} (heq : a.idx = m) :
    ∃ tpVars', (tpReceiverNext (some tpVars, received) a).1 = some tpVars' ∧
      ∃ m' waiting',
        TpReceiverInv p m' waiting' (tpReceiverNext (some tpVars, received) a).2 tpVars' := by
  have hseq : a.msg.seqno = tpVars.lastRecv := by rw [h.lastRecv, TpArrival.msg, heq]
  have hlast : tpVars.lastRecv + BitVec.ofNat 32 (a.msg.len - UNICAST_HDR_SIZE) =
      p.seq (m + 1) := by
    rw [TpArrival.msg, Nat.add_sub_cancel, h.lastRecv, TpStream.seq_succ]
  obtain ⟨m', rest, hloop, hle, hm', hrest, hbeyond, hmem⟩ :=
    tpAckUnorderedLoop_spec h.ascending h.beyond (heq ▸ a.fits) h.fits.2
  have hstep : tpReceiverNext (some tpVars, received) a =
      (some { tpVars with
        lastRecvTime := a.msg.jiffies
        lastRecv := p.seq m'
        unackedList := rest.map p.segment }, a.idx :: received) := by
    simp only [tpReceiverNext, tpRecvMsg_some h.role, hseq, seqBefore_self, Bool.false_eq_true,
      if_false, ne_eq, not_true_eq_false, tpAckUnordered, hlast, h.list, hloop, Option.isSome_some,
      if_true]
  rw [hstep]
  refine ⟨_, rfl, m', rest, ⟨h.role, rfl, rfl, hrest, hbeyond, fun j => ?_, hm', fun j hj => ?_⟩⟩
  · rw [List.mem_cons, h.received, heq, ← hmem j, Nat.lt_succ_iff_lt_or_eq]
    tauto
  · rcases (hmem j).2 (Or.inr hj) with hlt | hin
    · exact absurd (hbeyond j hj) (by omega)
    · exact h.fits.2 j hin

/-- A segment out of order, in the place of the stream it has. -/
lemma TpReceiverInv.step_ahead {m : ℕ} {waiting received : List ℕ} {tpVars : TpVars}
    (h : TpReceiverInv p m waiting received tpVars) {a : TpArrival p} (hgt : m < a.idx) :
    seqBefore a.msg.seqno tpVars.lastRecv = false ∧ a.msg.seqno ≠ tpVars.lastRecv ∧
      tpReceiverNext (some tpVars, received) a =
        match tpHandleOutOfOrder { tpVars with lastRecvTime := a.msg.jiffies } a.msg with
        | none => (some { tpVars with lastRecvTime := a.msg.jiffies }, received)
        | some tpVars => (some tpVars, a.idx :: received) := by
  have hidx : p.Fits a.idx := a.fits.mono (Nat.le_succ _)
  have hbefore : seqBefore a.msg.seqno tpVars.lastRecv = false := by
    rw [h.lastRecv, ← Bool.not_eq_true]
    exact fun hb => absurd ((TpStream.seqBefore_seq hidx h.fits.1).1 hb) (by omega)
  have hne : a.msg.seqno ≠ tpVars.lastRecv := by
    rw [h.lastRecv]
    exact fun heq => absurd ((TpStream.seq_inj hidx h.fits.1).1 heq) (by omega)
  refine ⟨hbefore, hne, ?_⟩
  simp only [tpReceiverNext, tpRecvMsg_some h.role, hbefore, Bool.false_eq_true, if_false, ne_eq,
    hne, not_false_eq_true, if_true]
  cases tpHandleOutOfOrder { tpVars with lastRecvTime := a.msg.jiffies } a.msg <;> rfl

/-- The entry that is made for a segment. -/
lemma TpArrival.entry (a : TpArrival p) :
    (⟨a.msg.seqno, BitVec.ofNat 16 (a.msg.len - UNICAST_HDR_SIZE)⟩ : TpUnacked) =
      p.segment a.idx := by
  rw [TpArrival.msg, Nat.add_sub_cancel, TpStream.segment]

lemma TpArrival.segment_seqno (a : TpArrival p) : (p.segment a.idx).seqno = a.msg.seqno := rfl

/-- One more segment waits. -/
lemma TpReceiverInv.wait {m i : ℕ} {waiting waiting' received : List ℕ} {tpVars : TpVars}
    (h : TpReceiverInv p m waiting received tpVars) (hgt : m < i) (hfits : p.Fits (i + 1))
    (hasc : waiting'.Pairwise (· < ·)) (hmem : ∀ j, j ∈ waiting' ↔ j = i ∨ j ∈ waiting) :
    TpReceiverInv p m waiting' (i :: received)
      { tpVars with unackedList := waiting'.map p.segment } where
  role := h.role
  lastRecv := h.lastRecv
  list := rfl
  ascending := hasc
  beyond := fun j hj => by
    rcases (hmem j).1 hj with rfl | hj
    · exact hgt
    · exact h.beyond j hj
  received := fun j => by
    rw [List.mem_cons, h.received, hmem]
    tauto
  fits := ⟨h.fits.1, fun j hj => by
    rcases (hmem j).1 hj with rfl | hj
    · exact hfits
    · exact h.fits.2 j hj⟩

/-- Whether a segment that is out of order waits already can be seen from the list. -/
lemma TpReceiverInv.mem_waiting_iff {m : ℕ} {waiting received : List ℕ} {tpVars : TpVars}
    (h : TpReceiverInv p m waiting received tpVars) (a : TpArrival p) :
    a.idx ∈ waiting ↔ ∃ un ∈ tpVars.unackedList, un.seqno = a.msg.seqno := by
  rw [h.list]
  constructor
  · exact fun hin => ⟨_, List.mem_map_of_mem hin, rfl⟩
  · rintro ⟨un, hun, heq⟩
    obtain ⟨j, hj, rfl⟩ := List.mem_map.1 hun
    obtain rfl := (TpStream.seq_inj ((h.fits.2 j hj).mono (Nat.le_succ j))
      (a.fits.mono (Nat.le_succ _))).1 heq
    exact hj

/-- **A segment out of order that precedes those that wait** is put in its place.

**Proof sketch.** Without memory it is dropped.  If it is there already the search finds it.  If
not, the search runs through the list, and the segment is put in front. -/
lemma TpReceiverInv.step_ahead_ok {m : ℕ} {waiting received : List ℕ} {tpVars : TpVars}
    (h : TpReceiverInv p m waiting received tpVars) {a : TpArrival p} (hgt : m < a.idx)
    (hfront : TpInFront (some tpVars, received) a) :
    ∃ tpVars', (tpReceiverNext (some tpVars, received) a).1 = some tpVars' ∧ ∃ waiting',
      TpReceiverInv p m waiting' (tpReceiverNext (some tpVars, received) a).2 tpVars' := by
  obtain ⟨hbefore, hne, hstep⟩ := h.step_ahead hgt
  have htime := h.setTime a.msg.jiffies
  rw [hstep, tpHandleOutOfOrder, TpArrival.entry]
  cases hmemory : a.unackedNew with
  | false =>
    have hno : a.msg.unackedNew = false := hmemory
    simp only [hno, Bool.not_false, if_true]
    exact ⟨_, rfl, waiting, htime⟩
  | true =>
    have hyes : a.msg.unackedNew = true := hmemory
    simp only [hyes, Bool.not_true, Bool.false_eq_true, if_false]
    by_cases hempty : waiting = []
    · simp only [h.list, hempty, List.map_nil, List.isEmpty_nil, if_true]
      exact ⟨_, rfl, [a.idx],
        htime.wait hgt a.fits (List.pairwise_singleton _ _) (by simp [hempty])⟩
    · have hisEmpty : (waiting.map p.segment).isEmpty = false := by simpa using hempty
      simp only [h.list, hisEmpty, Bool.false_eq_true, if_false, ← List.map_reverse]
      by_cases hin : a.idx ∈ waiting
      · -- a duplicate
        have hscan := tpUnackedScan_of_mem a.fits (List.mem_reverse.2 hin)
          (List.pairwise_reverse.2 h.ascending) fun j hj => h.fits.2 j (List.mem_reverse.1 hj)
        rw [hscan]
        simp only [← List.map_reverse, List.reverse_reverse]
        exact ⟨_, rfl, waiting, htime.wait hgt a.fits h.ascending fun j =>
          ⟨Or.inr, fun hj => hj.elim (fun hi => hi ▸ hin) id⟩⟩
      · have hnew : ∀ un ∈ tpVars.unackedList, un.seqno ≠ a.msg.seqno := fun un hun heq =>
          hin ((h.mem_waiting_iff a).2 ⟨un, hun, heq⟩)
        have hall := hfront tpVars rfl hmemory hbefore hne hnew
        have hscan : tpUnackedScan (p.segment a.idx) (waiting.reverse.map p.segment) = none := by
          have hmem : ∀ un ∈ waiting.reverse.map p.segment, un ∈ tpVars.unackedList := by
            intro un hun
            rwa [List.map_reverse, List.mem_reverse, ← h.list] at hun
          refine tpUnackedScan_eq_none (fun un hun => ?_) fun un hun => ?_
          · rw [a.segment_seqno]
            exact hnew un (hmem un hun)
          · rw [a.segment_seqno]
            exact hall un (hmem un hun)
        rw [hscan]
        refine ⟨_, rfl, a.idx :: waiting, htime.wait hgt a.fits ?_ fun j => List.mem_cons⟩
        refine List.pairwise_cons.2 ⟨fun j hj => ?_, h.ascending⟩
        have hun : p.segment j ∈ tpVars.unackedList := h.list ▸ List.mem_map_of_mem hj
        have hlt := hall (p.segment j) hun
        exact (TpStream.seqBefore_seq (a.fits.mono (Nat.le_succ _))
          ((h.fits.2 j hj).mono (Nat.le_succ j))).1 hlt

/-- **A segment out of order that does not precede those that wait** spoils the order of the list:
it is attached before an entry that does not come after it. -/
lemma TpReceiverInv.inFront_of_ascending {m : ℕ} {waiting received : List ℕ} {tpVars : TpVars}
    (h : TpReceiverInv p m waiting received tpVars) {a : TpArrival p} (hgt : m < a.idx)
    (hasc : ∀ tpVars', (tpReceiverNext (some tpVars, received) a).1 = some tpVars' →
      tpVars'.unackedList.Pairwise (fun a b => seqBefore a.seqno b.seqno = true)) :
    TpInFront (some tpVars, received) a := by
  obtain ⟨-, -, hstep⟩ := h.step_ahead hgt
  intro tpVars' heq hmemory _ _ hnew un hun
  obtain rfl := Option.some.inj heq
  by_contra hnot
  have hyes : a.msg.unackedNew = true := hmemory
  have hisEmpty : tpVars.unackedList.isEmpty = false :=
    List.isEmpty_eq_false_iff.2 (List.ne_nil_of_mem hun)
  obtain ⟨before, un', rest, hscan, hun'⟩ :
      ∃ before un' rest, tpUnackedScan (p.segment a.idx) tpVars.unackedList.reverse =
        some (before ++ un' :: p.segment a.idx :: rest) ∧
          ¬ seqBefore (p.segment a.idx).seqno un'.seqno = true := by
    refine tpUnackedScan_misorders (fun un hun => ?_) ⟨un, List.mem_reverse.2 hun, hnot⟩
    rw [a.segment_seqno]
    exact hnew un (List.mem_reverse.1 hun)
  rw [hstep, tpHandleOutOfOrder, TpArrival.entry] at hasc
  simp only [hyes, hisEmpty, hscan, Bool.not_true, Bool.false_eq_true, if_false] at hasc
  have hlist := hasc _ rfl
  simp only [List.reverse_append, List.reverse_cons, List.append_assoc, List.cons_append,
    List.nil_append] at hlist
  -- the segment and the entry it was attached before are next to each other
  have hpair := (List.pairwise_append.1 hlist).2.1
  exact hun' ((List.pairwise_cons.1 hpair).1 un' List.mem_cons_self)

/-- One segment keeps a session in order exactly when it precedes those that wait. -/
lemma TpReceiverInv.step {m : ℕ} {waiting received : List ℕ} {tpVars : TpVars}
    (h : TpReceiverInv p m waiting received tpVars) (a : TpArrival p) :
    (TpInFront (some tpVars, received) a →
      (tpReceiverNext (some tpVars, received) a).Inv p) ∧
    (TpReceiverOk (some tpVars, received) a → TpInFront (some tpVars, received) a) := by
  have inv : ∀ {s : TpReceiver} {tpVars' : TpVars}, s.1 = some tpVars' →
      (∃ m' waiting', TpReceiverInv p m' waiting' s.2 tpVars') → s.Inv p := by
    intro s tpVars' hs hinv
    refine ⟨fun hnone => ?_, fun tpVars'' hs' => ?_⟩
    · rw [hs] at hnone
      cases hnone
    · rw [hs] at hs'
      exact Option.some.inj hs' ▸ hinv
  rcases lt_trichotomy a.idx m with hlt | heq | hgt
  · have hfront : TpInFront (some tpVars, received) a := by
      intro tpVars' heq _ hbefore
      obtain rfl := Option.some.inj heq
      have hb := (TpStream.seqBefore_seq (a.fits.mono (Nat.le_succ _)) h.fits.1).2 hlt
      rw [← h.lastRecv] at hb
      exact absurd hb (by rw [TpArrival.msg] at hbefore; simp [hbefore])
    obtain ⟨tpVars', hs, hinv⟩ := h.step_old hlt
    exact ⟨fun _ => inv hs ⟨m, waiting, hinv⟩, fun _ => hfront⟩
  · have hfront : TpInFront (some tpVars, received) a := by
      intro tpVars' hsome _ _ hne
      obtain rfl := Option.some.inj hsome
      exact absurd (by rw [h.lastRecv, TpArrival.msg, heq]) hne
    obtain ⟨tpVars', hs, hinv⟩ := h.step_next heq
    exact ⟨fun _ => inv hs hinv, fun _ => hfront⟩
  · refine ⟨fun hfront => ?_, fun hok => ?_⟩
    · obtain ⟨tpVars', hs, waiting', hinv⟩ := h.step_ahead_ok hgt hfront
      exact inv hs ⟨m, waiting', hinv⟩
    · exact h.inFront_of_ascending hgt fun tpVars' hs => (hok tpVars' hs).ascending

/-- A session that is created by the first segment. -/
lemma tpReceiverNext_none (a : TpArrival p) :
    (tpReceiverNext (none, []) a = (none, [])) ∨
      ∃ tpVars, TpReceiverInv p 0 [] [] tpVars ∧
        tpReceiverNext (none, []) a = tpReceiverNext (some tpVars, []) a := by
  by_cases hfirst : a.msg.seqno = TP_FIRST_SEQ
  · cases hnew : tpInitRecv none a.msg with
    | none => exact Or.inl (by simp [tpReceiverNext, tpRecvMsg, hfirst, hnew])
    | some tpVars =>
      refine Or.inr ⟨tpVars, ?_, ?_⟩
      · have hinit : tpVars = { a.msg.memory with
            role := .receiver, lastRecv := TP_FIRST_SEQ, unackedList := [] } := by
          rw [tpInitRecv] at hnew
          split at hnew
          · cases hnew
          · exact (Option.some.inj hnew).symm
        rw [hinit]
        exact ⟨rfl, by simp [TpStream.seq], rfl, List.Pairwise.nil, fun _ h => (nomatch h),
          fun j => by simp, by simp [TpStream.Fits], fun _ h => (nomatch h)⟩
      · have hsome : tpInitRecv (some tpVars) a.msg = some tpVars := rfl
        simp only [tpReceiverNext, tpRecvMsg, hfirst, if_true, hnew, hsome]
  · exact Or.inl (by simp [tpReceiverNext, tpRecvMsg, hfirst])

/-- **One segment**, with or without a session. -/
lemma TpReceiver.Inv.step {s : TpReceiver} (h : s.Inv p) (a : TpArrival p) :
    (TpInFront s a → (tpReceiverNext s a).Inv p ∧ TpReceiverOk s a) ∧
      (TpReceiverOk s a → TpInFront s a) := by
  have hok : (tpReceiverNext s a).Inv p → TpReceiverOk s a := fun hinv tpVars hs => by
    obtain ⟨m, waiting, hv⟩ := hinv.2 tpVars hs
    exact hv.contiguous
  obtain ⟨session, received⟩ := s
  cases session with
  | some tpVars =>
    obtain ⟨m, waiting, hv⟩ := h.2 tpVars rfl
    exact ⟨fun hfront => ⟨(hv.step a).1 hfront, hok ((hv.step a).1 hfront)⟩, (hv.step a).2⟩
  | none =>
    obtain rfl : received = [] := h.1 rfl
    have hinv : (tpReceiverNext (none, []) a).Inv p := by
      rcases tpReceiverNext_none a with hnone | ⟨tpVars, hv, hsome⟩
      · rw [hnone]
        exact ⟨fun _ => rfl, fun _ hs => nomatch hs⟩
      · rw [hsome]
        -- the list of a new session is empty
        refine (hv.step a).1 fun tpVars' heq _ _ _ _ un hun => ?_
        obtain rfl := Option.some.inj heq
        rw [hv.list] at hun
        cases hun
    exact ⟨fun _ => ⟨hinv, hok hinv⟩, fun _ _ hs => nomatch hs⟩

/-- **The receiver acknowledges the contiguous prefix.**  Along every sequence of segments of one
length that spans fewer than 2^31 bytes, the list of a session is as it should be after every
segment exactly if every segment that is out of order, and is not there yet, precedes those that
wait. -/
theorem tp_receiver_contiguous_iff (p : TpStream) (as : List (TpArrival p)) :
    Run.AllSteps tpReceiverNext TpReceiverOk ((none, []) : TpReceiver) as ↔
      Run.AllSteps tpReceiverNext TpInFront ((none, []) : TpReceiver) as := by
  have hinit : TpReceiver.Inv p (none, []) := ⟨fun _ => rfl, fun _ hs => nomatch hs⟩
  constructor
  · refine Run.AllSteps.imp (TpReceiver.Inv p) (fun s a hinv hok => ?_) hinit
    have hfront := (hinv.step a).2 hok
    exact ⟨hfront, ((hinv.step a).1 hfront).1⟩
  · refine Run.AllSteps.imp (TpReceiver.Inv p) (fun s a hinv hfront => ?_) hinit
    exact ((hinv.step a).1 hfront).symm

/-! ### Three segments -/

/-- The stream of a sender of this code. -/
def tpStream : TpStream := ⟨1476, by decide, by decide⟩

/-- A segment arrives, and there is memory for everything. -/
def tpArrive (i : ℕ) (h : tpStream.Fits (i + 1)) : TpArrival tpStream :=
  ⟨i, h, 0, tpMemory, true, true⟩

/-- The segments 0, 2 and 3 arrive. -/
def tpArrivals : List (TpArrival tpStream) :=
  [tpArrive 0 (by decide), tpArrive 2 (by decide), tpArrive 3 (by decide)]

/-- **The list does not ascend**: of the segments 0, 2 and 3 the last is attached before the one it
should come after. -/
theorem tp_receiver_misorders :
    ((Run.final tpReceiverNext (none, []) tpArrivals).1.map TpVars.unackedList) =
        some [tpStream.segment 3, tpStream.segment 2] ∧
      ¬ Run.AllSteps tpReceiverNext TpReceiverOk (none, []) tpArrivals := by
  have hlist : (Run.final tpReceiverNext (none, []) tpArrivals).1.map TpVars.unackedList =
      some [tpStream.segment 3, tpStream.segment 2] := by decide
  refine ⟨hlist, ?_⟩
  rintro ⟨-, -, hok, -⟩
  obtain ⟨tpVars, hs, hvars⟩ := Option.map_eq_some_iff.1 hlist
  have hasc := (hok tpVars hs).ascending
  rw [hvars] at hasc
  exact absurd hasc (by decide)

end Batadv
