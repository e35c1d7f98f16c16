import BatmanAdv.Lib.Run
import BatmanAdv.Routing.Receive

set_option relaxedAutoImplicit false
set_option autoImplicit false

/-!
# The flood history of broadcasts (`routing.c`)

For each originator a node keeps the last broadcast sequence number and a bitmap of the 64 numbers
that end there.  A received sequence number is a duplicate when its bit is set; a number far away
from the last one is taken for a restart of the originator, unless the last restart is too
recent; and any other number moves the window or marks a bit in it.

The three functions look at the same wrapped difference.  The history of what was accepted since
the last restart is kept next to the window, which is what the window is compared with.

## Main definitions

* `Batadv.recvBcastSeqno` — what `batadv_recv_bcast_packet` does with a sequence number.
* `Batadv.BcastHistory`, `Batadv.bcastHistoryStep` — the window with what it has accepted.
* `Batadv.BcastHistory.Valid` — the bitmap tells what was accepted.

## Main results

* `Batadv.recvBcastSeqno_isSome` — it is the test of the receive handler.
* `Batadv.BcastHistory.Valid.step` — one sequence number keeps the bitmap valid.
* `Batadv.bcast_deduplication` — each number is accepted once.
-/

namespace Batadv

variable (msecsToJiffies : ℕ → Jiffies)

/-- The part of `batadv_recv_bcast_packet` under the originator's `bcast_seqno_lock`: `none` when
the packet is dropped, and otherwise the new window. -/
def recvBcastSeqno (jiffies : Jiffies) (window : BcastWindow) (seqno : U32) :
    Option BcastWindow :=
  if testBit window.bcastBits window.lastBcastSeqno seqno then none
  else
    let seqDiff := (seqno - window.lastBcastSeqno).toInt
    match windowProtected msecsToJiffies jiffies seqDiff BCAST_MAX_AGE window.bcastSeqnoReset with
    | none => none
    | some (bcastSeqnoReset, _) =>
      let (bcastBits, moved) := bitGetPacket window.bcastBits seqDiff true
      some
        { lastBcastSeqno := if moved then seqno else window.lastBcastSeqno
          bcastBits := bcastBits
          bcastSeqnoReset := bcastSeqnoReset }

/-- The handler of broadcast packets goes on with a packet exactly when its number is accepted. -/
theorem recvBcastSeqno_isSome {δ : Type*} (node : RecvNode δ) (h : BcastHeader) :
    (recvBcastSeqno msecsToJiffies node.jiffies (node.bcastWindow h.orig) h.seqno).isSome =
      bcastAccepted msecsToJiffies node h := by
  unfold recvBcastSeqno bcastAccepted
  dsimp only
  cases testBit (node.bcastWindow h.orig).bcastBits (node.bcastWindow h.orig).lastBcastSeqno
    h.seqno with
  | true => rfl
  | false =>
    cases windowProtected msecsToJiffies node.jiffies
      (h.seqno - (node.bcastWindow h.orig).lastBcastSeqno).toInt BCAST_MAX_AGE
      (node.bcastWindow h.orig).bcastSeqnoReset <;> rfl

/-! ### The history -/

/-- The window of an originator, with the numbers that were accepted since the last restart, and
how far the last sequence number has advanced since then. -/
structure BcastHistory where
  window : BcastWindow
  accepted : List U32
  advance : ℕ

/-- The signed distance of a number from the last one. -/
def BcastHistory.seqDiff (h : BcastHistory) (seqno : U32) : ℤ :=
  (seqno - h.window.lastBcastSeqno).toInt

/-- The number is out of the expected range: if it is accepted, then as a restart. -/
def BcastHistory.OutOfRange (h : BcastHistory) (seqno : U32) : Prop :=
  h.seqDiff seqno ≤ -BCAST_MAX_AGE ∨ EXPECTED_SEQNO_RANGE ≤ h.seqDiff seqno

instance (h : BcastHistory) (seqno : U32) : Decidable (h.OutOfRange seqno) := by
  unfold BcastHistory.OutOfRange
  infer_instance

/-- The history of a new originator (`batadv_orig_node_new`); the time that its restart protection
starts with does not matter here. -/
def BcastHistory.new (bcastSeqnoReset : Jiffies) : BcastHistory :=
  ⟨⟨0, 0, bcastSeqnoReset⟩, [], 0⟩

/-- A broadcast of the originator is received: a number that is accepted out of range is a
restart, with which the history begins again; any other that is accepted is added to it. -/
def bcastHistoryStep (h : BcastHistory) (event : Jiffies × U32) : BcastHistory :=
  match recvBcastSeqno msecsToJiffies event.1 h.window event.2 with
  | none => h
  | some window =>
    if h.OutOfRange event.2 then ⟨window, [event.2], 0⟩
    else ⟨window, event.2 :: h.accepted, h.advance + (h.seqDiff event.2).toNat⟩

/-! ### What a number does to the window -/

/-- The signed distance determines the number. -/
lemma seqno_eq_add_of_seqDiff {h : BcastHistory} {seqno : U32} {n : ℕ}
    (hdiff : h.seqDiff seqno = n) : seqno = h.window.lastBcastSeqno + BitVec.ofNat 32 n := by
  have hsub : seqno - h.window.lastBcastSeqno = BitVec.ofNat 32 n := by
    rw [← BitVec.ofInt_natCast, ← hdiff, BcastHistory.seqDiff, BitVec.ofInt_toInt]
  rw [← hsub]
  ring

/-- The same for a number behind the last one. -/
lemma seqno_eq_sub_of_seqDiff {h : BcastHistory} {seqno : U32} {n : ℕ}
    (hdiff : h.seqDiff seqno = -n) : seqno = h.window.lastBcastSeqno - BitVec.ofNat 32 n := by
  have hsub : seqno - h.window.lastBcastSeqno = -BitVec.ofNat 32 n := by
    rw [← BitVec.ofInt_natCast, ← BitVec.ofInt_neg, ← hdiff, BcastHistory.seqDiff,
      BitVec.ofInt_toInt]
  have hback : seqno = seqno - h.window.lastBcastSeqno + h.window.lastBcastSeqno := by ring
  rw [hback, hsub]
  ring

/-- Only a number that is not ahead can have its bit set. -/
lemma testBit_eq_false_of_seqDiff_pos {h : BcastHistory} {seqno : U32}
    (hdiff : 0 < h.seqDiff seqno) :
    testBit h.window.bcastBits h.window.lastBcastSeqno seqno = false := by
  have hneg : (h.window.lastBcastSeqno - seqno).toInt < 0 := by
    unfold BcastHistory.seqDiff at hdiff
    rw [BitVec.toInt_eq_toNat_cond] at hdiff ⊢
    rw [BitVec.toNat_sub] at hdiff ⊢
    split_ifs at hdiff ⊢ <;> omega
  rw [testBit, if_pos (Or.inl hneg)]

/-- The bit of a number that is at most 63 behind. -/
lemma testBit_of_seqDiff_neg {h : BcastHistory} {seqno : U32} {n : ℕ}
    (hdiff : h.seqDiff seqno = -n) (hn : n < 64) :
    testBit h.window.bcastBits h.window.lastBcastSeqno seqno = h.window.bcastBits.getLsbD n := by
  have hpos : (h.window.lastBcastSeqno - seqno).toInt = n := by
    have hsub : h.window.lastBcastSeqno - seqno = BitVec.ofNat 32 n := by
      rw [seqno_eq_sub_of_seqDiff hdiff]
      ring
    rw [hsub, BitVec.toInt_ofNat', Int.bmod_def]
    omega
  have hwin : ¬ ((n : ℤ) < 0 ∨ TQ_LOCAL_WINDOW_SIZE ≤ (n : ℤ)) := by
    unfold TQ_LOCAL_WINDOW_SIZE
    omega
  rw [testBit, hpos, if_neg hwin, Int.toNat_natCast]

/-- A number in the expected range is not protected. -/
lemma windowProtected_of_not_outOfRange {h : BcastHistory} {seqno : U32} (jiffies : Jiffies)
    (hrange : ¬ h.OutOfRange seqno) :
    windowProtected msecsToJiffies jiffies (h.seqDiff seqno) BCAST_MAX_AGE
      h.window.bcastSeqnoReset = some (h.window.bcastSeqnoReset, false) := by
  unfold BcastHistory.OutOfRange at hrange
  rw [windowProtected, if_neg hrange]

/-- A number that is at most 63 behind is a duplicate if its bit is set, and otherwise sets it. -/
lemma recvBcastSeqno_older (jiffies : Jiffies) {h : BcastHistory} {seqno : U32} {n : ℕ}
    (hdiff : h.seqDiff seqno = -n) (hn : n < 64) :
    recvBcastSeqno msecsToJiffies jiffies h.window seqno =
      if h.window.bcastBits.getLsbD n then none
      else some { h.window with bcastBits := h.window.bcastBits ||| BitVec.twoPow 64 n } := by
  have hrange : ¬ h.OutOfRange seqno := by
    unfold BcastHistory.OutOfRange BCAST_MAX_AGE EXPECTED_SEQNO_RANGE
    omega
  have hwindow := windowProtected_of_not_outOfRange msecsToJiffies jiffies hrange
  have hget : bitGetPacket h.window.bcastBits (h.seqDiff seqno) true =
      (h.window.bcastBits ||| BitVec.twoPow 64 n, false) := by
    rw [bitGetPacket_of_le (by omega) (by omega), if_pos rfl, hdiff, neg_neg, Int.toNat_natCast]
  unfold recvBcastSeqno
  rw [testBit_of_seqDiff_neg hdiff hn]
  unfold BcastHistory.seqDiff at hwindow hget
  simp only [hwindow, hget]
  rfl

/-- A number that is ahead, within the expected range, is accepted, becomes the last one and
shifts the bitmap. -/
lemma recvBcastSeqno_newer (jiffies : Jiffies) {h : BcastHistory} {seqno : U32} {n : ℕ}
    (hdiff : h.seqDiff seqno = n) (hpos : 0 < n) (hn : n < 65536) :
    ∃ bits : U64, recvBcastSeqno msecsToJiffies jiffies h.window seqno =
        some { h.window with lastBcastSeqno := seqno, bcastBits := bits } ∧
      ∀ i < 64, bits.getLsbD i = (decide (i = 0) ||
        decide (n ≤ i) && h.window.bcastBits.getLsbD (i - n)) := by
  have hrange : ¬ h.OutOfRange seqno := by
    unfold BcastHistory.OutOfRange BCAST_MAX_AGE EXPECTED_SEQNO_RANGE
    omega
  have hwindow := windowProtected_of_not_outOfRange msecsToJiffies jiffies hrange
  have hahead : 0 < h.seqDiff seqno := by omega
  have htest := testBit_eq_false_of_seqDiff_pos hahead
  have hgetBits : ∃ bits : U64,
      bitGetPacket h.window.bcastBits (h.seqDiff seqno) true = (bits, true) ∧
      ∀ i < 64, bits.getLsbD i = (decide (i = 0) ||
        decide (n ≤ i) && h.window.bcastBits.getLsbD (i - n)) := by
    rw [bitGetPacket_of_pos hahead (by omega), hdiff, Int.toNat_natCast, markNewest, if_pos rfl]
    refine ⟨_, rfl, fun i hi => ?_⟩
    rw [BitVec.getLsbD_or, BitVec.getLsbD_shiftLeft, BitVec.getLsbD_twoPow]
    by_cases hni : n ≤ i
    · simp [hi, hni, Nat.not_lt.2 hni, Bool.or_comm, eq_comm]
    · simp [hi, hni, Nat.not_le.1 hni, eq_comm]
  obtain ⟨bits, hget, hbits⟩ := hgetBits
  refine ⟨bits, ?_, hbits⟩
  unfold recvBcastSeqno
  rw [htest]
  unfold BcastHistory.seqDiff at hwindow hget
  simp only [hwindow, hget]
  rfl

/-- A number out of range that is accepted becomes the last one and the only one marked. -/
lemma recvBcastSeqno_outOfRange (jiffies : Jiffies) {h : BcastHistory} {seqno : U32}
    {window : BcastWindow} (hrange : h.OutOfRange seqno)
    (hrecv : recvBcastSeqno msecsToJiffies jiffies h.window seqno = some window) :
    window = ⟨seqno, BitVec.twoPow 64 0, jiffies⟩ := by
  have hget : bitGetPacket h.window.bcastBits (h.seqDiff seqno) true =
      (BitVec.twoPow 64 0, true) := by
    unfold BcastHistory.OutOfRange BCAST_MAX_AGE EXPECTED_SEQNO_RANGE at hrange
    rw [bitGetPacket_of_range (by omega)]
    decide
  unfold recvBcastSeqno at hrecv
  unfold BcastHistory.OutOfRange at hrange
  unfold BcastHistory.seqDiff at hget hrange
  dsimp only at hrecv
  rw [windowProtected, if_pos hrange] at hrecv
  simp only [hget, if_true] at hrecv
  split_ifs at hrecv
  exact (Option.some.inj hrecv).symm

/-! ### The bitmap tells what was accepted -/

open SerialNumber

/-- The history is valid, seen from a base value: the accepted numbers lie between the base and
the last one, none was accepted twice, and the bits are those of the accepted numbers. -/
structure BcastHistory.ValidFrom (b : U32) (h : BcastHistory) : Prop where
  last : offset b h.window.lastBcastSeqno = h.advance + 63
  range : ∀ seqno ∈ h.accepted, offset b seqno ≤ h.advance + 63
  nodup : h.accepted.Nodup
  bits : ∀ i < 64, h.window.bcastBits.getLsbD i = true ↔
    h.window.lastBcastSeqno - BitVec.ofNat 32 i ∈ h.accepted

/-- The history is valid. -/
def BcastHistory.Valid (h : BcastHistory) : Prop := ∃ b, h.ValidFrom b

/-- The history of a new originator is valid. -/
lemma BcastHistory.valid_new (bcastSeqnoReset : Jiffies) :
    (BcastHistory.new bcastSeqnoReset).Valid :=
  ⟨0 - 63, rfl, by simp [BcastHistory.new], List.nodup_nil, by simp [BcastHistory.new]⟩

/-- A history that begins again with one number is valid. -/
lemma BcastHistory.valid_restart (seqno : U32) (bcastSeqnoReset : Jiffies) :
    (⟨⟨seqno, BitVec.twoPow 64 0, bcastSeqnoReset⟩, [seqno], 0⟩ : BcastHistory).Valid := by
  have hlast : offset (seqno - 63) seqno = 63 := by
    have hsub : seqno - (seqno - 63) = 63 := by ring
    rw [offset, hsub]
    rfl
  refine ⟨seqno - 63, hlast, ?_, List.nodup_singleton _, fun i hi => ?_⟩
  · rintro x hx
    rw [List.mem_singleton.1 hx, hlast]
  · rw [BitVec.getLsbD_twoPow, List.mem_singleton, sub_eq_self]
    constructor
    · intro h
      rw [Bool.and_eq_true, decide_eq_true_iff, decide_eq_true_iff] at h
      rw [← h.2]
      rfl
    · intro h
      have hzero : i = 0 := by
        have htoNat := congrArg BitVec.toNat h
        rw [BitVec.toNat_ofNat] at htoNat
        simp only [BitVec.reduceToNat] at htoNat
        omega
      simp [hzero]

/-- Marking a number that is at most 63 behind keeps the history valid. -/
lemma BcastHistory.ValidFrom.older {b : U32} {h : BcastHistory} (hv : h.ValidFrom b)
    (hadvance : h.advance < 2 ^ 32 - 65536) {n : ℕ} (hn : n < 64)
    (hbit : h.window.bcastBits.getLsbD n = false) :
    (⟨{ h.window with bcastBits := h.window.bcastBits ||| BitVec.twoPow 64 n },
      (h.window.lastBcastSeqno - BitVec.ofNat 32 n) :: h.accepted, h.advance⟩ :
        BcastHistory).ValidFrom b := by
  have hnew : h.window.lastBcastSeqno - BitVec.ofNat 32 n ∉ h.accepted := by
    intro hmem
    rw [(hv.bits n hn).2 hmem] at hbit
    exact nomatch hbit
  refine ⟨hv.last, ?_, List.nodup_cons.2 ⟨hnew, hv.nodup⟩, fun i hi => ?_⟩
  · have hoff : offset b (h.window.lastBcastSeqno - BitVec.ofNat 32 n) = h.advance + 63 - n := by
      rw [offset_sub_of_le (by rw [hv.last]; omega), hv.last]
    have hle : offset b (h.window.lastBcastSeqno - BitVec.ofNat 32 n) ≤ h.advance + 63 := by omega
    exact List.forall_mem_cons.2 ⟨hle, hv.range⟩
  · rw [BitVec.getLsbD_or, BitVec.getLsbD_twoPow, Bool.or_eq_true, hv.bits i hi, List.mem_cons]
    have hsame : h.window.lastBcastSeqno - BitVec.ofNat 32 i =
        h.window.lastBcastSeqno - BitVec.ofNat 32 n ↔ n = i := by
      constructor
      · intro heq
        have hoff := congrArg (offset b) heq
        rw [offset_sub_of_le (by rw [hv.last]; omega),
          offset_sub_of_le (by rw [hv.last]; omega), hv.last] at hoff
        omega
      · rintro rfl
        rfl
    rw [hsame, or_comm]
    simp [hn]

/-- Moving the window to a number that is ahead keeps the history valid, as long as the numbers
seen from the base do not wrap around. -/
lemma BcastHistory.ValidFrom.newer {b : U32} {h : BcastHistory} (hv : h.ValidFrom b) {n : ℕ}
    (hpos : 0 < n) (hadvance : h.advance + n < 2 ^ 32 - 65536) {bits : U64}
    (hbits : ∀ i < 64, bits.getLsbD i = (decide (i = 0) ||
      decide (n ≤ i) && h.window.bcastBits.getLsbD (i - n))) :
    (⟨{ h.window with
          lastBcastSeqno := h.window.lastBcastSeqno + BitVec.ofNat 32 n, bcastBits := bits },
      (h.window.lastBcastSeqno + BitVec.ofNat 32 n) :: h.accepted, h.advance + n⟩ :
        BcastHistory).ValidFrom b := by
  set last := h.window.lastBcastSeqno + BitVec.ofNat 32 n with hlast
  have hoff : offset b last = h.advance + n + 63 := by
    rw [hlast, offset_add_of_lt (by rw [hv.last]; omega), hv.last]
    omega
  have hback (i : ℕ) (hi : i < 64) :
      offset b (last - BitVec.ofNat 32 i) = h.advance + n + 63 - i := by
    rw [offset_sub_of_le (by rw [hoff]; omega), hoff]
  have hnew : last ∉ h.accepted := fun hmem => by
    have hle := hv.range last hmem
    omega
  refine ⟨hoff, ?_, List.nodup_cons.2 ⟨hnew, hv.nodup⟩, fun i hi => ?_⟩
  · refine List.forall_mem_cons.2 ⟨hoff.le, fun x hx => (hv.range x hx).trans ?_⟩
    change h.advance + 63 ≤ h.advance + n + 63
    omega
  · rw [hbits i hi, List.mem_cons, Bool.or_eq_true, Bool.and_eq_true, decide_eq_true_iff,
      decide_eq_true_iff]
    refine or_congr ?_ ?_
    · constructor
      · rintro rfl
        simp
      · intro heq
        have hoffEq := congrArg (offset b) heq
        rw [hback i hi, hoff] at hoffEq
        omega
    · by_cases hni : n ≤ i
      · have hshift : last - BitVec.ofNat 32 i =
            h.window.lastBcastSeqno - BitVec.ofNat 32 (i - n) := by
          have hsplit : BitVec.ofNat 32 i = BitVec.ofNat 32 (i - n) + BitVec.ofNat 32 n := by
            rw [← BitVec.ofNat_add, Nat.sub_add_cancel hni]
          rw [hlast, hsplit]
          ring
        rw [hshift, hv.bits (i - n) (by omega)]
        simp [hni]
      · -- between the old window and the new last number nothing was accepted
        have hnot : last - BitVec.ofNat 32 i ∉ h.accepted := fun hmem => by
          have hle := hv.range _ hmem
          rw [hback i hi] at hle
          omega
        simp [hni, hnot]

/-- A number that is in the expected range is at most 63 behind or at most 65535 ahead. -/
lemma BcastHistory.seqDiff_of_not_outOfRange {h : BcastHistory} {seqno : U32}
    (hrange : ¬ h.OutOfRange seqno) :
    (∃ n : ℕ, n < 64 ∧ h.seqDiff seqno = -n) ∨
      ∃ n : ℕ, 0 < n ∧ n < 65536 ∧ h.seqDiff seqno = n := by
  unfold BcastHistory.OutOfRange BCAST_MAX_AGE EXPECTED_SEQNO_RANGE at hrange
  rcases le_or_gt (h.seqDiff seqno) 0 with hle | hlt
  · exact Or.inl ⟨(-h.seqDiff seqno).toNat, by omega, by omega⟩
  · exact Or.inr ⟨(h.seqDiff seqno).toNat, by omega, by omega, by omega⟩

/-- The last number only advances until the history begins again. -/
lemma advance_le_of_step {h : BcastHistory} {event : Jiffies × U32}
    (hnot : (bcastHistoryStep msecsToJiffies h event).advance < h.advance) :
    h.OutOfRange event.2 ∧
      (recvBcastSeqno msecsToJiffies event.1 h.window event.2).isSome := by
  unfold bcastHistoryStep at hnot
  cases hrecv : recvBcastSeqno msecsToJiffies event.1 h.window event.2 with
  | none =>
    rw [hrecv] at hnot
    exact absurd hnot (lt_irrefl _)
  | some window =>
    simp only [hrecv] at hnot
    split_ifs at hnot with hrange
    · exact ⟨hrange, rfl⟩
    · dsimp only at hnot
      omega

/-- **One sequence number keeps the history valid**, as long as the last number has not advanced
too far since the history began. -/
theorem BcastHistory.Valid.step {h : BcastHistory} (event : Jiffies × U32)
    (hv : h.advance < 2 ^ 32 - 65536 → h.Valid)
    (hadvance : (bcastHistoryStep msecsToJiffies h event).advance < 2 ^ 32 - 65536) :
    (bcastHistoryStep msecsToJiffies h event).Valid := by
  obtain ⟨jiffies, seqno⟩ := event
  by_cases hrange : h.OutOfRange seqno
  · -- protected, or a restart
    unfold bcastHistoryStep at hadvance ⊢
    cases hrecv : recvBcastSeqno msecsToJiffies jiffies h.window seqno with
    | none =>
      simp only [hrecv] at hadvance ⊢
      exact hv hadvance
    | some window =>
      simp only [if_pos hrange]
      rw [recvBcastSeqno_outOfRange msecsToJiffies jiffies hrange hrecv]
      exact BcastHistory.valid_restart seqno jiffies
  · have hold : h.advance < 2 ^ 32 - 65536 := by
      by_contra hge
      have hback : (bcastHistoryStep msecsToJiffies h (jiffies, seqno)).advance < h.advance := by
        omega
      exact hrange (advance_le_of_step msecsToJiffies hback).1
    obtain ⟨b, hb⟩ := hv hold
    rcases BcastHistory.seqDiff_of_not_outOfRange hrange with
      ⟨n, hn, hdiff⟩ | ⟨n, hpos, hn, hdiff⟩
    · have hrecv := recvBcastSeqno_older msecsToJiffies jiffies hdiff hn
      cases hbit : h.window.bcastBits.getLsbD n with
      | true =>
        rw [hbit, if_pos rfl] at hrecv
        simp only [bcastHistoryStep, hrecv]
        exact ⟨b, hb⟩
      | false =>
        rw [hbit, if_neg (by simp)] at hrecv
        simp only [bcastHistoryStep, hrecv, if_neg hrange]
        have hzero : (h.seqDiff seqno).toNat = 0 := by omega
        rw [hzero, Nat.add_zero, seqno_eq_sub_of_seqDiff hdiff]
        exact ⟨b, hb.older hold hn hbit⟩
    · obtain ⟨bits, hrecv, hbits⟩ := recvBcastSeqno_newer msecsToJiffies jiffies hdiff hpos hn
      simp only [bcastHistoryStep, hrecv, if_neg hrange] at hadvance ⊢
      rw [hdiff, Int.toNat_natCast] at hadvance ⊢
      rw [seqno_eq_add_of_seqDiff hdiff]
      exact ⟨b, hb.newer hpos hadvance hbits⟩

/-- **Broadcast flood deduplication.**  Take any broadcasts of an originator at any times, from its
creation on.  As long as the last sequence number has advanced by less than `2 ^ 32 - 65536` since
the last restart, no number has been accepted twice since then, and the bitmap tells which of the
last 64 numbers have been accepted.  The next number is accepted if it is at most 65535 ahead, and
if it is at most 63 behind exactly when it has not been accepted yet. -/
theorem bcast_deduplication (bcastSeqnoReset : Jiffies) (events : List (Jiffies × U32))
    (hadvance : (Run.final (bcastHistoryStep msecsToJiffies) (.new bcastSeqnoReset)
      events).advance < 2 ^ 32 - 65536) :
    let h := Run.final (bcastHistoryStep msecsToJiffies) (.new bcastSeqnoReset) events
    h.accepted.Nodup ∧
      (∀ i < 64, h.window.bcastBits.getLsbD i = true ↔
        h.window.lastBcastSeqno - BitVec.ofNat 32 i ∈ h.accepted) ∧
      (∀ (jiffies : Jiffies) (ahead : ℕ), 0 < ahead → ahead < 65536 →
        (recvBcastSeqno msecsToJiffies jiffies h.window
          (h.window.lastBcastSeqno + BitVec.ofNat 32 ahead)).isSome) ∧
      ∀ (jiffies : Jiffies) (behind : ℕ), behind < 64 →
        ((recvBcastSeqno msecsToJiffies jiffies h.window
          (h.window.lastBcastSeqno - BitVec.ofNat 32 behind)).isSome ↔
            h.window.lastBcastSeqno - BitVec.ofNat 32 behind ∉ h.accepted) := by
  have hvalid : (Run.final (bcastHistoryStep msecsToJiffies) (.new bcastSeqnoReset)
      events).advance < 2 ^ 32 - 65536 →
        (Run.final (bcastHistoryStep msecsToJiffies) (.new bcastSeqnoReset) events).Valid :=
    Run.AllSteps.invariant (P := fun _ _ => True)
      (fun h : BcastHistory => h.advance < 2 ^ 32 - 65536 → h.Valid)
      (fun h event hv _ hadv => BcastHistory.Valid.step msecsToJiffies event hv hadv)
      (fun _ => BcastHistory.valid_new bcastSeqnoReset)
      (Run.AllSteps.of_forall (fun _ _ => trivial) events)
  intro h
  obtain ⟨b, hb⟩ := hvalid hadvance
  refine ⟨hb.nodup, hb.bits, fun jiffies ahead hpos hn => ?_, fun jiffies behind hn => ?_⟩
  · have hdiff : h.seqDiff (h.window.lastBcastSeqno + BitVec.ofNat 32 ahead) = ahead := by
      have hsub : h.window.lastBcastSeqno + BitVec.ofNat 32 ahead - h.window.lastBcastSeqno =
          BitVec.ofNat 32 ahead := by ring
      rw [BcastHistory.seqDiff, hsub, BitVec.toInt_ofNat', Int.bmod_def]
      omega
    obtain ⟨bits, hrecv, -⟩ := recvBcastSeqno_newer msecsToJiffies jiffies hdiff hpos hn
    rw [hrecv]
    rfl
  · have hdiff : h.seqDiff (h.window.lastBcastSeqno - BitVec.ofNat 32 behind) = -behind := by
      have hsub : h.window.lastBcastSeqno - BitVec.ofNat 32 behind - h.window.lastBcastSeqno =
          -BitVec.ofNat 32 behind := by ring
      rw [BcastHistory.seqDiff, hsub, ← BitVec.ofInt_natCast, ← BitVec.ofInt_neg,
        BitVec.toInt_ofInt, Int.bmod_def]
      omega
    rw [recvBcastSeqno_older msecsToJiffies jiffies hdiff hn, ← hb.bits behind hn]
    cases h.window.bcastBits.getLsbD behind <;> simp

/-- Broadcasts of one originator: three new numbers, the third of them behind the second. -/
def bcastExampleEvents : List (Jiffies × U32) := [(5, 1), (6, 5), (7, 3)]

/-- The third number of the example is a duplicate when it is received again. -/
theorem bcast_deduplication_example :
    (Run.final (bcastHistoryStep fun ms => BitVec.ofNat 64 ms) (.new 0)
      bcastExampleEvents).accepted = [3, 5, 1] ∧
    recvBcastSeqno (fun ms => BitVec.ofNat 64 ms) 8
      (Run.final (bcastHistoryStep fun ms => BitVec.ofNat 64 ms) (.new 0)
        bcastExampleEvents).window 3 = none := by
  have haccepted : (Run.final (bcastHistoryStep fun ms => BitVec.ofNat 64 ms) (.new 0)
      bcastExampleEvents).accepted = [3, 5, 1] := by decide
  obtain ⟨-, -, -, hbehind⟩ := bcast_deduplication (fun ms => BitVec.ofNat 64 ms) 0
    bcastExampleEvents (by decide)
  refine ⟨haccepted, Option.not_isSome_iff_eq_none.1 fun hsome => ?_⟩
  have hnew := (hbehind 8 2 (by decide)).1 hsome
  rw [haccepted] at hnew
  exact hnew (by decide)

end Batadv
