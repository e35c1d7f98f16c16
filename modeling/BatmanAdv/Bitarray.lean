import BatmanAdv.Main

set_option relaxedAutoImplicit false
set_option autoImplicit false

/-!
# Bitmaps of sequence numbers (`bitarray.c`, `bitarray.h`)

Which of the last 64 sequence numbers have been seen is kept in a bitmap: bit `i` stands for the
newest number less `i`.  A number is looked up in it, and it is moved on when a newer one comes.

## Main definitions

* `Batadv.testBit`, `Batadv.setBit`, `Batadv.bitmapShiftLeft`, `Batadv.bitGetPacket` — the
  functions of these names.

## Main results

* `Batadv.testBit_iff` — what it means that a number is marked.
* `Batadv.bitGetPacket_of_le`, `Batadv.bitGetPacket_of_pos`, `Batadv.bitGetPacket_of_range` — the
  bitmap after a number that is behind, ahead, or out of range.
-/

namespace Batadv

/-- `BATADV_TQ_LOCAL_WINDOW_SIZE`. -/
def TQ_LOCAL_WINDOW_SIZE : ℤ := 64

/-- `batadv_test_bit`: the packet is in the window and its bit is set. -/
def testBit (seqBits : U64) (lastSeqno currSeqno : U32) : Bool :=
  let diff := (lastSeqno - currSeqno).toInt
  if diff < 0 ∨ TQ_LOCAL_WINDOW_SIZE ≤ diff then false else seqBits.getLsbD diff.toNat

/-- `batadv_set_bit`. -/
def setBit (seqBits : U64) (n : ℤ) : U64 :=
  if n < 0 ∨ TQ_LOCAL_WINDOW_SIZE ≤ n then seqBits
  else seqBits ||| BitVec.twoPow 64 n.toNat

/-- `batadv_bitmap_shift_left`. -/
def bitmapShiftLeft (seqBits : U64) (n : ℤ) : U64 :=
  if n ≤ 0 ∨ TQ_LOCAL_WINDOW_SIZE ≤ n then seqBits else seqBits <<< n.toNat

/-- `batadv_bit_get_packet`: the new bitmap, and whether the window was moved. -/
def bitGetPacket (seqBits : U64) (seqNumDiff : ℤ) (setMark : Bool) : U64 × Bool :=
  -- slightly older
  if seqNumDiff ≤ 0 ∧ -TQ_LOCAL_WINDOW_SIZE < seqNumDiff then
    (if setMark then setBit seqBits (-seqNumDiff) else seqBits, false)
  -- slightly newer
  else if 0 < seqNumDiff ∧ seqNumDiff < TQ_LOCAL_WINDOW_SIZE then
    let seqBits := bitmapShiftLeft seqBits seqNumDiff
    (if setMark then setBit seqBits 0 else seqBits, true)
  -- much newer
  else if TQ_LOCAL_WINDOW_SIZE ≤ seqNumDiff ∧ seqNumDiff < EXPECTED_SEQNO_RANGE then
    (if setMark then setBit 0 0 else 0, true)
  -- much older, or the other host restarted
  else (if setMark then setBit 0 0 else 0, true)

/-- Setting the bit at the end of a window, or not. -/
def markNewest (setMark : Bool) (seqBits : U64) : U64 :=
  if setMark then seqBits ||| BitVec.twoPow 64 0 else seqBits

/-- A number that is not ahead is marked where it stands. -/
lemma bitGetPacket_of_le {seqNumDiff : ℤ} (h : seqNumDiff ≤ 0) (h' : -64 < seqNumDiff)
    (seqBits : U64) (setMark : Bool) :
    bitGetPacket seqBits seqNumDiff setMark =
      (if setMark then seqBits ||| BitVec.twoPow 64 (-seqNumDiff).toNat else seqBits, false) := by
  have hsize : TQ_LOCAL_WINDOW_SIZE = 64 := rfl
  have hnot : ¬ (-seqNumDiff < 0 ∨ TQ_LOCAL_WINDOW_SIZE ≤ -seqNumDiff) := by omega
  rw [bitGetPacket, if_pos ⟨h, by omega⟩, setBit, if_neg hnot]

/-- A number that is ahead moves the window on; by 64 or more nothing is left in it. -/
lemma bitGetPacket_of_pos {seqNumDiff : ℤ} (h : 0 < seqNumDiff) (h' : seqNumDiff < 65536)
    (seqBits : U64) (setMark : Bool) :
    bitGetPacket seqBits seqNumDiff setMark =
      (markNewest setMark (seqBits <<< seqNumDiff.toNat), true) := by
  have hsize : TQ_LOCAL_WINDOW_SIZE = 64 := rfl
  have hrange : EXPECTED_SEQNO_RANGE = 65536 := rfl
  have hnot : ¬ (seqNumDiff ≤ 0 ∧ -TQ_LOCAL_WINDOW_SIZE < seqNumDiff) := by omega
  rw [bitGetPacket, if_neg hnot]
  by_cases hlt : seqNumDiff < 64
  · have hshift : ¬ (seqNumDiff ≤ 0 ∨ TQ_LOCAL_WINDOW_SIZE ≤ seqNumDiff) := by omega
    rw [if_pos ⟨h, by omega⟩, bitmapShiftLeft, if_neg hshift]
    rfl
  · have hzero : seqBits <<< seqNumDiff.toNat = 0 := BitVec.shiftLeft_eq_zero (by omega)
    have hno : ¬ (0 < seqNumDiff ∧ seqNumDiff < TQ_LOCAL_WINDOW_SIZE) := by omega
    rw [if_neg hno, if_pos ⟨by omega, by omega⟩, hzero]
    rfl

/-- A number that is out of range clears the window. -/
lemma bitGetPacket_of_range {seqNumDiff : ℤ} (h : seqNumDiff ≤ -64 ∨ 65536 ≤ seqNumDiff)
    (seqBits : U64) (setMark : Bool) :
    bitGetPacket seqBits seqNumDiff setMark = (markNewest setMark 0, true) := by
  have hsize : TQ_LOCAL_WINDOW_SIZE = 64 := rfl
  have hrange : EXPECTED_SEQNO_RANGE = 65536 := rfl
  have h₁ : ¬ (seqNumDiff ≤ 0 ∧ -TQ_LOCAL_WINDOW_SIZE < seqNumDiff) := by omega
  have h₂ : ¬ (0 < seqNumDiff ∧ seqNumDiff < TQ_LOCAL_WINDOW_SIZE) := by omega
  have h₃ : ¬ (TQ_LOCAL_WINDOW_SIZE ≤ seqNumDiff ∧ seqNumDiff < EXPECTED_SEQNO_RANGE) := by
    omega
  rw [bitGetPacket, if_neg h₁, if_neg h₂, if_neg h₃]
  rfl

/-- Whether the window is moved depends on the difference only. -/
lemma bitGetPacket_snd (seqBits : U64) (seqNumDiff : ℤ) (setMark : Bool) :
    (bitGetPacket seqBits seqNumDiff setMark).2 =
      !decide (seqNumDiff ≤ 0 ∧ -64 < seqNumDiff) := by
  by_cases h : seqNumDiff ≤ 0 ∧ -64 < seqNumDiff
  · rw [bitGetPacket_of_le h.1 h.2, decide_eq_true h]
    rfl
  · rw [decide_eq_false h]
    by_cases hrange : seqNumDiff ≤ -64 ∨ 65536 ≤ seqNumDiff
    · rw [bitGetPacket_of_range hrange]
      rfl
    · rw [bitGetPacket_of_pos (by omega) (by omega)]
      rfl

/-- The bit for a number in the window. -/
lemma testBit_iff {seqBits : U64} {lastSeqno currSeqno : U32} :
    testBit seqBits lastSeqno currSeqno = true ↔
      ∃ i < 64, lastSeqno - BitVec.ofNat 32 i = currSeqno ∧ seqBits.getLsbD i = true := by
  have hsize : TQ_LOCAL_WINDOW_SIZE = 64 := rfl
  unfold testBit
  constructor
  · intro h
    dsimp only at h
    split_ifs at h with hrange
    have hlt := (lastSeqno - currSeqno).isLt
    refine ⟨(lastSeqno - currSeqno).toInt.toNat, by omega, ?_, h⟩
    have hnat : (lastSeqno - currSeqno).toInt.toNat = (lastSeqno - currSeqno).toNat := by
      rw [BitVec.toInt_eq_toNat_cond] at hrange ⊢
      split_ifs at hrange ⊢ <;> omega
    rw [hnat, BitVec.ofNat_toNat, BitVec.setWidth_eq, sub_sub_cancel]
  · rintro ⟨i, hi, rfl, hbit⟩
    have hdiff : (lastSeqno - (lastSeqno - BitVec.ofNat 32 i)).toInt = i := by
      rw [sub_sub_cancel, BitVec.toInt_eq_toNat_cond, BitVec.toNat_ofNat,
        Nat.mod_eq_of_lt (by omega), if_pos (by omega)]
    dsimp only
    rw [hdiff, if_neg (by omega)]
    exact hbit

end Batadv
