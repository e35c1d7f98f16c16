import BatmanAdv.Lib.SerialNumber

set_option relaxedAutoImplicit false
set_option autoImplicit false

/-!
# Sliding windows over serial numbers

A bitmap of `n` bits and a serial number `last`: bit `i` stands for the number `last - i`.  The
window is moved on by a shift of the bitmap, and a number in it is marked by setting a bit.  As long
as the numbers that were marked lie on one half circle and none is ahead of `last`, the bitmap says
exactly which of the last `n` numbers were marked, and a shift forgets only those that leave the
window.

## Main definitions

* `SlidingWindow.Exact` — the bitmap marks exactly the numbers of a list that are in the window.
* `SlidingWindow.Behind` — the numbers of a list lie on a half circle, none of them ahead.

## Main results

* `SlidingWindow.Exact.mark`, `SlidingWindow.Exact.shift` — marking and moving keep it exact.
-/

namespace SlidingWindow

open SerialNumber

variable {w n : ℕ} {b last : BitVec w} {bits : BitVec n} {seen : List (BitVec w)}

/-- Bit `i` is set if and only if `last - i` was seen. -/
def Exact (bits : BitVec n) (last : BitVec w) (seen : List (BitVec w)) : Prop :=
  ∀ i < n, bits.getLsbD i = true ↔ last - BitVec.ofNat w i ∈ seen

/-- The numbers lie on the half circle from `b` on, none of them ahead of `last`. -/
def Behind (b last : BitVec w) (seen : List (BitVec w)) : Prop :=
  Near b last ∧ ∀ m ∈ seen, Near b m ∧ offset b m ≤ offset b last

/-- An empty window, and nothing seen. -/
lemma exact_zero (n : ℕ) (last : BitVec w) : Exact (0 : BitVec n) last [] := by
  intro i _
  simp

/-- Different places in a window stand for different numbers. -/
lemma sub_ofNat_inj {x : BitVec w} {i j : ℕ} (hi : i < 2 ^ w) (hj : j < 2 ^ w) :
    x - BitVec.ofNat w i = x - BitVec.ofNat w j ↔ i = j := by
  refine ⟨fun h => ?_, fun h => by rw [h]⟩
  have heq : BitVec.ofNat w i = BitVec.ofNat w j := by
    have h' := congrArg (fun y => x - y) h
    simpa using h'
  have hnat := congrArg BitVec.toNat heq
  rwa [BitVec.toNat_ofNat, BitVec.toNat_ofNat, Nat.mod_eq_of_lt hi, Nat.mod_eq_of_lt hj] at hnat

/-- **Marking a number** in the window. -/
theorem Exact.mark (h : Exact bits last seen) (hn : n ≤ 2 ^ w) {d : ℕ} (hd : d < n) :
    Exact (bits ||| BitVec.twoPow n d) last (seen ++ [last - BitVec.ofNat w d]) := by
  intro i hi
  have hbit : (BitVec.twoPow n d).getLsbD i = decide (i = d) := by
    rw [BitVec.getLsbD_twoPow]
    by_cases hid : i = d
    · simp [hid, hd]
    · simp [hid, Ne.symm hid]
  rw [BitVec.getLsbD_or, hbit, Bool.or_eq_true, h i hi, decide_eq_true_iff, List.mem_append,
    List.mem_singleton, sub_ofNat_inj (by omega) (by omega)]

/-- What is ahead of the window was not seen. -/
lemma Behind.notMem (h : Behind b last seen) {m : BitVec w} (hlt : offset b last < offset b m) :
    m ∉ seen := fun hm => absurd (h.2 m hm).2 (not_le.2 hlt)

/-- **Moving the window on** by a positive distance: the numbers ahead of the old window were not
seen, and the others move away from its end.  By `n` or more everything is forgotten. -/
theorem Exact.shift (h : Exact bits last seen) (hbehind : Behind b last seen)
    (hw : 0 < w) {d : ℕ} (hd : 0 < d)
    (hnext : offset b last + d < 2 ^ (w - 1)) :
    Exact (bits <<< d) (last + BitVec.ofNat w d) seen := by
  have hpow := two_pow_eq_two_mul_half hw
  intro i hi
  rw [BitVec.getLsbD_shiftLeft]
  by_cases hid : i < d
  · -- the numbers between the old end of the window and the new one
    have hnum : last + BitVec.ofNat w d - BitVec.ofNat w i =
        last + BitVec.ofNat w (d - i) := by
      have hsum : BitVec.ofNat w d = BitVec.ofNat w (d - i) + BitVec.ofNat w i := by
        rw [← BitVec.ofNat_add, Nat.sub_add_cancel (Nat.le_of_lt hid)]
      rw [hsum]
      ring
    have hoff : offset b (last + BitVec.ofNat w (d - i)) = offset b last + (d - i) :=
      offset_add_of_lt (by omega)
    have hnot := hbehind.notMem (m := last + BitVec.ofNat w (d - i)) (by omega)
    rw [hnum]
    simp [hid, hnot]
  · have hnum : last + BitVec.ofNat w d - BitVec.ofNat w i = last - BitVec.ofNat w (i - d) := by
      have hsum : BitVec.ofNat w i = BitVec.ofNat w (i - d) + BitVec.ofNat w d := by
        rw [← BitVec.ofNat_add, Nat.sub_add_cancel (Nat.le_of_not_lt hid)]
      rw [hsum]
      ring
    rw [hnum, ← h (i - d) (by omega)]
    simp [hi, hid]

/-- The window has moved on: what was seen is behind its new end. -/
lemma Behind.advance (h : Behind b last seen) {next : BitVec w} (hnear : Near b next)
    (hle : offset b last ≤ offset b next) : Behind b next seen :=
  ⟨hnear, fun m hm => ⟨(h.2 m hm).1, (h.2 m hm).2.trans hle⟩⟩

/-- A number that is not ahead is seen. -/
lemma Behind.append (h : Behind b last seen) {m : BitVec w} (hnear : Near b m)
    (hle : offset b m ≤ offset b last) : Behind b last (seen ++ [m]) := by
  refine ⟨h.1, fun x hx => ?_⟩
  rcases List.mem_append.1 hx with hx | hx
  · exact h.2 x hx
  · rw [List.mem_singleton.1 hx]
    exact ⟨hnear, hle⟩

end SlidingWindow
