import Mathlib.Data.BitVec
import Mathlib.Data.Set.Image

set_option relaxedAutoImplicit false
set_option autoImplicit false

/-!
# Shift registers

A word of `n` bits in which marks are made at given places, and which is shifted by one place when
time goes on.  Bit `i` is set if and only if there is a mark of age `i`: a mark that is made at
place `d` is of age `d`, and grows older by one with every shift.  Ages are natural numbers, so this
is true after any number of shifts.

## Main definitions

* `ShiftRegister.Marks` — the bits of a word are the ages of marks.

## Main results

* `ShiftRegister.Marks.mark`, `ShiftRegister.Marks.shift` — making a mark, and time going on.
-/

namespace ShiftRegister

variable {n : ℕ} {bits : BitVec n} {ages : Set ℕ}

/-- Bit `i` is set if and only if there is a mark of age `i`. -/
def Marks (bits : BitVec n) (ages : Set ℕ) : Prop :=
  ∀ i < n, bits.getLsbD i = true ↔ i ∈ ages

/-- No marks. -/
lemma marks_zero (n : ℕ) : Marks (0 : BitVec n) ∅ := by
  intro i _
  simp

/-- **Making a mark** at a place. -/
theorem Marks.mark (h : Marks bits ages) {d : ℕ} (hd : d < n) :
    Marks (bits ||| BitVec.twoPow n d) (insert d ages) := by
  intro i hi
  rw [BitVec.getLsbD_or, Bool.or_eq_true, h i hi, BitVec.getLsbD_twoPow, Set.mem_insert_iff,
    Bool.and_eq_true, decide_eq_true_iff, decide_eq_true_iff]
  constructor
  · rintro (hmem | ⟨-, rfl⟩)
    · exact Or.inr hmem
    · exact Or.inl rfl
  · rintro (rfl | hmem)
    · exact Or.inr ⟨hd, rfl⟩
    · exact Or.inl hmem

/-- **Time goes on**, and all marks grow older. -/
theorem Marks.shift (h : Marks bits ages) : Marks (bits <<< 1) ((· + 1) '' ages) := by
  intro i hi
  rw [BitVec.getLsbD_shiftLeft]
  cases i with
  | zero => simp
  | succ i =>
    have hmem : i + 1 ∈ (· + 1) '' ages ↔ i ∈ ages := by simp
    rw [hmem, ← h i (by omega)]
    simp [hi]

end ShiftRegister
