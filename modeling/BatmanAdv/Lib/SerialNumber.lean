import Mathlib.Data.BitVec
import Mathlib.Tactic.Linarith
import Mathlib.Tactic.Ring

set_option relaxedAutoImplicit false
set_option autoImplicit false

/-!
# Serial number arithmetic on machine words

A counter kept in a `w`-bit word wraps at `2 ^ w`, so two of its values are compared through
their difference modulo `2 ^ w`: `x` precedes `y` when the difference `x - y` lies strictly in
the upper half of the range.  The comparison is an order only on values that lie in one half of
the circle; the results below are stated for such a half, given by its first value `b`.

## Main definitions

* `SerialNumber.Before` — `x` precedes `y`.
* `SerialNumber.offset`, `SerialNumber.Near` — the distance travelled from a base value, and
  the half circle that starts there.

## Main results

* `SerialNumber.before_add_right` — the comparison is invariant under translation.
* `SerialNumber.before_iff_offset_lt` — on a half circle it is the order of the offsets.
* `SerialNumber.toInt_sub_eq_offset_sub` — on a half circle the signed difference is the
  difference of the offsets.
-/

namespace SerialNumber

variable {w : ℕ}

/-- `x` precedes `y`: their difference lies strictly in the upper half of the range. -/
def Before (x y : BitVec w) : Prop := 2 ^ (w - 1) < (x - y).toNat

instance (x y : BitVec w) : Decidable (Before x y) :=
  inferInstanceAs (Decidable (2 ^ (w - 1) < (x - y).toNat))

/-- The distance travelled from `b` to `x` in the direction of counting. -/
def offset (b x : BitVec w) : ℕ := (x - b).toNat

/-- `x` lies in the half circle that starts at `b`. -/
def Near (b x : BitVec w) : Prop := offset b x < 2 ^ (w - 1)

instance (b x : BitVec w) : Decidable (Near b x) :=
  inferInstanceAs (Decidable (offset b x < 2 ^ (w - 1)))

/-- The difference of two words, as a natural number. -/
lemma toNat_sub_ite (x y : BitVec w) :
    (x - y).toNat = if y.toNat ≤ x.toNat then x.toNat - y.toNat
      else 2 ^ w + x.toNat - y.toNat := by
  have hx := x.isLt
  have hy := y.isLt
  rw [BitVec.toNat_sub]
  split_ifs with h
  · rw [show 2 ^ w - y.toNat + x.toNat = (x.toNat - y.toNat) + 2 ^ w by omega,
      Nat.add_mod_right, Nat.mod_eq_of_lt (by omega)]
  · rw [Nat.mod_eq_of_lt (by omega)]
    omega

/-- No value precedes itself. -/
@[simp] lemma not_before_self (x : BitVec w) : ¬ Before x x := by
  simp [Before]

/-- The comparison is invariant under translation by any constant. -/
@[simp] lemma before_add_right (x y k : BitVec w) : Before (x + k) (y + k) ↔ Before x y := by
  have h : x + k - (y + k) = x - y := by ring
  simp only [Before, h]

/-- The difference of two values is the difference of their offsets. -/
lemma sub_eq_sub_base (b x y : BitVec w) : x - y = (x - b) - (y - b) := by ring

/-- Offsets determine the value. -/
lemma offset_injective (b : BitVec w) {x y : BitVec w} (h : offset b x = offset b y) : x = y := by
  have h' : x - b = y - b := BitVec.eq_of_toNat_eq h
  have hx : x = x - b + b := by ring
  rw [hx, h']
  ring

/-- The base has offset zero. -/
@[simp] lemma offset_self (b : BitVec w) : offset b b = 0 := by simp [offset]

/-- The offset of `b + n` is `n` below the modulus. -/
lemma offset_add_ofNat (b : BitVec w) {n : ℕ} (hn : n < 2 ^ w) :
    offset b (b + BitVec.ofNat w n) = n := by
  have h : b + BitVec.ofNat w n - b = BitVec.ofNat w n := by ring
  rw [offset, h, BitVec.toNat_ofNat, Nat.mod_eq_of_lt hn]

/-- Counting on without passing the base adds to the offset. -/
lemma offset_add_of_lt {b x : BitVec w} {n : ℕ} (h : offset b x + n < 2 ^ w) :
    offset b (x + BitVec.ofNat w n) = offset b x + n := by
  have hsub : x + BitVec.ofNat w n - b = (x - b) + BitVec.ofNat w n := by ring
  have hn : n < 2 ^ w := by omega
  unfold offset at h ⊢
  rw [hsub, BitVec.toNat_add, BitVec.toNat_ofNat, Nat.mod_eq_of_lt hn, Nat.mod_eq_of_lt h]

/-- Counting back without passing the base subtracts from the offset. -/
lemma offset_sub_of_le {b x : BitVec w} {n : ℕ} (h : n ≤ offset b x) :
    offset b (x - BitVec.ofNat w n) = offset b x - n := by
  have hx := (x - b).isLt
  have hsub : x - BitVec.ofNat w n - b = (x - b) - BitVec.ofNat w n := by ring
  unfold offset at h ⊢
  have hn : (BitVec.ofNat w n).toNat = n := by
    rw [BitVec.toNat_ofNat, Nat.mod_eq_of_lt (by omega)]
  rw [hsub, toNat_sub_ite, hn, if_pos h]

/-- The half range is half the range. -/
lemma two_pow_eq_two_mul_half (hw : 0 < w) : 2 ^ w = 2 * 2 ^ (w - 1) := by
  rw [← pow_succ', Nat.sub_add_cancel hw]

/-- **On a half circle the comparison is the order of the offsets.**

**Proof sketch.** Both offsets are below `2 ^ (w - 1)`.  If the offset of `x` is at least that of
`y`, their difference stays below the half; otherwise it wraps to more than the half. -/
theorem before_iff_offset_lt (hw : 0 < w) {b x y : BitVec w} (hx : Near b x) (hy : Near b y) :
    Before x y ↔ offset b x < offset b y := by
  have hpow := two_pow_eq_two_mul_half hw
  unfold Near at hx hy
  rw [Before, sub_eq_sub_base b, toNat_sub_ite]
  change 2 ^ (w - 1) < (if offset b y ≤ offset b x then offset b x - offset b y
    else 2 ^ w + offset b x - offset b y) ↔ _
  split_ifs with h <;> omega

/-- Two offsets `i`, `j` from the same base compare like the numbers `i`, `j`. -/
theorem before_add_ofNat (hw : 0 < w) (b : BitVec w) {i j : ℕ} (hi : i < 2 ^ (w - 1))
    (hj : j < 2 ^ (w - 1)) :
    Before (b + BitVec.ofNat w i) (b + BitVec.ofNat w j) ↔ i < j := by
  have hpow := two_pow_eq_two_mul_half hw
  have oi := offset_add_ofNat b (n := i) (by omega)
  have oj := offset_add_ofNat b (n := j) (by omega)
  rw [before_iff_offset_lt hw (b := b) (by rwa [Near, oi]) (by rwa [Near, oj]), oi, oj]

/-- **On a half circle the signed difference is the difference of the offsets.**

**Proof sketch.** The unsigned difference is the offset difference, or that plus `2 ^ w` when it
is negative; the first is below the half range and the second above it, so reading the word as a
signed number gives the offset difference in both cases. -/
theorem toInt_sub_eq_offset_sub (hw : 0 < w) {b x y : BitVec w} (hx : Near b x)
    (hy : Near b y) : (x - y).toInt = (offset b x : ℤ) - offset b y := by
  have hpow := two_pow_eq_two_mul_half hw
  unfold Near at hx hy
  have hn : (x - y).toNat = if offset b y ≤ offset b x then offset b x - offset b y
      else 2 ^ w + offset b x - offset b y := by
    rw [sub_eq_sub_base b, toNat_sub_ite]
    rfl
  rw [BitVec.toInt_eq_toNat_cond, hn]
  have hcast : ((2 ^ w : ℕ) : ℤ) = 2 * ((2 ^ (w - 1) : ℕ) : ℤ) := by exact_mod_cast hpow
  split_ifs <;> omega

/-- On a half circle, the distance to a fixed value does not grow when its start moves on. -/
theorem toInt_sub_le_of_not_before (hw : 0 < w) {b x y z : BitVec w} (hx : Near b x)
    (hy : Near b y) (hz : Near b z) (h : ¬ Before y x) : (z - y).toInt ≤ (z - x).toInt := by
  rw [before_iff_offset_lt hw hy hx] at h
  rw [toInt_sub_eq_offset_sub hw hz hy, toInt_sub_eq_offset_sub hw hz hx]
  omega

end SerialNumber
