import Mathlib.Algebra.Order.Ring.Nat

set_option relaxedAutoImplicit false
set_option autoImplicit false

/-!
# Exponential filters in whole numbers

An exponential filter keeps a state `x`, of which it forgets the `k`-th part with every input and
adds the input instead, so that `x / k` is an average of the inputs in which older ones count less.
Both divisions round down.  The low bits of the state that the division drops are what keeps the
average between the smallest and the largest input.

## Main definitions

* `FloorFilter.step` — the state after an input.

## Main results

* `FloorFilter.le_step_div`, `FloorFilter.step_div_le` — the average stays between the inputs.
* `FloorFilter.step_le` — a bound of the state.
-/

namespace FloorFilter

variable {k x m a b d c : ℕ}

/-- The state after an input: the `k`-th part is replaced by it. -/
def step (k x m : ℕ) : ℕ := x - x / k + m

/-- The part that is kept. -/
lemma sub_div (k x : ℕ) (hk : 0 < k) : x - x / k = (k - 1) * (x / k) + x % k := by
  have hx : k * (x / k) + x % k = x := Nat.div_add_mod x k
  have hmul : k * (x / k) = (k - 1) * (x / k) + x / k := by
    rw [← Nat.succ_mul, Nat.succ_eq_add_one, Nat.sub_add_cancel hk]
  omega

/-- **The average does not fall below the inputs.** -/
theorem le_step_div (hk : 0 < k) (hx : a ≤ x / k) (hm : a ≤ m) : a ≤ step k x m / k := by
  have hkept : (k - 1) * a ≤ (k - 1) * (x / k) := Nat.mul_le_mul_left _ hx
  have ha : a * k = (k - 1) * a + a := by
    rw [← Nat.succ_mul, Nat.succ_eq_add_one, Nat.sub_add_cancel hk, Nat.mul_comm]
  rw [Nat.le_div_iff_mul_le hk, step, sub_div k x hk]
  omega

/-- **The average does not rise above the inputs.** -/
theorem step_div_le (hk : 0 < k) (hx : x / k ≤ b) (hm : m ≤ b) : step k x m / k ≤ b := by
  have hkept : (k - 1) * (x / k) ≤ (k - 1) * b := Nat.mul_le_mul_left _ hx
  have hb : (b + 1) * k = (k - 1) * b + b + k := by
    rw [Nat.succ_mul, ← Nat.succ_mul (k - 1) b, Nat.succ_eq_add_one, Nat.sub_add_cancel hk,
      Nat.mul_comm]
  have hmod : x % k < k := Nat.mod_lt x hk
  rw [← Nat.lt_add_one_iff, Nat.div_lt_iff_lt_mul hk, step, sub_div k x hk]
  omega

/-- **A bound of the state**, if it bounds the inputs with their weight: an input that is larger
than the part that is forgotten comes to at most its weight. -/
theorem step_le (hk : 0 < k) (hx : x ≤ c) (hm : m ≤ d) (hc : k * d ≤ c) : step k x m ≤ c := by
  rcases Nat.lt_or_ge (x / k) m with hlt | hge
  · have hkept : (k - 1) * (x / k + 1) ≤ (k - 1) * m := Nat.mul_le_mul_left _ hlt
    have hweight : (k - 1) * m + m = k * m := by
      rw [← Nat.succ_mul, Nat.succ_eq_add_one, Nat.sub_add_cancel hk]
    have hmd : k * m ≤ k * d := Nat.mul_le_mul_left k hm
    have hmod : x % k < k := Nat.mod_lt x hk
    rw [Nat.mul_add, Nat.mul_one] at hkept
    rw [step, sub_div k x hk]
    omega
  · have hdiv : x / k ≤ x := Nat.div_le_self x k
    rw [step]
    omega

end FloorFilter
