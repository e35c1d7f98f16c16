import Mathlib.Algebra.Group.Fin.Basic
import Mathlib.Algebra.Ring.Nat
import Mathlib.Data.Fin.Basic
import Mathlib.Data.List.Basic

set_option relaxedAutoImplicit false
set_option autoImplicit false

/-!
# Ring buffers

A ring of `n` slots is written downwards from its head, modulo `n`: a new element goes into the
slot in front of the head, over the oldest element, and becomes the head.  Read upwards from the
head it is the list of the last `n` elements, the newest first.

A scan of such a list may stop at the first element that is too old, provided that the elements
behind it are too old as well.

## Main definitions

* `RingBuffer` — slots and a head; `RingBuffer.slot`, `RingBuffer.push`, `RingBuffer.toList`.
* `RingBuffer.scan` — look for an element, up to the first one at which to stop.

## Main results

* `RingBuffer.toList_push` — pushing puts an element in front and drops the last one.
* `RingBuffer.toList_foldl_push` — after any number of them, the last `n` elements are there.
* `RingBuffer.scan_eq_true_iff` — a scan that stops early misses nothing if the elements behind are
  to be stopped at, too.
-/

/-- A ring of `n` slots. -/
structure RingBuffer (α : Type*) (n : ℕ) where
  slots : Fin n → α
  head : Fin n

namespace RingBuffer

variable {α : Type*} {n : ℕ} [NeZero n]

/-- The slot that is `i` places behind the head. -/
def slot (r : RingBuffer α n) (i : ℕ) : α := r.slots (r.head + Fin.ofNat n i)

/-- Put an element in front of the head. -/
def push (r : RingBuffer α n) (a : α) : RingBuffer α n where
  slots := Function.update r.slots (r.head + Fin.ofNat n (n - 1)) a
  head := r.head + Fin.ofNat n (n - 1)

/-- The elements, the newest first. -/
def toList (r : RingBuffer α n) : List α := (List.range n).map r.slot

@[simp] lemma length_toList (r : RingBuffer α n) : r.toList.length = n := by
  rw [toList, List.length_map, List.length_range]

/-- The head after a push is the new element. -/
lemma slot_push_zero (r : RingBuffer α n) (a : α) : (r.push a).slot 0 = a := by
  have h : (r.push a).head + Fin.ofNat n 0 = r.head + Fin.ofNat n (n - 1) := by
    simp [push]
  rw [slot, h]
  exact Function.update_self ..

/-- The others move one place away from the head. -/
lemma slot_push_succ (r : RingBuffer α n) (a : α) {i : ℕ} (hi : i + 1 < n) :
    (r.push a).slot (i + 1) = r.slot i := by
  have hhead := r.head.isLt
  have hpos : (r.push a).head + Fin.ofNat n (i + 1) = r.head + Fin.ofNat n i := by
    have hsum : n - 1 + (i + 1) = i + n := by omega
    simp only [push, Fin.ext_iff, Fin.val_add, Fin.val_ofNat, Nat.add_mod_mod, Nat.mod_add_mod]
    rw [Nat.add_assoc, hsum, ← Nat.add_assoc, Nat.add_mod_right]
  have hne : r.head + Fin.ofNat n i ≠ r.head + Fin.ofNat n (n - 1) := by
    intro h
    have hval := congrArg Fin.val (add_left_cancel h)
    rw [Fin.val_ofNat, Fin.val_ofNat, Nat.mod_eq_of_lt (by omega),
      Nat.mod_eq_of_lt (by omega)] at hval
    omega
  rw [slot, hpos]
  exact Function.update_of_ne hne ..

/-- **Pushing** puts an element in front and drops the last one. -/
theorem toList_push (r : RingBuffer α n) (a : α) :
    (r.push a).toList = (a :: r.toList).take n := by
  refine List.ext_getElem (by simp) fun i hi hi' => ?_
  rw [List.getElem_take]
  cases i with
  | zero => simp [toList, slot_push_zero]
  | succ i =>
    rw [length_toList] at hi
    simp [toList, slot_push_succ r a hi]

/-- **After any number of pushes** the last `n` elements are there, as far as there are so many,
and behind them what was there before. -/
theorem toList_foldl_push (r : RingBuffer α n) (as : List α) :
    (as.foldl push r).toList = (as.reverse ++ r.toList).take n := by
  induction as generalizing r with
  | nil => simp [List.take_of_length_le]
  | cons a as ih =>
    rw [List.foldl_cons, ih, toList_push, List.reverse_cons, List.append_assoc,
      List.singleton_append, List.take_append, List.take_append, List.take_take]
    congr 2
    omega

/-! ### Scanning -/

/-- Look for an element, up to the first one at which to stop. -/
def scan (stop hit : α → Bool) : List α → Bool
  | [] => false
  | a :: l => if stop a then false else if hit a then true else scan stop hit l

/-- **A scan that stops early misses nothing** if what is behind an element to stop at is to be
stopped at, too. -/
theorem scan_eq_true_iff {stop hit : α → Bool} {l : List α}
    (hstop : l.Pairwise fun a b => stop a = true → stop b = true) :
    scan stop hit l = true ↔ ∃ a ∈ l, stop a = false ∧ hit a = true := by
  induction l with
  | nil => simp [scan]
  | cons a l ih =>
    obtain ⟨ha, hl⟩ := List.pairwise_cons.1 hstop
    rw [scan]
    split_ifs with hs hh
    · simp only [List.mem_cons, exists_eq_or_imp, hs, Bool.true_eq_false, false_and, false_or,
        false_iff, not_exists, not_and]
      intro b hb hbs
      rw [ha b hb hs] at hbs
      cases hbs
    · simp [hs, hh]
    · simp [hs, hh, ih hl]

end RingBuffer
