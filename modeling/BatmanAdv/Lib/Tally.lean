import Mathlib.Data.List.Count
import Mathlib.Algebra.Order.Ring.Int
import Mathlib.Tactic.Ring

set_option relaxedAutoImplicit false
set_option autoImplicit false

/-!
# Counters that exist while they are not zero

A tally has a counter for some keys.  A counter is created when the number of its key is changed
for the first time, and dropped when the number becomes zero.  Some keys are not counted at all.  A
tally counts a list of keys if every counter is the number of occurrences of its key.

## Main definitions

* `Tally.val` — the number of a key.
* `Tally.bump`, `Tally.bumpAll` — change the number of a key, or of many.
* `Tally.Counts` — a tally counts a list.

## Main results

* `Tally.val_bumpAll` — what changing many numbers does.
* `Tally.bumpAll_eq_some_zero` — a counter that is zero was never changed.
* `Tally.Counts.cons`, `Tally.Counts.drop` — keys are added to a list, and taken out.
-/

namespace Tally

variable {κ : Type*} [DecidableEq κ] {p : κ → Prop} [DecidablePred p] {t : κ → Option ℤ}

/-- The number of a key; without a counter it is zero. -/
def val (t : κ → Option ℤ) (k : κ) : ℤ := (t k).getD 0

/-- Change the number of a key, if the key is one that is counted. -/
def bump (p : κ → Prop) [DecidablePred p] (t : κ → Option ℤ) (k : κ) (v : ℤ) (j : κ) : Option ℤ :=
  if j = k ∧ p k then (if val t k + v = 0 then none else some (val t k + v)) else t j

/-- Change the numbers of the keys of a list, one after the other. -/
def bumpAll (p : κ → Prop) [DecidablePred p] (t : κ → Option ℤ) (ks : List κ) (v : ℤ) :
    κ → Option ℤ :=
  ks.foldl (fun t k => bump p t k v) t

/-- **A tally counts a list**: the number of every key that is counted is that of its
occurrences. -/
def Counts (p : κ → Prop) (t : κ → Option ℤ) (l : List κ) : Prop :=
  ∀ k, p k → val t k = l.count k

/-- The numbers after one was changed. -/
lemma val_bump {j : κ} (hj : p j) (k : κ) (v : ℤ) :
    val (bump p t k v) j = val t j + if j = k then v else 0 := by
  by_cases hjk : j = k
  · subst hjk
    rw [val, bump, if_pos ⟨rfl, hj⟩, if_pos rfl]
    split_ifs with hzero
    · rw [Option.getD_none, hzero]
    · rw [Option.getD_some]
  · rw [val, bump, if_neg (fun h => hjk h.1), if_neg hjk, add_zero, val]

/-- **The numbers after many were changed.** -/
theorem val_bumpAll {j : κ} (hj : p j) (ks : List κ) (v : ℤ) :
    val (bumpAll p t ks v) j = val t j + v * ks.count j := by
  induction ks generalizing t with
  | nil => simp [bumpAll]
  | cons k ks ih =>
    have hrest : val (bumpAll p t (k :: ks) v) j = val (bump p t k v) j + v * ks.count j := ih
    rw [hrest, val_bump hj, List.count_cons]
    by_cases hjk : j = k
    · subst hjk
      simp only [if_true, beq_self_eq_true]
      push_cast
      ring
    · simp [hjk, Ne.symm hjk]

/-- The counters of other keys stay. -/
lemma bump_of_ne {j k : κ} (hjk : j ≠ k) (v : ℤ) : bump p t k v j = t j :=
  if_neg fun h => hjk h.1

/-- No counter is zero because it was changed. -/
lemma bump_eq_some_zero {j k : κ} {v : ℤ} (h : bump p t k v j = some 0) : t j = some 0 := by
  unfold bump at h
  split_ifs at h with hjk hzero
  · exact absurd (Option.some.inj h) hzero
  · exact h

/-- **A counter that is zero was never changed**, not by many changes either. -/
theorem bumpAll_eq_some_zero {j : κ} {ks : List κ} {v : ℤ} (h : bumpAll p t ks v j = some 0) :
    t j = some 0 := by
  induction ks generalizing t with
  | nil => exact h
  | cons k ks ih => exact bump_eq_some_zero (ih h)

omit [DecidablePred p] in
/-- What is counted does not depend on the order. -/
lemma Counts.perm {l l' : List κ} (h : Counts p t l) (hl : l.Perm l') : Counts p t l' :=
  fun k hk => by rw [h k hk, hl.count_eq]

/-- **A key is added.** -/
theorem Counts.cons {l : List κ} (h : Counts p t l) (k : κ) :
    Counts p (bump p t k 1) (k :: l) := by
  intro j hj
  rw [val_bump hj, h j hj, List.count_cons]
  by_cases hjk : j = k
  · simp [hjk]
  · simp [hjk, Ne.symm hjk]

/-- **Keys are taken out.** -/
theorem Counts.drop {ks l : List κ} (h : Counts p t (ks ++ l)) :
    Counts p (bumpAll p t ks (-1)) l := by
  intro j hj
  rw [val_bumpAll hj, h j hj, List.count_append]
  push_cast
  ring

end Tally
