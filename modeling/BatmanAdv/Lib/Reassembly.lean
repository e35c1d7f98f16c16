import Mathlib.Algebra.Order.Ring.Nat
import Mathlib.Data.List.Sort

set_option relaxedAutoImplicit false
set_option autoImplicit false

/-!
# Putting pieces together

A whole is cut into pieces that are kept in a strict order, and each of which has a positive weight.
Someone who collects pieces of it, in the same order, can tell by their total weight alone whether
all of them are there.

## Main definitions

* `Reassembly.weight` — the total weight of some pieces.

## Main results

* `Reassembly.eq_of_sublist` — a part with the weight of the whole is the whole.
* `Reassembly.weight_eq_iff` — pieces collected in order have the weight of the whole exactly when
  they are the whole.
-/

namespace Reassembly

variable {α : Type*} (size : α → ℕ)

/-- The total weight of some pieces. -/
def weight (l : List α) : ℕ := (l.map size).sum

@[simp] lemma weight_nil : weight size [] = 0 := rfl

@[simp] lemma weight_cons (a : α) (l : List α) : weight size (a :: l) = size a + weight size l :=
  List.sum_cons

/-- The weight does not depend on the order. -/
lemma weight_perm {l l' : List α} (h : l.Perm l') : weight size l = weight size l' :=
  (h.map size).sum_nat

/-- A part weighs at most as much as the whole. -/
lemma weight_le_of_sublist {l whole : List α} (h : l.Sublist whole) :
    weight size l ≤ weight size whole := by
  induction h with
  | slnil => exact le_rfl
  | cons a _ ih => rw [weight_cons]; omega
  | cons_cons a _ ih => rw [weight_cons, weight_cons]; omega

/-- A piece weighs at most as much as the whole. -/
lemma le_weight_of_mem {a : α} {whole : List α} (h : a ∈ whole) : size a ≤ weight size whole := by
  simpa using weight_le_of_sublist size (List.singleton_sublist.2 h)

variable {size}

/-- **A part with the weight of the whole is the whole.**

**Proof sketch.** Induction along the part: a piece that is left out takes its positive weight with
it, and what is left cannot make up for it. -/
theorem eq_of_sublist {l whole : List α} (h : l.Sublist whole) (hpos : ∀ a ∈ whole, 0 < size a)
    (hweight : weight size l = weight size whole) : l = whole := by
  induction h with
  | slnil => rfl
  | cons a hsub _ =>
    have hle := weight_le_of_sublist size hsub
    have ha := hpos a List.mem_cons_self
    rw [weight_cons] at hweight
    omega
  | cons_cons a _ ih =>
    rw [weight_cons, weight_cons] at hweight
    rw [ih (fun b hb => hpos b (List.mem_cons_of_mem a hb)) (by omega)]

/-- Pieces that are kept in the order of the whole are a part of it. -/
lemma sublist_of_subset {r : α → α → Prop} [Std.Antisymm r] [Std.Irrefl r] {l whole : List α}
    (hl : l.Pairwise r) (hwhole : whole.Pairwise r) (hsub : l ⊆ whole) : l.Sublist whole :=
  List.sublist_of_subperm_of_pairwise (List.subperm_of_subset hl.nodup hsub) hl hwhole

/-- **Complete by weight**: pieces that are kept in the order of the whole have its weight exactly
when they are the whole. -/
theorem weight_eq_iff {r : α → α → Prop} [Std.Antisymm r] [Std.Irrefl r] {l whole : List α}
    (hl : l.Pairwise r) (hwhole : whole.Pairwise r) (hsub : l ⊆ whole)
    (hpos : ∀ a ∈ whole, 0 < size a) : weight size l = weight size whole ↔ l = whole :=
  ⟨eq_of_sublist (sublist_of_subset hl hwhole hsub) hpos, fun h => h ▸ rfl⟩

end Reassembly
