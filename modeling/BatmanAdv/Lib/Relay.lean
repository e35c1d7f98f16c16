import Mathlib.Data.List.Basic

set_option relaxedAutoImplicit false
set_option autoImplicit false

/-!
# Values that are relayed

A value is passed on along a path of relays.  Each of them passes on what it makes of the value, or
drops it.  What every single relay does to its value, by a relation that can be chained, holds
between any two places of a path; and relays that keep the order of two values keep it along every
path.

## Main definitions

* `Relay.along` — the values on a path, up to where it is dropped.

## Main results

* `Relay.along_pairwise` — how two values on a path are related.
* `Relay.along_mono` — two values that take the same path.
-/

namespace Relay

variable {ν α : Type*} {relay : ν → α → Option α} {r : α → α → Prop}

/-- The values on a path, the first one included, up to where it is dropped. -/
def along (relay : ν → α → Option α) : List ν → α → List α
  | [], x => [x]
  | n :: path, x => x :: (relay n x).elim [] (along relay path)

/-- **What relays do to a value** is what a path does to it.

**Proof sketch.** Induction on the path: whatever the first value has to the second one, it has to
those behind it. -/
theorem along_pairwise (htrans : ∀ {x y z}, r x y → r y z → r x z)
    (hrelay : ∀ n x y, relay n x = some y → r x y) (path : List ν) (x : α) :
    (along relay path x).Pairwise r := by
  induction path generalizing x with
  | nil => exact List.pairwise_singleton r x
  | cons n path ih =>
    rw [along]
    cases hnext : relay n x with
    | none => exact List.pairwise_singleton r x
    | some y =>
      have hxy : r x y := hrelay n x y hnext
      refine List.pairwise_cons.2 ⟨fun z hz => ?_, ih y⟩
      cases path with
      | nil =>
        rw [List.mem_singleton.1 hz]
        exact hxy
      | cons m path =>
        rcases List.mem_cons.1 hz with rfl | hz'
        · exact hxy
        · exact htrans hxy ((List.pairwise_cons.1 (ih y)).1 z hz')

/-- **Relays that keep the order of two values** keep it along every path, and the larger one is not
dropped before the other one.

**Proof sketch.** Induction on the path. -/
theorem along_mono
    (hrelay : ∀ n x x' y, r x x' → relay n x = some y → ∃ y', relay n x' = some y' ∧ r y y')
    {path : List ν} {x x' : α} (hx : r x x') {i : ℕ} {y : α}
    (hy : (along relay path x)[i]? = some y) :
    ∃ y', (along relay path x')[i]? = some y' ∧ r y y' := by
  induction path generalizing x x' i with
  | nil =>
    cases i with
    | zero =>
      obtain rfl : x = y := Option.some.inj hy
      exact ⟨x', rfl, hx⟩
    | succ i => cases hy
  | cons n path ih =>
    rw [along] at hy ⊢
    cases i with
    | zero =>
      obtain rfl : x = y := Option.some.inj hy
      exact ⟨x', rfl, hx⟩
    | succ i =>
      rw [List.getElem?_cons_succ] at hy ⊢
      cases hnext : relay n x with
      | none =>
        rw [hnext] at hy
        cases hy
      | some z =>
        obtain ⟨z', hnext', hz⟩ := hrelay n x x' z hx hnext
        rw [hnext] at hy
        rw [hnext']
        exact ih hz hy

end Relay
