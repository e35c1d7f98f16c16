import Mathlib.Data.List.Nodup
import Mathlib.Logic.Function.Basic

set_option relaxedAutoImplicit false
set_option autoImplicit false

/-!
# Sets of changes to a map

A map is kept up to date elsewhere by sending what has changed: each change gives a key a new
value or takes it away.  Where no key is changed twice, what the changes make of a map is seen
key by key, and applying them once more makes no difference.

## Main definitions

* `Changeset.Change` — a key with its new value, if it has one.
* `Changeset.applyAll` — a map after some changes.

## Main results

* `Changeset.applyAll_of_mem`, `Changeset.applyAll_of_notMem` — the map, key by key.
* `Changeset.applyAll_idem` — changes of different keys can be applied again.
-/

namespace Changeset

variable {κ ν : Type*} [DecidableEq κ]

/-- A change of a map: the new value of a key, or none when the key is taken away. -/
structure Change (κ ν : Type*) where
  key : κ
  value : Option ν

/-- The map after a change. -/
def Change.apply (m : κ → Option ν) (c : Change κ ν) : κ → Option ν :=
  Function.update m c.key c.value

/-- The map after some changes. -/
def applyAll (m : κ → Option ν) (cs : List (Change κ ν)) : κ → Option ν :=
  cs.foldl Change.apply m

@[simp] lemma applyAll_nil (m : κ → Option ν) : applyAll m [] = m := rfl

@[simp] lemma applyAll_cons (m : κ → Option ν) (c : Change κ ν) (cs : List (Change κ ν)) :
    applyAll m (c :: cs) = applyAll (c.apply m) cs := rfl

/-- A key that is not changed keeps its value. -/
theorem applyAll_of_notMem {k : κ} {cs : List (Change κ ν)} (h : k ∉ cs.map Change.key)
    (m : κ → Option ν) : applyAll m cs k = m k := by
  induction cs generalizing m with
  | nil => rfl
  | cons c cs ih =>
    rw [List.map_cons, List.mem_cons, not_or] at h
    rw [applyAll_cons, ih h.2, Change.apply, Function.update_of_ne h.1]

/-- A key that is changed once has the value that the change gives it. -/
theorem applyAll_of_mem {cs : List (Change κ ν)} (hnd : (cs.map Change.key).Nodup)
    {c : Change κ ν} (hc : c ∈ cs) (m : κ → Option ν) : applyAll m cs c.key = c.value := by
  induction cs generalizing m with
  | nil => simp at hc
  | cons d cs ih =>
    rw [List.map_cons, List.nodup_cons] at hnd
    rw [applyAll_cons]
    rcases List.mem_cons.1 hc with rfl | hc
    · rw [applyAll_of_notMem hnd.1, Change.apply, Function.update_self]
    · exact ih hnd.2 hc _

/-- **Changes of different keys can be applied again** without making a difference. -/
theorem applyAll_idem {cs : List (Change κ ν)} (hnd : (cs.map Change.key).Nodup)
    (m : κ → Option ν) : applyAll (applyAll m cs) cs = applyAll m cs := by
  funext k
  by_cases hk : k ∈ cs.map Change.key
  · obtain ⟨c, hc, rfl⟩ := List.mem_map.1 hk
    rw [applyAll_of_mem hnd hc, applyAll_of_mem hnd hc]
  · exact applyAll_of_notMem hk _

end Changeset
