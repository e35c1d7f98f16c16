import Mathlib.Data.Int.Notation
import Mathlib.Data.List.Nodup

set_option relaxedAutoImplicit false
set_option autoImplicit false

/-!
# Counted lists

Those objects that have a property are linked into a list, and counted, whenever an object gets
the property or loses it.

## Main definitions

* `CountedList.update` — the list when the property of an object changes.
* `CountedList.Agrees` — the list and its counter agree with a predicate.

## Main results

* `CountedList.Agrees.update` — an update keeps the agreement.
-/

/-- A list of objects, and their number. -/
structure CountedList (ι : Type*) where
  num : ℤ
  list : List ι
deriving DecidableEq, Repr

namespace CountedList

variable {ι : Type*}

/-- The list without any object. -/
def empty : CountedList ι := ⟨0, []⟩

/-- **A list agrees with a predicate**: it has every object that satisfies it once, and counts
them. -/
structure Agrees (l : CountedList ι) (p : ι → Prop) : Prop where
  num : l.num = l.list.length
  nodup : l.list.Nodup
  mem : ∀ i, i ∈ l.list ↔ p i

/-- The list when an object's property was `old`, and is now `new`. -/
def update [DecidableEq ι] (l : CountedList ι) (i : ι) (old new : Bool) : CountedList ι :=
  -- switched from unset to set
  if new && !old then ⟨l.num + 1, i :: l.list⟩
  -- switched from set to unset
  else if !new && old then ⟨l.num - 1, l.list.erase i⟩
  else l

lemma Agrees.empty {p : ι → Prop} (h : ∀ i, ¬p i) : (empty : CountedList ι).Agrees p :=
  ⟨rfl, List.nodup_nil, fun i => iff_of_false List.not_mem_nil (h i)⟩

lemma Agrees.congr {l : CountedList ι} {p q : ι → Prop} (h : l.Agrees p) (hpq : ∀ i, p i ↔ q i) :
    l.Agrees q :=
  ⟨h.num, h.nodup, fun i => (h.mem i).trans (hpq i)⟩

/-- The counter of a list that agrees is not negative. -/
lemma Agrees.num_nonneg {l : CountedList ι} {p : ι → Prop} (h : l.Agrees p) : 0 ≤ l.num := by
  rw [h.num]
  exact Int.natCast_nonneg _

variable [DecidableEq ι]

/-- **An update keeps the agreement**, where the predicate changes as the property of the object
does. -/
theorem Agrees.update {l : CountedList ι} {p q : ι → Prop} (h : l.Agrees p) {i : ι}
    {old new : Bool} (hold : old = true ↔ p i) (hnew : new = true ↔ q i)
    (hother : ∀ j, j ≠ i → (q j ↔ p j)) : (l.update i old new).Agrees q := by
  unfold CountedList.update
  split_ifs with hset hunset
  · -- the object is new
    obtain ⟨rfl, rfl⟩ : new = true ∧ old = false := by simpa using hset
    have hi : i ∉ l.list := fun hmem => Bool.false_ne_true (hold.2 ((h.mem i).1 hmem))
    refine ⟨by simp [h.num], List.nodup_cons.2 ⟨hi, h.nodup⟩, fun j => ?_⟩
    rw [List.mem_cons]
    by_cases hj : j = i
    · exact iff_of_true (.inl hj) (hj ▸ hnew.1 rfl)
    · rw [or_iff_right hj, h.mem, hother j hj]
  · -- the object goes
    obtain ⟨rfl, rfl⟩ : new = false ∧ old = true := by simpa using hunset
    have hi : i ∈ l.list := (h.mem i).2 (hold.1 rfl)
    refine ⟨?_, h.nodup.erase i, fun j => ?_⟩
    · have hpos := List.length_pos_of_mem hi
      show l.num - 1 = ((l.list.erase i).length : ℤ)
      rw [h.num, List.length_erase_of_mem hi]
      omega
    · rw [h.nodup.mem_erase_iff]
      by_cases hj : j = i
      · refine iff_of_false (fun hmem => hmem.1 hj) fun hq => ?_
        exact Bool.false_ne_true (hnew.2 (hj ▸ hq))
      · rw [h.mem, hother j hj, and_iff_right hj]
  · -- nothing changes
    have heq : old = new := by
      revert hset hunset
      cases old <;> cases new <;> simp
    refine h.congr fun j => ?_
    by_cases hj : j = i
    · rw [hj, ← hold, ← hnew, heq]
    · exact (hother j hj).symm

end CountedList
