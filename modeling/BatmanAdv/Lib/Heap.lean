import Mathlib.Data.List.Perm.Basic
import Mathlib.Data.List.Nodup

set_option relaxedAutoImplicit false
set_option autoImplicit false

/-!
# Objects in memory

The objects of one type that are in memory, as a list.  Every object carries the address it is at,
and no two objects share one.  An object is changed in place, and it is freed.

## Main definitions

* `Heap.get?`, `Heap.modify`, `Heap.free` — read, change and free the object at an address.

## Main results

* `Heap.modify_perm`, `Heap.perm_free` — the object at an address, and the others.
* `Heap.get?_eq_some_iff` — what is read is what is there.
-/

namespace Heap

variable {α β : Type*} (addr : α → ℕ)

/-- The object at an address. -/
def get? (p : ℕ) (l : List α) : Option α := l.find? fun a => addr a == p

/-- Change the object at an address. -/
def modify (p : ℕ) (f : α → α) (l : List α) : List α := l.map fun a => if addr a = p then f a else a

/-- Free the object at an address. -/
def free (p : ℕ) (l : List α) : List α := l.filter fun a => addr a ≠ p

variable {addr} {p : ℕ} {f : α → α} {l : List α}

/-- What is read is what is there. -/
lemma get?_eq_some_iff (h : (l.map addr).Nodup) {a : α} :
    get? addr p l = some a ↔ a ∈ l ∧ addr a = p := by
  constructor
  · intro hget
    exact ⟨List.mem_of_find?_eq_some hget, by simpa using List.find?_some hget⟩
  · rintro ⟨hmem, rfl⟩
    cases hget : get? addr (addr a) l with
    | none =>
      have hne := List.find?_eq_none.1 hget a hmem
      simp at hne
    | some b =>
      have hb : b ∈ l := List.mem_of_find?_eq_some hget
      have haddr : addr b = addr a := by simpa using List.find?_some hget
      rw [List.inj_on_of_nodup_map h hb hmem haddr]

lemma mem_modify {a : α} :
    a ∈ modify addr p f l ↔ ∃ b ∈ l, (if addr b = p then f b else b) = a := List.mem_map

/-- The object that was changed. -/
lemma mem_modify_self {a : α} (ha : a ∈ l) : f a ∈ modify addr (addr a) f l :=
  mem_modify.2 ⟨a, ha, if_pos rfl⟩

/-- Changing an object before it is freed. -/
lemma free_modify (hptr : ∀ a ∈ l, addr a = p → addr (f a) = p) :
    free addr p (modify addr p f l) = free addr p l := by
  induction l with
  | nil => rfl
  | cons a l ih =>
    rw [List.forall_mem_cons] at hptr
    have ih := ih hptr.2
    unfold modify free at ih ⊢
    rw [List.map_cons]
    split_ifs with hp
    · rw [List.filter_cons_of_neg (by simpa using hptr.1 hp), ih,
        List.filter_cons_of_neg (by simpa using hp)]
    · rw [List.filter_cons_of_pos (by simpa using hp), List.filter_cons_of_pos (by simpa using hp),
        ih]

lemma mem_free {a : α} : a ∈ free addr p l ↔ a ∈ l ∧ addr a ≠ p := by simp [free]

/-- A field that a change keeps. -/
lemma map_modify {π : α → β} (h : ∀ a ∈ l, addr a = p → π (f a) = π a) :
    (modify addr p f l).map π = l.map π := by
  unfold modify
  rw [List.map_map]
  apply List.map_congr_left
  intro a ha
  show π (if addr a = p then f a else a) = π a
  split_ifs with hp
  · exact h a ha hp
  · rfl

/-- What a change keeps of the objects that are selected, if it keeps the selection. -/
lemma map_filter_modify {π : α → β} {q : α → Bool}
    (hq : ∀ a ∈ l, addr a = p → q (f a) = q a) (hπ : ∀ a ∈ l, addr a = p → π (f a) = π a) :
    ((modify addr p f l).filter q).map π = (l.filter q).map π := by
  induction l with
  | nil => rfl
  | cons a l ih =>
    rw [List.forall_mem_cons] at hq hπ
    have ih := ih hq.2 hπ.2
    unfold modify at ih ⊢
    rw [List.map_cons]
    have hqa : q (if addr a = p then f a else a) = q a := by
      split_ifs with hp
      · exact hq.1 hp
      · rfl
    have hπa : π (if addr a = p then f a else a) = π a := by
      split_ifs with hp
      · exact hπ.1 hp
      · rfl
    by_cases ha : q a = true
    · rw [List.filter_cons_of_pos (hqa.trans ha), List.filter_cons_of_pos ha, List.map_cons,
        List.map_cons, hπa, ih]
    · rw [List.filter_cons_of_neg (by rw [hqa]; exact ha), List.filter_cons_of_neg ha, ih]

/-- Searching after a change that keeps the selection. -/
lemma find?_modify {q : α → Bool} (hq : ∀ a ∈ l, addr a = p → q (f a) = q a) :
    (modify addr p f l).find? q = (l.find? q).map fun a => if addr a = p then f a else a := by
  unfold modify
  rw [List.find?_map]
  congr 1
  induction l with
  | nil => rfl
  | cons a l ih =>
    rw [List.forall_mem_cons] at hq
    have ha : (q ∘ fun a => if addr a = p then f a else a) a = q a := by
      show q (if addr a = p then f a else a) = q a
      split_ifs with hp
      · exact hq.1 hp
      · rfl
    rw [List.find?_cons, List.find?_cons, ha, ih hq.2]

/-- A change that takes an object out of the selection. -/
lemma filter_modify_of_not {q : α → Bool} (hq : ∀ a ∈ l, addr a = p → q (f a) = false) :
    (modify addr p f l).filter q = (free addr p l).filter q := by
  induction l with
  | nil => rfl
  | cons a l ih =>
    rw [List.forall_mem_cons] at hq
    have ih := ih hq.2
    unfold modify free at ih ⊢
    rw [List.map_cons]
    split_ifs with hp
    · rw [List.filter_cons_of_neg (by rw [hq.1 hp]; simp), ih,
        List.filter_cons_of_neg (by simpa using hp)]
    · rw [List.filter_cons_of_pos (p := fun a => decide (addr a ≠ p)) (by simpa using hp)]
      by_cases ha : q a = true
      · rw [List.filter_cons_of_pos ha, List.filter_cons_of_pos ha, ih]
      · rw [List.filter_cons_of_neg ha, List.filter_cons_of_neg ha, ih]

/-- **The object at an address, and the others**, after it was changed. -/
theorem modify_perm (h : (l.map addr).Nodup) {a : α} (ha : a ∈ l) :
    (modify addr (addr a) f l).Perm (f a :: free addr (addr a) l) := by
  induction l with
  | nil => simp at ha
  | cons b l ih =>
    rw [List.map_cons, List.nodup_cons] at h
    rcases List.mem_cons.1 ha with rfl | hmem
    · -- no other object is at the address
      have hother : ∀ b ∈ l, addr b ≠ addr a := fun b hb heq =>
        h.1 (heq ▸ List.mem_map_of_mem hb)
      have hmodify : modify addr (addr a) f l = l := by
        unfold modify
        conv_rhs => rw [← List.map_id l]
        exact List.map_congr_left fun b hb => if_neg (hother b hb)
      have hfree : free addr (addr a) (a :: l) = l := by
        unfold free
        rw [List.filter_cons_of_neg (by simp)]
        exact List.filter_eq_self.2 fun b hb => by simpa using hother b hb
      rw [hfree]
      show ((if addr a = addr a then f a else a) :: modify addr (addr a) f l).Perm (f a :: l)
      rw [if_pos rfl, hmodify]
    · have hne : addr b ≠ addr a := fun heq => h.1 (heq ▸ List.mem_map_of_mem hmem)
      have hfree : free addr (addr a) (b :: l) = b :: free addr (addr a) l :=
        List.filter_cons_of_pos (by simpa using hne)
      rw [hfree]
      show ((if addr b = addr a then f b else b) :: modify addr (addr a) f l).Perm _
      rw [if_neg hne]
      exact ((ih h.2 hmem).cons b).trans (List.Perm.swap _ _ _)

/-- **The object at an address, and the others.** -/
theorem perm_free (h : (l.map addr).Nodup) {a : α} (ha : a ∈ l) :
    l.Perm (a :: free addr (addr a) l) := by
  have hperm := modify_perm (f := id) h ha
  have hmodify : modify addr (addr a) id l = l := by simp [modify]
  rwa [hmodify] at hperm

/-- Freeing keeps the addresses apart. -/
lemma nodup_free {π : α → β} (h : (l.map π).Nodup) : ((free addr p l).map π).Nodup :=
  (List.filter_sublist.map π).nodup h

end Heap
