import Mathlib.Data.List.Basic
import Mathlib.Logic.Function.Basic

set_option relaxedAutoImplicit false
set_option autoImplicit false

/-!
# Linked lists in memory

A memory holds cells with a value and a pointer to the next cell.  A list of addresses and values is
linked in a memory if each of its cells is there and points to the one after it.  What lies behind
the last cell is a parameter, so that a part of a list is described like a whole one.

## Main definitions

* `LinkedList.Cell`, `LinkedList.Mem` — a cell, and what is in memory.
* `LinkedList.headPtr`, `LinkedList.lastPtr` — the pointers to the first and the last cell.
* `LinkedList.Linked` — a list is linked in a memory.

## Main results

* `LinkedList.linked_append` — two parts of a list.
* `LinkedList.Linked.congr`, `LinkedList.Linked.update` — what a list does not depend on.
* `LinkedList.Linked.setNext` — the last cell gets another successor.
* `LinkedList.Linked.unique` — the list from a pointer on.
-/

namespace LinkedList

variable {α : Type*}

/-- A cell of a linked list. -/
structure Cell (α : Type*) where
  /-- the value in the cell -/
  data : α
  /-- the address of the next cell -/
  next : Option ℕ
deriving DecidableEq

/-- A memory: the cell at each address, if there is one. -/
abbrev Mem (α : Type*) := ℕ → Option (Cell α)

/-- The pointer to the first cell of a list, or to what lies behind an empty one. -/
def headPtr (q : Option ℕ) : List (ℕ × α) → Option ℕ
  | [] => q
  | c :: _ => some c.1

/-- The pointer to the last cell of a list. -/
def lastPtr (l : List (ℕ × α)) : Option ℕ := l.getLast?.map Prod.fst

/-- **A list is linked in a memory**, with a pointer to `q` in its last cell. -/
def Linked (mem : Mem α) (q : Option ℕ) : List (ℕ × α) → Prop
  | [] => True
  | c :: l => mem c.1 = some ⟨c.2, headPtr q l⟩ ∧ Linked mem q l

variable {mem mem' : Mem α} {q q' : Option ℕ} {c : ℕ × α} {l r : List (ℕ × α)}

@[simp] lemma headPtr_nil : headPtr q ([] : List (ℕ × α)) = q := rfl

@[simp] lemma headPtr_cons : headPtr q (c :: l) = some c.1 := rfl

lemma headPtr_append : headPtr q (l ++ r) = headPtr (headPtr q r) l := by cases l <;> rfl

@[simp] lemma lastPtr_nil : lastPtr ([] : List (ℕ × α)) = none := rfl

@[simp] lemma lastPtr_concat : lastPtr (l ++ [c]) = some c.1 := by simp [lastPtr]

@[simp] lemma linked_nil : Linked mem q [] ↔ True := Iff.rfl

@[simp] lemma linked_cons :
    Linked mem q (c :: l) ↔ mem c.1 = some ⟨c.2, headPtr q l⟩ ∧ Linked mem q l := Iff.rfl

/-- **Two parts of a list**: the first one ends where the second one begins. -/
lemma linked_append :
    Linked mem q (l ++ r) ↔ Linked mem (headPtr q r) l ∧ Linked mem q r := by
  induction l with
  | nil => simp
  | cons c l ih => rw [List.cons_append, linked_cons, linked_cons, ih, headPtr_append, and_assoc]

/-- A list depends on its own cells alone. -/
lemma Linked.congr (h : Linked mem q l) (hmem : ∀ a ∈ l.map Prod.fst, mem' a = mem a) :
    Linked mem' q l := by
  induction l with
  | nil => trivial
  | cons c l ih =>
    rw [List.map_cons, List.forall_mem_cons] at hmem
    exact ⟨hmem.1.trans h.1, ih h.2 hmem.2⟩

/-- A list does not depend on a cell elsewhere. -/
lemma Linked.update {a : ℕ} {x : Option (Cell α)} (h : Linked mem q l)
    (ha : a ∉ l.map Prod.fst) : Linked (Function.update mem a x) q l :=
  h.congr fun _ hb => Function.update_of_ne (ne_of_mem_of_not_mem hb ha) _ _

/-- **The last cell gets another successor.** -/
lemma Linked.setNext (h : Linked mem q (l ++ [c])) (hc : c.1 ∉ l.map Prod.fst) :
    Linked (Function.update mem c.1 (some ⟨c.2, q'⟩)) q' (l ++ [c]) := by
  rw [linked_append] at h ⊢
  refine ⟨h.1.update hc, ?_, trivial⟩
  rw [Function.update_self, headPtr_nil]

/-- **A memory holds at most one list from a pointer on.** -/
lemma Linked.unique (h : Linked mem none l) (h' : Linked mem none r)
    (hhead : headPtr none l = headPtr none r) : l = r := by
  induction l generalizing r with
  | nil => cases r with
    | nil => rfl
    | cons d r => exact absurd hhead (by simp)
  | cons c l ih => cases r with
    | nil => exact absurd hhead (by simp)
    | cons d r =>
      have haddr : c.1 = d.1 := Option.some.inj hhead
      have hcell : some (⟨c.2, headPtr none l⟩ : Cell α) = some ⟨d.2, headPtr none r⟩ := by
        rw [← h.1, ← h'.1, haddr]
      simp only [Option.some.injEq, Cell.mk.injEq] at hcell
      rw [Prod.ext haddr hcell.1, ih h.2 h'.2 hcell.2]

end LinkedList
