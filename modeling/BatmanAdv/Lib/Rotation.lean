import Mathlib.Data.List.Nodup
import Mathlib.Data.List.Perm.Basic
import Mathlib.Data.Option.Basic
import Mathlib.Logic.Function.Iterate

set_option relaxedAutoImplicit false
set_option autoImplicit false

/-!
# Using items in turn

Something is called again and again, and each time returns one of some items.  It uses them in turn
if every `n` consecutive calls return each of the `n` items once.  Remembering nothing but the last
item and returning the first other one is not enough: only the first two items are ever returned.

## Main definitions

* `Rotation.outputs`, `Rotation.after` — what consecutive calls return, and the state they leave.
* `Rotation.InTurn` — every so many consecutive calls return each item once.
* `Rotation.other` — the first item that is not the last one.

## Main results

* `Rotation.inTurn_of_sim` — calls in lockstep return the items in turn together.
* `Rotation.inTurn_other_iff` — returning the first other item uses the items in turn if and only
  if there are two of them.
-/

namespace Rotation

variable {σ τ α : Type*}

/-- What `n` consecutive calls return. -/
def outputs (call : σ → α × σ) : ℕ → σ → List α
  | 0, _ => []
  | n + 1, s => (call s).1 :: outputs call n (call s).2

/-- The state after `n` calls. -/
def after (call : σ → α × σ) (n : ℕ) (s : σ) : σ := (fun s => (call s).2)^[n] s

/-- From a state on, every so many consecutive calls return each of the items once. -/
def InTurn (call : σ → α × σ) (items : List α) (s : σ) : Prop :=
  ∀ k, (outputs call items.length (after call k s)).Perm items

/-! ### Lockstep -/

section Sim

variable {call : σ → α × σ} {call' : τ → α × τ} {R : σ → τ → Prop}

/-- Calls in lockstep return the same. -/
lemma outputs_of_sim
    (hsim : ∀ s t, R s t → (call s).1 = (call' t).1 ∧ R (call s).2 (call' t).2)
    {s : σ} {t : τ} (h : R s t) (n : ℕ) : outputs call n s = outputs call' n t := by
  induction n generalizing s t with
  | zero => rfl
  | succ n ih =>
    obtain ⟨hout, hnext⟩ := hsim s t h
    rw [outputs, outputs, hout, ih hnext]

/-- They stay in lockstep. -/
lemma after_of_sim
    (hsim : ∀ s t, R s t → (call s).1 = (call' t).1 ∧ R (call s).2 (call' t).2)
    {s : σ} {t : τ} (h : R s t) (n : ℕ) : R (after call n s) (after call' n t) := by
  induction n generalizing s t with
  | zero => exact h
  | succ n ih => exact ih (hsim s t h).2

/-- **Calls in lockstep** return the items in turn together. -/
theorem inTurn_of_sim
    (hsim : ∀ s t, R s t → (call s).1 = (call' t).1 ∧ R (call s).2 (call' t).2)
    {s : σ} {t : τ} (h : R s t) (items : List α) :
    InTurn call items s ↔ InTurn call' items t := by
  unfold InTurn
  refine forall_congr' fun k => ?_
  rw [outputs_of_sim hsim (after_of_sim hsim h k)]

end Sim

/-! ### The first other item -/

section Other

variable [DecidableEq α]

/-- The first item that is not the last one. -/
def other (items : List α) (last : Option α) : Option α :=
  items.find? fun a => decide (last ≠ some a)

/-- Its calls: the item that is returned is remembered. -/
def callOther (items : List α) (last : Option α) : Option α × Option α :=
  (other items last, other items last)

/-- Only the first two items are ever returned. -/
lemma other_cons_cons {a b : α} (hab : a ≠ b) (items : List α) (last : Option α) :
    other (a :: b :: items) last = if last = some a then some b else some a := by
  unfold other
  split_ifs with h
  · subst h
    simp [hab]
  · simp [h]

omit [DecidableEq α] in
/-- There are two different items at the front. -/
lemma exists_cons_cons {items : List α} (hn : 2 ≤ items.length) (hnodup : items.Nodup) :
    ∃ a b rest, items = a :: b :: rest ∧ a ≠ b := by
  match items, hn with
  | a :: b :: rest, _ =>
    refine ⟨a, b, rest, rfl, ?_⟩
    rintro rfl
    simp at hnodup

/-- Of two different items one is not the last one. -/
lemma other_isSome {items : List α} (hn : 2 ≤ items.length) (hnodup : items.Nodup)
    (last : Option α) : (other items last).isSome := by
  obtain ⟨a, b, rest, rfl, hab⟩ := exists_cons_cons hn hnodup
  rw [other_cons_cons hab]
  split_ifs <;> rfl

/-- After the first item comes the second. -/
lemma outputs_other_of_eq {a b : α} (hab : a ≠ b) (items : List α) (n : ℕ) :
    outputs (callOther (a :: b :: items)) (n + 1) (some a) =
      some b :: outputs (callOther (a :: b :: items)) n (some b) := by
  simp only [outputs, callOther, other_cons_cons hab, if_true]

/-- After anything else comes the first. -/
lemma outputs_other_of_ne {a b : α} (hab : a ≠ b) (items : List α) (n : ℕ) {last : Option α}
    (h : last ≠ some a) :
    outputs (callOther (a :: b :: items)) (n + 1) last =
      some a :: outputs (callOther (a :: b :: items)) n (some a) := by
  simp only [outputs, callOther, other_cons_cons hab, h, if_false]

/-- **Returning the first other item** uses the items in turn if and only if there are two of
them.

**Proof sketch.** With two items the calls alternate.  With three, the third call returns what the
first one did. -/
theorem inTurn_other_iff {items : List α} (hn : 2 ≤ items.length) (hnodup : items.Nodup)
    (last : Option α) :
    InTurn (callOther items) (items.map some) last ↔ items.length = 2 := by
  obtain ⟨a, b, rest, rfl, hab⟩ := exists_cons_cons hn hnodup
  have hba : (some b : Option α) ≠ some a := fun h => hab (Option.some.inj h).symm
  constructor
  · intro h
    have hout := (h 0).nodup_iff.2 (hnodup.map (Option.some_injective α))
    cases rest with
    | nil => rfl
    | cons c rest =>
      -- the third of the calls repeats the first
      exfalso
      rw [List.length_map] at hout
      by_cases hlast : last = some a
      · subst hlast
        rw [after, Function.iterate_zero_apply, List.length_cons, outputs_other_of_eq hab,
          List.length_cons, outputs_other_of_ne hab _ _ hba, List.length_cons,
          outputs_other_of_eq hab] at hout
        simp at hout
      · rw [after, Function.iterate_zero_apply, List.length_cons,
          outputs_other_of_ne hab _ _ hlast, List.length_cons, outputs_other_of_eq hab,
          List.length_cons, outputs_other_of_ne hab _ _ hba] at hout
        simp at hout
  · intro hlen k
    obtain rfl : rest = [] := by simpa using hlen
    change (outputs _ 2 _).Perm _
    by_cases hlast : after (callOther [a, b]) k last = some a
    · rw [hlast, outputs_other_of_eq hab, outputs_other_of_ne hab _ _ hba]
      exact List.Perm.swap _ _ _
    · rw [outputs_other_of_ne hab _ _ hlast, outputs_other_of_eq hab]
      exact List.Perm.refl _

end Other

end Rotation
