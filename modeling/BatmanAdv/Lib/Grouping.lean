import Mathlib.Data.List.Basic

set_option relaxedAutoImplicit false
set_option autoImplicit false

/-!
# Grouping a list by a partial key

The elements of a list that have the same key make a group.  Elements without a key belong to
none.  The groups are in the order of their first elements, and the elements of a group in the
order of the list.

## Main definitions

* `Grouping.groups` — the keys with their groups.

## Main results

* `Grouping.nodup_keys`, `Grouping.mem_keys` — each key of an element has one group.
* `Grouping.mem_groups` — what is in a group.
* `Grouping.groups_map` — clearing the key of some elements.
-/

namespace Grouping

variable {α β : Type*} [DecidableEq β] (key : α → Option β)

/-- The keys of a list, each with the elements that have it. -/
def groups : List α → List (β × List α)
  | [] => []
  | a :: l =>
    match key a with
    | none => groups l
    | some b =>
      (b, a :: l.filter fun x => key x = some b) :: groups (l.filter fun x => key x ≠ some b)
termination_by l => l.length
decreasing_by
  · simp
  · simp only [List.length_cons, Nat.lt_succ_iff, List.length_unattach]
    exact Nat.le_trans (List.length_filter_le _ l.attach) (Nat.le_of_eq List.length_attach)

variable {key}

@[simp] lemma groups_nil : groups key [] = [] := by
  rw [groups]

/-- An element without a key does not matter. -/
lemma groups_cons_of_none {a : α} (h : key a = none) (l : List α) :
    groups key (a :: l) = groups key l := by
  rw [groups, h]

/-- The first element with a key makes the first group. -/
lemma groups_cons_of_some {a : α} {b : β} (h : key a = some b) (l : List α) :
    groups key (a :: l) = (b, a :: l.filter fun x => key x = some b) ::
      groups key (l.filter fun x => key x ≠ some b) := by
  rw [groups, h]

variable (key) in
/-- A rule of induction that follows the groups. -/
lemma groups_induction {P : List α → Prop} (nil : P [])
    (skip : ∀ a l, key a = none → P l → P (a :: l))
    (group : ∀ a l b, key a = some b → P (l.filter fun x => key x ≠ some b) → P (a :: l))
    (l : List α) : P l := by
  induction hn : l.length using Nat.strongRecOn generalizing l with
  | ind n ih =>
    cases l with
    | nil => exact nil
    | cons a l =>
      rw [List.length_cons] at hn
      cases hkey : key a with
      | none => exact skip a l hkey (ih l.length (by omega) l rfl)
      | some b =>
        have hle : (l.filter fun x => key x ≠ some b).length ≤ l.length := List.length_filter_le _ l
        exact group a l b hkey (ih _ (by omega) _ rfl)

/-- **The keys** are those of the elements. -/
theorem mem_keys {b : β} {l : List α} :
    b ∈ (groups key l).map Prod.fst ↔ ∃ a ∈ l, key a = some b := by
  induction l using groups_induction key with
  | nil => simp
  | skip a l hkey ih => simp [groups_cons_of_none hkey, ih, hkey]
  | group a l c hkey ih =>
    rw [groups_cons_of_some hkey, List.map_cons, List.mem_cons, ih]
    by_cases hbc : b = c
    · subst hbc
      simp [hkey]
    · simp only [hbc, false_or, List.mem_filter, decide_eq_true_eq, List.exists_mem_cons_iff, hkey,
        Option.some.injEq, Ne.symm hbc]
      constructor
      · rintro ⟨x, ⟨hx, -⟩, hxb⟩
        exact ⟨x, hx, hxb⟩
      · rintro ⟨x, hx, hxb⟩
        exact ⟨x, ⟨hx, by simpa [hxb] using hbc⟩, hxb⟩

/-- **Each key has one group.** -/
theorem nodup_keys (l : List α) : ((groups key l).map Prod.fst).Nodup := by
  induction l using groups_induction key with
  | nil => simp
  | skip a l hkey ih => rwa [groups_cons_of_none hkey]
  | group a l b hkey ih =>
    rw [groups_cons_of_some hkey, List.map_cons, List.nodup_cons, mem_keys]
    refine ⟨?_, ih⟩
    rintro ⟨x, hx, hxb⟩
    exact absurd hxb (by simpa using (List.mem_filter.1 hx).2)

/-- **A group** has the elements with its key. -/
theorem mem_groups {l : List α} {g : β × List α} (h : g ∈ groups key l) :
    g.2 = l.filter fun x => key x = some g.1 := by
  induction l using groups_induction key with
  | nil => simp at h
  | skip a l hkey ih =>
    rw [groups_cons_of_none hkey] at h
    rw [ih h, List.filter_cons_of_neg (by simp [hkey])]
  | group a l b hkey ih =>
    rw [groups_cons_of_some hkey, List.mem_cons] at h
    rcases h with rfl | h
    · rw [List.filter_cons_of_pos (by simp [hkey])]
    · have hne : g.1 ≠ b := by
        rintro rfl
        obtain ⟨x, hx, hxb⟩ := mem_keys.1 (List.mem_map_of_mem h)
        exact absurd hxb (by simpa using (List.mem_filter.1 hx).2)
      rw [ih h, List.filter_cons_of_neg (by simpa [hkey] using hne.symm), List.filter_filter]
      refine List.filter_congr fun x _ => ?_
      by_cases hx : key x = some g.1
      · simp [hx, hne]
      · simp [hx]

/-- Elements without a key do not matter. -/
lemma groups_filter_isSome (l : List α) :
    groups key (l.filter fun x => (key x).isSome) = groups key l := by
  induction l using groups_induction key with
  | nil => simp
  | skip a l hkey ih =>
    rw [groups_cons_of_none hkey, List.filter_cons_of_neg (by simp [hkey]), ih]
  | group a l b hkey ih =>
    have hsame : (l.filter fun x => (key x).isSome).filter (fun x => decide (key x = some b)) =
        l.filter fun x => decide (key x = some b) := by
      rw [List.filter_filter]
      refine List.filter_congr fun x _ => ?_
      by_cases hx : key x = some b
      · simp [hx]
      · simp [hx]
    have hrest : (l.filter fun x => (key x).isSome).filter (fun x => decide (key x ≠ some b)) =
        (l.filter fun x => decide (key x ≠ some b)).filter fun x => (key x).isSome := by
      rw [List.filter_filter, List.filter_filter]
      exact List.filter_congr fun x _ => Bool.and_comm _ _
    rw [List.filter_cons_of_pos (by simp [hkey]), groups_cons_of_some hkey,
      groups_cons_of_some hkey, hsame, hrest, ih]

/-- **Clearing the elements with a key** takes its group away: the elements of other keys stay as
they are, and nothing gets another key. -/
theorem groups_map {b : β} {l : List α} (clear : α → α)
    (hclear : ∀ a ∈ l, key a = some b → key (clear a) = none)
    (hkeep : ∀ a ∈ l, (key a).isSome → key a ≠ some b → clear a = a)
    (hnone : ∀ a ∈ l, key a = none → key (clear a) = none) :
    groups key (l.map clear) = groups key (l.filter fun x => key x ≠ some b) := by
  rw [← groups_filter_isSome, ← groups_filter_isSome (l.filter _)]
  congr 1
  induction l with
  | nil => rfl
  | cons a l ih =>
    simp only [List.forall_mem_cons] at hclear hkeep hnone
    have hrest := ih hclear.2 hkeep.2 hnone.2
    rw [List.map_cons, List.filter_cons, List.filter_cons, hrest]
    cases hkey : key a with
    | none => simp [hnone.1 hkey, hkey]
    | some c =>
      by_cases hcb : c = b
      · subst hcb
        simp [hclear.1 hkey]
      · have hsame : clear a = a := hkeep.1 (by simp [hkey]) (by simpa [hkey] using hcb)
        simp [hsame, hkey, hcb]

end Grouping
