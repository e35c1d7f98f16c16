import Mathlib.Data.List.Sort
import Mathlib.Data.List.Perm.Subperm
import Mathlib.Data.Prod.Lex

set_option relaxedAutoImplicit false
set_option autoImplicit false

/-!
# The first elements of a list by a key

A list is enumerated several times, and every time the least element that was not taken before is
taken.  What was taken after `k` times is what stands first when the list is sorted: the elements
that have fewer than `k` others before them.  A loop that takes one element keeps the best one so
far, and replaces it by a better one.

## Main definitions

* `Selection.first` — the first `k` elements by a key.
* `Selection.rank` — how many elements come before an element.
* `Selection.best` — what the loop keeps that replaces an element by a better one.

## Main results

* `Selection.first_succ_of_least`, `Selection.first_succ_of_none` — one more element is the least of
  those that are left.
* `Selection.mem_first_iff` — an element is one of the first `k` if its rank is less than `k`.
* `Selection.mem_iff_mem_first_iff` — which lists have the same members as the first `k`.
* `Selection.le_length_filter_first` — selections from two parts of a list overlap.
* `Selection.best_spec` — the loop keeps a least element, if it finds out what is less.
-/

namespace Selection

variable {α κ : Type*} [LinearOrder κ] (key : α → κ) (l : List α)

/-- The list, sorted by a key. -/
def sorted : List α := l.insertionSort fun a b => key a ≤ key b

/-- The first elements by a key. -/
def first (k : ℕ) : List α := (sorted key l).take k

/-- How many elements come before an element. -/
def rank (a : α) : ℕ := l.countP fun b => key b < key a

lemma sorted_perm : (sorted key l).Perm l := List.perm_insertionSort _ l

lemma pairwise_sorted : (sorted key l).Pairwise fun a b => key a ≤ key b :=
  List.pairwise_insertionSort _ l

variable {key l}

/-- Different elements stand in a strict order. -/
lemma strict_sorted (h : (l.map key).Nodup) : (sorted key l).Pairwise fun a b => key a < key b := by
  have hnodup : ((sorted key l).map key).Nodup := ((sorted_perm key l).map key).nodup_iff.2 h
  have hne : (sorted key l).Pairwise fun a b => key a ≠ key b := List.pairwise_map.1 hnodup
  exact ((pairwise_sorted key l).and hne).imp fun hab => lt_of_le_of_ne hab.1 hab.2

lemma length_first (k : ℕ) : (first key l k).length = min k l.length := by
  unfold first
  rw [List.length_take, (sorted_perm key l).length_eq]

lemma nodup_first (h : (l.map key).Nodup) (k : ℕ) : (first key l k).Nodup :=
  (List.take_sublist k _).nodup ((sorted_perm key l).nodup_iff.2 h.of_map)

lemma first_subset (k : ℕ) : first key l k ⊆ l := fun _ ha =>
  (sorted_perm key l).mem_iff.1 (List.take_subset k _ ha)

/-- **One more element** is the least of those that are left.

**Proof sketch.** The head of what is left of the sorted list is left, too, so that it is neither
less nor greater. -/
theorem first_succ_of_least (h : (l.map key).Nodup) {k : ℕ} {m : α} (hm : m ∈ l)
    (hnew : m ∉ first key l k) (hleast : ∀ a ∈ l, a ∉ first key l k → key m ≤ key a) :
    first key l (k + 1) = first key l k ++ [m] := by
  have hm' : m ∈ (sorted key l).drop k := by
    have hmem := (sorted_perm key l).mem_iff.2 hm
    rw [← List.take_append_drop k (sorted key l), List.mem_append] at hmem
    exact hmem.resolve_left hnew
  have hsorted := pairwise_sorted key l
  have hstrict := strict_sorted h
  unfold first at hleast ⊢
  cases hdrop : (sorted key l).drop k with
  | nil =>
    rw [hdrop] at hm'
    exact absurd hm' List.not_mem_nil
  | cons x rest =>
    have hx : x ∈ (sorted key l).drop k := hdrop ▸ List.mem_cons_self
    have hxl : x ∈ l := (sorted_perm key l).mem_iff.1 (List.drop_subset k _ hx)
    rw [← List.take_append_drop k (sorted key l), List.pairwise_append] at hsorted hstrict
    have hxnew : x ∉ (sorted key l).take k := fun hmem =>
      absurd (hstrict.2.2 x hmem x hx) (lt_irrefl _)
    have hle : key x ≤ key m := by
      rw [hdrop] at hm' hsorted
      rcases List.mem_cons.1 hm' with rfl | hmem
      · exact le_rfl
      · exact (List.pairwise_cons.1 hsorted.2.1).1 m hmem
    obtain rfl : m = x := List.inj_on_of_nodup_map h hm hxl
      (le_antisymm (hleast x hxl hxnew) hle)
    have hget : (sorted key l)[k]? = some m := by
      have := congrArg List.head? hdrop
      rwa [List.head?_drop, List.head?_cons] at this
    rw [List.take_add_one, hget]
    rfl

/-- There is no further element if none is left. -/
theorem first_succ_of_none (hnodup : l.Nodup) {k : ℕ} (h : ∀ a ∈ l, a ∈ first key l k) :
    first key l (k + 1) = first key l k := by
  have hle : l.length ≤ k := by
    have hlen := (hnodup.subperm h).length_le
    rw [length_first] at hlen
    exact hlen.trans (min_le_left _ _)
  have hsorted : (sorted key l).length ≤ k := by rwa [(sorted_perm key l).length_eq]
  unfold first
  rw [List.take_of_length_le hsorted, List.take_of_length_le (hsorted.trans (Nat.le_succ k))]

/-- In a strictly sorted list the elements before one are those that stand before it. -/
lemma mem_take_iff {s : List α} (hs : s.Pairwise fun a b => key a < key b) {k : ℕ} {a : α} :
    a ∈ s.take k ↔ a ∈ s ∧ rank key s a < k := by
  induction s generalizing k with
  | nil => simp
  | cons x s ih =>
    obtain ⟨hx, hs⟩ := List.pairwise_cons.1 hs
    cases k with
    | zero => simp
    | succ k =>
      rw [List.take_succ_cons, List.mem_cons, List.mem_cons, ih hs]
      by_cases hax : a = x
      · -- nothing comes before the head
        subst hax
        have hrank : rank key (a :: s) a = 0 := by
          simp only [rank, List.countP_eq_zero, List.mem_cons, forall_eq_or_imp, lt_irrefl,
            not_false_eq_true, true_and, decide_eq_true_eq]
          exact fun b hb => (hx b hb).not_gt
        simp [hrank]
      · -- the head comes before everything else
        have hrank : a ∈ s → rank key (x :: s) a = rank key s a + 1 := fun hmem =>
          List.countP_cons_of_pos (by simpa using hx a hmem)
        constructor
        · rintro (rfl | ⟨hmem, hlt⟩)
          · exact absurd rfl hax
          · exact ⟨.inr hmem, by rw [hrank hmem]; omega⟩
        · rintro ⟨hmem, hlt⟩
          have hmem := hmem.resolve_left hax
          rw [hrank hmem] at hlt
          exact .inr ⟨hmem, by omega⟩

/-- **The first elements are those with few others before them.**
 -/
theorem mem_first_iff (h : (l.map key).Nodup) {k : ℕ} {a : α} :
    a ∈ first key l k ↔ a ∈ l ∧ rank key l a < k := by
  have hrank : rank key l a = rank key (sorted key l) a :=
    ((sorted_perm key l).countP_eq _).symm
  unfold first
  rw [mem_take_iff (strict_sorted h), (sorted_perm key l).mem_iff, hrank]

/-- **Which list has the same members as the first elements**: one of the same length, all of whose
members come before all others.

**Proof sketch.** What comes before a member is a member, so that its rank is less than the length;
hence every member is one of the first, and there are as many. -/
theorem mem_iff_mem_first_iff (h : (l.map key).Nodup) {k : ℕ} {s : List α} (hs : s.Nodup)
    (hsub : s ⊆ l) (hlen : s.length = min k l.length) :
    (∀ a, a ∈ s ↔ a ∈ first key l k) ↔ ∀ a ∈ s, ∀ b ∈ l, b ∉ s → key a < key b := by
  constructor
  · intro hmem a ha b hb hbs
    rw [hmem, mem_first_iff h] at ha hbs
    by_contra hle
    have hrank : rank key l b ≤ rank key l a := List.countP_mono_left fun c _ hc =>
      decide_eq_true ((of_decide_eq_true hc).trans_le (not_lt.1 hle))
    exact hbs ⟨hb, hrank.trans_lt ha.2⟩
  · intro hbefore
    have hfirst : s ⊆ first key l k := by
      intro a ha
      have hprev : a :: l.filter (fun b => key b < key a) ⊆ s := by
        intro b hb
        rcases List.mem_cons.1 hb with rfl | hb
        · exact ha
        · by_contra hbs
          obtain ⟨hbl, hlt⟩ := List.mem_filter.1 hb
          exact lt_asymm (of_decide_eq_true hlt) (hbefore a ha b hbl hbs)
      have hnodup : (a :: l.filter (fun b => key b < key a)).Nodup :=
        List.nodup_cons.2 ⟨by simp, h.of_map.filter _⟩
      have hle := (hnodup.subperm hprev).length_le
      refine (mem_first_iff h).2 ⟨hsub ha, ?_⟩
      rw [rank, List.countP_eq_length_filter]
      rw [List.length_cons] at hle
      omega
    have hperm := (hs.subperm hfirst).perm_of_length_le (by rw [length_first, hlen])
    exact fun a => hperm.mem_iff

/-! ### Two selections -/

section Overlap

variable {l₁ l₂ : List α}

omit [LinearOrder κ] in
/-- The keys of a part are different, too. -/
lemma nodup_map_of_subperm (h : (l.map key).Nodup) (h₁ : l₁.Subperm l) : (l₁.map key).Nodup := by
  obtain ⟨l', hperm, hsub⟩ := h₁
  exact (hperm.map key).nodup_iff.1 ((hsub.map key).nodup h)

/-- Leaving out one element changes a rank by one at most. -/
lemma rank_le_of_subperm (h : l₁.Subperm l) (hlen : l.length ≤ l₁.length + 1) (a : α) :
    rank key l₁ a ≤ rank key l a ∧ rank key l a ≤ rank key l₁ a + 1 := by
  obtain ⟨l', hperm, hsub⟩ := h
  obtain ⟨rest, hrest⟩ := hsub.exists_perm_append
  have hsplit := hrest.countP_eq fun b => key b < key a
  have hcount := hperm.countP_eq fun b => key b < key a
  have hle : rest.countP (fun b => key b < key a) ≤ rest.length := List.countP_le_length
  have hall := hrest.length_eq
  have hpart := hperm.length_eq
  rw [List.countP_append] at hsplit
  rw [List.length_append] at hall
  unfold rank
  omega

/-- Different elements have different ranks. -/
lemma rank_lt_of_lt {a b : α} (ha : a ∈ l) (hab : key a < key b) : rank key l a < rank key l b := by
  have hsub : (l.filter fun c => key c < key a) ⊆ l.filter fun c => key c < key b := by
    intro c hc
    obtain ⟨hcl, hlt⟩ := List.mem_filter.1 hc
    exact List.mem_filter.2 ⟨hcl, decide_eq_true ((of_decide_eq_true hlt).trans hab)⟩
  have hsplit := List.countP_eq_countP_filter_add l (fun c => key c < key b) fun c => key c < key a
  have hone : 0 < (l.filter fun c => !decide (key c < key a)).countP fun c => key c < key b :=
    List.countP_pos_iff.2 ⟨a, List.mem_filter.2 ⟨ha, by simp⟩, decide_eq_true hab⟩
  have hall : (l.filter fun c => key c < key a).countP (fun c => key c < key b) =
      l.countP fun c => key c < key a := by
    rw [List.countP_eq_length_filter (l := l)]
    exact List.countP_eq_length.2 fun c hc => (List.mem_filter.1 (hsub hc)).2
  unfold rank
  omega

/-- **Two selections overlap**: of the first `k` elements of a list that lacks one element, all but
one are among the first `k` of another part of the list, unless that lacks them.

**Proof sketch.** One that is not has `k - 1` elements before it in the first part, and `k` in the
whole list.  Ranks are different, so there is only one. -/
theorem le_length_filter_first (h : (l.map key).Nodup) (h₁ : l₁.Subperm l)
    (hlen : l.length ≤ l₁.length + 1) (h₂ : l₂.Subperm l) (k : ℕ) [DecidableEq α] :
    min (k - 1) l₁.length ≤
      ((first key l₁ k).filter fun a => a ∈ l₂ → a ∈ first key l₂ k).length := by
  have hnodup₁ : (l₁.map key).Nodup := nodup_map_of_subperm h h₁
  have hnodup₂ : (l₂.map key).Nodup := nodup_map_of_subperm h h₂
  -- what is missed has the last place
  have hmissed : ∀ a ∈ first key l₁ k, ¬(a ∈ l₂ → a ∈ first key l₂ k) →
      rank key l a = k ∧ rank key l₁ a + 1 = k := by
    intro a ha hnot
    obtain ⟨hmem, hout⟩ := Classical.not_imp.1 hnot
    have hlt := ((mem_first_iff hnodup₁).1 ha).2
    have hge : k ≤ rank key l₂ a := not_lt.1 fun hlt => hout ((mem_first_iff hnodup₂).2 ⟨hmem, hlt⟩)
    have hle : rank key l₂ a ≤ rank key l a := h₂.countP_le _
    have hone : rank key l₁ a ≤ rank key l a ∧ rank key l a ≤ rank key l₁ a + 1 :=
      rank_le_of_subperm h₁ hlen a
    omega
  have hlength : (first key l₁ k).length = min k l₁.length := length_first k
  by_cases hall : ∀ a ∈ first key l₁ k, a ∈ l₂ → a ∈ first key l₂ k
  · rw [List.filter_eq_self.2 fun a ha => decide_eq_true (hall a ha), hlength]
    omega
  · push Not at hall
    obtain ⟨a, ha, hmem, hout⟩ := hall
    have hrank := hmissed a ha (Classical.not_imp.2 ⟨hmem, hout⟩)
    have hsub : (first key l₁ k).erase a ⊆
        (first key l₁ k).filter fun a => a ∈ l₂ → a ∈ first key l₂ k := by
      intro b hb
      obtain ⟨hne, hb⟩ := (nodup_first hnodup₁ k).mem_erase_iff.1 hb
      refine List.mem_filter.2 ⟨hb, decide_eq_true ?_⟩
      by_contra hnot
      have hrankb := hmissed b hb hnot
      have hal := h₁.subset (first_subset k ha)
      have hbl := h₁.subset (first_subset k hb)
      rcases lt_trichotomy (key a) (key b) with hlt | heq | hlt
      · have := rank_lt_of_lt hal hlt
        omega
      · exact hne (List.inj_on_of_nodup_map h hbl hal heq.symm)
      · have := rank_lt_of_lt hbl hlt
        omega
    have hle := (((nodup_first hnodup₁ k).erase a).subperm hsub).length_le
    rw [List.length_erase_of_mem ha, hlength] at hle
    -- the missed one is in the list, with others before it
    have hmore : rank key l₁ a < l₁.length := by
      unfold rank
      refine lt_of_le_of_ne List.countP_le_length fun heq => ?_
      have := List.countP_eq_length.1 heq a (first_subset k ha)
      simp at this
    omega

end Overlap

/-! ### The best element -/

section Best

variable (better : α → α → Bool)

/-- A turn of the loop. -/
def keepBest (best : Option α) (a : α) : Option α :=
  match best with
  | none => some a
  | some b => if better a b then some a else some b

/-- The element that the loop keeps. -/
def best (l : List α) : Option α := l.foldl (keepBest better) none

variable {better}

/-- The loop, from an element on. -/
lemma foldl_keepBest_spec {b : α}
    (h : ∀ a ∈ b :: l, ∀ a' ∈ b :: l, better a a' = true ↔ key a < key a') :
    ∃ m ∈ b :: l, l.foldl (keepBest better) (some b) = some m ∧ ∀ a ∈ b :: l, key m ≤ key a := by
  induction l generalizing b with
  | nil => exact ⟨b, by simp, rfl, by simp⟩
  | cons a l ih =>
    have hkeep : ∃ c ∈ [b, a], keepBest better (some b) a = some c ∧
        key c ≤ key b ∧ key c ≤ key a := by
      unfold keepBest
      dsimp only
      by_cases hab : better a b = true
      · have hlt := (h a (by simp) b (by simp)).1 hab
        exact ⟨a, by simp, if_pos hab, hlt.le, le_rfl⟩
      · have hle := not_lt.1 fun hlt => hab ((h a (by simp) b (by simp)).2 hlt)
        exact ⟨b, by simp, if_neg hab, le_rfl, hle⟩
    obtain ⟨c, hc, hturn, hcb, hca⟩ := hkeep
    have hsub : ∀ x ∈ c :: l, x ∈ b :: a :: l := by
      intro x hx
      rcases List.mem_cons.1 hx with rfl | hx
      · exact List.mem_append_left l hc
      · exact List.mem_cons_of_mem _ (List.mem_cons_of_mem _ hx)
    obtain ⟨m, hm, heq, hleast⟩ := ih fun x hx y hy => h x (hsub x hx) y (hsub y hy)
    refine ⟨m, hsub m hm, by rw [List.foldl_cons, hturn, heq], fun x hx => ?_⟩
    have hmc := hleast c List.mem_cons_self
    rcases List.mem_cons.1 hx with rfl | hx
    · exact hmc.trans hcb
    · rcases List.mem_cons.1 hx with rfl | hx
      · exact hmc.trans hca
      · exact hleast x (List.mem_cons_of_mem _ hx)

variable (key better) in
/-- **The loop keeps a least element**, and none only if there is none. -/
theorem best_spec (h : ∀ a ∈ l, ∀ b ∈ l, better a b = true ↔ key a < key b) :
    match best better l with
    | none => l = []
    | some m => m ∈ l ∧ ∀ a ∈ l, key m ≤ key a := by
  cases l with
  | nil => rfl
  | cons b l =>
    obtain ⟨m, hm, heq, hleast⟩ := foldl_keepBest_spec h
    have hbest : best better (b :: l) = some m := heq
    rw [hbest]
    exact ⟨hm, hleast⟩

end Best

end Selection
