import Mathlib.Data.List.Induction
import Mathlib.Data.Prod.Lex
import Mathlib.Order.BoundedOrder.Basic

set_option relaxedAutoImplicit false
set_option autoImplicit false

/-!
# A loop that remembers two maxima

A loop looks for an element with the greatest pair of two keys, in the lexicographic order.  It
keeps an element, and beside it the greatest values that the two keys had so far, each for itself.
It replaces its element by one whose first key is greater than the maximum of the first keys, or the
same and the second key is greater than the maximum of the second keys.  The latter maximum may be
that of an element whose first key is smaller; then a better element is passed over.

## Main definitions

* `Maxima.loop` — the loop.
* `Maxima.IsBest` — an element has the greatest pair of keys.
* `Maxima.TiesFit` — the first such element is not passed over.

## Main results

* `Maxima.loop_inv` — what the loop keeps.
* `Maxima.isBest_iff_tiesFit` — when the element that it keeps has the greatest pair.
-/

namespace Maxima

variable {α κ τ : Type*} (f : α → κ) (t : α → τ)

/-- The pair of keys. -/
def key (a : α) : κ ×ₗ τ := toLex (f a, t a)

variable [LinearOrder κ] [LinearOrder τ]

/-- The element that is kept, and the maxima of the two keys. -/
structure State (α κ τ : Type*) where
  best : Option α
  maxF : κ
  maxT : τ

/-- A turn of the loop. -/
def turn (s : State α κ τ) (a : α) : State α κ τ where
  best := if s.maxF < f a ∨ (f a = s.maxF ∧ s.maxT < t a) then some a else s.best
  maxF := max s.maxF (f a)
  maxT := max s.maxT (t a)

/-- An element with the greatest pair. -/
def IsBest (l : List α) (g : α) : Prop := g ∈ l ∧ ∀ a ∈ l, key f t a ≤ key f t g

/-- **The first element with the greatest pair** is the first one with its first key, or it has a
greater second key than all before it. -/
def TiesFit (l : List α) : Prop :=
  ∀ pre g post, l = pre ++ g :: post → IsBest f t l g → (∀ a ∈ pre, key f t a < key f t g) →
    (∀ a ∈ pre, f a < f g) ∨ ∀ a ∈ pre, t a < t g

variable {f t} {l : List α} {a g : α}

lemma key_le_iff : key f t a ≤ key f t g ↔ f a < f g ∨ f a = f g ∧ t a ≤ t g :=
  Prod.Lex.toLex_le_toLex

lemma key_lt_iff : key f t a < key f t g ↔ f a < f g ∨ f a = f g ∧ t a < t g :=
  Prod.Lex.toLex_lt_toLex

/-- Where an element may stand in a list with a last element. -/
lemma append_singleton_eq_iff {pre post : List α} :
    l ++ [a] = pre ++ g :: post ↔
      (pre = l ∧ g = a ∧ post = []) ∨ ∃ post', post = post' ++ [a] ∧ l = pre ++ g :: post' := by
  constructor
  · intro heq
    rcases List.eq_nil_or_concat post with rfl | ⟨post', b, rfl⟩
    · obtain ⟨hl, ha⟩ := List.append_inj' heq rfl
      exact .inl ⟨hl.symm, (List.singleton_inj.1 ha).symm, rfl⟩
    · rw [List.concat_eq_append, ← List.cons_append, ← List.append_assoc] at heq
      obtain ⟨hl, ha⟩ := List.append_inj' heq rfl
      rw [List.concat_eq_append, List.singleton_inj.1 ha]
      exact .inr ⟨post', rfl, hl⟩
  · rintro (⟨rfl, rfl, rfl⟩ | ⟨post', rfl, rfl⟩)
    · rfl
    · simp

/-- An element that is better than all before it decides for itself. -/
lemma tiesFit_append_of_lt (hbest : ∀ b ∈ l, key f t b < key f t a)
    (hfits : (∀ b ∈ l, f b < f a) ∨ ∀ b ∈ l, t b < t a) : TiesFit f t (l ++ [a]) := by
  intro pre g post heq hg _
  rcases append_singleton_eq_iff.1 heq with ⟨rfl, rfl, -⟩ | ⟨post', -, hl⟩
  · exact hfits
  · have hgl : g ∈ l := by rw [hl]; simp
    exact absurd (hg.2 a (by simp)) (not_le.2 (hbest g hgl))

/-- An element that is not better than one before it changes nothing. -/
lemma isBest_append_iff_of_le (hle : ∃ b ∈ l, key f t a ≤ key f t b) (hg : g ∈ l) :
    IsBest f t (l ++ [a]) g ↔ IsBest f t l g := by
  obtain ⟨b, hb, hab⟩ := hle
  constructor
  · rintro ⟨-, hall⟩
    exact ⟨hg, fun c hc => hall c (List.mem_append_left _ hc)⟩
  · rintro ⟨-, hall⟩
    refine ⟨List.mem_append_left _ hg, fun c hc => ?_⟩
    rcases List.mem_append.1 hc with hc | hc
    · exact hall c hc
    · rw [List.mem_singleton.1 hc]
      exact hab.trans (hall b hb)

/-- An element that is not better than one before it decides nothing. -/
lemma tiesFit_append_iff_of_le (hle : ∃ b ∈ l, key f t a ≤ key f t b) :
    TiesFit f t (l ++ [a]) ↔ TiesFit f t l := by
  constructor
  · intro hfits pre g post heq hg
    have hgl : g ∈ l := by rw [heq]; simp
    exact hfits pre g (post ++ [a]) (append_singleton_eq_iff.2 (.inr ⟨post, rfl, heq⟩))
      ((isBest_append_iff_of_le hle hgl).2 hg)
  · intro hfits pre g post heq hg hfirst
    rcases append_singleton_eq_iff.1 heq with ⟨rfl, rfl, -⟩ | ⟨post', -, hl⟩
    · obtain ⟨b, hb, hab⟩ := hle
      exact absurd hab (not_le.2 (hfirst b hb))
    · have hgl : g ∈ l := by rw [hl]; simp
      exact hfits pre g post' hl ((isBest_append_iff_of_le hle hgl).1 hg) hfirst

variable [OrderBot κ] [OrderBot τ]

variable (f t) in
/-- The loop. -/
def loop (l : List α) : State α κ τ := l.foldl (turn f t) ⟨none, ⊥, ⊥⟩

lemma loop_append : loop f t (l ++ [a]) = turn f t (loop f t l) a := by
  rw [loop, List.foldl_append]
  rfl

/-- What holds of the loop after a list: the maxima are those of the list, what is kept has the
maximum of the first keys, and nothing is kept only if all second keys are least. -/
structure Inv (f : α → κ) (t : α → τ) (l : List α) (s : State α κ τ) : Prop where
  le_maxF : ∀ a ∈ l, f a ≤ s.maxF
  le_maxT : ∀ a ∈ l, t a ≤ s.maxT
  none : s.best = none → (∀ a ∈ l, t a = ⊥) ∧ s.maxF = ⊥
  some : ∀ g, s.best = some g → g ∈ l ∧ f g = s.maxF
  attained : s.maxT = ⊥ ∨ ∃ a ∈ l, t a = s.maxT

/-- **What the loop keeps.**

**Proof sketch.** Induction on the list from its end. -/
theorem loop_inv (l : List α) : Inv f t l (loop f t l) := by
  induction l using List.reverseRecOn with
  | nil => exact ⟨by simp, by simp, fun _ => ⟨by simp, rfl⟩, by simp [loop], .inl rfl⟩
  | append_singleton l a ih =>
    rw [loop_append]
    refine ⟨fun b hb => ?_, fun b hb => ?_, fun hnone => ?_, fun g hg => ?_, ?_⟩
    · rcases List.mem_append.1 hb with hb | hb
      · exact (ih.le_maxF b hb).trans (le_max_left _ _)
      · rw [List.mem_singleton.1 hb]
        exact le_max_right _ _
    · rcases List.mem_append.1 hb with hb | hb
      · exact (ih.le_maxT b hb).trans (le_max_left _ _)
      · rw [List.mem_singleton.1 hb]
        exact le_max_right _ _
    · simp only [turn] at hnone ⊢
      split_ifs at hnone with hturn
      obtain ⟨htl, hmaxF⟩ := ih.none hnone
      have hmaxT : (loop f t l).maxT = ⊥ := by
        rcases ih.attained with hbot' | ⟨b, hb, heq⟩
        · exact hbot'
        · rw [← heq, htl b hb]
      have hfa : f a = ⊥ := by
        by_contra hne
        exact hturn (.inl (hmaxF ▸ bot_lt_iff_ne_bot.2 hne))
      have hta : t a = ⊥ := by
        by_contra hne
        exact hturn (.inr ⟨hfa.trans hmaxF.symm, hmaxT ▸ bot_lt_iff_ne_bot.2 hne⟩)
      refine ⟨fun b hb => ?_, by rw [hmaxF, hfa, max_self]⟩
      rcases List.mem_append.1 hb with hb | hb
      · exact htl b hb
      · rw [List.mem_singleton.1 hb, hta]
    · simp only [turn] at hg ⊢
      split_ifs at hg with hturn
      · obtain rfl := Option.some.inj hg
        refine ⟨List.mem_append_right l (List.mem_singleton_self a), (max_eq_right ?_).symm⟩
        rcases hturn with hlt | ⟨heq, -⟩
        · exact hlt.le
        · exact heq.ge
      · obtain ⟨hmem, heq⟩ := ih.some g hg
        refine ⟨List.mem_append_left _ hmem, heq.trans (max_eq_left ?_).symm⟩
        exact not_lt.1 fun hlt => hturn (.inl hlt)
    · simp only [turn]
      rcases le_total (t a) (loop f t l).maxT with hle | hle
      · rw [max_eq_left hle]
        refine ih.attained.imp_right ?_
        rintro ⟨b, hb, heq⟩
        exact ⟨b, List.mem_append_left _ hb, heq⟩
      · rw [max_eq_right hle]
        exact .inr ⟨a, List.mem_append_right l (List.mem_singleton_self a), rfl⟩

/-- **The loop keeps an element with the greatest pair**, where it keeps one at all. -/
def Keeps (f : α → κ) (t : α → τ) (l : List α) : Prop :=
  ∀ g, (loop f t l).best = some g → IsBest f t l g

/-- An element that the loop takes is better than all before it. -/
lemma key_lt_of_turn {s : State α κ τ} (hinv : Inv f t l s)
    (hturn : s.maxF < f a ∨ (f a = s.maxF ∧ s.maxT < t a)) :
    (∀ b ∈ l, key f t b < key f t a) ∧ ((∀ b ∈ l, f b < f a) ∨ ∀ b ∈ l, t b < t a) := by
  rcases hturn with hlt | ⟨heq, hlt⟩
  · have hall : ∀ b ∈ l, f b < f a := fun b hb => (hinv.le_maxF b hb).trans_lt hlt
    exact ⟨fun b hb => key_lt_iff.2 (.inl (hall b hb)), .inl hall⟩
  · have hall : ∀ b ∈ l, t b < t a := fun b hb => (hinv.le_maxT b hb).trans_lt hlt
    refine ⟨fun b hb => key_lt_iff.2 ?_, .inr hall⟩
    exact (heq ▸ hinv.le_maxF b hb).lt_or_eq.imp_right fun hf => ⟨hf, hall b hb⟩

/-- **When the loop keeps an element with the greatest pair.**

**Proof sketch.** Induction on the list from its end.  An element that the loop takes is the best
one.  One that it does not take is not better than one before it, and changes nothing; or it is the
best one, and was passed over. -/
theorem keeps_iff_tiesFit (l : List α) : Keeps f t l ↔ TiesFit f t l := by
  induction l using List.reverseRecOn with
  | nil =>
    refine iff_of_true (fun g hg => ?_) (fun pre g post heq => ?_)
    · cases hg
    · exact absurd heq.symm (by simp)
  | append_singleton l a ih =>
    have hinv := loop_inv (f := f) (t := t) l
    by_cases hturn : (loop f t l).maxF < f a ∨ (f a = (loop f t l).maxF ∧ (loop f t l).maxT < t a)
    · obtain ⟨hlt, hfits⟩ := key_lt_of_turn hinv hturn
      refine iff_of_true (fun g hg => ?_) (tiesFit_append_of_lt hlt hfits)
      rw [loop_append, turn, if_pos hturn] at hg
      obtain rfl := Option.some.inj hg
      refine ⟨by simp, fun b hb => ?_⟩
      rcases List.mem_append.1 hb with hb | hb
      · exact (hlt b hb).le
      · rw [List.mem_singleton.1 hb]
    · have hbest : (loop f t (l ++ [a])).best = (loop f t l).best := by
        rw [loop_append, turn, if_neg hturn]
      by_cases hle : ∃ b ∈ l, key f t a ≤ key f t b
      · rw [tiesFit_append_iff_of_le hle, ← ih, Keeps, Keeps, hbest]
        refine forall_congr' fun g => imp_congr_right fun hg => ?_
        exact isBest_append_iff_of_le hle (hinv.some g hg).1
      · have hlt : ∀ b ∈ l, key f t b < key f t a := fun b hb =>
          not_le.1 fun h => hle ⟨b, hb, h⟩
        have hfa : f a ≤ (loop f t l).maxF := not_lt.1 fun h => hturn (.inl h)
        -- at the maximum of the first keys, some element has as great a second key
        have htie (heq : f a = (loop f t l).maxF) {b : α} (hb : b ∈ l) : ¬ ∀ c ∈ l, t c < t a := by
          intro hall
          have hta : t a ≤ (loop f t l).maxT := not_lt.1 fun h => hturn (.inr ⟨heq, h⟩)
          rcases hinv.attained with hbot | ⟨c, hc, hmax⟩
          · exact not_lt_bot ((hall b hb).trans_le (hbot ▸ hta))
          · exact absurd (hall c hc) (not_lt.2 (hmax ▸ hta))
        cases hkept : (loop f t l).best with
        | none =>
          obtain ⟨htl, hmaxF⟩ := hinv.none hkept
          refine iff_of_true (fun g hg => ?_) (tiesFit_append_of_lt hlt (.inl fun b hb => ?_))
          · rw [hbest, hkept] at hg
            cases hg
          · refine (key_lt_iff.1 (hlt b hb)).resolve_right fun ⟨_, ht⟩ => ?_
            have heq : f a = (loop f t l).maxF := le_antisymm hfa (hmaxF ▸ bot_le)
            exact htie heq hb fun c hc => (htl c hc).trans_lt (htl b hb ▸ ht)
        | some g =>
          obtain ⟨hgl, hgf⟩ := hinv.some g hkept
          have hties : f a = (loop f t l).maxF := by
            rcases key_lt_iff.1 (hlt g hgl) with hf | ⟨hf, -⟩
            · exact absurd hf (not_lt.2 (hgf ▸ hfa))
            · exact hf.symm.trans hgf
          refine iff_of_false (fun hkeeps => ?_) (fun hfits => ?_)
          · have hle' := (hkeeps g (hbest.trans hkept)).2 a (by simp)
            exact absurd hle' (not_le.2 (hlt g hgl))
          · have hbestA : IsBest f t (l ++ [a]) a := by
              refine ⟨by simp, fun b hb => ?_⟩
              rcases List.mem_append.1 hb with hb | hb
              · exact (hlt b hb).le
              · rw [List.mem_singleton.1 hb]
            rcases hfits l a [] rfl hbestA hlt with hall | hall
            · exact absurd (hall g hgl) (by rw [hties, hgf]; exact lt_irrefl _)
            · exact htie hties hgl hall

end Maxima
